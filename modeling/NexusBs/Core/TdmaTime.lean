import Mathlib.Tactic.Ring
import Mathlib.Data.Int.ModEq

namespace NexusBs

/-- A point of TDMA time: timeslot, frame, multiframe and hyperframe. -/
@[ext] structure TdmaTime where
  t : Nat
  f : Nat
  m : Nat
  h : Nat
  t_range : 1 ≤ t ∧ t ≤ 4
  f_range : 1 ≤ f ∧ f ≤ 18
  m_range : 1 ≤ m ∧ m ≤ 60
  h_range : h < 65536
deriving DecidableEq

namespace TdmaTime

def default : TdmaTime := ⟨1, 1, 1, 0, by decide, by decide, by decide, by decide⟩

/-- Value of the integer time where it wraps back to 0. -/
def timeIntWrap : Int := 4 * 18 * 60 * 65536

/-- Both loops of the source move the difference by whole wraps until it lies in
`[-wrap/2, wrap/2)`. -/
def timeIntDiff (a b : Int) : Int :=
  (a - b + timeIntWrap / 2) % timeIntWrap - timeIntWrap / 2

def toInt (x : TdmaTime) : Int :=
  ((x.t : Int) - 1) + ((x.f : Int) - 1) * 4 + ((x.m : Int) - 1) * 4 * 18 + (x.h : Int) * 4 * 18 * 60

def fromInt (time : Int) : TdmaTime where
  t := (time % 4 + 1).toNat
  f := (time / 4 % 18 + 1).toNat
  m := (time / (4 * 18) % 60 + 1).toNat
  h := (time / (4 * 18 * 60) % 65536).toNat
  t_range := by omega
  f_range := by omega
  m_range := by omega
  h_range := by omega

def addTimeslots (x : TdmaTime) (numSlots : Int) : TdmaTime := fromInt (x.toInt + numSlots)

def diff (a b : TdmaTime) : Int := timeIntDiff a.toInt b.toInt

def age (x now : TdmaTime) : Int := now.diff x

section

variable (x : TdmaTime)

def forwardToTimeslot (ts : Nat) : TdmaTime :=
  x.addTimeslots (((ts + 4 - x.t) % 4 : Nat) : Int)

def isMandatoryBsch : Bool := x.f == 18 && x.t == 4 - (x.m + 1) % 4
def isMandatoryBnch : Bool := x.f == 18 && x.t == 4 - (x.m + 3) % 4
def isMandatoryClch : Bool := x.f == 18 && x.t == 4 - (x.m + 1) % 4

theorem toInt_range : 0 ≤ x.toInt ∧ x.toInt < timeIntWrap := by
  obtain ⟨t, f, m, h, ht, hf, hm, hh⟩ := x
  simp only [toInt, timeIntWrap]
  omega

/-- Within a wrap a time and its number determine each other. -/
theorem fromInt_toInt : fromInt x.toInt = x := by
  obtain ⟨t, f, m, h, ht, hf, hm, hh⟩ := x
  ext <;> simp only [fromInt, toInt] <;> omega

theorem toInt_fromInt (n : Int) : (fromInt n).toInt = n % timeIntWrap := by
  simp only [fromInt, toInt, timeIntWrap]
  omega

/-- Times are exactly the residues of the integer time. -/
theorem toInt_injective {x y : TdmaTime} (h : x.toInt = y.toInt) : x = y := by
  rw [← fromInt_toInt x, h, fromInt_toInt]

theorem toInt_addTimeslots (n : Int) :
    (x.addTimeslots n).toInt = (x.toInt + n) % timeIntWrap := toInt_fromInt _

theorem fromInt_addTimeslots (m n : Int) : (fromInt m).addTimeslots n = fromInt (m + n) := by
  apply toInt_injective
  rw [toInt_addTimeslots, toInt_fromInt, toInt_fromInt, Int.emod_add_emod]

/-- Differences below half the wrap are recovered from the two times. -/
theorem diff_addTimeslots (n : Int)
    (hl : -(timeIntWrap / 2) ≤ n) (hu : n < timeIntWrap / 2) :
    (x.addTimeslots n).diff x = n := by
  simp only [diff, timeIntDiff, toInt_addTimeslots]
  have hx := x.toInt_range
  simp only [timeIntWrap] at *
  omega

theorem forwardToTimeslot_t (h : 1 ≤ ts ∧ ts ≤ 4) :
    (x.forwardToTimeslot ts).t = ts := by
  obtain ⟨t, f, m, hy, ht, hf, hm, hh⟩ := x
  simp only [forwardToTimeslot, addTimeslots, fromInt, toInt]
  omega

end

/-- The range of the integer times that the source computes with. -/
def FitsI32 (n : Int) : Prop := -2 ^ 31 ≤ n ∧ n < 2 ^ 31

instance (n : Int) : Decidable (FitsI32 n) := inferInstanceAs (Decidable (_ ∧ _))

/-- `addTimeslots` with the sum of the source, `none` where it overflows. -/
def addTimeslotsI32 (x : TdmaTime) (numSlots : Int) : Option TdmaTime :=
  if FitsI32 (x.toInt + numSlots) then some (x.addTimeslots numSlots) else none

/-- The timeslot goes round in fours. -/
theorem addTimeslots_t (x : TdmaTime) (n : Nat) : (x.addTimeslots n).t = (x.t - 1 + n) % 4 + 1 := by
  obtain ⟨t, f, m, h, ht, hf, hm, hh⟩ := x
  simp only [addTimeslots, fromInt, toInt]
  omega

/-- Times are the integers up to the wrap: adding slots is an action as long as no sum leaves the
range of its type, differences below half the wrap come back, and the next slot of a number is the
first one. -/
theorem time_arithmetic (x : TdmaTime) :
    fromInt x.toInt = x ∧
    (∀ a b, FitsI32 (x.toInt + a) → FitsI32 ((x.addTimeslots a).toInt + b) →
      FitsI32 (x.toInt + (a + b)) →
      ∃ y, x.addTimeslotsI32 (a + b) = some y ∧
        (x.addTimeslotsI32 a).bind (·.addTimeslotsI32 b) = some y) ∧
    (∀ n, -(timeIntWrap / 2) < n → n < timeIntWrap / 2 →
      ∃ y, x.addTimeslotsI32 n = some y ∧ y.diff x = n) ∧
    (∀ n y, x.addTimeslotsI32 n = some y → (1 ≤ y.t ∧ y.t ≤ 4) ∧ (1 ≤ y.f ∧ y.f ≤ 18) ∧
      (1 ≤ y.m ∧ y.m ≤ 60) ∧ y.h < 65536) ∧
    ∀ k, 1 ≤ k → k ≤ 4 → ∃ n : Nat, x.addTimeslotsI32 n = some (x.forwardToTimeslot k) ∧
      (x.forwardToTimeslot k).t = k ∧ ∀ j < n, (x.addTimeslots j).t ≠ k := by
  have hx := x.toInt_range
  have hfits : ∀ n, FitsI32 (x.toInt + n) → x.addTimeslotsI32 n = some (x.addTimeslots n) :=
    fun n h => if_pos h
  refine ⟨fromInt_toInt x, ?_, ?_, ?_, ?_⟩
  · intro a b ha hb hab
    refine ⟨_, hfits _ hab, ?_⟩
    rw [hfits a ha, Option.bind_some, addTimeslotsI32, if_pos hb]
    conv_lhs => rw [← fromInt_toInt x, fromInt_addTimeslots, fromInt_addTimeslots, Int.add_assoc]
    rfl
  · intro n hl hu
    refine ⟨_, hfits n ?_, diff_addTimeslots x n (by omega) hu⟩
    simp only [FitsI32, timeIntWrap] at *
    omega
  · intro n y _
    exact ⟨y.t_range, y.f_range, y.m_range, y.h_range⟩
  · intro k h1 h4
    refine ⟨(k + 4 - x.t) % 4, hfits _ ?_, forwardToTimeslot_t x ⟨h1, h4⟩, fun j hj => ?_⟩
    · simp only [FitsI32, timeIntWrap] at *
      omega
    · have ht := x.t_range
      rw [addTimeslots_t]
      omega

/-- The sum of the second slot and the largest number that can be added overflows. -/
theorem largest_step_overflows :
    TdmaTime.addTimeslotsI32 ⟨2, 1, 1, 0, by decide, by decide, by decide, by decide⟩ (2 ^ 31 - 1) =
      none := rfl

end TdmaTime
end NexusBs
