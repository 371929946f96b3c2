import Mathlib.Data.List.Sort

namespace NexusBs
open List

/-- Both bounds belong to the range. -/
structure SsiRange where
  (start stop : Nat)
deriving DecidableEq

namespace SsiRange

abbrev Has (range : SsiRange) (ssi : Nat) : Prop := range.start ≤ ssi ∧ ssi ≤ range.stop

abbrev Before (a b : SsiRange) : Prop := a.start ≤ b.start

instance : Std.Total Before := ⟨fun a b => Nat.le_total a.start b.start⟩
instance : IsTrans SsiRange Before := ⟨fun _ _ _ => Nat.le_trans⟩

end SsiRange

namespace SortedDisjointSsiRanges

/-- The assertions of the source, and that the next lower bound does not overflow. -/
def check : Nat → List SsiRange → Bool
  | _, [] => true
  | lowerBound, range :: ranges =>
    decide (range.start ≤ range.stop ∧ lowerBound ≤ range.start ∧ range.stop + 1 ≤ 0xffffffff) &&
      check (range.stop + 1) ranges

/-- `none` where an assertion fails. -/
def fromVecSsirange (ranges : List SsiRange) : Option (List SsiRange) :=
  let ranges := ranges.insertionSort SsiRange.Before
  if check 0 ranges then some ranges else none

def contains : List SsiRange → Nat → Bool
  | [], _ => false
  | range :: ranges, addr =>
    if range.Has addr then true else if range.stop > addr then false else contains ranges addr

/-- The loop asks for ranges in order that do not meet. -/
theorem check_iff : check n rs = true ↔
    (∀ r ∈ rs, n ≤ r.start ∧ r.start ≤ r.stop ∧ r.stop + 1 ≤ 0xffffffff) ∧
      rs.Pairwise (fun a b => a.stop < b.start) := by
  induction rs generalizing n with
  | nil => simp [check]
  | cons range rs ih =>
    simp only [check, Bool.and_eq_true, decide_eq_true_eq, ih, forall_mem_cons, pairwise_cons]
    constructor
    · rintro ⟨⟨h1, h2, h3⟩, hall, hp⟩
      refine ⟨⟨⟨h2, h1, h3⟩, fun r hr => ?_⟩, fun r hr => (hall r hr).1, hp⟩
      have := hall r hr
      omega
    · rintro ⟨⟨⟨h2, h1, h3⟩, hall⟩, hlt, hp⟩
      exact ⟨⟨h1, h2, h3⟩, fun r hr => ⟨hlt r hr, (hall r hr).2⟩, hp⟩

/-- Looking no further than a range that ends behind the address misses nothing. -/
theorem contains_iff (h : rs.Pairwise (fun a b => a.stop < b.start)) :
    contains rs addr = true ↔ ∃ r ∈ rs, r.Has addr := by
  induction rs with
  | nil => simp [contains]
  | cons range rs ih =>
    obtain ⟨hlt, hp⟩ := pairwise_cons.mp h
    rw [contains, exists_mem_cons_iff]
    split
    · rename_i hin
      exact iff_of_true rfl (.inl hin)
    rename_i hno
    split
    · rename_i hgt
      simp only [hno, false_or, Bool.false_eq_true, false_iff]
      rintro ⟨r, hr, hin⟩
      have := hlt r hr
      exact absurd hin.1 (by omega)
    · simp [hno, ih hp]

/-- Which ranges are accepted, and what is found in them. -/
theorem fromVecSsirange_accepts (ranges : List SsiRange)
    (hmax : ∀ r ∈ ranges, r.stop < 0xffffffff) :
    ((fromVecSsirange ranges).isSome ↔ (∀ r ∈ ranges, r.start ≤ r.stop) ∧
      ranges.Pairwise (fun a b => ∀ ssi, ¬(a.Has ssi ∧ b.Has ssi))) ∧
    ∀ sorted, fromVecSsirange ranges = some sorted → sorted.Perm ranges ∧
      sorted.Pairwise (fun a b => a.stop < b.start) ∧
      ∀ ssi, contains sorted ssi = true ↔ ∃ r ∈ ranges, r.Has ssi := by
  have hperm := perm_insertionSort SsiRange.Before ranges
  have hsort := pairwise_insertionSort SsiRange.Before ranges
  have hsymm : ∀ {a b : SsiRange}, (∀ ssi, ¬(a.Has ssi ∧ b.Has ssi)) →
      ∀ ssi, ¬(b.Has ssi ∧ a.Has ssi) := fun h ssi hssi => h ssi hssi.symm
  rw [← hperm.pairwise_iff hsymm]
  unfold fromVecSsirange
  generalize ranges.insertionSort SsiRange.Before = s at *
  constructor
  · have hall : (∀ r ∈ ranges, r.start ≤ r.stop ∧ r.stop + 1 ≤ 0xffffffff) ↔
        ∀ r ∈ ranges, r.start ≤ r.stop := forall₂_congr fun r hr => and_iff_left (hmax r hr)
    simp only [Option.isSome_ite, check_iff, Nat.zero_le, true_and, hperm.mem_iff, hall]
    refine and_congr_right fun hall => ⟨fun h => h.imp ?_, fun h => ?_⟩
    · rintro a b hab ssi ⟨⟨_, _⟩, _, _⟩
      omega
    · refine (hsort.and h).imp_of_mem ?_
      rintro a b ha hb ⟨hle, hno⟩
      have := hall a (hperm.mem_iff.mp ha)
      have := hall b (hperm.mem_iff.mp hb)
      by_contra hge
      exact hno b.start ⟨⟨hle, by omega⟩, Nat.le_refl _, by omega⟩
  · intro sorted h
    dsimp only at h
    split at h
    · rename_i hcheck
      cases h
      have hlt := (check_iff.mp hcheck).2
      simp only [contains_iff hlt, hperm.mem_iff]
      exact ⟨hperm, hlt, fun _ => trivial⟩
    · cases h

theorem adjacent_ranges_accepted : (fromVecSsirange [⟨300, 400⟩, ⟨100, 299⟩]).isSome :=
  (fromVecSsirange_accepts _ (by decide)).1.mpr
    ⟨by decide, by simp [SsiRange.Has]; omega⟩

theorem overlapping_ranges_refused : fromVecSsirange [⟨100, 200⟩, ⟨150, 300⟩] = none := by
  decide +kernel

end SortedDisjointSsiRanges
end NexusBs
