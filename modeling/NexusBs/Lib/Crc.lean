import Mathlib.Data.List.Basic

namespace NexusBs.Lib.Crc
open List

/-- One turn of the register of a cyclic code with the generator `g`. -/
def turn (g c : BitVec w) (bit : Bool) : BitVec w :=
  if bit ^^ c.msb then (c <<< 1) ^^^ g else c <<< 1

variable {g c d : BitVec w} {bits err : List Bool}

/-- The register is linear: errors go through it on their own. -/
theorem turn_xor : turn g (c ^^^ d) (b ^^ e) = turn g c b ^^^ turn g d e := by
  have hcancel : ∀ x y : BitVec w, x ^^^ g ^^^ (y ^^^ g) = x ^^^ y := by
    intro x y
    rw [BitVec.xor_assoc, BitVec.xor_comm y, ← BitVec.xor_assoc g, BitVec.xor_self, BitVec.zero_xor]
  unfold turn
  rw [BitVec.msb_xor, BitVec.shiftLeft_xor_distrib]
  cases b <;> cases e <;> cases c.msb <;> cases d.msb <;>
    simp <;> first | ac_rfl | exact (hcancel _ _).symm

theorem foldl_turn_xor (h : bits.length = err.length) :
    (zipWith xor bits err).foldl (turn g) (c ^^^ d) =
      bits.foldl (turn g) c ^^^ err.foldl (turn g) d := by
  induction bits generalizing err c d with
  | nil => cases err <;> simp_all
  | cons b bits ih =>
    cases err with
    | nil => cases h
    | cons e err =>
      simp only [zipWith_cons_cons, foldl_cons, turn_xor]
      exact ih (by simpa using h)

theorem turn_zero : turn g 0 false = 0 := by simp [turn]

theorem foldl_turn_zeros (n : Nat) : (List.replicate n false).foldl (turn g) 0 = 0 := by
  induction n with
  | zero => rfl
  | succ n ih => rw [replicate_succ, foldl_cons, turn_zero, ih]

/-- The bits of the register, the highest first, empty it. -/
theorem foldl_turn_self (k : Nat) (hk : k ≤ w) :
    ((List.range k).map (fun i => c.getMsbD i)).foldl (turn g) c = c <<< k := by
  induction k with
  | zero => simp
  | succ k ih =>
    rw [range_succ, map_append, foldl_append, ih (by omega)]
    have hmsb : (c <<< k).msb = c.getMsbD k := by
      rw [BitVec.msb_shiftLeft]
    simp [turn, hmsb, BitVec.shiftLeft_add]

theorem getLsbD_shift (h : i + 1 < w) : (c <<< 1).getLsbD (i + 1) = c.getLsbD i := by
  rw [BitVec.getLsbD_shiftLeft, decide_eq_true h]
  rfl

section

variable (hg : g.getLsbD 0 = true)
include hg

theorem turn_lsb (hw : 0 < w) : (turn g c b).getLsbD 0 = (b ^^ c.msb) := by
  unfold turn
  split <;> simp_all

/-- What is left to read before the register is empty stands in its highest bits. -/
theorem getLsbD_of_foldl (hl : bits.length ≤ w) (h : bits.foldl (turn g) c = 0) :
    ∀ i < w - bits.length, c.getLsbD i = false := by
  induction bits generalizing c with
  | nil =>
    cases h
    simp
  | cons b bits ih =>
    rw [length_cons] at hl
    have hrest := ih (by omega) h
    -- the lowest bit says that the generator was not added
    have hlow : (b ^^ c.msb) = false := by
      rw [← turn_lsb hg (by omega)]
      exact hrest 0 (by omega)
    intro i hi
    rw [length_cons] at hi
    have := hrest (i + 1) (by omega)
    rwa [turn, hlow, if_neg (by decide), getLsbD_shift (by omega)] at this

theorem turn_ne_zero (hw : 0 < w) (h : c ≠ 0) : turn g c false ≠ 0 := by
  intro h0
  have hlow : c.msb = false := by simpa [h0] using (turn_lsb (c := c) (b := false) hg hw).symm
  refine h (BitVec.eq_of_getLsbD_eq fun i hi => ?_)
  by_cases htop : i + 1 < w
  · have hbit : (turn g c false).getLsbD (i + 1) = false := by simp [h0]
    rw [turn, hlow, if_neg (by decide), getLsbD_shift htop] at hbit
    simpa using hbit
  · rw [BitVec.msb_eq_getLsbD_last] at hlow
    obtain rfl : i = w - 1 := by omega
    simpa using hlow

theorem foldl_turn_ne_zero (hw : 0 < w) (h : c ≠ 0) (n : Nat) :
    (List.replicate n false).foldl (turn g) c ≠ 0 := by
  induction n generalizing c with
  | zero => exact h
  | succ n ih =>
    rw [replicate_succ, foldl_cons]
    exact ih (turn_ne_zero hg hw h)

/-- A burst no longer than the register leaves a trace in it. -/
theorem burst_ne_zero {p : List Bool} (hp : true ∈ p) (hl : p.length ≤ w) (m n : Nat) :
    (List.replicate m false ++ (p ++ List.replicate n false)).foldl (turn g) 0 ≠ 0 := by
  have hw : 0 < w := Nat.lt_of_lt_of_le (length_pos_of_mem hp) hl
  rw [foldl_append, foldl_turn_zeros, foldl_append]
  refine foldl_turn_ne_zero hg hw ?_ n
  induction p with
  | nil => cases hp
  | cons b p ih =>
    rw [length_cons] at hl
    cases b with
    | false =>
      rw [foldl_cons, turn_zero]
      exact ih (by simpa using hp) (by omega)
    | true =>
      intro h0
      rw [foldl_cons] at h0
      have := getLsbD_of_foldl hg (by omega) h0 0 (by omega)
      rw [turn_lsb hg hw] at this
      simp at this

end

/-- What a register followed by its own complement leaves. -/
theorem foldl_turn_complement :
    ((List.range w).map (fun i => (~~~c).getMsbD i)).foldl (turn g) c =
      (List.replicate w true).foldl (turn g) 0 := by
  have hbits : (List.range w).map (fun i => (~~~c).getMsbD i) =
      zipWith xor ((List.range w).map (fun i => c.getMsbD i)) (List.replicate w true) := by
    refine List.ext_getElem (by simp) fun i h _ => ?_
    have hi : i < w := by simpa using h
    simp [hi]
  rw [hbits, ← BitVec.xor_zero (x := c), foldl_turn_xor (by simp), BitVec.xor_zero,
    foldl_turn_self w (Nat.le_refl w)]
  simp

/-- Errors in at most `k` bits that follow each other. -/
def Burst (k : Nat) (err : List Bool) : Prop :=
  ∃ m p n, err = List.replicate m false ++ (p ++ List.replicate n false) ∧ true ∈ p ∧ p.length ≤ k

/-- A burst no longer than the register is seen in it. -/
theorem Burst.detected (hb : Burst w err) (hg : g.getLsbD 0 = true) (hl : bits.length = err.length) :
    (zipWith xor bits err).foldl (turn g) c ≠ bits.foldl (turn g) c := by
  obtain ⟨m, p, n, rfl, hp, hk⟩ := hb
  intro h
  rw [← BitVec.xor_zero (x := c), foldl_turn_xor hl, BitVec.xor_zero] at h
  exact burst_ne_zero hg hp hk m n ((BitVec.xor_right_inj _).mp (h.trans BitVec.xor_zero.symm))

end NexusBs.Lib.Crc
