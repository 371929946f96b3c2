import Mathlib.Data.Nat.Bitwise
import Mathlib.Tactic.Ring

namespace NexusBs.Lib

/-- The `w` low bits of `v`, most significant first. -/
def toBits : Nat → Nat → List Bool
  | 0, _ => []
  | w + 1, v => v.testBit w :: toBits w v

/-- The number a most-significant-first bit string spells. -/
def ofBits : List Bool → Nat
  | [] => 0
  | b :: bs => b.toNat * 2 ^ bs.length + ofBits bs

@[simp] theorem toBits_zero : toBits 0 v = [] := rfl

@[simp] theorem length_toBits : (toBits w v).length = w := by
  induction w with
  | zero => rfl
  | succ w ih => simp [toBits, ih]

@[simp] theorem ofBits_nil : ofBits [] = 0 := rfl

theorem ofBits_lt (bs : List Bool) : ofBits bs < 2 ^ bs.length := by
  induction bs with
  | nil => simp
  | cons b =>
    simp only [ofBits, List.length_cons, Nat.pow_succ]
    cases b <;> simp <;> omega

/-- Only the low `w` bits of a value are written. -/
theorem toBits_mod (h : w ≤ n) : toBits w (v % 2 ^ n) = toBits w v := by
  induction w with
  | zero => rfl
  | succ w ih =>
    simp only [toBits, Nat.testBit_mod_two_pow, ih (by omega)]
    simp [show w < n by omega]

/-- Bit strings survive being read as a number and written back. -/
theorem toBits_ofBits (bs : List Bool) : toBits bs.length (ofBits bs) = bs := by
  induction bs with
  | nil => rfl
  | cons b bs ih =>
    have hlt := ofBits_lt bs
    have hm : (b.toNat * 2 ^ bs.length + ofBits bs) % 2 ^ bs.length = ofBits bs := by
      rw [Nat.mul_add_mod_self_right, Nat.mod_eq_of_lt hlt]
    have hd : (b.toNat * 2 ^ bs.length + ofBits bs) / 2 ^ bs.length = b.toNat := by
      rw [Nat.mul_comm, Nat.mul_add_div (Nat.two_pow_pos _), Nat.div_eq_of_lt hlt, Nat.add_zero]
    simp only [List.length_cons, toBits, ofBits]
    congr 1
    · rw [Nat.testBit_eq_decide_div_mod_eq, hd]
      cases b <;> rfl
    · rw [← toBits_mod (Nat.le_refl _), hm, ih]

/-- A value that fits its field is read back unchanged. -/
theorem ofBits_toBits (h : v < 2 ^ w) : ofBits (toBits w v) = v := by
  induction w generalizing v with
  | zero => simp at h; simp [h]
  | succ w ih =>
    have hm : v % 2 ^ w < 2 ^ w := Nat.mod_lt _ (Nat.two_pow_pos w)
    have ht : ofBits (toBits w v) = v % 2 ^ w := by
      rw [← toBits_mod (Nat.le_refl _), ih hm]
    have hq : v / 2 ^ w < 2 := by
      rw [Nat.div_lt_iff_lt_mul (Nat.two_pow_pos w)]
      rw [Nat.pow_succ] at h
      omega
    simp only [toBits, ofBits, length_toBits, ht, Nat.testBit_eq_decide_div_mod_eq]
    have hb : (decide (v / 2 ^ w % 2 = 1)).toNat = v / 2 ^ w := by
      rcases Nat.le_one_iff_eq_zero_or_eq_one.mp (Nat.lt_succ_iff.mp hq) with h0 | h1
      · simp [h0]
      · simp [h1]
    rw [hb, Nat.mul_comm]
    exact Nat.div_add_mod v (2 ^ w)

theorem ofBits_append (ys : List Bool) :
    ofBits (xs ++ ys) = ofBits xs * 2 ^ ys.length + ofBits ys := by
  induction xs with
  | nil => simp
  | cons x xs ih =>
    simp only [List.cons_append, ofBits, List.length_append, ih, Nat.pow_add]
    ring

theorem ofBits_replicate_false (n : Nat) : ofBits (List.replicate n false) = 0 := by
  induction n with
  | zero => rfl
  | succ n ih => simp [List.replicate_succ, ofBits, ih]

end NexusBs.Lib
