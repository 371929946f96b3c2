import NexusBs.Lib.Table
import Mathlib.Data.Finset.Insert

namespace NexusBs.Lib

/-! Tables of sets, and tallies that say how many of the sets have an element. -/

/-- One for an element of the set, else nothing. -/
def indicator (s : Finset Nat) (x : Nat) : Nat := if x ∈ s then 1 else 0

@[simp] theorem indicator_empty (x : Nat) : indicator ∅ x = 0 := by
  simp [indicator]

namespace Table

variable {α : Type*}

def count (t : Table α) (p : α → Bool) : Nat := t.keys.countP (fun k => (t.lookup k).any p)

/-- The number of sets of a table that have an element. -/
def members (t : Table (Finset Nat)) (x : Nat) : Nat := t.count (fun s => decide (x ∈ s))

/-- What a tally says; nothing stands for zero. -/
def amount (t : Table Nat) (x : Nat) : Nat := (t.lookup x).getD 0

section Count

variable (t : Table α) (k : Nat) (v : α) (p : α → Bool)

theorem count_erase_keys :
    (t.keys.erase k).countP (fun j => (t.lookup j).any p) + ((t.lookup k).any p).toNat =
      t.count p := by
  unfold count
  by_cases hk : k ∈ t.keys
  · rw [(List.perm_cons_erase hk).countP_eq, List.countP_cons]
    cases (t.lookup k).any p <;> simp
  · have hl : t.lookup k = none := AList.lookup_eq_none.mpr hk
    rw [List.erase_of_not_mem hk, hl]
    simp

/-- Keys other than `k` count the same in a table that differs from `t` at `k` alone. -/
theorem countP_erase_congr {t' : Table α} (h : ∀ j, j ≠ k → t'.lookup j = t.lookup j) :
    (t.keys.erase k).countP (fun j => (t'.lookup j).any p) =
      (t.keys.erase k).countP (fun j => (t.lookup j).any p) := by
  apply List.countP_congr
  intro j hj
  have hjk : j ≠ k := (t.nodupKeys.mem_erase_iff.mp hj).1
  rw [h j hjk]

theorem count_insert :
    count (t.insert k v) p + ((t.lookup k).any p).toNat = t.count p + (p v).toNat := by
  rw [← count_erase_keys t k p, count, AList.keys_insert, List.countP_cons, AList.lookup_insert,
    countP_erase_congr t k p (fun j hj => AList.lookup_insert_ne hj)]
  cases hp : p v with
  | false => simp [hp]
  | true =>
    simp only [hp, Option.any_some, if_true, Bool.toNat_true]
    omega

theorem count_erase : count (t.erase k) p + ((t.lookup k).any p).toNat = t.count p := by
  rw [← count_erase_keys t k p, count, AList.keys_erase,
    countP_erase_congr t k p (fun j hj => AList.lookup_erase_ne hj)]

end Count

section Members

variable (t : Table (Finset Nat)) (k : Nat) (s : Finset Nat) (x : Nat)

theorem toNat_any_mem (o : Option (Finset Nat)) :
    (o.any (fun s => decide (x ∈ s))).toNat = indicator (o.getD ∅) x := by
  cases o with
  | none => simp
  | some s => by_cases h : x ∈ s <;> simp [indicator, h]

theorem members_insert :
    members (t.insert k s) x + indicator ((t.lookup k).getD ∅) x = t.members x + indicator s x := by
  have h := count_insert t k s (fun s => decide (x ∈ s))
  have hs := toNat_any_mem x (some s)
  rw [toNat_any_mem] at h
  simp only [Option.any_some, Option.getD_some] at hs
  rw [hs] at h
  exact h

theorem members_erase :
    members (t.erase k) x + indicator ((t.lookup k).getD ∅) x = t.members x := by
  have h := count_erase t k (fun s => decide (x ∈ s))
  rw [toNat_any_mem] at h
  exact h

end Members
end Table
end NexusBs.Lib
