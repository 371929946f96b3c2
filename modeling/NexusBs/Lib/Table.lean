import Mathlib.Data.List.AList
import Mathlib.Logic.Relation

namespace NexusBs.Lib
open Option

variable {α : Type*}

/-- A finite table with numbers as keys. -/
abbrev Table (α : Type*) := AList (fun _ : Nat => α)

/-- The order in which a hash table happens to be walked: any order of its keys. -/
structure Order where
  visit : List Nat → List Nat
  perm : ∀ l, (visit l).Perm l

/-- The order in which the keys are stored. -/
def Order.stored : Order := ⟨id, fun _ => List.Perm.refl _⟩

namespace Table

def modify (t : Table α) (k : Nat) (f : α → α) : Table α :=
  match t.lookup k with
  | none => t
  | some v => t.insert k (f v)

/-- The keys whose entries meet `p`, in the order of the walk. -/
def select (o : Order) (t : Table α) (p : Nat → α → Bool) : List Nat :=
  o.visit (t.keys.filter (fun k => (t.lookup k).any (p k)))

def find (o : Order) (t : Table α) (p : Nat → α → Bool) : Option (Nat × α) :=
  (t.select o p).head?.bind (fun k => (t.lookup k).map (fun v => (k, v)))

section Lemmas

variable {t t' t'' : Table α} {k j : Nat} {v w : α} {f : α → α} {o : Order} {p : Nat → α → Bool}

theorem modify_of_none (h : t.lookup k = none) : modify t k f = t := by
  simp [modify, h]

theorem modify_of_some (h : t.lookup k = some v) : modify t k f = t.insert k (f v) := by
  simp [modify, h]

@[simp] theorem lookup_modify_self : (modify t k f).lookup k = (t.lookup k).map f := by
  cases h : t.lookup k with
  | none => rw [modify_of_none h, h, map_none]
  | some => rw [modify_of_some h, AList.lookup_insert, map_some]

@[simp] theorem lookup_modify_ne (h : j ≠ k) : (modify t k f).lookup j = t.lookup j := by
  cases hk : t.lookup k with
  | none => rw [modify_of_none hk]
  | some => rw [modify_of_some hk, AList.lookup_insert_ne h]

@[simp] theorem mem_modify : j ∈ modify t k f ↔ j ∈ t := by
  rw [← AList.lookup_isSome, ← AList.lookup_isSome]
  by_cases h : j = k
  · subst h
    simp
  · simp [h]

theorem mem_of_lookup (h : t.lookup k = some v) : k ∈ t :=
  AList.lookup_isSome.mp (by simp [h])

theorem exists_lookup (h : k ∈ t) : ∃ v, t.lookup k = some v :=
  isSome_iff_exists.mp (AList.lookup_isSome.mpr h)

theorem lookup_insert_cases (h : (t.insert k w).lookup j = some v) :
    j = k ∧ v = w ∨ j ≠ k ∧ t.lookup j = some v := by
  by_cases hj : j = k
  · subst hj
    rw [AList.lookup_insert, Option.some.injEq] at h
    exact .inl ⟨rfl, h.symm⟩
  · rw [AList.lookup_insert_ne hj] at h
    exact .inr ⟨hj, h⟩

theorem lookup_erase_cases (h : (t.erase k).lookup j = some v) :
    j ≠ k ∧ t.lookup j = some v := by
  by_cases hj : j = k
  · subst hj
    simp at h
  · rw [AList.lookup_erase_ne hj] at h
    exact ⟨hj, h⟩

theorem lookup_modify_cases (h : (modify t k f).lookup j = some v) :
    j = k ∧ (∃ w, t.lookup k = some w ∧ v = f w) ∨ j ≠ k ∧ t.lookup j = some v := by
  by_cases hj : j = k
  · subst hj
    rw [lookup_modify_self, map_eq_some_iff] at h
    obtain ⟨w, hw, rfl⟩ := h
    exact .inl ⟨rfl, w, hw, rfl⟩
  · rw [lookup_modify_ne hj] at h
    exact .inr ⟨hj, h⟩

theorem mem_select : k ∈ t.select o p ↔ ∃ v, t.lookup k = some v ∧ p k v = true := by
  rw [select, (o.perm _).mem_iff, List.mem_filter]
  constructor
  · rintro ⟨-, h⟩
    exact (Option.any_eq_true (p k) _).mp h
  · rintro ⟨v, hv, hp⟩
    exact ⟨mem_of_lookup hv, by simp [hv, hp]⟩

theorem find_some (h : t.find o p = some (k, v)) : t.lookup k = some v ∧ p k v = true := by
  obtain ⟨j, hj, hm⟩ := bind_eq_some_iff.mp h
  obtain ⟨w, hw, he⟩ := map_eq_some_iff.mp hm
  cases he
  obtain ⟨w', hw', hp⟩ := mem_select.mp (List.mem_of_head? hj)
  rw [hw] at hw'
  cases hw'
  exact ⟨hw, hp⟩

end Lemmas

/-- Every entry of the later table comes from the entry that its key had before. -/
def Within (R : Nat → α → α → Prop) (t t' : Table α) : Prop :=
  ∀ k v', t'.lookup k = some v' → ∃ v, t.lookup k = some v ∧ R k v v'

namespace Within

variable {R S : Nat → α → α → Prop} {t t' t'' : Table α} {k : Nat} {v w : α} {f : α → α}
  {P : Nat → α → Prop}

theorem refl (hR : ∀ k v, R k v v) (t : Table α) : Within R t t :=
  fun k v h => ⟨v, h, hR k v⟩

theorem of_eq (hR : ∀ k v, R k v v) (h : t' = t) : Within R t t' := by
  rw [h]
  exact refl hR t

theorem trans (hR : ∀ k u v w, R k u v → R k v w → R k u w) (h : Within R t t')
    (h' : Within R t' t'') : Within R t t'' := by
  intro k w hw
  obtain ⟨v, hv, hr⟩ := h' k w hw
  obtain ⟨u, hu, hr'⟩ := h k v hv
  exact ⟨u, hu, hR k u v w hr' hr⟩

theorem mono (h : Within R t t') (hRS : ∀ k v w, R k v w → S k v w) : Within S t t' := by
  intro k w hw
  obtain ⟨v, hv, hr⟩ := h k w hw
  exact ⟨v, hv, hRS k v w hr⟩

theorem insert (hR : ∀ k v, R k v v) (h : t.lookup k = some v) (hw : R k v w) :
    Within R t (t.insert k w) := by
  intro j u hu
  obtain ⟨rfl, rfl⟩ | ⟨-, hj⟩ := lookup_insert_cases hu
  · exact ⟨v, h, hw⟩
  · exact ⟨u, hj, hR j u⟩

theorem modify (hR : ∀ k v, R k v v) (h : ∀ w, t.lookup k = some w → R k w (f w)) :
    Within R t (Table.modify t k f) := by
  intro j w hw
  obtain ⟨rfl, u, hu, rfl⟩ | ⟨-, hj⟩ := lookup_modify_cases hw
  · exact ⟨u, hu, h u hu⟩
  · exact ⟨w, hj, hR j w⟩

theorem erase (hR : ∀ k v, R k v v) (t : Table α) (k : Nat) : Within R t (t.erase k) :=
  fun j w hw => ⟨w, (lookup_erase_cases hw).2, hR j w⟩

theorem mem (h : Within R t t') (hk : k ∈ t') : k ∈ t := by
  obtain ⟨w, hw⟩ := exists_lookup hk
  obtain ⟨v, hv, -⟩ := h k w hw
  exact mem_of_lookup hv

end Within
end Table
end NexusBs.Lib
