import Mathlib.Data.Finset.Basic
import Mathlib.Tactic.TypeStar

namespace NexusBs.Lib
open List

variable {α κ : Type*} [DecidableEq κ] {key : α → κ} {cap : Nat}

/-- A queue of at most `cap` items with different keys, kept with the set of its keys. -/
structure IndexedQueue (α : Type*) {κ : Type*} [DecidableEq κ] (key : α → κ) (cap : Nat) where
  items : List α
  keys : Finset κ
  nodup : (items.map key).Nodup
  mirrors : keys = (items.map key).toFinset
  bounded : items.length ≤ cap

namespace IndexedQueue

def empty : IndexedQueue α key cap := ⟨[], ∅, nodup_nil, rfl, Nat.zero_le _⟩

theorem mem_keys {q : IndexedQueue α key cap} : k ∈ q.keys ↔ k ∈ q.items.map key := by
  rw [q.mirrors, List.mem_toFinset]

/-- Add an item at the end, where its key is not queued and there is room. -/
def push (q : IndexedQueue α key cap) (a : α) (hk : key a ∉ q.keys) (hl : q.items.length < cap) :
    IndexedQueue α key cap where
  items := q.items ++ [a]
  keys := insert (key a) q.keys
  nodup := by
    rw [mem_keys] at hk
    rw [map_append, map_singleton, nodup_append_comm]
    exact nodup_cons.mpr ⟨hk, q.nodup⟩
  mirrors := by
    ext k
    rw [Finset.mem_insert, mem_keys, List.mem_toFinset, map_append, mem_append, map_singleton,
      mem_singleton, or_comm]
  bounded := by
    rw [length_append]
    exact hl

/-- Take items from the front until the one with the wanted key, which is the result; all of them
where no item has it. -/
def takeThroughFrom (key : α → κ) (target : Option κ) : List α → Finset κ → Option α × List α × Finset κ
  | [], keys => (none, [], keys)
  | a :: items, keys =>
    if some (key a) = target then (some a, items, keys.erase (key a))
    else takeThroughFrom key target items (keys.erase (key a))

theorem takeThroughFrom_suffix (key : α → κ) (target : Option κ) (items : List α) (keys : Finset κ) :
    (takeThroughFrom key target items keys).2.1 <:+ items := by
  induction items generalizing keys with
  | nil => exact suffix_refl _
  | cons a items ih =>
    rw [takeThroughFrom]
    split
    · exact suffix_cons a items
    · exact (ih _).trans (suffix_cons a items)

theorem takeThroughFrom_mirrors {target : Option κ} {items : List α} {keys : Finset κ}
    (hn : (items.map key).Nodup) (hk : keys = (items.map key).toFinset) :
    (takeThroughFrom key target items keys).2.2 =
      ((takeThroughFrom key target items keys).2.1.map key).toFinset := by
  induction items generalizing keys with
  | nil => exact hk
  | cons a items ih =>
    rw [map_cons, nodup_cons] at hn
    have hrest : keys.erase (key a) = (items.map key).toFinset := by
      rw [hk, map_cons, toFinset_cons,
        Finset.erase_insert (by rw [List.mem_toFinset]; exact hn.1)]
    rw [takeThroughFrom]
    split
    · exact hrest
    · exact ih hn.2 hrest

def takeThrough (q : IndexedQueue α key cap) (target : Option κ) :
    Option α × IndexedQueue α key cap :=
  let r := takeThroughFrom key target q.items q.keys
  (r.1,
    { items := r.2.1
      keys := r.2.2
      nodup := q.nodup.sublist ((takeThroughFrom_suffix key target q.items q.keys).map key).sublist
      mirrors := takeThroughFrom_mirrors q.nodup q.mirrors
      bounded := (takeThroughFrom_suffix key target q.items q.keys).length_le.trans q.bounded })

def removeKey (q : IndexedQueue α key cap) (k : κ) : IndexedQueue α key cap :=
  if k ∈ q.keys then
    { items := q.items.filter (fun a => key a ≠ k)
      keys := q.keys.erase k
      nodup := q.nodup.sublist (filter_sublist.map key)
      mirrors := by
        rw [q.mirrors]
        ext j
        simp only [Finset.mem_erase, List.mem_toFinset, List.mem_map, mem_filter,
          decide_eq_true_eq]
        constructor
        · rintro ⟨hj, a, ha, rfl⟩
          exact ⟨a, ⟨ha, hj⟩, rfl⟩
        · rintro ⟨a, ⟨ha, hk⟩, rfl⟩
          exact ⟨hk, a, ha, rfl⟩
      bounded := (length_filter_le _ _).trans q.bounded }
  else q

end IndexedQueue
end NexusBs.Lib
