import Mathlib.Data.List.Basic
import Mathlib.Tactic.TypeStar

namespace NexusBs.Lib
open List

variable {α κ : Type*}

/-- What became of the items that were taken in: all of them in the order in which they came, those
that were passed on in the order in which they left, and those that were given up. -/
structure Ledger (α : Type*) where
  (accepted released dropped : List α)

namespace Ledger

def empty : Ledger α := ⟨[], [], []⟩

def accept (l : Ledger α) (a : α) : Ledger α := { l with accepted := l.accepted ++ [a] }

def release (l : Ledger α) (a : α) : Ledger α := { l with released := l.released ++ [a] }

def drop (l : Ledger α) (a : α) : Ledger α := { l with dropped := l.dropped ++ [a] }

/-- Every item that was taken in is in exactly one place. -/
def Balanced (l : Ledger α) (held : List α) : Prop :=
  l.accepted.Perm (l.released ++ l.dropped ++ held)

/-- Items with one key leave in the order in which they came, those that are held after those that
have left. -/
def InOrder [DecidableEq κ] (key : α → κ) (l : Ledger α) (held : List α) : Prop :=
  ∀ k, ((l.released ++ held).filter (key · = k)).Sublist (l.accepted.filter (key · = k))

section Balanced

variable {l : Ledger α} {held kept rest : List α} {a : α}

theorem balanced_empty : Balanced (empty : Ledger α) [] := List.Perm.refl _

theorem Balanced.accept (h : Balanced l held) : Balanced (l.accept a) (held ++ [a]) := by
  unfold Balanced Ledger.accept
  rw [← append_assoc]
  exact h.append_right [a]

theorem Balanced.release (h : Balanced l (kept ++ a :: rest)) :
    Balanced (l.release a) (kept ++ rest) := by
  refine h.trans ?_
  simp only [Ledger.release, append_assoc]
  refine List.Perm.append_left _ ?_
  rw [singleton_append, ← append_assoc, ← append_assoc]
  exact perm_middle

theorem Balanced.drop (h : Balanced l (kept ++ a :: rest)) :
    Balanced (l.drop a) (kept ++ rest) := by
  refine h.trans ?_
  simp only [Ledger.drop, append_assoc]
  refine List.Perm.append_left _ (List.Perm.append_left _ ?_)
  rw [singleton_append]
  exact perm_middle

end Balanced

section InOrder

variable [DecidableEq κ] {key : α → κ} {l : Ledger α} {held kept rest : List α} {a : α}

theorem inOrder_empty : InOrder key (empty : Ledger α) [] := fun _ => List.Sublist.refl _

theorem InOrder.accept (h : InOrder key l held) : InOrder key (l.accept a) (held ++ [a]) := by
  intro k
  have hk := (h k).append (List.Sublist.refl ([a].filter (key · = k)))
  rwa [← filter_append, ← filter_append, append_assoc] at hk

theorem InOrder.mono (h : InOrder key l held) (hs : held'.Sublist held) : InOrder key l held' :=
  fun k => ((List.Sublist.append (List.Sublist.refl _) hs).filter _).trans (h k)

/-- An item leaves ahead of items with other keys only. -/
theorem InOrder.release (h : InOrder key l (kept ++ a :: rest)) (hk : ∀ b ∈ kept, key b ≠ key a) :
    InOrder key (l.release a) (kept ++ rest) := by
  intro k
  have ho := h k
  simp only [Ledger.release] at ho ⊢
  by_cases ha : key a = k
  · have hkept : kept.filter (key · = k) = [] := by
      rw [filter_eq_nil_iff]
      intro b hb
      simpa [← ha] using hk b hb
    simpa [filter_append, hkept, ha] using ho
  · simpa [filter_append, ha] using ho

theorem InOrder.drop (h : InOrder key l (kept ++ a :: rest)) :
    InOrder key (l.drop a) (kept ++ rest) :=
  h.mono (List.Sublist.append (List.Sublist.refl _) (sublist_cons_self a rest))

end InOrder
end Ledger
end NexusBs.Lib
