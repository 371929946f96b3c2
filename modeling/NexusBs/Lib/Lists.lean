import Mathlib.Data.List.Basic

namespace NexusBs.Lib
open List

variable {α : Type*}

theorem insertIdx_append (A B : List α) (b : α) : (A ++ B).insertIdx A.length b = A ++ b :: B := by
  induction A with
  | nil => rfl
  | cons a A ih => simp [ih]

/-- Around the entry at an index: what replacing, removing and putting back do there. -/
theorem split_at (h : l[i]? = some a) :
    ∃ A B, l = A ++ a :: B ∧ A.length = i ∧ (∀ b, l.set i b = A ++ b :: B) ∧
      l.eraseIdx i = A ++ B ∧ ∀ b, (l.eraseIdx i).insertIdx i b = A ++ b :: B := by
  obtain ⟨hi, rfl⟩ := List.getElem?_eq_some_iff.mp h
  have hl : (l.take i).length = i := by simp; omega
  refine ⟨l.take i, l.drop (i + 1), ?_, hl, ?_, eraseIdx_eq_take_drop_succ l i, ?_⟩
  · simp
  · intro b
    rw [set_eq_take_append_cons_drop, if_pos hi]
  · intro b
    have h := insertIdx_append (l.take i) (l.drop (i + 1)) b
    rwa [hl, ← eraseIdx_eq_take_drop_succ] at h

/-- The first entry that meets `p`, and the list without it. -/
theorem split_find (h : l.find? p = some a) :
    ∃ A B, l = A ++ a :: B ∧ l.eraseP p = A ++ B ∧ p a = true ∧ ∀ b ∈ A, p b = false := by
  obtain ⟨hp, A, B, rfl, hA⟩ := List.find?_eq_some_iff_append.mp h
  have hA : ∀ b ∈ A, p b = false := fun b hb => by simpa using hA b hb
  refine ⟨A, B, rfl, ?_, hp, hA⟩
  rw [eraseP_append_right _ (fun b hb => by simp [hA b hb]), eraseP_cons_of_pos hp]

/-- Changing an entry in place does not show where `g` does not look. -/
theorem map_modify {β : Type*} (l : List α) (f : α → α) (g : α → β) (h : ∀ a, g (f a) = g a) :
    (l.modify idx f).map g = l.map g := by
  induction l generalizing idx with
  | nil => cases idx <;> rfl
  | cons a l ih =>
    cases idx with
    | zero => simp [h]
    | succ => simp [ih]

/-- A change that `f` does not see. -/
theorem map_set {β : Type*} {l : List α} {f : α → β} (h : l[i]? = some a) (hf : f b = f a) :
    (l.set i b).map f = l.map f := by
  obtain ⟨A, B, rfl, rfl, hset, _⟩ := split_at h
  simp [hset, hf]

theorem getElem?_of_map_eq {β : Type*} {l l' : List α} {f : α → β} {i : Nat} {a : α}
    (h : l'.map f = l.map f) (ha : l'[i]? = some a) : ∃ b, l[i]? = some b ∧ f b = f a := by
  have hi : (l.map f)[i]? = some (f a) := by rw [← h, List.getElem?_map, ha, Option.map_some]
  rwa [List.getElem?_map, Option.map_eq_some_iff] at hi

theorem getElem?_concat_cases (h : (seen ++ [x])[j]? = some y) :
    seen[j]? = some y ∨ j = seen.length ∧ y = x := by
  rcases Nat.lt_or_ge j seen.length with hj | hj
  · rw [List.getElem?_append_left hj] at h
    exact .inl h
  · rw [List.getElem?_append_right hj] at h
    obtain ⟨hlt, heq⟩ := List.getElem?_eq_some_iff.mp h
    simp only [length_singleton] at hlt
    exact .inr ⟨by omega, by simpa using heq.symm⟩

/-- A bounded queue gives up its oldest entry for a new one. -/
def pushBounded (bound : Nat) (q : List α) (a : α) : List α :=
  (if q.length ≥ bound then q.drop 1 else q) ++ [a]

theorem length_pushBounded (h : 0 < bound) (hq : q.length ≤ bound) :
    (pushBounded bound q a).length ≤ bound := by
  unfold pushBounded
  split <;> simp <;> omega

/-- What stays in a bounded queue. -/
theorem pushBounded_eq (bound : Nat) (q : List α) (a : α) :
    ∃ kept, kept.Sublist q ∧ pushBounded bound q a = kept ++ [a] := by
  unfold pushBounded
  split
  · exact ⟨_, drop_sublist 1 q, rfl⟩
  · exact ⟨q, .refl q, rfl⟩

theorem mem_update_pushBounded {f : Nat → List α}
    (h : b ∈ Function.update f i (pushBounded bound (f i) a) j) : b ∈ f j ∨ (i = j ∧ a = b) := by
  by_cases he : j = i
  · subst he
    rw [Function.update_self] at h
    obtain ⟨kept, hk, hq⟩ := pushBounded_eq bound (f j) a
    rw [hq] at h
    rcases mem_append.mp h with h | h
    · exact .inl (hk.subset h)
    · exact .inr ⟨rfl, (mem_singleton.mp h).symm⟩
  · rw [Function.update_of_ne he] at h
    exact .inl h

/-- What the step for an entry brings about, and no other step undoes, holds after all steps. -/
theorem foldl_establishes {σ : Type*} {f : σ → α → σ} {Q : α → σ → Prop}
    (hmake : ∀ s a, Q a (f s a)) (hkeep : ∀ s a b, Q a s → Q a (f s b)) {l : List α} (ha : a ∈ l)
    (s : σ) : Q a (l.foldl f s) := by
  induction l generalizing s with
  | nil => cases ha
  | cons b l ih =>
    rw [foldl_cons]
    rcases mem_cons.mp ha with rfl | ha
    · exact List.foldlRecOn (motive := Q a) l f (hmake s a) (fun t ht b _ => hkeep t a b ht)
    · exact ih ha (f s b)

end NexusBs.Lib
