import Mathlib.Logic.Basic
import Mathlib.Tactic.TypeStar

namespace NexusBs.Lib

variable {σ ι : Type*}

/-- The state after a list of inputs; `none` where a step has no result. -/
def run (step : σ → ι → Option σ) : σ → List ι → Option σ
  | s, [] => some s
  | s, i :: is => (step s i).bind (fun s => run step s is)

/-- Every step of the run is taken from a state and with an input that meet `ok`. -/
def Along (step : σ → ι → Option σ) (ok : σ → ι → Prop) : σ → List ι → Prop
  | _, [] => True
  | s, i :: is => ok s i ∧ ∀ s', step s i = some s' → Along step ok s' is

variable {step : σ → ι → Option σ} {ok : σ → ι → Prop} {P : σ → Prop}

theorem run_cons (s : σ) (i : ι) (is : List ι) :
    run step s (i :: is) = (step s i).bind (fun s => run step s is) := rfl

theorem run_append (s : σ) (is js : List ι) :
    run step s (is ++ js) = (run step s is).bind (fun s => run step s js) := by
  induction is generalizing s with
  | nil => rfl
  | cons i is ih =>
    simp only [List.cons_append, run_cons]
    cases step s i with
    | none => rfl
    | some t => exact ih t

/-- A condition on the inputs alone holds along every run. -/
theorem Along.of_forall {p : ι → Prop} (h : ∀ i ∈ is, p i) : Along step (fun _ i => p i) s is := by
  induction is generalizing s with
  | nil => trivial
  | cons i is ih =>
    exact ⟨h i List.mem_cons_self, fun _ _ => ih (fun j hj => h j (List.mem_cons_of_mem _ hj))⟩

/-- A condition that holds after every part of a run. -/
theorem Along.of_run
    (h : ∀ is1 i is2 t, is = is1 ++ i :: is2 → run step s is1 = some t → ok t i) :
    Along step ok s is := by
  induction is generalizing s with
  | nil => trivial
  | cons i is ih =>
    refine ⟨h [] i is s rfl rfl, fun s' hs' => ih fun is1 j is2 t heq hr => ?_⟩
    refine h (i :: is1) j is2 t (by rw [heq]; rfl) ?_
    rw [run_cons, hs', Option.bind_some, hr]

theorem Along.and (h : Along step ok s is) (h' : Along step ok' s is) :
    Along step (fun s i => ok s i ∧ ok' s i) s is := by
  induction is generalizing s with
  | nil => trivial
  | cons i is ih => exact ⟨⟨h.1, h'.1⟩, fun t ht => ih (h.2 t ht) (h'.2 t ht)⟩

/-- A run in two parts. -/
theorem Along.append (h : Along step ok s (is ++ js)) (hr : run step s is = some t) :
    Along step ok s is ∧ Along step ok t js := by
  induction is generalizing s with
  | nil =>
    cases hr
    exact ⟨trivial, h⟩
  | cons i is ih =>
    obtain ⟨s', hi, hr⟩ := Option.bind_eq_some_iff.mp hr
    obtain ⟨h1, h2⟩ := ih (h.2 s' hi) hr
    refine ⟨⟨h.1, fun t' ht' => ?_⟩, h2⟩
    rw [hi] at ht'
    cases ht'
    exact h1

/-- A condition that can be checked at each step can be checked along a run. -/
instance Along.decidable [∀ s i, Decidable (ok s i)] :
    (s : σ) → (is : List ι) → Decidable (Along step ok s is)
  | _, [] => .isTrue trivial
  | s, i :: is =>
    match hs : step s i with
    | none =>
      decidable_of_iff (ok s i)
        ⟨fun h => ⟨h, fun s' h' => by rw [hs] at h'; cases h'⟩, fun h => h.1⟩
    | some t =>
      have := Along.decidable t is
      decidable_of_iff (ok s i ∧ Along step ok t is)
        ⟨fun h => ⟨h.1, fun s' h' => by rw [hs] at h'; cases h'; exact h.2⟩,
          fun h => ⟨h.1, h.2 t hs⟩⟩

/-- What every step keeps, a run keeps. -/
theorem run_invariant (hstep : ∀ s i s', P s → ok s i → step s i = some s' → P s') (hs : P s)
    (hok : Along step ok s is) (hr : run step s is = some t) : P t := by
  induction is generalizing s with
  | nil =>
    cases hr
    exact hs
  | cons i is ih =>
    obtain ⟨s', hi, hr⟩ := Option.bind_eq_some_iff.mp hr
    exact ih (hstep s i s' hs hok.1 hi) (hok.2 s' hi) hr

/-- Where every step has a result and keeps the invariant, so does a run. -/
theorem run_total (hstep : ∀ s i, P s → ok s i → ∃ s', step s i = some s' ∧ P s') (hs : P s)
    (hok : Along step ok s is) : ∃ t, run step s is = some t ∧ P t := by
  induction is generalizing s with
  | nil => exact ⟨s, rfl, hs⟩
  | cons i is ih =>
    obtain ⟨s', hi, hs'⟩ := hstep s i hs hok.1
    obtain ⟨t, hr, ht⟩ := ih hs' (hok.2 s' hi)
    exact ⟨t, by rw [run_cons, hi, Option.bind_some, hr], ht⟩

end NexusBs.Lib
