import Mathlib.Logic.Function.Basic
import Mathlib.Tactic.TypeStar

namespace NexusBs.Lib
open Function List Option

variable {κ α : Type*}

/-- Cells that repeat with a period hold the window of an unbounded calendar that
starts at `lo`; outside the window the calendar is empty. -/
structure Mirrors (cell : Int → κ) (period : Int) (empty : α) (ring : κ → α) (cal : Int → α)
    (lo : Int) : Prop where
  inside : ∀ n, lo ≤ n → n < lo + period → ring (cell n) = cal n
  outside : ∀ n, n < lo ∨ lo + period ≤ n → cal n = empty

section UpdateAll

variable [DecidableEq κ]

/-- Applies a partial update at each key in turn. -/
def updateAll (f : α → Option α) : (κ → α) → List κ → Option (κ → α)
  | g, [] => some g
  | g, k :: ks => (f (g k)).bind (fun v => updateAll f (update g k v) ks)

/-- Updates at different keys do not disturb each other. -/
theorem updateAll_some {ks : List κ} (hn : ks.Nodup) (h : ∀ k ∈ ks, ∃ v, f (g k) = some v) :
    ∃ g', updateAll f g ks = some g' := by
  induction ks generalizing g with
  | nil => exact ⟨g, rfl⟩
  | cons k ks ih =>
    obtain ⟨v, hv⟩ := h k mem_cons_self
    obtain ⟨hk, hn⟩ := nodup_cons.mp hn
    have hrest : ∀ j ∈ ks, ∃ w, f (update g k v j) = some w := by
      intro j hj
      have hne : j ≠ k := fun he => hk (he ▸ hj)
      rw [update_of_ne hne]
      exact h j (mem_cons_of_mem _ hj)
    obtain ⟨g', hg'⟩ := ih hn hrest
    exact ⟨g', by simp only [updateAll, hv, bind_some, hg']⟩

/-- What holds of every value and is kept by the update holds afterwards. -/
theorem updateAll_forall {f : α → Option α} {p : κ → α → Prop} {g g' : κ → α}
    (hf : ∀ k ∈ ks, ∀ a b, p k a → f a = some b → p k b) (hg : ∀ k, p k (g k))
    (h : updateAll f g ks = some g') : ∀ k, p k (g' k) := by
  induction ks generalizing g with
  | nil =>
    cases h
    exact hg
  | cons k ks ih =>
    obtain ⟨v, hv, h⟩ := bind_eq_some_iff.mp h
    apply ih (fun j hj => hf j (mem_cons_of_mem _ hj)) _ h
    intro j
    by_cases he : j = k
    · subst he
      rw [update_self]
      exact hf j mem_cons_self _ _ (hg j) hv
    · rw [update_of_ne he]
      exact hg j

/-- Keys that are not named keep their value. -/
theorem updateAll_of_notMem {f : α → Option α} {g g' : κ → α} (hj : j ∉ ks)
    (h : updateAll f g ks = some g') : g' j = g j := by
  induction ks generalizing g with
  | nil =>
    cases h
    rfl
  | cons k ks ih =>
    obtain ⟨v, hv, h⟩ := bind_eq_some_iff.mp h
    have hne : j ≠ k := fun he => hj (he ▸ mem_cons_self)
    rw [ih (fun hm => hj (mem_cons_of_mem _ hm)) h, update_of_ne hne]

/-- An updated key holds a value the update produced. -/
theorem updateAll_mem {f : α → Option α} {q : α → Prop} (hq : ∀ a b, f a = some b → q b)
    {g g' : κ → α} {ks : List κ} (hn : ks.Nodup) (hj : j ∈ ks) (h : updateAll f g ks = some g') :
    q (g' j) := by
  induction ks generalizing g with
  | nil => cases hj
  | cons k ks ih =>
    obtain ⟨v, hv, h⟩ := bind_eq_some_iff.mp h
    obtain ⟨hk, hn⟩ := nodup_cons.mp hn
    rcases mem_cons.mp hj with he | hj
    · subst he
      rw [updateAll_of_notMem hk h, update_self]
      exact hq _ _ hv
    · exact ih hn hj h

end UpdateAll

namespace Mirrors

variable {cell : Int → κ} {period : Int} {empty : α} {ring : κ → α} {cal : Int → α} {lo : Int}

theorem of_empty (h : ∀ k, ring k = empty) : Mirrors cell period empty ring (fun _ => empty) lo :=
  ⟨fun n _ _ => h (cell n), fun _ _ => rfl⟩

/-- Whatever a cell holds was entered for the time at which it is read. -/
theorem read (h : Mirrors cell period empty ring cal lo) (hl : lo ≤ n) (hu : n < lo + period) :
    ring (cell n) = cal n :=
  h.inside n hl hu

variable [DecidableEq κ] (hcell : ∀ m n, cell m = cell n ↔ m % period = n % period)
include hcell

omit [DecidableEq κ] in
/-- Two times of the window never share a cell. -/
theorem eq_of_cell (hm : lo ≤ m ∧ m < lo + period) (hn : lo ≤ n ∧ n < lo + period)
    (he : cell m = cell n) : m = n := by
  have hmod := (hcell m n).mp he
  have hz : (m - n) % period = 0 := by
    rw [Int.sub_emod, hmod, Int.sub_self, Int.zero_emod]
  obtain ⟨k, hk⟩ := Int.dvd_of_emod_eq_zero hz
  have hk0 : k = 0 := by
    rcases Int.lt_trichotomy k 0 with hneg | hzero | hpos
    · have := Int.mul_le_mul_of_nonneg_left (show k ≤ -1 by omega) (show 0 ≤ period by omega)
      omega
    · exact hzero
    · have := Int.mul_le_mul_of_nonneg_left (show 1 ≤ k by omega) (show 0 ≤ period by omega)
      omega
  subst hk0
  omega

section

variable (h : Mirrors cell period empty ring cal lo)
include h

theorem set (hl : lo ≤ n) (hu : n < lo + period) (v : α) :
    Mirrors cell period empty (update ring (cell n) v) (update cal n v) lo := by
  constructor
  · intro m hm hm'
    by_cases he : m = n
    · subst he
      simp
    · have hne : cell m ≠ cell n := fun hc => he (eq_of_cell hcell ⟨hm, hm'⟩ ⟨hl, hu⟩ hc)
      rw [update_of_ne hne, update_of_ne he]
      exact h.inside m hm hm'
  · intro m hm
    have hne : m ≠ n := by omega
    rw [update_of_ne hne]
    exact h.outside m hm

/-- Updates at times of the window are the same on the ring and on the calendar. -/
theorem updateAll {f : α → Option α} {ns : List Int} (hw : ∀ n ∈ ns, lo ≤ n ∧ n < lo + period)
    {ring' : κ → α} (hr : Lib.updateAll f ring (ns.map cell) = some ring') :
    ∃ cal', Lib.updateAll f cal ns = some cal' ∧ Mirrors cell period empty ring' cal' lo := by
  induction ns generalizing ring cal with
  | nil =>
    cases hr
    exact ⟨cal, rfl, h⟩
  | cons n ns ih =>
    obtain ⟨hl, hu⟩ := hw n mem_cons_self
    obtain ⟨v, hv, hr⟩ := bind_eq_some_iff.mp hr
    rw [h.inside n hl hu] at hv
    obtain ⟨cal', hc, hm⟩ :=
      ih (h.set hcell hl hu v) (fun m hm => hw m (mem_cons_of_mem _ hm)) hr
    exact ⟨cal', by simp only [Lib.updateAll, hv, bind_some, hc], hm⟩

/-- Emptying the oldest cell moves the window on by one. -/
theorem advance : Mirrors cell period empty (update ring (cell lo) empty)
      (update cal lo empty) (lo + 1) := by
  constructor
  · intro m hm hm'
    have hne : m ≠ lo := by omega
    rw [update_of_ne hne]
    by_cases hlast : m = lo + period
    · have hc : cell m = cell lo := (hcell m lo).mpr (by rw [hlast, Int.add_emod_right])
      rw [hc, update_self, h.outside m (.inr (by omega))]
    · have hc : cell m ≠ cell lo := fun hc =>
        hne (eq_of_cell hcell ⟨by omega, by omega⟩ ⟨Int.le_refl lo, by omega⟩ hc)
      rw [update_of_ne hc]
      exact h.inside m (by omega) (by omega)
  · intro m hm
    by_cases he : m = lo
    · rw [he, update_self]
    · rw [update_of_ne he]
      exact h.outside m (by omega)

end

omit [DecidableEq κ] hcell in
/-- Emptying all cells of a kind. -/
theorem clear (h : Mirrors cell period empty ring cal lo) (p : κ → Bool) :
    Mirrors cell period empty (fun k => if p k then empty else ring k)
      (fun n => if p (cell n) then empty else cal n) lo := by
  constructor
  · intro m hm hm'
    rw [h.inside m hm hm']
  · intro m hm
    rw [h.outside m hm, ite_self]

end Mirrors
end NexusBs.Lib
