import NexusBs.Sched.Queue
import Mathlib.Order.WellFounded
import Mathlib.Data.List.InsertIdx

namespace NexusBs.SchedQueue
open BitBuffer List DlSchedElem

/-- Some element of a queue has the lowest priority, so that one is found. -/
theorem leastProtected_lt (h : q ≠ []) : leastProtected q < q.length := by
  obtain ⟨e, he, hmin⟩ := (measure fun e : DlSchedElem => e.elemBackpressurePriority.rank).wf.has_min
    {e | e ∈ q} (exists_mem_of_ne_nil q h)
  refine findIdx_lt_length_of_exists ⟨e, he, ?_⟩
  simp only [all_eq_true, decide_eq_true_eq]
  exact fun e' he' => Nat.le_of_not_lt (hmin e' he')

theorem length_enforceSchedQueueCap (cap : Nat) (q : List DlSchedElem) :
    (enforceSchedQueueCap cap q).length = min q.length cap := by
  unfold enforceSchedQueueCap
  generalize hn : q.length - cap = n
  induction n generalizing q with
  | zero =>
    rw [Function.iterate_zero_apply]
    omega
  | succ n ih =>
    have hq : leastProtected q < q.length := leastProtected_lt (by rintro rfl; simp at hn)
    have hl := length_eraseIdx_of_lt hq
    rw [Function.iterate_succ_apply, ih _ (by omega)]
    omega

/-- An element with its place in the queue goes before another one: it has a lower priority, or
the same and is older. -/
def GoesFirst (x y : DlSchedElem × Nat) : Prop :=
  x.1.elemBackpressurePriority.rank < y.1.elemBackpressurePriority.rank ∨
    x.1.elemBackpressurePriority.rank = y.1.elemBackpressurePriority.rank ∧ x.2 < y.2

variable {l : List (DlSchedElem × Nat)}

theorem goesFirst_leastProtected (hl : l.Pairwise (·.2 < ·.2))
    (hx : x ∈ l) (hx' : x ∉ l.eraseIdx (leastProtected (l.map Prod.fst)))
    (hy : y ∈ l.eraseIdx (leastProtected (l.map Prod.fst))) : GoesFirst x y := by
  obtain ⟨i, hi, rfl⟩ := mem_iff_getElem.mp hx
  obtain ⟨j, hj, hne, rfl⟩ := mem_eraseIdx_iff_getElem.mp hy
  have hp : leastProtected (l.map Prod.fst) = i := by
    by_contra hne
    exact hx' (mem_eraseIdx_iff_getElem.mpr ⟨i, hi, Ne.symm hne, rfl⟩)
  obtain ⟨hfound, hfirst⟩ := (findIdx_eq (by simpa using hi)).mp hp
  simp only [all_eq_true, decide_eq_true_eq, getElem_map] at hfound
  rcases Nat.lt_or_eq_of_le (hfound _ (mem_map_of_mem (getElem_mem hj))) with hlt | heq
  · exact .inl hlt
  refine .inr ⟨heq, ?_⟩
  rcases Nat.lt_trichotomy i j with hij | hij | hij
  · exact pairwise_iff_getElem.mp hl i j hi hj hij
  · exact absurd (hp.trans hij).symm hne
  · -- the other element is as little protected, and would have been found
    have h := hfirst j hij
    rw [Bool.eq_false_iff, ne_eq, all_eq_true] at h
    simp only [decide_eq_true_eq, getElem_map, ← heq] at h
    exact absurd hfound h

/-- What is taken out of a queue goes before all that stays. -/
theorem exists_kept (n : Nat) (hl : l.Pairwise (·.2 < ·.2)) :
    ∃ kept : List (DlSchedElem × Nat), kept.Sublist l ∧
      (fun q => q.eraseIdx (leastProtected q))^[n] (l.map Prod.fst) = kept.map Prod.fst ∧
      ∀ x ∈ l, x ∉ kept → ∀ y ∈ kept, GoesFirst x y := by
  induction n generalizing l with
  | zero => exact ⟨l, .refl l, rfl, fun x hx hx' => absurd hx hx'⟩
  | succ n ih =>
    have hsub := eraseIdx_sublist l (leastProtected (l.map Prod.fst))
    obtain ⟨kept, hk, heq, hgo⟩ := ih (hl.sublist hsub)
    refine ⟨kept, hk.trans hsub, ?_, fun x hx hx' y hy => ?_⟩
    · rw [Function.iterate_succ_apply, ← heq, eraseIdx_map]
    · by_cases h : x ∈ l.eraseIdx (leastProtected (l.map Prod.fst))
      · exact hgo x h hx' y hy
      · exact goesFirst_leastProtected hl hx h (hk.subset hy)

/-- A push brings no queue over its limit. Of what the queue holds with the new element the oldest
elements of the lowest priorities go, and the others keep their order. -/
theorem push_evicts_least_protected (cap : Nat) (q : List DlSchedElem) (e : DlSchedElem) :
    let merged := coalesceReadyGrantOrAck (coalesceFloorWithdraw q e) e
    (push cap q e).length = min merged.length cap ∧
      ∃ kept : List (DlSchedElem × Nat), kept.Sublist merged.zipIdx ∧ push cap q e = kept.map Prod.fst ∧
        ∀ x ∈ merged.zipIdx, x ∉ kept → ∀ y ∈ kept, GoesFirst x y := by
  intro merged
  have hl : merged.zipIdx.Pairwise (·.2 < ·.2) := by
    rw [← pairwise_map (f := Prod.snd), zipIdx_map_snd]
    exact pairwise_lt_range'
  have h := exists_kept (merged.length - cap) hl
  rw [zipIdx_map_fst] at h
  exact ⟨length_enforceSchedQueueCap cap merged, h⟩

end NexusBs.SchedQueue
