import Mathlib.Data.List.Nodup
import Mathlib.Logic.Function.Basic

namespace NexusBs.Lib
open Function List

variable {ι κ ε : Type*} {key : ι → κ} {entry : ι → ε} {table : κ → Option ε}
  {requests : List ι}

/-- A table keyed by handles knows exactly the open requests, each under a handle of its own. -/
structure Correlates (key : ι → κ) (entry : ι → ε) (table : κ → Option ε) (requests : List ι) :
    Prop where
  distinct : (requests.map key).Nodup
  known : ∀ i ∈ requests, table (key i) = some (entry i)
  only : ∀ k, table k ≠ none → k ∈ requests.map key

namespace Correlates

theorem empty : Correlates key entry (fun _ => none) [] :=
  ⟨nodup_nil, fun _ h => (by cases h), fun _ h => absurd rfl h⟩

/-- What the table says about a handle, it says about one open request. -/
theorem of_some (h : Correlates key entry table requests) (hk : table k = some e) :
    ∃ i ∈ requests, key i = k ∧ entry i = e := by
  obtain ⟨i, hi, rfl⟩ := List.mem_map.mp (h.only k (by rw [hk]; exact Option.some_ne_none e))
  refine ⟨i, hi, rfl, ?_⟩
  rw [h.known i hi] at hk
  exact Option.some.inj hk

variable [DecidableEq κ]

theorem track (h : Correlates key entry table requests) (hfree : table (key i) = none) :
    Correlates key entry (update table (key i) (some (entry i))) (requests ++ [i]) := by
  have hnew : key i ∉ requests.map key := by
    intro hmem
    obtain ⟨j, hj, heq⟩ := List.mem_map.mp hmem
    rw [← heq, h.known j hj] at hfree
    cases hfree
  refine ⟨?_, fun j hj => ?_, fun k hk => ?_⟩
  · rw [map_append, map_singleton]
    exact nodup_append'.mpr ⟨h.distinct, nodup_singleton _,
      disjoint_singleton.mpr hnew⟩
  · rcases mem_append.mp hj with hj | hj
    · have hne : key j ≠ key i := fun heq => hnew (heq ▸ List.mem_map_of_mem hj)
      rw [update_of_ne hne]
      exact h.known j hj
    · rw [mem_singleton.mp hj, update_self]
  · rw [map_append, mem_append]
    by_cases hki : k = key i
    · exact .inr (by simp [hki])
    · rw [update_of_ne hki] at hk
      exact .inl (h.only k hk)

theorem close (h : Correlates key entry table requests) (hi : requests[n]? = some i) :
    Correlates key entry (update table (key i) none) (requests.eraseIdx n) := by
  have hmem : ∀ j ∈ requests.eraseIdx n, key j ≠ key i := by
    intro j hj heq
    obtain ⟨m, hmn, hm⟩ := List.mem_eraseIdx_iff_getElem?.mp hj
    have hmk : (requests.map key)[m]? = some (key i) := by
      rw [List.getElem?_map, hm, Option.map_some, heq]
    have hnk : (requests.map key)[n]? = some (key i) := by rw [List.getElem?_map, hi, Option.map_some]
    obtain ⟨hlt, _⟩ := List.getElem?_eq_some_iff.mp hmk
    exact hmn ((List.getElem?_inj hlt h.distinct).mp (hmk.trans hnk.symm))
  refine ⟨?_, fun j hj => ?_, fun k hk => ?_⟩
  · exact h.distinct.sublist ((eraseIdx_sublist requests n).map key)
  · rw [update_of_ne (hmem j hj)]
    exact h.known j (mem_of_mem_eraseIdx hj)
  · have hki : k ≠ key i := by
      rintro rfl
      exact hk (update_self ..)
    rw [update_of_ne hki] at hk
    obtain ⟨j, hj, rfl⟩ := List.mem_map.mp (h.only k hk)
    obtain ⟨m, hm⟩ := List.getElem?_of_mem hj
    refine List.mem_map_of_mem (List.mem_eraseIdx_iff_getElem?.mpr ⟨m, ?_, hm⟩)
    rintro rfl
    rw [hi] at hm
    exact hki (congrArg key (Option.some.inj hm.symm))

end Correlates

end NexusBs.Lib
