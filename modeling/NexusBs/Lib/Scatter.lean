import Mathlib.Data.List.Nodup
import Mathlib.Data.List.Forall2
import Mathlib.Data.Finset.Card

namespace NexusBs.Lib
open List

variable {α : Type*}

/-- The entries at the given places, in their order; `none` where a place is outside. -/
def gather (input : List α) : List Nat → Option (List α)
  | [] => some []
  | p :: places =>
    match input[p]?, gather input places with
    | some a, some values => some (a :: values)
    | _, _ => none

/-- Entries written to their places one after the other; `none` where a place is outside. -/
def scatter (output : List α) : List (Nat × α) → Option (List α)
  | [] => some output
  | (p, a) :: writes => if p < output.length then scatter (output.set p a) writes else none

variable {input output output' values : List α} {places : List Nat} {writes : List (Nat × α)}

theorem gather_eq_some :
    gather input places = some values ↔ List.Forall₂ (fun p a => input[p]? = some a) places values := by
  induction places generalizing values with
  | nil => cases values <;> simp [gather]
  | cons p places ih =>
    cases values with
    | nil =>
      simp only [gather, List.forall₂_nil_right_iff, cons_ne_nil, iff_false]
      split <;> simp
    | cons =>
      rw [List.forall₂_cons, ← ih, gather]
      cases input[p]? <;> cases gather input places <;> simp

theorem exists_gather (input : List α) (places : List Nat) (h : ∀ p ∈ places, p < input.length) :
    ∃ values, gather input places = some values := by
  induction places with
  | nil => exact ⟨[], rfl⟩
  | cons p places ih =>
    obtain ⟨values, hv⟩ := ih (fun q hq => h q (mem_cons_of_mem p hq))
    have hp := h p mem_cons_self
    exact ⟨input[p] :: values, by simp [gather, hv, hp]⟩

theorem length_gather (h : gather input places = some values) : values.length = places.length :=
  (gather_eq_some.mp h).length_eq.symm

/-- The first places give the first entries. -/
theorem gather_take (n : Nat) (h : gather input places = some values) :
    gather input (places.take n) = some (values.take n) :=
  gather_eq_some.mpr (List.forall₂_take n (gather_eq_some.mp h))

theorem exists_scatter (output : List α) (writes : List (Nat × α))
    (h : ∀ w ∈ writes, w.1 < output.length) : ∃ output', scatter output writes = some output' := by
  induction writes generalizing output with
  | nil => exact ⟨output, rfl⟩
  | cons w writes ih =>
    obtain ⟨p, a⟩ := w
    have hp : p < output.length := h (p, a) mem_cons_self
    rw [scatter, if_pos hp]
    exact ih _ (fun w hw => by simpa using h w (mem_cons_of_mem _ hw))

section

variable (h : scatter output writes = some output')
include h

theorem length_scatter : output'.length = output.length := by
  induction writes generalizing output with
  | nil =>
    cases h
    rfl
  | cons w writes ih =>
    obtain ⟨p, a⟩ := w
    rw [scatter] at h
    split at h
    · rw [ih h, length_set]
    · cases h

/-- A place that is not written keeps its entry. -/
theorem scatter_getElem?_of_notMem (hp : p ∉ writes.map Prod.fst) : output'[p]? = output[p]? := by
  induction writes generalizing output with
  | nil =>
    cases h
    rfl
  | cons w writes ih =>
    obtain ⟨q, a⟩ := w
    rw [scatter] at h
    split at h
    · rw [map_cons, mem_cons, not_or] at hp
      rw [ih h hp.2, List.getElem?_set_ne (Ne.symm hp.1)]
    · cases h

/-- A place that is written once has what was written. -/
theorem scatter_getElem?_of_mem (hn : (writes.map Prod.fst).Nodup) (hw : (p, a) ∈ writes) :
    output'[p]? = some a := by
  induction writes generalizing output with
  | nil => cases hw
  | cons w writes ih =>
    obtain ⟨q, b⟩ := w
    rw [scatter] at h
    rw [map_cons, nodup_cons] at hn
    split at h
    · rename_i hq
      rcases mem_cons.mp hw with heq | hw
      · cases heq
        rw [scatter_getElem?_of_notMem h hn.1]
        simp [hq]
      · exact ih h hn.2 hw
    · cases h

end

theorem map_fst_zip_of_length (h : places.length = values.length) :
    (places.zip values).map Prod.fst = places :=
  map_fst_zip (Nat.le_of_eq h)

/-- What was written to places is found there. -/
theorem gather_scatter (hn : places.Nodup) (hl : places.length = values.length)
    (h : scatter output (places.zip values) = some output') :
    gather output' places = some values := by
  rw [gather_eq_some, List.forall₂_iff_zip]
  refine ⟨hl, fun hm => ?_⟩
  exact scatter_getElem?_of_mem h (by rwa [map_fst_zip_of_length hl]) hm

theorem lt_of_gather (h : gather input places = some values) (hp : p ∈ places) :
    p < input.length := by
  have hf := gather_eq_some.mp h
  obtain ⟨n, hn, rfl⟩ := getElem_of_mem hp
  exact (List.getElem?_eq_some_iff.mp (hf.get hn (by rw [← hf.length_eq]; exact hn))).1

/-- What was read from places goes to the same places of another list. -/
theorem exists_scatter_gather {β : Type*} {output : List β} (f : α → β) (hn : places.Nodup)
    (hg : gather input places = some values) (hlen : ∀ p ∈ places, p < output.length) :
    ∃ output', scatter output (places.zip (values.map f)) = some output' ∧
      ∀ i, output'[i]? = if i ∈ places then input[i]?.map f else output[i]? := by
  have hl : places.length = (values.map f).length := by rw [length_map, length_gather hg]
  have hfst := map_fst_zip_of_length hl
  obtain ⟨output', ho⟩ := exists_scatter output (places.zip (values.map f))
    (fun w hw => hlen w.1 (of_mem_zip hw).1)
  refine ⟨output', ho, fun i => ?_⟩
  split
  · rename_i hi
    obtain ⟨n, hn', hni⟩ := getElem_of_mem hi
    have hv : n < values.length := by rw [length_gather hg]; exact hn'
    have hm : (i, values[n]) ∈ places.zip values := by
      rw [mem_iff_getElem]
      exact ⟨n, by rw [length_zip]; omega, by simp [hni]⟩
    have hw : (i, f values[n]) ∈ places.zip (values.map f) := by
      rw [zip_map_right]
      exact List.mem_map.mpr ⟨(i, values[n]), hm, rfl⟩
    rw [scatter_getElem?_of_mem ho (by rwa [hfst]) hw,
      (List.forall₂_iff_zip.mp (gather_eq_some.mp hg)).2 hm, Option.map_some]
  · rename_i hi
    exact scatter_getElem?_of_notMem ho (by rwa [hfst])

/-- As many different places as there are leave none out. -/
theorem mem_of_nodup_range (hn : places.Nodup) (hlt : ∀ p ∈ places, p < n)
    (hlen : places.length = n) (hi : i < n) : i ∈ places := by
  have hsub : places.toFinset ⊆ Finset.range n := by
    intro p hp
    exact Finset.mem_range.mpr (hlt p (List.mem_toFinset.mp hp))
  have hcard : (Finset.range n).card ≤ places.toFinset.card := by
    rw [Finset.card_range, toFinset_card_of_nodup hn, hlen]
  have heq := Finset.eq_of_subset_of_card_le hsub hcard
  exact List.mem_toFinset.mp (heq ▸ Finset.mem_range.mpr hi)

theorem gather_congr (h : ∀ p ∈ places, input[p]? = input'[p]?) :
    gather input places = gather input' places := by
  induction places with
  | nil => rfl
  | cons p places ih =>
    rw [gather, gather, h p mem_cons_self, ih (fun q hq => h q (mem_cons_of_mem _ hq))]

end NexusBs.Lib
