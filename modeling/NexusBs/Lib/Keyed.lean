import Mathlib.Data.List.Nodup

namespace NexusBs.Lib

variable {α κ : Type*} {key : α → κ}

/-- A map whose entries know their own keys, no two entries with one key. -/
structure Keyed (key : α → κ) where
  entries : List α
  nodup : (entries.map key).Nodup

namespace Keyed

def empty : Keyed key := ⟨[], List.nodup_nil⟩

instance : Membership α (Keyed key) := ⟨fun t a => a ∈ t.entries⟩

def retain (t : Keyed key) (p : α → Bool) : Keyed key :=
  ⟨t.entries.filter p, t.nodup.sublist (List.filter_sublist.map key)⟩

def count (t : Keyed key) (p : α → Bool) : Nat := t.entries.countP p

variable [DecidableEq κ]

def get (t : Keyed key) (k : κ) : Option α := t.entries.find? (fun a => key a = k)

def remove (t : Keyed key) (k : κ) : Keyed key := t.retain (fun a => key a ≠ k)

/-- Enter an entry under its key, in the place of the one that was there. -/
def insert (t : Keyed key) (a : α) : Keyed key where
  entries := a :: (t.remove (key a)).entries
  nodup := by
    rw [List.map_cons, List.nodup_cons]
    refine ⟨?_, (t.remove (key a)).nodup⟩
    intro h
    obtain ⟨b, hb, hk⟩ := List.mem_map.mp h
    simp [remove, retain, hk] at hb

section Lemmas

variable {t : Keyed key} {a b : α} {k : κ} {p q : α → Bool}

omit [DecidableEq κ] in
@[simp] theorem not_mem_empty : a ∉ (empty : Keyed key) := List.not_mem_nil

omit [DecidableEq κ] in
@[simp] theorem mem_retain : b ∈ t.retain p ↔ b ∈ t ∧ p b = true := List.mem_filter

@[simp] theorem mem_remove : b ∈ t.remove k ↔ b ∈ t ∧ key b ≠ k := by
  simp [remove]

@[simp] theorem mem_insert : b ∈ t.insert a ↔ b = a ∨ b ∈ t ∧ key b ≠ key a := by
  rw [← mem_remove]
  exact List.mem_cons

omit [DecidableEq κ] in
/-- Two entries of one key are one entry. -/
theorem eq_of_key (ha : a ∈ t) (hb : b ∈ t) (h : key a = key b) : a = b :=
  List.inj_on_of_nodup_map t.nodup ha hb h

theorem get_eq_some : t.get k = some a ↔ a ∈ t ∧ key a = k := by
  constructor
  · intro h
    exact ⟨List.mem_of_find?_eq_some h, by simpa using List.find?_some h⟩
  · rintro ⟨ha, rfl⟩
    cases h : t.get (key a) with
    | none =>
      have hn := List.find?_eq_none.mp h a ha
      simp at hn
    | some b =>
      have hk : key b = key a := by simpa using List.find?_some h
      rw [eq_of_key (List.mem_of_find?_eq_some h) ha hk]

theorem get_eq_none : t.get k = none ↔ ∀ a ∈ t, key a ≠ k := by
  simp only [get, List.find?_eq_none, decide_eq_true_eq]
  exact Iff.rfl

omit [DecidableEq κ] in
theorem count_pos : 0 < t.count p ↔ ∃ a ∈ t, p a = true := List.countP_pos_iff

omit [DecidableEq κ] in
theorem count_retain : (t.retain p).count q = t.count (fun a => q a && p a) := by
  simp [count, retain, List.countP_filter]

omit [DecidableEq κ] in
/-- What is kept and what is dropped make up what there was. -/
theorem count_retain_add (t : Keyed key) (p q : α → Bool) :
    (t.retain p).count q + t.count (fun a => q a && !p a) = t.count q := by
  rw [count_retain]
  obtain ⟨l, hl⟩ := t
  simp only [count]
  clear hl
  induction l with
  | nil => rfl
  | cons a =>
    simp only [List.countP_cons]
    cases q a <;> cases p a <;> simp <;> omega

omit [DecidableEq κ] in
theorem count_retain_of_kept (h : ∀ a, q a = true → p a = true) :
    (t.retain p).count q = t.count q := by
  rw [count_retain]
  congr 1
  funext a
  cases hq : q a with
  | false => rfl
  | true => rw [h a hq, Bool.and_self]

omit [DecidableEq κ] in
/-- Where everything dropped is counted, the count sinks by what the map lost. -/
theorem count_retain_of_dropped (h : ∀ a, p a = false → q a = true) :
    (t.retain p).count q + (t.entries.length - (t.retain p).entries.length) = t.count q := by
  rw [← count_retain_add t p q]
  have hall := count_retain_add t p (fun _ => true)
  have hlen : ∀ s : Keyed key, s.count (fun _ => true) = s.entries.length := fun s => by
    simp [count]
  have hdrop : (fun a => q a && !p a) = fun a => true && !p a := by
    funext a
    cases hp : p a with
    | true => simp
    | false => simp [h a hp]
  rw [hdrop, ← hlen t, ← hlen (t.retain p)]
  omega

theorem remove_of_get_none (h : t.get k = none) : t.remove k = t := by
  have hk := get_eq_none.mp h
  obtain ⟨l, hl⟩ := t
  simp only [remove, retain, Keyed.mk.injEq, List.filter_eq_self]
  intro a ha
  simpa using hk a ha

theorem count_insert (t : Keyed key) (a : α) :
    (t.insert a).count p = (t.remove (key a)).count p + if p a then 1 else 0 :=
  List.countP_cons

/-- The entry of a key counts for one, where it counts. -/
theorem count_remove (h : t.get k = some a) :
    (t.remove k).count p + (if p a then 1 else 0) = t.count p := by
  obtain ⟨ha, hk⟩ := get_eq_some.mp h
  have hsplit := count_retain_add t (fun b => decide (key b ≠ k)) p
  have hone : t.count (fun b => p b && !decide (key b ≠ k)) = if p a then 1 else 0 := by
    have heq : ∀ b ∈ t.entries, (p b && !decide (key b ≠ k)) = (p a && decide (key b = k)) := by
      intro b hb
      by_cases hbk : key b = k
      · have hba : b = a := eq_of_key hb ha (hbk.trans hk.symm)
        simp [hba, hk]
      · simp [hbk]
    have hc : t.entries.countP (fun b => decide (key b = k)) = 1 := by
      have hm : (t.entries.map key).count k = 1 :=
        List.count_eq_one_of_mem t.nodup (List.mem_map.mpr ⟨a, ha, hk⟩)
      rw [List.count, List.countP_map] at hm
      simpa [Function.comp_def, beq_eq_decide] using hm
    rw [count, List.countP_congr (fun b hb => by rw [heq b hb])]
    cases hpa : p a with
    | false => simp
    | true => simpa using hc
  rw [hone] at hsplit
  exact hsplit

end Lemmas

end Keyed

end NexusBs.Lib
