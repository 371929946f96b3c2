import NexusBs.Core.BitBuffer

namespace NexusBs
open Lib BitBuffer List

abbrev PduParser (α : Type) := StateT BitBuffer (Except PduParseErr) α

namespace PduParser

variable {α β : Type}

def field (n : Nat) (name : String) : PduParser Nat := fun b => b.readField n name

def fail (e : PduParseErr) : PduParser α := fun _ => .error e

/-- An element that is there only behind a set flag. -/
def flagged (flag : String) (p : PduParser α) : PduParser (Option α) := do
  let f ← field 1 flag
  if f = 1 then some <$> p else pure none

/-- The parser turns the given bits into `v`, whatever surrounds them. -/
def Decodes (p : PduParser α) (bits : List Bool) (v : α) : Prop :=
  ∀ H D r T a, p ⟨H, D, bits ++ r, T, a⟩ = .ok (v, ⟨H, D ++ bits, r, T, a⟩)

theorem Decodes.pure (v : α) : Decodes (Pure.pure v) [] v := by
  intro H D r T a
  rw [nil_append, append_nil]
  rfl

variable {p : PduParser α}

/-- Parsers in sequence read what is written in sequence. -/
theorem Decodes.bind (hp : Decodes p xs v) (hq : Decodes (q v) ys w) :
    Decodes (p >>= q) (xs ++ ys) w := by
  intro H D r T a
  simp only [Bind.bind, StateT.bind, append_assoc]
  rw [hp H D (ys ++ r) T a]
  simp only [Except.bind]
  rw [hq H (D ++ xs) r T a, append_assoc]

theorem Decodes.map (f : α → β) (hp : Decodes p xs v) : Decodes (f <$> p) xs (f v) := by
  intro H D r T a
  simp only [Functor.map, StateT.map, Bind.bind]
  rw [hp H D r T a]
  rfl

theorem Decodes.field (name : String) (hn : n ≤ 64) (hv : v < 2 ^ n) :
    Decodes (field n name) (toBits n v) v :=
  fun _ _ _ _ _ => readField_toBits name hn hv

/-- A number in a field of its own, and what follows. -/
theorem Decodes.next (hn : n ≤ 64) (hv : v < 2 ^ n) (hq : Decodes (q v) ys w) :
    Decodes (PduParser.field n name >>= q) (toBits n v ++ ys) w :=
  Decodes.bind (Decodes.field name hn hv) hq

theorem Decodes.flagged_some (flag : String) (hp : Decodes p xs v) :
    Decodes (flagged flag p) (toBits 1 1 ++ xs) (some v) :=
  Decodes.bind (Decodes.field flag (by decide) (by decide)) (Decodes.map some hp)

theorem Decodes.flagged_none (flag : String) : Decodes (flagged flag p) (toBits 1 0) none := by
  have := Decodes.bind (q := fun f => if f = 1 then some <$> p else Pure.pure none)
    (Decodes.field flag (n := 1) (v := 0) (by decide) (by decide)) (Decodes.pure (none : Option α))
  rwa [append_nil] at this

/-- A parser never moves anything but `pos`, and never past `end`. -/
def Advances (p : PduParser α) : Prop :=
  ∀ b v b', p b = .ok (v, b') → ∃ k, k ≤ b.rest.length ∧ b' = b.advance k

namespace Advances

theorem pure (v : α) : Advances (Pure.pure v) := by
  intro b w b' h
  cases h
  exact ⟨0, Nat.zero_le _, b.advance_zero.symm⟩

theorem fail (e : PduParseErr) : Advances (fail e : PduParser α) := fun _ _ _ h => nomatch h

theorem field (n : Nat) (name : String) : Advances (field n name) := by
  intro b v b' h
  obtain ⟨hn, -, rfl⟩ := readField_ok h
  exact ⟨n, hn, rfl⟩

end Advances

/-- A sequence that succeeds has gone through both parsers. -/
theorem bind_ok (h : (p >>= q) b = .ok (w, b')) :
    ∃ v c, p b = .ok (v, c) ∧ q v c = .ok (w, b') := by
  simp only [Bind.bind, StateT.bind] at h
  cases hp : p b with
  | error => simp [hp, Except.bind] at h
  | ok r => exact ⟨r.1, r.2, rfl, by simpa [hp, Except.bind] using h⟩

/-- A parser that starts with a field was given the bits of that field. -/
theorem field_bind_ok (h : (field n name >>= q) b = .ok (w, b')) :
    n ≤ b.rest.length ∧ q (ofBits (b.rest.take n)) (b.advance n) = .ok (w, b') := by
  obtain ⟨v, c, hf, hq⟩ := bind_ok h
  obtain ⟨hn, rfl, rfl⟩ := readField_ok hf
  exact ⟨hn, hq⟩

/-- A check that did not fail was passed. -/
theorem ite_fail_ok [Decidable c] (h : (if c then fail e else p) b = .ok (w, b')) :
    ¬c ∧ p b = .ok (w, b') := by
  split at h
  · cases h
  · exact ⟨‹_›, h⟩

theorem map_ok (h : (f <$> p) b = .ok (w, b')) : ∃ v, p b = .ok (v, b') ∧ w = f v := by
  simp only [Functor.map, StateT.map, Bind.bind] at h
  cases hp : p b with
  | error => simp [hp, Except.bind] at h
  | ok r =>
    simp only [hp, Except.bind, Pure.pure, Except.pure, Except.ok.injEq, Prod.mk.injEq] at h
    exact ⟨r.1, by rw [← h.2], h.1.symm⟩

/-- Parsers that only move forward do so in sequence. -/
theorem Advances.bind (hp : Advances p) (hq : ∀ v, Advances (q v)) : Advances (p >>= q) := by
  intro b w b' h
  obtain ⟨v, c, hv, hw⟩ := bind_ok h
  obtain ⟨j, hj, rfl⟩ := hp b v c hv
  obtain ⟨k, hk, rfl⟩ := hq v _ w b' hw
  rw [advance_rest, length_drop] at hk
  exact ⟨j + k, by omega, advance_advance b j k⟩

theorem Advances.map (f : α → β) (hp : Advances p) : Advances (f <$> p) := by
  intro b w b' h
  obtain ⟨v, hv, -⟩ := map_ok h
  exact hp b v b' hv

theorem Advances.flagged (flag : String) (hp : Advances p) : Advances (flagged flag p) := by
  refine (Advances.field 1 flag).bind (fun f => ?_)
  split
  · exact hp.map some
  · exact .pure none

end PduParser

/-- The writer appends exactly the given bits wherever there is room for them. -/
def Writes (w : BitBuffer → Option BitBuffer) (bits : List Bool) : Prop :=
  ∀ b : BitBuffer, bits.length ≤ b.rest.length →
    w b = some { b with done := b.done ++ bits, rest := b.rest.drop bits.length }

namespace Writes
open BitBuffer

theorem nothing : Writes some [] := by
  intro b _
  simp

theorem andThen (hv : Writes v xs) (hw : Writes w ys) :
    Writes (fun b => (v b).bind w) (xs ++ ys) := by
  intro b hb
  rw [length_append] at hb
  beta_reduce
  rw [hv b (by omega), Option.bind_some, hw _ (by simp only [length_drop]; omega)]
  simp [drop_drop]

theorem fields (fs : List (Nat × Nat)) (hf : FieldsFit fs) :
    Writes (writeFields fs) (fieldBits fs) :=
  fun _ hb => writeFields_eq hf hb

theorem zeroes : Writes (fun b => b.writeZeroes n) (List.replicate n false) := by
  intro b hb
  rw [length_replicate] at hb
  beta_reduce
  rw [writeZeroes_eq hb, length_replicate]

theorem bit (v : Nat) (hv : v < 2) : Writes (fun b => b.writeBit v) (toBits 1 v) := by
  intro b hb
  beta_reduce
  rw [writeBit, if_pos (by omega), put_eq hb]

end Writes

/-- The writer appends exactly the given bits at the end of an expanding buffer. -/
def Appends (w : BitBuffer → Option BitBuffer) (bits : List Bool) : Prop :=
  ∀ b : BitBuffer, b.autoexpand = true → b.rest = [] →
    ∃ tail, w b = some { b with done := b.done ++ bits, rest := [], tail := tail }

namespace Appends
open BitBuffer

theorem nothing : Appends some [] := by
  intro b _ hr
  obtain ⟨H, D, R, T, a⟩ := b
  subst hr
  exact ⟨T, by simp⟩

theorem andThen (hv : Appends v xs) (hw : Appends w ys) :
    Appends (fun b => (v b).bind w) (xs ++ ys) := by
  intro b ha hr
  obtain ⟨t, ht⟩ := hv b ha hr
  obtain ⟨t', ht'⟩ := hw { b with done := b.done ++ xs, rest := [], tail := t } ha rfl
  exact ⟨t', by simp [ht, ht']⟩

theorem bits (hn : n ≤ 64) (hv : v < 2 ^ n) : Appends (fun b => b.writeBits v n) (toBits n v) := by
  intro b ha hr
  obtain ⟨t, -, ht⟩ := put_room (b := b) (toBits n v) (.inr ⟨ha, hr⟩)
  exact ⟨t, by simp [writeBits, hn, hv, ht, hr]⟩

theorem fields (fs : List (Nat × Nat)) (hf : FieldsFit fs) :
    Appends (writeFields fs) (fieldBits fs) := by
  induction fs with
  | nil => exact nothing
  | cons f fs ih =>
    obtain ⟨v, n⟩ := f
    obtain ⟨hn, hv⟩ := hf (v, n) mem_cons_self
    exact andThen (bits hn hv) (ih (fun g hg => hf g (mem_cons_of_mem _ hg)))

end Appends
end NexusBs
