import NexusBs.Llc.BasicLink

namespace NexusBs
open Lib BitBuffer PduParser List

/-! What basic link PDUs look like on the wire -/

section

variable (hasFcs : Bool)

def withFcs (sdu : List Bool) : List Bool :=
  sdu ++ if hasFcs then toBits 32 (Fcs.ofList sdu).toNat else []

@[simp] theorem length_withFcs (sdu : List Bool) :
    (withFcs hasFcs sdu).length = sdu.length + if hasFcs then 32 else 0 := by
  cases hasFcs <;> simp [withFcs]

/-- Header fields of BL-DATA, and of BL-ADATA where an acknowledgement is embedded. -/
def blFields (nr : Option Nat) (ns : Nat) : List (Nat × Nat) :=
  match nr with
  | none => [(0, 1), (hasFcs.toNat, 1), (1, 2), (ns, 1)]
  | some nr => [(0, 1), (hasFcs.toNat, 1), (0, 2), (nr, 1), (ns, 1)]

def blBits (nr : Option Nat) (ns : Nat) (sdu : List Bool) : List Bool :=
  fieldBits (blFields hasFcs nr ns) ++ withFcs hasFcs sdu

theorem blFields_fit (hr : ∀ n ∈ nr, n < 2) (hs : ns < 2) :
    FieldsFit (blFields hasFcs nr ns) := by
  have hf : hasFcs.toNat < 2 := by cases hasFcs <;> decide
  cases nr with
  | none => simp [FieldsFit, blFields, hf, hs]
  | some nr => simp [FieldsFit, blFields, hf, hs, hr nr rfl]

theorem Decodes.expectValue (name : String) (hn : n ≤ 64) (hv : v < 2 ^ n) :
    Decodes (expectValue n name v) (toBits n v) () := by
  have hrest : Decodes (if v = v then Pure.pure () else fail (.invalidValue name v)) [] () := by
    rw [if_pos rfl]
    exact Decodes.pure ()
  have := Decodes.bind (q := fun w => if w = v then Pure.pure () else fail (.invalidValue name w))
    (Decodes.field name hn hv) hrest
  rwa [append_nil] at this

theorem decodes_blHeader (hk : k < 4) :
    Decodes (blHeader k) (toBits 1 0 ++ (toBits 1 hasFcs.toNat ++ toBits 2 k)) hasFcs := by
  have hf : hasFcs.toNat < 2 := by cases hasFcs <;> decide
  have hb : (hasFcs.toNat != 0) = hasFcs := by cases hasFcs <;> rfl
  have hlast : Decodes (expectValue 2 "bl_pdu_type" k >>= fun _ =>
      (Pure.pure (hasFcs.toNat != 0) : PduParser Bool)) (toBits 2 k ++ []) hasFcs :=
    (Decodes.expectValue _ (by decide) (by simpa using hk)).bind (hb.symm ▸ Decodes.pure hasFcs)
  rw [append_nil] at hlast
  exact (Decodes.expectValue _ (by decide) (by decide)).bind
    ((Decodes.field _ (by decide) (by simpa using hf)).bind hlast)

theorem decodes_blData (hs : ns < 2) :
    Decodes BlData.fromBitbuf (fieldBits (blFields hasFcs none ns)) ⟨hasFcs, ns⟩ := by
  have := (decodes_blHeader hasFcs (k := 1) (by decide)).bind
    (q := fun f => (do let ns ← field 1 "ns"; pure ⟨f, ns⟩ : PduParser BlData))
    ((Decodes.field "ns" (n := 1) (by decide) (by simpa using hs)).bind
      (Decodes.pure (⟨hasFcs, ns⟩ : BlData)))
  rw [show fieldBits (blFields hasFcs none ns) =
      (toBits 1 0 ++ (toBits 1 hasFcs.toNat ++ toBits 2 1)) ++
    (toBits 1 ns ++ []) by simp [blFields]]
  exact this

theorem decodes_blAdata (hr : nr < 2) (hs : ns < 2) :
    Decodes BlAdata.fromBitbuf (fieldBits (blFields hasFcs (some nr) ns)) ⟨hasFcs, nr, ns⟩ := by
  have := (decodes_blHeader hasFcs (k := 0) (by decide)).bind
    (q := fun f => (do
      let nr ← field 1 "nr"
      let ns ← field 1 "ns"
      pure ⟨f, nr, ns⟩ : PduParser BlAdata))
    ((Decodes.field "nr" (n := 1) (by decide) (by simpa using hr)).bind
      ((Decodes.field "ns" (n := 1) (by decide) (by simpa using hs)).bind
        (Decodes.pure (⟨hasFcs, nr, ns⟩ : BlAdata))))
  rw [show fieldBits (blFields hasFcs (some nr) ns) =
    (toBits 1 0 ++ (toBits 1 hasFcs.toNat ++ toBits 2 0)) ++ (toBits 1 nr ++ (toBits 1 ns ++ [])) by
    simp [blFields]]
  exact this

def blTypeOf (nr : Option Nat) : LlcPduType :=
  match nr, hasFcs with
  | none, false => .blData
  | none, true => .blDataFcs
  | some _, false => .blAdata
  | some _, true => .blAdataFcs

def blTypeCode (nr : Option Nat) : Nat :=
  match nr, hasFcs with
  | none, false => 1
  | none, true => 5
  | some _, false => 0
  | some _, true => 4

theorem blFields_type :
    ∃ tail, fieldBits (blFields hasFcs nr ns) = toBits 4 (blTypeCode hasFcs nr) ++ tail := by
  cases nr with
  | none => cases hasFcs <;> exact ⟨toBits 1 ns ++ [], rfl⟩
  | some nr =>
    refine ⟨toBits 1 nr ++ (toBits 1 ns ++ []), ?_⟩
    rw [show toBits 4 (blTypeCode hasFcs (some nr)) =
      toBits 1 0 ++ (toBits 1 hasFcs.toNat ++ toBits 2 0) by
        cases hasFcs <;> simp only [blTypeCode] <;> decide]
    simp [blFields]

end

theorem llcPduTypeOf_bl {b : BitBuffer} {hasFcs : Bool} {nr : Option Nat} {ns : Nat}
    {rest : List Bool} (h : b.rest = fieldBits (blFields hasFcs nr ns) ++ rest) :
    llcPduTypeOf b = some (blTypeOf hasFcs nr) := by
  obtain ⟨H, D, R, T, a⟩ := b
  change R = _ at h
  obtain ⟨tail, htail⟩ := blFields_type hasFcs
  have hcode : blTypeCode hasFcs nr < 2 ^ 4 := by
    cases nr <;> cases hasFcs <;> simp [blTypeCode]
  rw [h, htail, append_assoc, llcPduTypeOf, peekBits_toBits (by decide) hcode]
  cases nr <;> cases hasFcs <;> rfl

namespace Llc

theorem appendFcs_eq (hs : sdu ≠ []) :
    ∃ tail, appendFcs ⟨H, D ++ sdu, [], T, true⟩ D.length true =
      some ⟨H, D ++ withFcs true sdu, [], tail, true⟩ := by
  have hpos := length_pos_iff.mpr hs
  have hcompute : Fcs.computeFcs ⟨H, D ++ sdu, [], T, true⟩ D.length (D ++ sdu).length =
      some (Fcs.ofList sdu) := by
    simp only [Fcs.computeFcs, len, window, append_nil, length_append, length_nil,
      Nat.add_zero]
    rw [if_pos (by omega), Nat.add_sub_cancel_left, drop_left, take_length]
  obtain ⟨tail, htail⟩ := Appends.bits (n := 32) (by decide) (Fcs.ofList sdu).isLt
    ⟨H, D ++ sdu, [], T, true⟩ rfl rfl
  refine ⟨tail, ?_⟩
  rw [appendFcs, if_pos rfl, show (⟨H, D ++ sdu, [], T, true⟩ : BitBuffer).len = (D ++ sdu).length by
    simp [len], hcompute]
  simpa [withFcs] using htail

theorem appendTlSduAndOptionalFcs_bind (tlSdu : BitBuffer) (hasFcs : Bool) :
    ∃ tail, appendTlSduAndOptionalFcs ⟨H, D, [], T, true⟩ tlSdu hasFcs =
      (appendFcs ⟨H, D ++ tlSdu.rest, [], tail, true⟩ D.length hasFcs).bind (fun b => b.seek 0) := by
  obtain ⟨t, ht⟩ := copyBits_expand ⟨H, D, [], T, true⟩ tlSdu tlSdu.lenRemaining rfl rfl (Nat.le_refl _)
  rw [show tlSdu.rest.take tlSdu.lenRemaining = tlSdu.rest from take_length] at ht
  refine ⟨t, ?_⟩
  rw [appendTlSduAndOptionalFcs, ht]
  rfl

theorem appendTlSduAndOptionalFcs_eq (hs : hasFcs = true → tlSdu.rest ≠ []) :
    ∃ tail, appendTlSduAndOptionalFcs ⟨H, D, [], T, true⟩ tlSdu hasFcs =
      some ⟨H, [], D ++ withFcs hasFcs tlSdu.rest, tail, true⟩ := by
  obtain ⟨t, ht⟩ := appendTlSduAndOptionalFcs_bind (H := H) (D := D) (T := T) tlSdu hasFcs
  cases hasFcs with
  | false =>
    refine ⟨t, ?_⟩
    rw [ht]
    simp [appendFcs, seek, window, withFcs]
  | true =>
    obtain ⟨t', ht'⟩ := appendFcs_eq (H := H) (D := D) (T := t) (hs rfl)
    refine ⟨t', ?_⟩
    rw [ht, ht']
    simp [seek, window]

/-- A checksum over nothing is the one way to fail. -/
theorem appendTlSduAndOptionalFcs_none (hs : tlSdu.rest = []) :
    appendTlSduAndOptionalFcs ⟨H, D, [], T, true⟩ tlSdu true = none := by
  obtain ⟨t, ht⟩ := appendTlSduAndOptionalFcs_bind (H := H) (D := D) (T := T) tlSdu true
  rw [ht]
  simp [appendFcs, Fcs.computeFcs, hs, len]

end Llc
end NexusBs
