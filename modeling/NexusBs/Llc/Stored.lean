import NexusBs.Llc.Wire

namespace NexusBs
open Lib BitBuffer PduParser Option

/-- The PDU kept with a transfer holds its number, maybe an embedded acknowledgement, and the
TL-SDU with its checksum. -/
def ExpectedInAck.Carries (ack : ExpectedInAck) (sdu : List Bool) : Prop :=
  ack.ns < 2 ∧ ∃ hasFcs nr, (∀ n ∈ nr, n < 2) ∧ (hasFcs = true → sdu ≠ []) ∧
    ack.retransmissionBuf.pdu.done = [] ∧
      ack.retransmissionBuf.pdu.rest = blBits hasFcs nr ack.ns sdu

/-- The same, with the layout of the PDU. -/
structure ExpectedInAck.Stores (ack : ExpectedInAck) (hasFcs : Bool) (nr : Option Nat)
    (sdu : List Bool) : Prop where
  nsBit : ack.ns < 2
  nrBit : ∀ n ∈ nr, n < 2
  checked : hasFcs = true → sdu ≠ []
  start : ack.retransmissionBuf.pdu.done = []
  bits : ack.retransmissionBuf.pdu.rest = blBits hasFcs nr ack.ns sdu

variable {ack : ExpectedInAck}

theorem ExpectedInAck.Stores.carries (h : ack.Stores hasFcs nr sdu) : ack.Carries sdu :=
  ⟨h.nsBit, hasFcs, nr, h.nrBit, h.checked, h.start, h.bits⟩

theorem ExpectedInAck.Carries.stores (h : ack.Carries sdu) :
    ∃ hasFcs nr, ack.Stores hasFcs nr sdu := by
  obtain ⟨hs, hasFcs, nr, hr, hf, hd, hp⟩ := h
  exact ⟨hasFcs, nr, hs, hr, hf, hd, hp⟩

namespace Llc

theorem rebuildHeader_eq {pdu : BitBuffer} {hasFcs : Bool} {nr : Option Nat} {ns : Nat}
    {rest : List Bool} (hr : ∀ n ∈ nr, n < 2) (hs : ns < 2)
    (h : pdu.rest = fieldBits (blFields hasFcs nr ns) ++ rest) :
    rebuildHeader pdu = some (hasFcs, nr, ⟨pdu.head, pdu.done ++ fieldBits (blFields hasFcs nr ns),
      rest, pdu.tail, pdu.autoexpand⟩) := by
  have htype := llcPduTypeOf_bl h
  obtain ⟨H, D, R, T, a⟩ := pdu
  subst h
  rw [rebuildHeader, htype]
  cases nr with
  | none =>
    have hdecode := decodes_blData hasFcs hs H D rest T a
    cases hasFcs <;> simp [blTypeOf, hdecode]
  | some nr =>
    have hdecode := decodes_blAdata hasFcs (hr nr rfl) hs H D rest T a
    cases hasFcs <;> simp [blTypeOf, hdecode]

theorem stripValidatedFcs_withFcs (hasFcs : Bool) :
    ∃ tail, stripValidatedFcs ⟨H, D, withFcs hasFcs sdu, T, a⟩ hasFcs = some ⟨H, D, sdu, tail, a⟩ := by
  cases hasFcs with
  | false => exact ⟨T, by simp [stripValidatedFcs, withFcs]⟩
  | true =>
    refine ⟨toBits 32 (Fcs.ofList sdu).toNat ++ T, ?_⟩
    simp only [stripValidatedFcs, if_pos, setRawEnd, rawEnd, rawPos, rawStart, capacity,
      length_withFcs]
    rw [if_pos (by omega), show H.length + D.length + (sdu.length + 32) - 32 - (H.length + D.length) =
      sdu.length by omega]
    simp [withFcs]

theorem acknowledgedPayloadForRebuild_eq {pdu : BitBuffer} {hasFcs : Bool} {nr : Option Nat}
    {ns : Nat} {sdu : List Bool} (hr : ∀ n ∈ nr, n < 2) (hs : ns < 2)
    (h : pdu.rest = blBits hasFcs nr ns sdu) :
    ∃ tlSdu, acknowledgedPayloadForRebuild pdu = some (some ⟨hasFcs, tlSdu, nr⟩) ∧
      tlSdu.rest = sdu := by
  obtain ⟨tail, htail⟩ := stripValidatedFcs_withFcs (H := pdu.head)
    (D := pdu.done ++ fieldBits (blFields hasFcs nr ns)) (T := pdu.tail) (a := pdu.autoexpand)
    hasFcs
  refine ⟨⟨pdu.head ++ (pdu.done ++ fieldBits (blFields hasFcs nr ns)), [], sdu, tail,
    pdu.autoexpand⟩, ?_, rfl⟩
  rw [acknowledgedPayloadForRebuild, rebuildHeader_eq hr hs h]
  refine (if_neg ?_).trans ?_
  · cases hasFcs <;> simp [lenRemaining]
  · rw [htail, bind_eq_bind, bind_some, setRawStart_rawPos]
    rfl

/-! Rebuilding keeps the TL-SDU -/

/-- The header of a transfer, with or without an acknowledgement in it, in a fresh buffer. -/
theorem toBitbuf_bl (hasFcs : Bool) (nr : Option Nat) (hr : ∀ n ∈ nr, n < 2) (hs : ns < 2) (n : Nat) :
    ∃ tail, (match nr with
        | none => BlData.toBitbuf ⟨hasFcs, ns⟩ (newAutoexpand n)
        | some nr => BlAdata.toBitbuf ⟨hasFcs, nr, ns⟩ (newAutoexpand n)) =
      some ⟨[], fieldBits (blFields hasFcs nr ns), [], tail, true⟩ := by
  obtain ⟨t, ht⟩ := Appends.fields _ (blFields_fit hasFcs hr hs) (newAutoexpand n) rfl rfl
  cases nr <;> exact ⟨t, ht⟩

theorem rebuildRetransmission_eq (ack : ExpectedInAck) (nr : Option Nat) (hr : ∀ n ∈ nr, n < 2)
    (hs : ack.ns < 2) (hf : hasFcs = true → tlSdu.rest ≠ []) :
    ∃ pdu, (match nr with
        | none => rebuildRetransmissionAsBlData ack tlSdu hasFcs
        | some nr => rebuildRetransmissionAsBlAdata ack tlSdu hasFcs nr) =
          some (setRetransmissionPdu ack pdu) ∧
      (setRetransmissionPdu ack pdu).Stores hasFcs nr tlSdu.rest := by
  obtain ⟨t, ht⟩ := toBitbuf_bl hasFcs nr hr hs 32
  obtain ⟨t', ht'⟩ := appendTlSduAndOptionalFcs_eq (H := [])
    (D := fieldBits (blFields hasFcs nr ack.ns)) (T := t) hf
  refine ⟨⟨[], [], blBits hasFcs nr ack.ns tlSdu.rest, t', true⟩, ?_, hs, hr, hf, rfl, rfl⟩
  cases nr <;> simp only [rebuildRetransmissionAsBlData, rebuildRetransmissionAsBlAdata, ht,
    bind_eq_bind, bind_some, ht'] <;> rfl

theorem rewriteRetransmissionNs_eq (h : ack.Stores hasFcs nr sdu) (hs : ns < 2) :
    ∃ pdu, rewriteRetransmissionNs ack ns = some (setRetransmissionPdu { ack with ns := ns } pdu) ∧
      (setRetransmissionPdu { ack with ns := ns } pdu).Stores hasFcs nr sdu := by
  unfold rewriteRetransmissionNs
  split
  · rename_i heq
    subst heq
    exact ⟨ack.retransmissionBuf.pdu, rfl, h⟩
  obtain ⟨tlSdu, hrebuild, hsdu⟩ := acknowledgedPayloadForRebuild_eq h.nrBit h.nsBit h.bits
  subst hsdu
  rw [hrebuild]
  have hnew := rebuildRetransmission_eq { ack with ns := ns } nr h.nrBit hs h.checked
  cases nr <;> exact hnew

theorem toBitbuf_blAck (hr : nr < 2) (hasFcs : Bool) (n : Nat) :
    ∃ tail, BlAck.toBitbuf ⟨hasFcs, nr⟩ (newAutoexpand n) =
      some ⟨[], fieldBits [(0, 1), (hasFcs.toNat, 1), (3, 2), (nr, 1)], [], tail, true⟩ := by
  have hf : hasFcs.toNat < 2 := by cases hasFcs <;> decide
  exact Appends.fields _ (by simp [FieldsFit, hf, hr]) (newAutoexpand n) rfl rfl

theorem pushStandaloneBlAck_eq (p : Port) {ack : ScheduledOutAck} (h : ack.nr < 2) :
    ∃ m, pushStandaloneBlAck p ack = some (p.push m) := by
  obtain ⟨t, ht⟩ := toBitbuf_blAck h false 5
  simp only [pushStandaloneBlAck, ht, bind_eq_bind, bind_some]
  exact ⟨_, rfl⟩

theorem takeScheduledOutAck_mem {ack : ScheduledOutAck} {acks rest : List ScheduledOutAck}
    (h : takeScheduledOutAck acks p = some (ack, rest)) :
    ack ∈ acks ∧ p ack = true ∧ rest = acks.eraseP p := by
  obtain ⟨a, ha, heq⟩ := map_eq_some_iff.mp h
  cases heq
  exact ⟨List.mem_of_find?_eq_some ha, List.find?_some ha, rfl⟩

/-- A transfer that is ready for the MAC keeps its TL-SDU. An acknowledgement that waits for the
link travels in it if that fits, else on its own. -/
theorem foldWaitingAckIntoMacReadyBlData_eq (mainCarrier : Nat) (p : Port)
    (h : ack.Stores hasFcs nr sdu) (hacks : ∀ a ∈ acks, a.nr < 2) :
    ∃ p' acks' pdu nr', foldWaitingAckIntoMacReadyBlData mainCarrier p acks ack =
        some (p', acks', setRetransmissionPdu ack pdu) ∧
      (setRetransmissionPdu ack pdu).Stores hasFcs nr' sdu ∧ acks' ⊆ acks ∧
      ∀ waiting ∈ acks.find? (fun a => decide (a.key = ack.key)),
        acks' = acks.eraseP (fun a => decide (a.key = ack.key)) ∧
          (nr' = some waiting.nr ∧ p' = p ∧ 6 + (withFcs hasFcs sdu).length ≤
              schFMacResourceTmSduCapacityBits mainCarrier ack.addr ack.retransmissionBuf.chanAlloc ∨
            nr' = none ∧ pushStandaloneBlAck p waiting = some p') := by
  obtain ⟨tlSdu, hrebuild, hsdu⟩ := acknowledgedPayloadForRebuild_eq h.nrBit h.nsBit h.bits
  subst hsdu
  obtain ⟨plain, hplain, hcplain⟩ := rebuildRetransmission_eq ack none nofun h.nsBit h.checked
  dsimp only at hplain
  simp only [foldWaitingAckIntoMacReadyBlData, hrebuild, bind_eq_bind, bind_some, takeScheduledOutAck]
  cases hfind : acks.find? (fun a => decide (a.key = ack.key)) with
  | none =>
    simp only [map_none]
    split
    · rw [hplain]
      exact ⟨p, acks, plain, none, rfl, hcplain, List.Subset.refl _, by simp⟩
    · exact ⟨p, acks, ack.retransmissionBuf.pdu, nr, rfl, h, List.Subset.refl _, by simp⟩
  | some waiting =>
    have hnr : waiting.nr < 2 := hacks waiting (List.mem_of_find?_eq_some hfind)
    simp only [map_some]
    split
    · obtain ⟨m, hm⟩ := pushStandaloneBlAck_eq p hnr
      rw [hm, hplain]
      refine ⟨p.push m, _, plain, none, rfl, hcplain, List.eraseP_subset, ?_⟩
      rintro _ ⟨⟩
      exact ⟨rfl, .inr ⟨rfl, hm⟩⟩
    · rename_i hfits
      obtain ⟨pdu, he, hc⟩ := rebuildRetransmission_eq ack (some waiting.nr)
        (by rintro _ ⟨⟩; exact hnr) h.nsBit h.checked
      dsimp only at he
      rw [he]
      refine ⟨p, _, pdu, some waiting.nr, rfl, hc, List.eraseP_subset, ?_⟩
      rintro _ ⟨⟩
      refine ⟨rfl, .inl ⟨rfl, rfl, ?_⟩⟩
      simpa [blAdataExceedsSchFCapacity, blAdataLenBits, lenRemaining, Nat.add_assoc] using hfits

end Llc
end NexusBs
