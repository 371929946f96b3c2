import NexusBs.Llc.Stored
import NexusBs.Llc.Run

namespace NexusBs

/-- The PDU kept with a transfer carries a TL-SDU that belongs to its request. -/
def ExpectedInAck.LoadedBy (belongs : Ticket → List Bool → Prop) (ack : ExpectedInAck) : Prop :=
  ∃ sdu, belongs ack.ticket sdu ∧ ack.Carries sdu

namespace Llc
open Lib ExpectedInAck BitBuffer

structure BasicPart where
  outboundMessages : List ExpectedInAck
  scheduledOutAcks : List ScheduledOutAck
  linkSendSeq : BasicLinkKey → Nat
  inboundReceiveSeq : BasicLinkKey → Option ReceiveSeqState

def basic (s : Llc) : BasicPart :=
  ⟨s.outboundMessages, s.scheduledOutAcks, s.linkSendSeq, s.inboundReceiveSeq⟩

/-- Every waiting transfer is loaded, and every waiting acknowledgement has a one-bit number. -/
structure Loaded (belongs : Ticket → List Bool → Prop) (messages : List ExpectedInAck)
    (acks : List ScheduledOutAck) : Prop where
  transfers : ∀ ack ∈ messages, ack.LoadedBy belongs
  numbers : ∀ ack ∈ acks, ack.nr < 2

variable {belongs : Ticket → List Bool → Prop} {messages messages' : List ExpectedInAck}
  {acks acks' : List ScheduledOutAck} {s s' : Llc}

variable {ack : ExpectedInAck} {t : TdmaTime}

theorem loadedBy_fold (ha : ack.LoadedBy belongs) (hn : ∀ a ∈ acks, a.nr < 2)
    (h : foldWaitingAckIntoMacReadyBlData mc p acks ack = some (p', acks', ack')) :
    ack'.LoadedBy belongs ∧ (∀ a ∈ acks', a.nr < 2) := by
  obtain ⟨sdu, hb, hc⟩ := ha
  obtain ⟨hasFcs, nr, hc⟩ := hc.stores
  obtain ⟨q, rest, pdu, nr', heq, hc', hsub, _⟩ := foldWaitingAckIntoMacReadyBlData_eq mc p hc hn
  rw [heq] at h
  cases h
  exact ⟨⟨sdu, hb, hc'.carries⟩, fun a ha => hn a (hsub ha)⟩

theorem takeExpectedAckForKey_mem {key : BasicLinkKey}
    (h : takeExpectedAckForKey messages key = some (ack, messages')) :
    ack ∈ messages ∧ ∀ e ∈ messages', e ∈ messages := by
  obtain ⟨a, ha, heq⟩ := Option.map_eq_some_iff.mp h
  cases heq
  exact ⟨List.mem_of_find?_eq_some ha, fun e he => List.mem_of_mem_eraseP he⟩

theorem loadedBy_rewriteRetransmissionNs {ack' : ExpectedInAck} {ns : Nat} (hs : ns < 2)
    (ha : ack.LoadedBy belongs) (h : rewriteRetransmissionNs ack ns = some ack') :
    ack'.LoadedBy belongs := by
  obtain ⟨sdu, hb, hc⟩ := ha
  obtain ⟨hasFcs, nr, hc⟩ := hc.stores
  obtain ⟨pdu, he, hc'⟩ := rewriteRetransmissionNs_eq hc hs
  rw [he] at h
  cases h
  exact ⟨sdu, hb, hc'.carries⟩

/-- The state of the basic links is sound: what waits is loaded, and sequence numbers have one
bit. -/
structure BasicSound (belongs : Ticket → List Bool → Prop) (b : BasicPart) : Prop
    extends Loaded belongs b.outboundMessages b.scheduledOutAcks where
  sendSeq : ∀ key, b.linkSendSeq key < 2

theorem carries_newExpectedInAck {prim : TlaTlDataReqBl} {ticket : Ticket} {ns : Nat}
    {b c : BitBuffer} (hs : ns < 2)
    (hb : BlData.toBitbuf ⟨prim.fcsFlag, ns⟩ (newAutoexpand 32) = some b)
    (hc : appendTlSduAndOptionalFcs b prim.tlSdu prim.fcsFlag = some c) :
    (newExpectedInAck prim ticket ns c t).Carries prim.tlSdu.rest := by
  obtain ⟨tail, ht⟩ := toBitbuf_bl prim.fcsFlag none nofun hs 32
  cases ht.symm.trans hb
  have hf : prim.fcsFlag = true → prim.tlSdu.rest ≠ [] := by
    intro hfcs hempty
    rw [hfcs] at hc
    rw [appendTlSduAndOptionalFcs_none hempty] at hc
    cases hc
  obtain ⟨tail', ht'⟩ := appendTlSduAndOptionalFcs_eq (H := [])
    (D := fieldBits (blFields prim.fcsFlag none ns)) (T := tail) hf
  rw [ht'] at hc
  cases hc
  exact ⟨hs, prim.fcsFlag, none, (fun _ h => by cases h), hf, rfl, rfl⟩

theorem blHeaderOf_lt {pduType : LlcPduType} {pdu rest : BitBuffer} {hasFcs : Bool}
    {ns nr : Option Nat} (h : blHeaderOf pduType pdu = some (hasFcs, ns, nr, rest)) :
    ∀ n ∈ ns, n < 2 := by
  intro n hn
  unfold blHeaderOf at h
  repeat' split at h
  all_goals cases h
  all_goals cases hn
  all_goals rename_i hp
  all_goals first
    | exact (BlAdata.fromBitbuf_lt hp).2
    | exact BlData.fromBitbuf_lt hp

/-- The TL-SDU that an operation asks to be sent on acknowledged service. -/
def Op.tlSdu (op : Op) : Option (List Bool) := op.request.map (fun prim => prim.tlSdu.rest)

theorem basicSound_new (mainCarrier : Nat) : BasicSound belongs (new mainCarrier).basic :=
  ⟨⟨(fun e he => by cases he), (fun a ha => by cases ha)⟩, fun _ => Nat.zero_lt_two⟩

end Llc
end NexusBs
