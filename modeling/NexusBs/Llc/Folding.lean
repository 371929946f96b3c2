import NexusBs.Llc.Steps

namespace NexusBs.Llc
open Lib BitBuffer

variable {ack : ExpectedInAck}

/-- What reception makes of a basic link PDU whose checksum holds: N(R), N(S) and the TL-SDU. -/
def received (pdu : BitBuffer) : Option (Option Nat × Option Nat × List Bool) :=
  ((llcPduTypeOf pdu).bind (fun pduType => blHeaderOf pduType pdu)).bind
    (fun (hasFcs, ns, nr, pdu) =>
      (if hasFcs then Fcs.checkFcs pdu else some true).bind (fun fcsOk =>
        if fcsOk then (stripValidatedFcs pdu hasFcs).map (fun pdu => (nr, ns, pdu.rest)) else none))

theorem checkFcs_withFcs (h : hasFcs = true → sdu ≠ []) :
    (if hasFcs then Fcs.checkFcs ⟨H, D, withFcs hasFcs sdu, T, a⟩ else some true) = some true := by
  cases hasFcs with
  | false => rfl
  | true =>
    rw [if_pos rfl, Fcs.checkFcs_eq, if_neg (by simp), if_neg (by simpa using h rfl)]
    simp [withFcs, ofBits_toBits (Fcs.ofList sdu).isLt]

theorem blHeaderOf_eq (hr : ∀ n ∈ nr, n < 2) (hs : ns < 2) :
    blHeaderOf (blTypeOf hasFcs nr) ⟨H, D, fieldBits (blFields hasFcs nr ns) ++ R, T, a⟩ =
      some (hasFcs, some ns, nr, ⟨H, D ++ fieldBits (blFields hasFcs nr ns), R, T, a⟩) := by
  cases nr with
  | none =>
    have hdecode := decodes_blData hasFcs hs H D R T a
    cases hasFcs <;> simp [blTypeOf, blHeaderOf, hdecode]
  | some nr =>
    have hdecode := decodes_blAdata hasFcs (hr nr rfl) hs H D R T a
    cases hasFcs <;> simp [blTypeOf, blHeaderOf, hdecode]

theorem received_eq (h : ack.Stores hasFcs nr sdu) :
    received ack.retransmissionBuf.pdu = some (nr, some ack.ns, sdu) := by
  have hbits := h.bits
  generalize ack.retransmissionBuf.pdu = pdu at hbits ⊢
  obtain ⟨H, D, R, T, a⟩ := pdu
  subst hbits
  obtain ⟨tail, htail⟩ := stripValidatedFcs_withFcs (H := H)
    (D := D ++ fieldBits (blFields hasFcs nr ack.ns)) (T := T) (a := a) hasFcs
  rw [received, llcPduTypeOf_bl rfl, Option.bind_some, blBits, blHeaderOf_eq h.nrBit h.nsBit,
    Option.bind_some]
  dsimp only
  rw [checkFcs_withFcs h.checked, Option.bind_some, if_pos rfl, htail]
  rfl

/-- A BL-ACK of its own is received as the acknowledgement it was made from. -/
theorem received_pushStandaloneBlAck {waiting : ScheduledOutAck} (hn : waiting.nr < 2)
    (h : pushStandaloneBlAck p waiting = some p') :
    ∃ req : TmaUnitdataReq, p' = p.push (.tmaUnitdataReq req) ∧ req.mainAddress = waiting.addr ∧
      req.endpointId = waiting.endpointId ∧ received req.pdu = some (some waiting.nr, none, []) := by
  have hack : ∀ nr < 2, ((BlAck.toBitbuf ⟨false, nr⟩ (newAutoexpand 5)).bind (·.seek 0)).map received =
      some (some (some nr, none, [])) := by
    intro nr h
    obtain rfl | rfl : nr = 0 ∨ nr = 1 := by omega
    · rfl
    · rfl
  obtain ⟨pduBuf, hwrite, h⟩ := Option.bind_eq_some_iff.mp h
  obtain ⟨pduBuf', hseek, h⟩ := Option.bind_eq_some_iff.mp h
  have hreceived := hack waiting.nr hn
  rw [hwrite, Option.bind_some, hseek, Option.map_some, Option.some_inj] at hreceived
  cases h
  exact ⟨_, rfl, rfl, rfl, hreceived⟩

/-- The request that was given the ticket asked for this TL-SDU to be sent. -/
def Requested (mainCarrier : Nat) (ops : List Op) (ticket : Ticket) (sdu : List Bool) : Prop :=
  ∃ earlier op later s, ops = earlier ++ op :: later ∧ run step (new mainCarrier) earlier = some s ∧
    s.nextTicket = ticket ∧ sdu ∈ op.tlSdu

theorem run_basicSound (h : run step (new mc) ops = some s) :
    BasicSound (Requested mc ops) s.basic := by
  have hok : Along step (fun s op => ∀ sdu ∈ op.tlSdu, Requested mc ops s.nextTicket sdu)
      (new mc) ops :=
    Along.of_run fun earlier op later s hops hr sdu hsdu => ⟨earlier, op, later, s, hops, hr, rfl, hsdu⟩
  refine run_invariant (P := fun s => BasicSound (Requested mc ops) s.basic)
    (fun s op s' hs hb h => ?_) (basicSound_new mc) hok h
  exact (acts_step (k := ⟨False, False, fun _ _ => True, Requested mc ops⟩) False.elim
    False.elim (fun _ _ _ _ => trivial) hb h).basicSound hs

/-- Every transfer that waits or is sent again carries the TL-SDU of its request. Giving it another
number changes nothing else, and folding in an acknowledgement that waits for the link takes that
acknowledgement off the list and sends it once: in the transfer, which then fits, or on its own. -/
theorem folding_keeps_both_parts (mainCarrier : Nat) (ops : List Op) (s : Llc)
    (hr : run step (new mainCarrier) ops = some s) :
    (∀ ack ∈ s.outboundMessages, ∃ sdu, Requested mainCarrier ops ack.ticket sdu ∧ ack.Carries sdu) ∧
    ∀ (ack : ExpectedInAck) sdu, ack.Carries sdu →
      (∀ ns < 2, ∃ pdu, let ack' := setRetransmissionPdu { ack with ns := ns } pdu
        rewriteRetransmissionNs ack ns = some ack' ∧ ack'.Carries sdu ∧
          ∃ nr, received ack.retransmissionBuf.pdu = some (nr, some ack.ns, sdu) ∧
            received pdu = some (nr, some ns, sdu) ∧
            pdu.rest.length = ack.retransmissionBuf.pdu.rest.length) ∧
      ∀ waiting ∈ s.scheduledOutAcks.find? (fun a => decide (a.key = ack.key)), ∃ p' pdu nr,
        let ack' := setRetransmissionPdu ack pdu
        foldWaitingAckIntoMacReadyBlData s.mainCarrier s.port s.scheduledOutAcks ack =
            some (p', s.scheduledOutAcks.eraseP (fun a => decide (a.key = ack.key)), ack') ∧
          ack'.Carries sdu ∧ received pdu = some (nr, some ack.ns, sdu) ∧
          (nr = some waiting.nr ∧ p' = s.port ∧ pdu.rest.length ≤
              schFMacResourceTmSduCapacityBits s.mainCarrier ack.addr ack.retransmissionBuf.chanAlloc ∨
            nr = none ∧ ∃ req, p' = s.port.push (.tmaUnitdataReq req) ∧ req.mainAddress = ack.addr ∧
              req.endpointId = ack.endpointId ∧
              received req.pdu = some (some waiting.nr, none, [])) := by
  have hsound := run_basicSound hr
  refine ⟨hsound.transfers, fun ack sdu hc => ?_⟩
  obtain ⟨hasFcs, nr, hc⟩ := hc.stores
  constructor
  · intro ns hns
    obtain ⟨pdu, he, hc'⟩ := rewriteRetransmissionNs_eq hc hns
    refine ⟨pdu, he, hc'.carries, nr, received_eq hc, received_eq hc', ?_⟩
    rw [hc.bits, show pdu.rest = _ from hc'.bits]
    cases nr <;> simp [blBits, blFields]
  · intro waiting hw
    obtain ⟨p', acks', pdu, nr', he, hc', -, hwaiting⟩ :=
      foldWaitingAckIntoMacReadyBlData_eq s.mainCarrier s.port hc hsound.numbers
    obtain ⟨rfl, hsent⟩ := hwaiting waiting hw
    refine ⟨p', pdu, nr', he, hc'.carries, received_eq hc', hsent.imp ?_ ?_⟩
    · rintro ⟨rfl, hp, hfits⟩
      have hlen : pdu.rest.length = 6 + (withFcs hasFcs sdu).length := by
        rw [show pdu.rest = _ from hc'.bits]
        simp only [blBits, blFields, List.length_append, length_fieldBits]
        rfl
      exact ⟨rfl, hp, hlen ▸ hfits⟩
    · rintro ⟨hnr, hpush⟩
      have hkey : waiting.key = ack.key := by simpa using List.find?_some hw
      obtain ⟨req, hp, ha, he, hack⟩ := received_pushStandaloneBlAck
        (hsound.numbers waiting (List.mem_of_find?_eq_some hw)) hpush
      have hparts : waiting.addr = ack.addr ∧ waiting.endpointId = ack.endpointId := by
        simpa [ScheduledOutAck.key, ExpectedInAck.key] using hkey
      exact ⟨hnr, req, hp, ha.trans hparts.1, he.trans hparts.2, hack⟩

/-- A message from a radio is to be acknowledged when a TL-SDU for the radio comes. -/
theorem folding_keeps_both_parts_acknowledging :
    let ops : List Op := [.tmaUnitdataInd (.plain (TetraAddress.issi 1) (blBits false none 0 [true])),
      .tlaTlDataReq (plainTlDataReq (TetraAddress.issi 1) 0 7 0 [false, true])]
    ∃ s, run step (new 1) ops = some s ∧ s.outboundMessages.length = 1 ∧
      s.scheduledOutAcks.length = 1 ∧
      ∀ ack ∈ s.outboundMessages, ∃ sdu, Requested 1 ops ack.ticket sdu ∧ ack.Carries sdu := by
  intro ops
  have hrun : (run step (new 1) ops).map (fun s =>
      (s.outboundMessages.length, s.scheduledOutAcks.length)) = some (1, 1) := by
    decide +kernel
  obtain ⟨s, hr, hs⟩ := Option.map_eq_some_iff.mp hrun
  simp only [Prod.mk.injEq] at hs
  exact ⟨s, hr, hs.1, hs.2, (folding_keeps_both_parts 1 ops s hr).1⟩

end NexusBs.Llc
