import NexusBs.Llc.Types
import NexusBs.Lib.Lists
import Mathlib.Data.List.Sort

namespace NexusBs.Llc
open BitBuffer

/-- Index of the eligible entry of highest priority; the first one among equals. -/
def highestPriorityIndex {α : Type} (eligible : α → Bool) (prio : α → Todo) :
    List α → Nat → Option (Nat × Todo) → Option Nat
  | [], _, selected => selected.map Prod.fst
  | x :: xs, idx, selected =>
    highestPriorityIndex eligible prio xs (idx + 1)
      (if eligible x then
        match selected with
        | some (i, selectedPrio) =>
          if selectedPrio ≥ prio x then some (i, selectedPrio) else some (idx, prio x)
        | none => some (idx, prio x)
      else selected)

/-- Among the entries seen so far `selected` is the first of the eligible ones of highest priority. -/
def Leads {α : Type} (eligible : α → Bool) (prio : α → Todo) (seen : List α) :
    Option (Nat × Todo) → Prop
  | none => ∀ y ∈ seen, eligible y = false
  | some (i, p) => ∃ x, seen[i]? = some x ∧ prio x = p ∧ eligible x = true ∧
      ∀ j y, seen[j]? = some y → eligible y = true → prio y ≤ p ∧ (j < i → prio y < p)

theorem leads_next {α : Type} {eligible : α → Bool} {prio : α → Todo} {seen : List α} (x : α) :
    Leads eligible prio seen selected →
    Leads eligible prio (seen ++ [x])
      (if eligible x then
        match selected with
        | some (i, selectedPrio) =>
          if selectedPrio ≥ prio x then some (i, selectedPrio) else some (seen.length, prio x)
        | none => some (seen.length, prio x)
      else selected) := by
  intro h
  have hlast : (seen ++ [x])[seen.length]? = some x := by simp
  have hkeep : ∀ {i : Nat} {y : α}, seen[i]? = some y → (seen ++ [x])[i]? = some y := fun hy => by
    rw [List.getElem?_append_left (List.getElem?_eq_some_iff.mp hy).1, hy]
  cases hx : eligible x with
  | false =>
    simp only [Bool.false_eq_true, if_false]
    cases selected with
    | none => exact fun y hy => (List.mem_append.mp hy).elim (h y) (fun hy => by simp_all)
    | some =>
      obtain ⟨w, hw, hp, he, hall⟩ := h
      refine ⟨w, hkeep hw, hp, he, fun j y hj hy => ?_⟩
      rcases Lib.getElem?_concat_cases hj with hj | ⟨_, rfl⟩
      · exact hall j y hj hy
      · rw [hx] at hy
        cases hy
  | true =>
    simp only [if_true]
    cases selected with
    | none =>
      refine ⟨x, hlast, rfl, hx, fun j y hj hy => ?_⟩
      rcases Lib.getElem?_concat_cases hj with hj | ⟨rfl, rfl⟩
      · rw [h y (List.mem_of_getElem? hj)] at hy
        cases hy
      · exact ⟨Int.le_refl _, fun hlt => absurd hlt (Nat.lt_irrefl _)⟩
    | some sel =>
      obtain ⟨i, p⟩ := sel
      obtain ⟨w, hw, hp, he, hall⟩ := h
      have hi := (List.getElem?_eq_some_iff.mp hw).1
      dsimp only
      split
      · rename_i hge
        refine ⟨w, hkeep hw, hp, he, fun j y hj hy => ?_⟩
        rcases Lib.getElem?_concat_cases hj with hj | ⟨rfl, rfl⟩
        · exact hall j y hj hy
        · exact ⟨hge, fun hlt => absurd hlt (by omega)⟩
      · rename_i hlt
        refine ⟨x, hlast, rfl, hx, fun j y hj hy => ?_⟩
        rcases Lib.getElem?_concat_cases hj with hj | ⟨rfl, rfl⟩
        · have hlt := Int.lt_of_le_of_lt (hall j y hj hy).1 (Int.not_le.mp hlt)
          exact ⟨Int.le_of_lt hlt, fun _ => hlt⟩
        · exact ⟨Int.le_refl _, fun hlt => absurd hlt (Nat.lt_irrefl _)⟩

theorem leads_highestPriorityIndex {α : Type} {eligible : α → Bool} {prio : α → Todo} {l seen : List α}
    {selected : Option (Nat × Todo)} (h : Leads eligible prio seen selected) :
    ∃ last, highestPriorityIndex eligible prio l seen.length selected = last.map Prod.fst ∧
      Leads eligible prio (seen ++ l) last := by
  induction l generalizing seen selected with
  | nil => exact ⟨selected, rfl, by rwa [List.append_nil]⟩
  | cons x l ih =>
    obtain ⟨last, heq, hlast⟩ := ih (leads_next x h)
    rw [List.append_assoc, List.singleton_append] at hlast
    rw [List.length_append, List.length_singleton] at heq
    exact ⟨last, heq, hlast⟩

/-- The entry selected has the highest priority among the eligible ones, and those before it
have a lower one. -/
theorem highestPriorityIndex_spec {α : Type} {eligible : α → Bool} {prio : α → Todo} {l : List α}
    {i : Nat} (h : highestPriorityIndex eligible prio l 0 none = some i) :
    ∃ x, l[i]? = some x ∧ eligible x = true ∧
      ∀ j y, l[j]? = some y → eligible y = true → prio y ≤ prio x ∧ (j < i → prio y < prio x) := by
  have hnil : Leads eligible prio [] none := fun y hy => by cases hy
  obtain ⟨last, heq, hlast⟩ := leads_highestPriorityIndex (l := l) hnil
  rw [List.length_nil, h] at heq
  obtain ⟨⟨k, p⟩, rfl, rfl⟩ := Option.map_eq_some_iff.mp heq.symm
  obtain ⟨x, hx, rfl, he, hall⟩ := hlast
  exact ⟨x, hx, he, hall⟩

/-! Acknowledgements to be sent -/

variable (messages : List ExpectedInAck) (p : Port) (acks : List ScheduledOutAck)
  (ack : ExpectedInAck)

variable (s : Llc) (mainCarrier : Nat) (key : BasicLinkKey) (prim : TlaTlDataReqBl)
  (dltime : TdmaTime) (tlSdu : BitBuffer)

/-- One waiting acknowledgement per address and endpoint; a newer one replaces it. -/
def upsertScheduledOutAck (addr : TetraAddress) (endpointId : EndpointId) (ns : Nat)
    (indReqHandle airInterfaceEncryption : Todo) : List ScheduledOutAck :=
  let ack : ScheduledOutAck :=
    ⟨addr, dltime, ns, indReqHandle, endpointId, airInterfaceEncryption, dltime.t⟩
  match acks.findIdx? (fun a => decide (a.addr = addr ∧ a.endpointId = endpointId)) with
  | some i => acks.set i ack
  | none => acks ++ [ack]

def takeScheduledOutAck (p : ScheduledOutAck → Bool) :
    Option (ScheduledOutAck × List ScheduledOutAck) :=
  (acks.find? p).map (fun ack => (ack, acks.eraseP p))

def cancelScheduledOutAckForNewBlData : List ScheduledOutAck :=
  acks.eraseP (fun a => decide (a.key = key))

def scheduledOutAckHandleForKey : Option Todo :=
  (acks.find? (fun a => decide (a.key = key))).map (·.indReqHandle)

def takeScheduledOutAckForResponse (reqHandle : Todo) :
    Option (ScheduledOutAck × List ScheduledOutAck) :=
  takeScheduledOutAck acks (fun a => decide (a.key = key ∧ a.indReqHandle = reqHandle))

/-- Acknowledgements for what came on a traffic timeslot go back by stealing there. -/
def stealsBack (ack : ScheduledOutAck) : Bool := decide (2 ≤ ack.ts ∧ ack.ts ≤ 4)

def ackChanAlloc (ack : ScheduledOutAck) : Option CmceChanAllocReq :=
  if stealsBack ack then some ⟨none, none, Timeslots.single ack.ts, .replace, .both⟩ else none

def pushStandaloneBlAck (ack : ScheduledOutAck) : Option Port := do
  let pduBuf ← BlAck.toBitbuf ⟨false, ack.nr⟩ (newAutoexpand 5)
  let pduBuf ← pduBuf.seek 0
  some (p.push (.tmaUnitdataReq
    ⟨ack.indReqHandle, pduBuf, ack.addr, ack.endpointId, 5, stealsBack ack, 0,
      some ack.airInterfaceEncryption, none, none, ackChanAlloc ack, none⟩))

def submitAckRepliesToUmac (p : Port) : List ScheduledOutAck → Option Port
  | [] => some p
  | ack :: acks => (pushStandaloneBlAck p ack).bind (fun p => submitAckRepliesToUmac p acks)

/-! Acknowledged transfers -/

def n251MaxTlSduBits (fcsFlag : Bool) : Nat := n251BlMaxTlsduLenBits + if fcsFlag then 0 else 32

def tlSduExceedsN251 (fcsFlag : Bool) : Bool :=
  decide (tlSdu.lenRemaining > n251MaxTlSduBits fcsFlag)

def channelAllocationLateAckGrace : Option Nat :=
  ack.retransmissionBuf.chanAlloc.map (fun _ => channelAllocationLateAckGraceSignallingFrames)

def lateAckGraceExpired (now : TdmaTime) : Bool :=
  match ack.tRetransmissionsExhausted with
  | none => false
  | some startedAt =>
    match channelAllocationLateAckGrace ack with
    | none => true
    | some graceFrames =>
      decide (t251DownlinkFramesElapsed startedAt now ack.ts ack.stealingRepeatsFlag ≥ graceFrames)

def expectedAckTimeslotForOutboundBl : Nat :=
  if !prim.stealingPermission && prim.chanAlloc.isSome then commonControlTimeslot
  else (prim.chanAlloc.bind (·.timeslots.first)).getD commonControlTimeslot

/-- The first transfer of the link that is with the MAC, and the others. -/
def takeExpectedAckForKey : Option (ExpectedInAck × List ExpectedInAck) :=
  let submitted := fun ack : ExpectedInAck => decide (ack.key = key) && ack.tSubmittedToUmac.isSome
  (messages.find? submitted).map (fun ack => (ack, messages.eraseP submitted))

def reportBlFirstComplete : Port :=
  (p.markServiceFirstComplete ack.ticket).pushTlaReport (some ack.ticket) ack.reqHandle
    .firstCompleteTransmission ack.endpointId

def reportBlFailed : Port :=
  (p.markServiceFailed ack.ticket).pushTlaReport (some ack.ticket) ack.reqHandle .failedTransfer
    ack.endpointId

def reconcileUmacDoneFromReporter : Port × ExpectedInAck :=
  let macState := ack.currentMacReporter
  if ack.tUmacDone.isSome || !(macState == some .transmitted || macState == some .discarded) then
    (p, ack)
  else
    let ack := { ack with tUmacDone := some dltime }
    if macState == some .transmitted && !ack.firstCompleteReportSent then
      (reportBlFirstComplete p ack, { ack with firstCompleteReportSent := true })
    else (p, ack)

/-- A matching acknowledgement that comes before the MAC reported the transmission stands for
that report too. -/
def completeEarlyAcked : Port × ExpectedInAck :=
  let ack := { ack with
    currentMacReporter := ack.currentMacReporter.map (·.tryMark .transmitted)
    tUmacDone := some dltime }
  if ack.firstCompleteReportSent then (p, ack)
  else (reportBlFirstComplete p ack, { ack with firstCompleteReportSent := true })

/-- Handles an N(R); returns the transfer it acknowledges. -/
def processIncomingAck (nr : Nat) : Option (Llc × Option ExpectedInAck) :=
  match takeExpectedAckForKey s.outboundMessages key with
  | none => some (s, none)
  | some (expectedAck, rest) =>
    let (p, ack) := reconcileUmacDoneFromReporter s.port expectedAck s.dltime
    if ack.tUmacDone.isNone || !ack.firstCompleteReportSent then
      if ack.ns = nr then
        let (p, ack) := completeEarlyAcked p ack s.dltime
        (p.markAcknowledged ack.ticket).map
          (fun p => ({ s with outboundMessages := rest, port := p }, some ack))
      else some ({ s with outboundMessages := ack :: rest, port := p }, none)
    else if ack.ns = nr then
      (p.markAcknowledged ack.ticket).map
        (fun p => ({ s with outboundMessages := rest, port := p }, some ack))
    else if ack.retransmitCount < n252BlMaxTlsduRetransmitsAcked then
      some ({ s with
        outboundMessages := { ack with
          retransmitCount := ack.retransmitCount + 1
          tSubmittedToUmac := none
          tUmacDone := none
          tRetransmissionsExhausted := none
          currentMacReporter := none } :: rest
        port := p }, none)
    else some ({ s with outboundMessages := rest, port := reportBlFailed p ack }, none)

def submitForAcknowledgedTransmission : Port × ExpectedInAck :=
  (p.push (.tmaUnitdataReq { ack.retransmissionBuf with txReporter := some (.bl ack.ticket) }),
    { ack with
      tSubmittedToUmac := some dltime
      tUmacDone := none
      currentMacReporter := some .pending })

structure RebuildableAckTransfer where
  hasFcs : Bool
  tlSdu : BitBuffer
  embeddedNr : Option Nat

/-- Checksum flag, embedded N(R) and what follows the header of a stored transfer. -/
def rebuildHeader (pdu : BitBuffer) : Option (Bool × Option Nat × BitBuffer) :=
  match llcPduTypeOf pdu with
  | some .blData | some .blDataFcs =>
    match BlData.fromBitbuf pdu with
    | .ok (header, pdu) => some (header.hasFcs, none, pdu)
    | .error _ => none
  | some .blAdata | some .blAdataFcs =>
    match BlAdata.fromBitbuf pdu with
    | .ok (header, pdu) => some (header.hasFcs, some header.nr, pdu)
    | .error _ => none
  | _ => none

def acknowledgedPayloadForRebuild (pdu : BitBuffer) : Option (Option RebuildableAckTransfer) :=
  match rebuildHeader pdu with
  | none => some none
  | some (hasFcs, embeddedNr, pdu) =>
    if hasFcs && decide (pdu.lenRemaining < 32) then some none
    else do
      let pdu ← stripValidatedFcs pdu hasFcs
      let pdu ← pdu.setRawStart pdu.rawPos
      some (some ⟨hasFcs, pdu, embeddedNr⟩)

def setRetransmissionPdu (pdu : BitBuffer) : ExpectedInAck :=
  { ack with retransmissionBuf := { ack.retransmissionBuf with pdu := pdu } }

def rebuildRetransmissionAsBlData (hasFcs : Bool) : Option ExpectedInAck := do
  let pduBuf ← BlData.toBitbuf ⟨hasFcs, ack.ns⟩ (newAutoexpand 32)
  let pduBuf ← appendTlSduAndOptionalFcs pduBuf tlSdu hasFcs
  some (setRetransmissionPdu ack pduBuf)

def rebuildRetransmissionAsBlAdata (hasFcs : Bool) (nr : Nat) : Option ExpectedInAck := do
  let pduBuf ← BlAdata.toBitbuf ⟨hasFcs, nr, ack.ns⟩ (newAutoexpand 32)
  let pduBuf ← appendTlSduAndOptionalFcs pduBuf tlSdu hasFcs
  some (setRetransmissionPdu ack pduBuf)

def rewriteRetransmissionNs (ns : Nat) : Option ExpectedInAck :=
  if ack.ns = ns then some ack
  else do
    let rebuildable ← acknowledgedPayloadForRebuild ack.retransmissionBuf.pdu
    let ack := { ack with ns := ns }
    match rebuildable with
    | none => some ack
    | some r =>
      match r.embeddedNr with
      | some nr => rebuildRetransmissionAsBlAdata ack r.tlSdu r.hasFcs nr
      | none => rebuildRetransmissionAsBlData ack r.tlSdu r.hasFcs

def blAdataLenBits (hasFcs : Bool) : Nat := 6 + tlSdu.lenRemaining + if hasFcs then 32 else 0

def blAdataExceedsSchFCapacity (addr : TetraAddress) (chanAlloc : Option CmceChanAllocReq)
    (tlSdu : BitBuffer) (hasFcs : Bool) : Bool :=
  decide (blAdataLenBits tlSdu hasFcs > schFMacResourceTmSduCapacityBits mainCarrier addr chanAlloc)

/-- Before a transfer goes to the MAC: a waiting acknowledgement for the link travels in it as
BL-ADATA where that fits, and an acknowledgement that was sent before is taken out again. -/
def foldWaitingAckIntoMacReadyBlData (p : Port) (acks : List ScheduledOutAck) (ack : ExpectedInAck) :
    Option (Port × List ScheduledOutAck × ExpectedInAck) := do
  let rebuildable ← acknowledgedPayloadForRebuild ack.retransmissionBuf.pdu
  match rebuildable with
  | none => some (p, acks, ack)
  | some r =>
    match takeScheduledOutAck acks (fun a => decide (a.key = ack.key)) with
    | none =>
      if r.embeddedNr.isSome && decide (0 < ack.retransmitCount) && ack.firstCompleteReportSent then do
        let ack ← rebuildRetransmissionAsBlData ack r.tlSdu r.hasFcs
        some (p, acks, ack)
      else some (p, acks, ack)
    | some (waitingAck, acks) =>
      if blAdataExceedsSchFCapacity mainCarrier ack.addr ack.retransmissionBuf.chanAlloc r.tlSdu
          r.hasFcs then do
        let p ← pushStandaloneBlAck p waitingAck
        let ack ← rebuildRetransmissionAsBlData ack r.tlSdu r.hasFcs
        some (p, acks, ack)
      else do
        let ack ← rebuildRetransmissionAsBlAdata ack r.tlSdu r.hasFcs waitingAck.nr
        some (p, acks, ack)

/-! Requests -/

def rejectTldataBacklogFull (ticket : Ticket) : Port :=
  (if prim.txReporter then p.tryMark ticket .pending .discarded else p).pushTlaReport (some ticket)
    prim.reqHandle .failedTransfer prim.endpointId

def newExpectedInAck (ticket : Ticket) (ns : Nat) (pdu : BitBuffer) (dltime : TdmaTime) :
    ExpectedInAck where
  ts := expectedAckTimeslotForOutboundBl prim
  addr := prim.mainAddress
  ns := ns
  reqHandle := prim.reqHandle
  linkId := prim.linkId
  endpointId := prim.endpointId
  pduPrio := prim.pduPrio
  fcsFlag := prim.fcsFlag
  airInterfaceEncryption := prim.airInterfaceEncryption.getD 0
  stealingRepeatsFlag := prim.stealingRepeatsFlag
  tFirst := dltime
  tSubmittedToUmac := none
  tUmacDone := none
  tRetransmissionsExhausted := none
  ticket := ticket
  currentMacReporter := none
  retransmissionBuf := ⟨prim.reqHandle, pdu, prim.mainAddress, prim.endpointId, prim.pduPrio,
    prim.stealingPermission, prim.subscriberClass, prim.airInterfaceEncryption,
    prim.stealingRepeatsFlag, prim.dataClassInfo, prim.chanAlloc, none⟩
  retransmitCount := 0
  firstCompleteReportSent := false

def takeTicket : Ticket × Llc := (s.nextTicket, { s with nextTicket := s.nextTicket + 1 })

def rxTlaTldataReqBasic (ticket : Ticket) : Option Llc :=
  if prim.mainAddress.ssiType = .gssi then some s
  else if tlSduExceedsN251 prim.tlSdu prim.fcsFlag then
    (if prim.txReporter then s.port.mark ticket .pending .discarded else some s.port).map (fun p =>
      { s with
        port := p.pushTlaReport (some ticket) prim.reqHandle .failedTransfer prim.endpointId })
  else if s.outboundMessages.length ≥ llcMaxOutboundAckedMessages then
    some { s with port := rejectTldataBacklogFull s.port prim ticket }
  else do
    let key : BasicLinkKey := ⟨prim.mainAddress, prim.endpointId⟩
    let ns := s.linkSendSeq key
    let pduBuf ← BlData.toBitbuf ⟨prim.fcsFlag, ns⟩ (newAutoexpand 32)
    let pduBuf ← appendTlSduAndOptionalFcs pduBuf prim.tlSdu prim.fcsFlag
    some { s with
      linkSendSeq := Function.update s.linkSendSeq key (ns ^^^ 1)
      outboundMessages := s.outboundMessages ++ [newExpectedInAck prim ticket ns pduBuf s.dltime]
      port := s.port.pushTlaReport (some ticket) prim.reqHandle .noSpecificReport prim.endpointId }

/-! Unacknowledged transfers -/

def lowestPriorityUnsubmittedUdataBelow (messages : List QueuedUdata) (incomingPduPrio : Todo) :
    Option Nat :=
  highestPriorityIndex (fun u => !u.submitted && decide (u.pduPrio < incomingPduPrio))
    (fun u => -u.pduPrio) messages 0 none

/-- Makes room by failing waiting requests of lower priority; tells whether there is room. -/
def ensureUdataBacklogCapacity (p : Port) (incomingPduPrio : Todo) (limit : Nat) :
    Nat → List QueuedUdata → Port × List QueuedUdata × Bool
  | 0, messages => (p, messages, decide (messages.length < limit))
  | fuel + 1, messages =>
    if messages.length < limit then (p, messages, true)
    else
      match lowestPriorityUnsubmittedUdataBelow messages incomingPduPrio with
      | none => (p, messages, false)
      | some idx =>
        match messages[idx]? with
        | none => (p, messages, false)
        | some victim =>
          ensureUdataBacklogCapacity
            (p.pushTlaReport none victim.reqHandle .failedTransfer victim.endpointId)
            incomingPduPrio limit fuel (messages.eraseIdx idx)

def udataRepeats (requested : Option Nat) : Nat :=
  min (requested.getD n253BlMaxTlsduRepetitionsUnacked) n253MaxRequestedTlsduRepeats

def rxTlaTlunitdataReqBl (prim : TlaTlUnitdataReqBl) : Option Llc :=
  let failed := fun p : Port => p.pushTlaReport none prim.reqHandle .failedTransfer prim.endpointId
  if prim.linkId ≠ 0 then some { s with port := failed s.port }
  else if tlSduExceedsN251 prim.tlSdu prim.fcsFlag then some { s with port := failed s.port }
  else
    let (p, messages, room) := ensureUdataBacklogCapacity s.port prim.pduPrio
      llcMaxOutboundUdataMessages s.outboundUdataMessages.length s.outboundUdataMessages
    if room then do
      let pduBuf ← BlUdata.toBitbuf ⟨prim.fcsFlag⟩ (newAutoexpand 32)
      let pduBuf ← appendTlSduAndOptionalFcs pduBuf prim.tlSdu prim.fcsFlag
      let n253 := udataRepeats prim.nTlsduRepeats
      let udata : QueuedUdata :=
        ⟨prim.mainAddress, prim.reqHandle, prim.endpointId, prim.pduPrio,
          ⟨prim.reqHandle, pduBuf, prim.mainAddress, prim.endpointId, prim.pduPrio,
            prim.stealingPermission, prim.subscriberClass, prim.airInterfaceEncryption,
            prim.stealingRepeatsFlag, prim.dataClassInfo, prim.chanAlloc, none⟩,
          none, n253, n253 + 1, 0, 0, false, false⟩
      some { s with port := p, outboundUdataMessages := messages ++ [udata] }
    else some { s with port := failed p, outboundUdataMessages := messages }

def submitUdataLoop (p : Port) : Nat → List QueuedUdata → Port × List QueuedUdata
  | 0, messages => (p, messages)
  | fuel + 1, messages =>
    match highestPriorityIndex (fun u => !u.submitted && !u.deferMacReadyOnce) (·.pduPrio)
        messages 0 none with
    | none => (p, messages)
    | some idx =>
      match messages[idx]? with
      | none => (p, messages)
      | some msg =>
        submitUdataLoop (p.push (.tmaUnitdataReq { msg.sapmsg with txReporter := some .udata }))
          fuel (messages.set idx { msg with currentMacReporter := some .pending, submitted := true })

def submitUdataMsgsToUmac : Llc :=
  let (p, messages) := submitUdataLoop s.port s.outboundUdataMessages.length s.outboundUdataMessages
  { s with
    port := p
    outboundUdataMessages := messages.map (fun u => { u with deferMacReadyOnce := false }) }

/-! End of tick -/

/-- One transfer in the retry pass. The last component says that it is given up. -/
def retryOne (p : Port) (acks : List ScheduledOutAck) (ack : ExpectedInAck) :
    Option (Port × List ScheduledOutAck × ExpectedInAck × Bool) :=
  let (p, ack) := reconcileUmacDoneFromReporter p ack dltime
  if ack.tRetransmissionsExhausted.isSome then some (p, acks, ack, lateAckGraceExpired ack dltime)
  else
    match ack.tUmacDone with
    | none => some (p, acks, ack, false)
    | some tUmacDone =>
      if t251DownlinkFramesElapsed tUmacDone dltime ack.ts ack.stealingRepeatsFlag ≥
          t251SenderRetrySignallingFrames then
        if ack.retransmitCount < n252BlMaxTlsduRetransmitsAcked then do
          let (p, acks, ack) ← foldWaitingAckIntoMacReadyBlData mainCarrier p acks
            { ack with
              retransmitCount := ack.retransmitCount + 1
              tRetransmissionsExhausted := none }
          let (p, ack) := submitForAcknowledgedTransmission p ack
            (dltime.forwardToTimeslot ack.tFirst.t)
          some (p, acks, ack, false)
        else if (channelAllocationLateAckGrace ack).isSome then
          some (p, acks, { ack with tRetransmissionsExhausted := some dltime }, false)
        else some (p, acks, ack, true)
      else some (p, acks, ack, false)

/-- The retry pass; also returns the links whose transfer is given up. -/
def retryAll (mainCarrier : Nat) (dltime : TdmaTime) (p : Port) (acks : List ScheduledOutAck) :
    List ExpectedInAck → Option (Port × List ScheduledOutAck × List ExpectedInAck × List BasicLinkKey)
  | [] => some (p, acks, [], [])
  | ack :: messages => do
    let (p, acks, ack, givenUp) ← retryOne mainCarrier dltime p acks ack
    let (p, acks, messages, removals) ← retryAll mainCarrier dltime p acks messages
    some (p, acks, ack :: messages, if givenUp then ack.key :: removals else removals)

def failTransfers (p : Port) : List ExpectedInAck → List BasicLinkKey → Port × List ExpectedInAck
  | messages, [] => (p, messages)
  | messages, key :: keys =>
    match takeExpectedAckForKey messages key with
    | none => failTransfers p messages keys
    | some (ack, messages) => failTransfers (reportBlFailed p ack) messages keys

def submitRetransmissionsToUmac : Option Llc := do
  let (p, acks, messages, removals) ← retryAll s.mainCarrier s.dltime s.port s.scheduledOutAcks
    s.outboundMessages
  let (p, messages) := failTransfers p messages removals
  some { s with port := p, scheduledOutAcks := acks, outboundMessages := messages }

def highestUnsubmittedPduPrioForKey : Option Todo :=
  ((messages.filter (fun a => a.tSubmittedToUmac.isNone && decide (a.key = key))).map
    (·.pduPrio)).max?

def emergencyWaits (prio : Todo) : Bool :=
  match highestUnsubmittedPduPrioForKey messages key with
  | some highest => decide (highest ≥ tmaHighestPduPriority) && decide (highest > prio)
  | none => false

def cancelsForEmergency : Bool :=
  ack.tSubmittedToUmac.isSome && ack.tUmacDone.isNone && ack.currentMacReporter == some .pending &&
    decide (ack.pduPrio < tmaHighestPduPriority) && emergencyWaits messages ack.key ack.pduPrio

def cancelsUdataForEmergency (u : QueuedUdata) : Bool :=
  u.submitted && !u.deferMacReadyOnce && decide (u.pduPrio < tmaHighestPduPriority) &&
    (u.currentMacReporter.all (· == .pending)) && emergencyWaits messages u.key u.pduPrio

/-- Takes pending transfers of lower priority back from the MAC where one of top priority waits. -/
def cancelLowerPriorityPendingMacTransfersForEmergency : Llc :=
  let cancels := cancelsForEmergency s.outboundMessages
  let cancelsUdata := cancelsUdataForEmergency s.outboundMessages
  { s with
    port := { s.port with queue := s.port.queue ++
      ((s.outboundMessages.filter cancels).map (fun a => SapMsg.tmaCancelReq a.reqHandle) ++
      (s.outboundUdataMessages.filter cancelsUdata).map (fun u => SapMsg.tmaCancelReq u.reqHandle)) }
    outboundMessages := s.outboundMessages.map (fun a =>
      if cancels a then
        { a with tSubmittedToUmac := none, tUmacDone := none, currentMacReporter := none }
      else a)
    outboundUdataMessages := s.outboundUdataMessages.map (fun u =>
      if cancelsUdata u then
        { u with submitted := false, currentMacReporter := none, deferMacReadyOnce := true }
      else u) }

def unsubmittedAckIndicesForKey : List Nat :=
  (List.range messages.length).filter (fun i =>
    (messages[i]?).any (fun a => decide (a.key = key) && a.tSubmittedToUmac.isNone))

def rewriteNsAt (messages : List ExpectedInAck) : List (Nat × Nat) → Option (List ExpectedInAck)
  | [] => some messages
  | (idx, ns) :: pairs =>
    match messages[idx]? with
    | none => none
    | some ack => (rewriteRetransmissionNs ack ns).bind (fun ack =>
        rewriteNsAt (messages.set idx ack) pairs)

/-- Numbers the waiting transfers of a link in the order of their priorities. -/
def normalizeUnsubmittedNsForKey : Option (List ExpectedInAck) :=
  let indices := unsubmittedAckIndicesForKey messages key
  if indices.length < 2 then some messages
  else
    let prio : Nat → Todo := fun i => ((messages[i]?).map (·.pduPrio)).getD 0
    let nsSequence := indices.map (fun i => ((messages[i]?).map (·.ns)).getD 0)
    let priorityOrder := indices.insertionSort (fun i j : Nat => prio j ≤ prio i)
    rewriteNsAt messages (priorityOrder.zip nsSequence)

/-- Submits the waiting transfer of highest priority on each link that is not blocked. -/
def submitFreeLoop (mainCarrier : Nat) (dltime : TdmaTime) : Nat → Port → List ScheduledOutAck →
    List ExpectedInAck → List BasicLinkKey →
    Option (Port × List ScheduledOutAck × List ExpectedInAck)
  | 0, p, acks, messages, _ => some (p, acks, messages)
  | fuel + 1, p, acks, messages, linkBlocked =>
    match highestPriorityIndex (fun a : ExpectedInAck =>
        a.tSubmittedToUmac.isNone && !linkBlocked.contains a.key) (·.pduPrio) messages 0 none with
    | none => some (p, acks, messages)
    | some idx =>
      match messages[idx]? with
      | none => none
      | some selected => do
        let messages ← normalizeUnsubmittedNsForKey messages selected.key
        let ack ← messages[idx]?
        let (p, acks, ack) ← foldWaitingAckIntoMacReadyBlData mainCarrier p acks ack
        let (p, ack) := submitForAcknowledgedTransmission p ack
          (dltime.forwardToTimeslot ack.tFirst.t)
        submitFreeLoop mainCarrier dltime fuel p acks (messages.set idx ack)
          (selected.key :: linkBlocked)

def submitFreeMessagesToUmac : Option Llc := do
  let s := cancelLowerPriorityPendingMacTransfersForEmergency s
  let linkBlocked := (s.outboundMessages.filter (·.tSubmittedToUmac.isSome)).map (·.key)
  let (p, acks, messages) ← submitFreeLoop s.mainCarrier s.dltime s.outboundMessages.length s.port
    s.scheduledOutAcks s.outboundMessages linkBlocked
  some { s with port := p, scheduledOutAcks := acks, outboundMessages := messages }

end NexusBs.Llc
