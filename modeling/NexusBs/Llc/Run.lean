import NexusBs.Llc.AdvancedLink
import NexusBs.Lib.Run

namespace NexusBs.Llc
open BitBuffer

/-! Reception on basic links -/

/-- Checksum flag, N(S), N(R) and what follows the header of a basic link PDU. -/
def blHeaderOf (pduType : LlcPduType) (pdu : BitBuffer) :
    Option (Bool × Option Nat × Option Nat × BitBuffer) :=
  match pduType with
  | .blAdata | .blAdataFcs =>
    match BlAdata.fromBitbuf pdu with
    | .ok (header, pdu) => some (header.hasFcs, some header.ns, some header.nr, pdu)
    | .error _ => none
  | .blData | .blDataFcs =>
    match BlData.fromBitbuf pdu with
    | .ok (header, pdu) => some (header.hasFcs, some header.ns, none, pdu)
    | .error _ => none
  | .blAck | .blAckFcs =>
    match BlAck.fromBitbuf pdu with
    | .ok (header, pdu) => some (header.hasFcs, none, some header.nr, pdu)
    | .error _ => none
  | .blUdata | .blUdataFcs =>
    match BlUdata.fromBitbuf pdu with
    | .ok (header, pdu) => some (header.hasFcs, none, none, pdu)
    | .error _ => none
  | _ => none

def inboundDuplicateStateExpired (state : ReceiveSeqState) (now : TdmaTime) : Bool :=
  decide (downlinkSignallingFramesElapsed state.receivedAt now state.ackTimeslot >
    inboundDuplicateSuppressionSignallingFrames)

variable (s : Llc) (addr : TetraAddress) (prim : TmaUnitdataInd) (report : TmaReport)

def pruneExpiredInboundReceiveSeq (now : TdmaTime) : Llc :=
  { s with
    inboundReceiveSeq := fun key =>
      (s.inboundReceiveSeq key).filter (fun state => !inboundDuplicateStateExpired state now) }

/-- Takes note of a received N(S) and schedules its acknowledgement. Returns whether it is a
repetition, and the handle of the indication. -/
def receiveNs (ns : Nat) : Llc × Bool × Todo :=
  let msgDltime := s.dltime.addTimeslots (-2)
  let key : BasicLinkKey := ⟨prim.mainAddress, prim.endpointId⟩
  let s := s.pruneExpiredInboundReceiveSeq s.dltime
  let duplicate := (s.inboundReceiveSeq key).any (fun state => state.lastNs == ns)
  let (handle, s) :=
    if duplicate then
      match scheduledOutAckHandleForKey s.scheduledOutAcks key with
      | some handle => (handle, s)
      | none => s.takeTlDataIndReqHandle
    else
      let (handle, s) := s.takeTlDataIndReqHandle
      (handle, { s with
        inboundReceiveSeq := Function.update s.inboundReceiveSeq key
          (some ⟨ns, msgDltime, msgDltime.t⟩) })
  ({ s with
    scheduledOutAcks := upsertScheduledOutAck s.scheduledOutAcks msgDltime prim.mainAddress
      prim.endpointId ns handle prim.airInterfaceEncryption }, duplicate, handle)

def takeTlSdu (pdu : BitBuffer) (fcsOk : Bool) : Option (Option BitBuffer) :=
  if fcsOk && decide (pdu.lenRemaining > 0) then (pdu.setRawStart pdu.rawPos).map some else some none

def pushTlDataConf (p : Port) (ack : ExpectedInAck) (prim : TmaUnitdataInd)
    (tlSdu : Option BitBuffer) (fcsFlag : Bool) (airInterfaceEncryption : Todo) : Port :=
  p.push (.tlDataConfBl ack.ticket ack.reqHandle { prim.indication ack.linkId tlSdu fcsFlag with
    mainAddress := ack.addr
    endpointId := ack.endpointId
    airInterfaceEncryption := airInterfaceEncryption })

/-- BL-ACK: confirms a transfer, or passes on what it carries as an indication. -/
def rxBlAck (matchingAck : Option ExpectedInAck) (pdu : BitBuffer) (hasFcs fcsOk : Bool) :
    Option Llc := do
  let tlSdu ← takeTlSdu pdu fcsOk
  match matchingAck with
  | some ack =>
    some { s with port := pushTlDataConf s.port ack prim tlSdu hasFcs prim.airInterfaceEncryption }
  | none =>
    match tlSdu with
    | none => some s
    | some tlSdu =>
      let (handle, s) := s.takeTlDataIndReqHandle
      some { s with
        port := s.port.push (.tlaTlDataIndBl handle (prim.indication 0 (some tlSdu) hasFcs)) }

def deliverBl (handle : Option Todo) (pdu : BitBuffer) (hasFcs : Bool) : Option Llc := do
  let tlSdu ← takeTlSdu pdu true
  match handle with
  | none =>
    some { s with port := s.port.push (.tlaTlUnitdataIndBl (prim.indication 0 tlSdu hasFcs)) }
  | some handle =>
    some { s with port := s.port.push (.tlaTlDataIndBl handle (prim.indication 0 tlSdu hasFcs)) }

/-- The N(S) of a PDU whose checksum is right: whether it is a repetition, and the handle. -/
def receiveOptionalNs (ns : Option Nat) : Llc × Bool × Option Todo :=
  match ns with
  | some ns =>
    let (s, duplicate, handle) := s.receiveNs prim ns
    (s, duplicate, some handle)
  | none => (s, false, none)

def processOptionalAck (key : BasicLinkKey) (nr : Option Nat) :
    Option (Llc × Option ExpectedInAck) :=
  match nr with
  | some nr => s.processIncomingAck key nr
  | none => some (s, none)

/-- Confirms the transfer that an N(R) matched. -/
def confirmMatch : Option ExpectedInAck → Llc
  | some ack =>
    { s with port := pushTlDataConf s.port ack prim none ack.fcsFlag ack.airInterfaceEncryption }
  | none => s

/-- BL-DATA, BL-ADATA or BL-UDATA: confirms a transfer, and passes on what is not a repetition.
Only BL-ADATA has both an N(R) that may match and a TL-SDU of its own. -/
def rxBlData (matchingAck : Option ExpectedInAck) (duplicate : Bool) (handle : Option Todo)
    (pdu : BitBuffer) (hasFcs fcsOk : Bool) : Option Llc :=
  if !fcsOk || duplicate then some (s.confirmMatch prim matchingAck)
  else (s.confirmMatch prim matchingAck).deliverBl prim handle pdu hasFcs

/-- A PDU behind its header and checksum: acknowledgements first, then the TL-SDU. -/
def rxBlBody (isBlAck : Bool) (ns nr : Option Nat) (pdu : BitBuffer) (hasFcs fcsOk : Bool) :
    Option Llc :=
  let (s, duplicate, handle) := s.receiveOptionalNs prim (if fcsOk then ns else none)
  (s.processOptionalAck ⟨prim.mainAddress, prim.endpointId⟩ nr).bind (fun (s, matchingAck) =>
    if isBlAck then rxBlAck s prim matchingAck pdu hasFcs fcsOk
    else rxBlData s prim matchingAck duplicate handle pdu hasFcs fcsOk)

/-- New data stops the acknowledgement of older data, even where its checksum is wrong. -/
def cancelAckOnBadFcs (key : BasicLinkKey) (ns : Option Nat) (fcsOk : Bool) : Llc :=
  if ns.isSome && !fcsOk then
    { s with scheduledOutAcks := cancelScheduledOutAckForNewBlData s.scheduledOutAcks key }
  else s

def rxTmaUnitdataIndBl (pduType : LlcPduType) (pdu : BitBuffer) : Option Llc :=
  match blHeaderOf pduType pdu with
  | none => some s
  | some (hasFcs, ns, nr, pdu) =>
    (if hasFcs then Fcs.checkFcs pdu else some true).bind (fun fcsOk =>
      let s := s.cancelAckOnBadFcs ⟨prim.mainAddress, prim.endpointId⟩ ns fcsOk
      if !fcsOk && (pduType == .blDataFcs || pduType == .blUdataFcs) then some s
      else
        (stripValidatedFcs pdu (hasFcs && fcsOk)).bind (fun pdu =>
          s.rxBlBody prim (pduType == .blAck || pduType == .blAckFcs) ns nr pdu hasFcs fcsOk))

def rxTmaUnitdataInd : Option Llc :=
  match prim.pdu with
  | none => some s
  | some pdu =>
    match llcPduTypeOf pdu with
    | none => some s
    | some pduType =>
      match pduType with
      | .blAdata | .blAdataFcs | .blData | .blDataFcs | .blUdata | .blUdataFcs | .blAck | .blAckFcs =>
        s.rxTmaUnitdataIndBl prim pduType pdu
      | .alSetup => s.rxAlSetup prim pdu
      | .alDataAlFinal => s.rxAlDataFinal prim pdu
      | .alAckAlRnr => s.rxAlAck prim pdu
      | .alAlUdataAlUfinal | .alReconnect | .alDisc | .suppLlcPdu | .l2SigPdu => some s

/-! Reports of the MAC -/

inductive TmaReportOwner where
  | blData (idx : Nat)
  | blUdata (idx : Nat)
  | alData (idx segmentIdx : Nat)

def indicesWhere {α : Type} (p : α → Bool) (l : List α) : List Nat :=
  (List.range l.length).filter (fun i => (l[i]?).any p)

/-- Every submitted request with the handle. -/
def tmaReportOwners (reqHandle : Todo) : List TmaReportOwner :=
  (indicesWhere (fun a : ExpectedInAck => decide (a.reqHandle = reqHandle) &&
    a.tSubmittedToUmac.isSome) s.outboundMessages).map .blData ++
  (indicesWhere (fun u : QueuedUdata => decide (u.reqHandle = reqHandle) && u.submitted)
    s.outboundUdataMessages).map .blUdata ++
  (List.range s.outboundAlMessages.length).flatMap (fun i =>
    (indicesWhere (fun g : ExpectedAlSegment => decide (g.reqHandle = reqHandle) &&
      g.tSubmittedToUmac.isSome) (((s.outboundAlMessages[i]?).map (·.segments)).getD [])).map
        (.alData i))

/-- Takes the MAC request of BL-DATA at `idx` as failed or, after a fragmentation failure, sends
it again. -/
def handleBlTmaFailure (idx : Nat) (ack : ExpectedInAck) : Option Llc :=
  let removed := s.outboundMessages.eraseIdx idx
  if report = .fragmentationFailure ∧ ack.retransmitCount < n252BlMaxTlsduRetransmitsAcked then do
    let ack := { ack with
      currentMacReporter := ack.currentMacReporter.map (·.tryMark .discarded)
      tUmacDone := some s.dltime
      tRetransmissionsExhausted := none
      retransmitCount := ack.retransmitCount + 1 }
    let (p, acks, ack) ← foldWaitingAckIntoMacReadyBlData s.mainCarrier s.port s.scheduledOutAcks ack
    let (p, ack) := submitForAcknowledgedTransmission p ack (s.dltime.forwardToTimeslot ack.tFirst.t)
    some { s with
      port := p
      scheduledOutAcks := acks
      outboundMessages := removed.insertIdx idx ack }
  else some { s with port := reportBlFailed s.port ack, outboundMessages := removed }

def handleBlTmaReportAtIndex (idx : Nat) : Option Llc :=
  match s.outboundMessages[idx]? with
  | none => none
  | some ack =>
    match report with
    | .randomAccessFailure | .failedTransfer | .fragmentationFailure =>
      handleBlTmaFailure s report idx ack
    | .confirmHandle => some s
    | .successRandomAccess | .successReservedOrStealing =>
      let done := { ack with
        currentMacReporter := ack.currentMacReporter.map (·.tryMark .transmitted)
        tUmacDone := some (ack.tUmacDone.getD s.dltime)
        firstCompleteReportSent := true }
      some { s with
        port := if ack.firstCompleteReportSent then s.port else reportBlFirstComplete s.port ack
        outboundMessages := s.outboundMessages.set idx done }

def finishUdata (idx : Nat) (udata : QueuedUdata) (report : TlaReport) : Llc :=
  { s with
    port := s.port.pushTlaReport none udata.reqHandle report udata.endpointId
    outboundUdataMessages := s.outboundUdataMessages.eraseIdx idx }

def udataGivenUp (udata : QueuedUdata) : Bool :=
  decide (udata.failedTransmissions ≥ if udata.n253 = 0 then 2 else udata.n253 + 1) &&
    decide (udata.completeTransmissions < udata.targetCompleteTransmissions)

def handleUdataTmaReportAtIndex (idx : Nat) : Option Llc :=
  match s.outboundUdataMessages[idx]? with
  | none => none
  | some udata =>
    if !udata.submitted then some s
    else
      let kept := fun u => { s with outboundUdataMessages := s.outboundUdataMessages.set idx u }
      match report with
      | .confirmHandle => some s
      | .successRandomAccess => some (s.finishUdata idx udata .successfulTransfer)
      | .successReservedOrStealing =>
        let udata := { udata with
          currentMacReporter := none
          completeTransmissions := min (udata.completeTransmissions + 1) 255
          submitted := false }
        if udata.completeTransmissions ≥ udata.targetCompleteTransmissions then
          some (s.finishUdata idx udata .successfulTransfer)
        else some (kept udata)
      | .failedTransfer | .fragmentationFailure =>
        let udata := { udata with
          currentMacReporter := none
          failedTransmissions := min (udata.failedTransmissions + 1) 255
          submitted := false }
        if udataGivenUp udata then
          some (s.finishUdata idx udata .failedTransfer)
        else some (kept udata)
      | .randomAccessFailure => some (s.finishUdata idx udata .failedTransfer)

def markSegmentDone (al : ExpectedAlAck) (segmentIdx : Nat) (segment : ExpectedAlSegment)
    (dltime : TdmaTime) : ExpectedAlAck :=
  { al with
    segments := al.segments.set segmentIdx { segment with
      currentMacReporter := segment.currentMacReporter.map (·.tryMark .transmitted)
      tUmacDone := some dltime } }

/-- A report on one segment. The transmission is complete once every unacknowledged segment is. -/
def handleAlTmaReportAtIndex (idx segmentIdx : Nat) : Option Llc :=
  match s.outboundAlMessages[idx]? with
  | none => none
  | some al =>
    match report with
    | .confirmHandle => some s
    | .successRandomAccess | .successReservedOrStealing =>
      match al.segments[segmentIdx]? with
      | none => some s
      | some segment =>
        let al := markSegmentDone al segmentIdx segment s.dltime
        if al.tUmacDone.isNone && alCurrentMacState al == some .transmitted then
          some { s with
            port := reportAlFirstComplete s.port al
            outboundAlMessages := s.outboundAlMessages.set idx
              { al with tUmacDone := some s.dltime, firstCompleteReportSent := true } }
        else some { s with outboundAlMessages := s.outboundAlMessages.set idx al }
    | .failedTransfer | .fragmentationFailure | .randomAccessFailure =>
      some (s.failOutboundAlTransferAtIndex idx)

/-- A report is acted on only where its handle names one submitted request. -/
def rxTmaReportInd (reqHandle : Todo) (report : TmaReport) : Option Llc :=
  match s.tmaReportOwners reqHandle with
  | [] =>
    match indicesWhere (fun u : QueuedUdata => decide (u.reqHandle = reqHandle))
        s.outboundUdataMessages with
    | [idx] => s.handleUdataTmaReportAtIndex report idx
    | _ => some s
  | [.blData idx] => s.handleBlTmaReportAtIndex report idx
  | [.blUdata idx] => s.handleUdataTmaReportAtIndex report idx
  | [.alData idx segmentIdx] => s.handleAlTmaReportAtIndex report idx segmentIdx
  | _ => some s

/-! Requests of the user -/

def rxTlaTldataReqBl (prim : TlaTlDataReqBl) : Option Llc :=
  let (ticket, s) := s.takeTicket
  if prim.linkId ≠ 0 then s.rxTlaTldataReqAl prim ticket else s.rxTlaTldataReqBasic prim ticket

/-- A response travels in the acknowledgement it is for; where that is gone it is sent as a
transfer of its own. -/
def rxTlaTldataRespBl (prim : TlDataRespBl) : Option Llc :=
  if tlSduExceedsN251 prim.tlSdu prim.fcsFlag then
    let (ticket, s) := s.takeTicket
    some { s with
      port := s.port.pushTlaReport (some ticket) prim.reqHandle .failedTransfer prim.endpointId }
  else
    match takeScheduledOutAckForResponse s.scheduledOutAcks ⟨prim.mainAddress, prim.endpointId⟩
        prim.reqHandle with
    | none =>
      s.rxTlaTldataReqBl ⟨prim.mainAddress, prim.linkId, prim.endpointId, prim.tlSdu, prim.pduPrio,
        prim.stealingPermission, prim.subscriberClass, prim.fcsFlag, some prim.airInterfaceEncryption,
        prim.stealingRepeatsFlag, prim.dataClassInfo, prim.reqHandle, none, false⟩
    | some (ack, acks) => do
      let hasFcs := prim.fcsFlag && decide (prim.tlSdu.lenRemaining > 0)
      let pduBuf ← BlAck.toBitbuf ⟨hasFcs, ack.nr⟩ (BitBuffer.newAutoexpand 32)
      let pduBuf ← appendTlSduAndOptionalFcs pduBuf prim.tlSdu hasFcs
      some { s with
        scheduledOutAcks := acks
        port := s.port.push (.tmaUnitdataReq ⟨prim.reqHandle, pduBuf, ack.addr, prim.endpointId, 5,
          stealsBack ack, prim.subscriberClass, some prim.airInterfaceEncryption,
          prim.stealingRepeatsFlag, prim.dataClassInfo, ackChanAlloc ack, none⟩) }

/-! Runs -/

def tickEnd : Option Llc := do
  let s := s.submitAlRetransmissionsToUmac
  let s ← s.submitFreeAlMessagesToUmac
  let s ← s.submitRetransmissionsToUmac
  let s ← s.submitFreeMessagesToUmac
  let p ← submitAckRepliesToUmac s.port s.scheduledOutAcks
  some (submitUdataMsgsToUmac { s with port := p, scheduledOutAcks := [] })

/-- An attempt whose receipt the MAC still holds. -/
inductive Attempt where
  | bl (idx : Nat)
  | udata (idx : Nat)
  | al (idx segmentIdx : Nat)

def macMarks (attempt : Attempt) (outcome : TxState) : Llc :=
  match attempt with
  | .bl idx =>
    { s with
      outboundMessages := s.outboundMessages.modify idx (fun a =>
        { a with currentMacReporter := a.currentMacReporter.map (·.tryMark outcome) }) }
  | .udata idx =>
    { s with
      outboundUdataMessages := s.outboundUdataMessages.modify idx (fun u =>
        { u with currentMacReporter := u.currentMacReporter.map (·.tryMark outcome) }) }
  | .al idx segmentIdx =>
    { s with
      outboundAlMessages := s.outboundAlMessages.modify idx (fun al =>
        { al with
          segments := al.segments.modify segmentIdx (fun g =>
            { g with currentMacReporter := g.currentMacReporter.map (·.tryMark outcome) }) }) }

inductive Op where
  | tickStart (ts : TdmaTime)
  | tickEnd
  | tlaTlDataReq (prim : TlaTlDataReqBl)
  | tlaTlDataResp (prim : TlDataRespBl)
  | tlaTlUnitdataReq (prim : TlaTlUnitdataReqBl)
  | tmaUnitdataInd (prim : TmaUnitdataInd)
  | tmaReportInd (reqHandle : Todo) (report : TmaReport)
  | macMarks (attempt : Attempt) (transmitted : Bool)

def Op.request : Op → Option TlaTlDataReqBl
  | .tlaTlDataReq prim => some prim
  | .tlaTlDataResp prim =>
    some ⟨prim.mainAddress, prim.linkId, prim.endpointId, prim.tlSdu, prim.pduPrio,
      prim.stealingPermission, prim.subscriberClass, prim.fcsFlag, some prim.airInterfaceEncryption,
      prim.stealingRepeatsFlag, prim.dataClassInfo, prim.reqHandle, none, false⟩
  | _ => none

def step : Op → Option Llc
  | .tickStart ts => some { s with dltime := ts }
  | .tickEnd => s.tickEnd
  | .tlaTlDataReq prim => s.rxTlaTldataReqBl prim
  | .tlaTlDataResp prim => s.rxTlaTldataRespBl prim
  | .tlaTlUnitdataReq prim => s.rxTlaTlunitdataReqBl prim
  | .tmaUnitdataInd prim => s.rxTmaUnitdataInd prim
  | .tmaReportInd reqHandle report => s.rxTmaReportInd reqHandle report
  | .macMarks attempt transmitted =>
    some (s.macMarks attempt (if transmitted then .transmitted else .discarded))

/-! The simplest primitives -/

def TmaUnitdataInd.plain (bits : List Bool) : TmaUnitdataInd where
  pdu := some (BitBuffer.fromBitarr bits)
  mainAddress := addr
  scramblingCode := 0
  endpointId := 0
  newEndpointId := none
  cssEndpointId := none
  airInterfaceEncryption := 0
  chanChangeResponseReq := false
  chanChangeHandle := none
  chanInfo := none

def plainTlDataReq (linkId : LinkId) (reqHandle pduPrio : Todo) (bits : List Bool) :
    TlaTlDataReqBl where
  mainAddress := addr
  linkId := linkId
  endpointId := 0
  tlSdu := BitBuffer.fromBitarr bits
  pduPrio := pduPrio
  stealingPermission := false
  subscriberClass := 0
  fcsFlag := false
  airInterfaceEncryption := none
  stealingRepeatsFlag := none
  dataClassInfo := none
  reqHandle := reqHandle
  chanAlloc := none
  txReporter := false

/-- An AL-SETUP that reports success for the link, with one retry for the TL-SDU and one for
each of its segments. -/
def plainAlSetup (linkId : LinkId) : AlSetup where
  acknowledgedService := true
  advancedLinkNumber := linkId - 1
  maxTlSduLenCode := 0
  connectionWidth := false
  advancedLinkSymmetry := false
  uplinkTimeslots := none
  downlinkTimeslots := none
  throughputCode := 0
  windowSizeCode := 1
  maxTlSduRetransmissions := 1
  maxSegmentRetransmissions := 1
  setupReport := AlSetup.setupReportSuccess
  ns := none
  augmented := none

def setUpLink (linkId : LinkId) : Op :=
  .tmaUnitdataInd (.plain addr (fieldBits (plainAlSetup linkId).fields))

def alAckFrom (block : AlAckBlock) : Op :=
  .tmaUnitdataInd (.plain addr
    (fieldBits [(11, 4), (1, 1), (block.nr, 3), (block.acknowledgementLength, 6)]))

end NexusBs.Llc
