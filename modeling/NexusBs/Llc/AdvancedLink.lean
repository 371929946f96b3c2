import NexusBs.Llc.BasicLink

namespace NexusBs.Llc
open BitBuffer Function

/-! Setup -/

def n271MaxTlSduBytes (maxTlSduLenCode : Nat) : Nat := 32 * 2 ^ min maxTlSduLenCode 7

def negotiateInboundAlSetupResponse (setup : AlSetup) : AlSetup :=
  let response := setup.responseWithLowerPhaseModTimeslots alSetupPhaseModPdchMaxTimeslots
  if response.setupReport = AlSetup.setupReportServiceChange then response else setup.responseSuccess

def isOtherLink (key existing : AdvancedLinkKey) : Bool :=
  decide (existing.peer = key.peer ∧ existing.linkId ≠ key.linkId)

variable (s : Llc) (p : Port) (al : ExpectedAlAck) (segment : ExpectedAlSegment)

/-- Forgets the other advanced links of the peer, with what waits to be sent on them. -/
def clearOtherOriginalAdvancedLinks (key : AdvancedLinkKey) : Llc :=
  { s with
    advancedLinks := fun k => if isOtherLink key k then none else s.advancedLinks k
    pendingAdvancedLinkSetups := fun k =>
      if isOtherLink key k then none else s.pendingAdvancedLinkSetups k
    advancedLinkRx := fun k => if isOtherLink key k then none else s.advancedLinkRx k
    outboundAlMessages := s.outboundAlMessages.filter (fun al => !isOtherLink key al.key) }

def reportAlFirstComplete : Port :=
  (p.markServiceFirstComplete al.ticket).pushTlaReport (some al.ticket) al.reqHandle
    .firstCompleteTransmission al.key.endpointId

def reportAlFailed : Port :=
  (p.markServiceFailed al.ticket).pushTlaReport (some al.ticket) al.reqHandle .failedTransfer
    al.key.endpointId

def clearAdvancedLinkTransferState (key : AdvancedLinkKey) : Llc :=
  { s with
    advancedLinkRx := update s.advancedLinkRx key none
    port := (s.outboundAlMessages.filter (fun al => decide (al.key = key))).foldl reportAlFailed s.port
    outboundAlMessages := s.outboundAlMessages.filter (fun al => !decide (al.key = key)) }

def establishAdvancedLink (key : AdvancedLinkKey) (setup : AlSetup) : Llc :=
  let s := (s.clearOtherOriginalAdvancedLinks key).clearAdvancedLinkTransferState key
  { s with
    pendingAdvancedLinkSetups := update s.pendingAdvancedLinkSetups key none
    advancedLinks := update s.advancedLinks key (some
      ⟨n271MaxTlSduBytes setup.maxTlSduLenCode, setup.maxTlSduRetransmissions,
        setup.maxSegmentRetransmissions, 0, none, none⟩) }

/-- The links that a setup can name: its number field has two bits. -/
def linkIds : List LinkId := [1, 2, 3, 4]

def resolveOriginalAdvancedLinkKey (peer : BasicLinkKey) : Option AdvancedLinkKey :=
  match linkIds.filter (fun l => (s.advancedLinks ⟨peer.addr, peer.endpointId, l⟩).isSome) with
  | [l] => some ⟨peer.addr, peer.endpointId, l⟩
  | _ => none

/-! Flow control -/

def alReceiverNotReadyExpired (since now : TdmaTime) : Bool :=
  decide (since.age now ≥ t271ReceiverNotReadyForTxTimer)

def clearExpiredAlReceiverNotReady : Llc :=
  { s with
    advancedLinks := fun k => (s.advancedLinks k).map (fun session =>
      { session with
        receiverNotReadySince :=
          session.receiverNotReadySince.filter (fun t => !alReceiverNotReadyExpired t s.dltime) }) }

def applyAlReceiverFlowControl (peer : BasicLinkKey) (receiverReady : Bool) : Llc :=
  match s.resolveOriginalAdvancedLinkKey peer with
  | none => s
  | some key =>
    { s with
      advancedLinks := update s.advancedLinks key
        ((s.advancedLinks key).map (fun session =>
          { session with receiverNotReadySince := if receiverReady then none else some s.dltime })) }

def alReceiverNotReady (links : AdvancedLinkKey → Option AdvancedLinkSession) (key : AdvancedLinkKey) :
    Bool :=
  ((links key).bind (·.receiverNotReadySince)).isSome

def alTransferIsRnrAllowed : Bool :=
  al.firstCompleteReportSent || al.selectiveSegmentRetryPending ||
    al.segments.any (·.retransmissionRequested)

def maxTlSduRetransmissions (links : AdvancedLinkKey → Option AdvancedLinkSession)
    (key : AdvancedLinkKey) : Nat :=
  ((links key).map (·.maxTlSduRetransmissions)).getD 0

def maxSegmentRetransmissions (links : AdvancedLinkKey → Option AdvancedLinkSession)
    (key : AdvancedLinkKey) : Nat :=
  ((links key).map (·.maxSegmentRetransmissions)).getD 0

/-! Requests -/

def alTlSduWithFcsOctets (tlSdu : BitBuffer) : Nat := (tlSdu.lenRemaining + 32 + 7) / 8

def alTlSduWithFcs (tlSdu : BitBuffer) : Option BitBuffer := do
  let (b, _) ← (newAutoexpand (tlSdu.lenRemaining + 32)).copyBits tlSdu tlSdu.lenRemaining
  let fcs ← Fcs.computeFcs b 0 b.len
  let b ← b.writeBits fcs.toNat 32
  b.seek 0

def alOriginalSegmentPayloadBits (mainCarrier : Nat) (addr : TetraAddress)
    (chanAlloc : Option CmceChanAllocReq) : Nat :=
  max (schFMacResourceTmSduCapacityBits mainCarrier addr chanAlloc - alOriginalDataHeaderBits) 1

def splitLoop (segmentPayloadBits : Nat) : Nat → BitBuffer → Option (List BitBuffer)
  | 0, _ => some []
  | count + 1, tlSdu => do
    let chunkBits := min tlSdu.lenRemaining segmentPayloadBits
    let (segment, tlSdu) ← (newAutoexpand chunkBits).copyBits tlSdu chunkBits
    let segment ← segment.seek 0
    let segments ← splitLoop segmentPayloadBits count tlSdu
    some (segment :: segments)

/-- The inner `none` is the refusal of an empty or oversized TL-SDU. -/
def splitAlTlSduSegments (tlSduWithFcs : BitBuffer) (segmentPayloadBits : Nat) :
    Option (Option (List BitBuffer)) :=
  let count := (tlSduWithFcs.lenRemaining + segmentPayloadBits - 1) / segmentPayloadBits
  if tlSduWithFcs.lenRemaining = 0 ∨ 256 < count then some none
  else (splitLoop segmentPayloadBits count tlSduWithFcs).map some

def alSegmentPdu (header : AlData) (payload : BitBuffer) : Option BitBuffer := do
  let b ← header.toBitbuf (newAutoexpand (17 + payload.lenRemaining))
  let (b, _) ← b.copyBits payload payload.lenRemaining
  b.seek 0

/-- Header of segment `idx` of `count`: every fourth and the last ask for an acknowledgement. -/
def alSegmentHeader (ns count idx : Nat) : AlData :=
  ⟨idx == count - 1, idx == count - 1 || (idx + 1) % alOriginalSegmentsPerAckRequest == 0, ns,
    idx % 256⟩

def newAlSegment (prim : TlaTlDataReqBl) (ss : Nat) (handle : Todo) (pdu : BitBuffer) :
    ExpectedAlSegment where
  ss := ss
  reqHandle := handle
  tSubmittedToUmac := none
  tUmacDone := none
  currentMacReporter := none
  acknowledged := false
  retransmissionRequested := false
  ackRequestProbePending := false
  ackRequestProbeCount := 0
  retransmitCount := 0
  retransmissionBuf := ⟨handle, pdu, prim.mainAddress, prim.endpointId, prim.pduPrio,
    prim.stealingPermission, prim.subscriberClass, prim.airInterfaceEncryption,
    prim.stealingRepeatsFlag, prim.dataClassInfo, prim.chanAlloc, none⟩

/-- Segments from number `idx` on; a transfer of one segment keeps the handle of the request. -/
def buildAlSegments (prim : TlaTlDataReqBl) (ns count : Nat) :
    Nat → List BitBuffer → Llc → Option (List ExpectedAlSegment × Llc)
  | _, [], s => some ([], s)
  | idx, payload :: payloads, s => do
    let pdu ← alSegmentPdu (alSegmentHeader ns count idx) payload
    let (handle, s) := if count = 1 then (prim.reqHandle, s) else s.takeTlDataIndReqHandle
    let (segments, s) ← buildAlSegments prim ns count (idx + 1) payloads s
    some (newAlSegment prim (idx % 256) handle pdu :: segments, s)

def expectedAckTimeslotForOutboundAl (prim : TlaTlDataReqBl) : Nat :=
  match prim.chanAlloc.bind (·.timeslots.first) with
  | some ts => ts
  | none =>
    if 2 ≤ prim.endpointId ∧ prim.endpointId ≤ 4 then prim.endpointId
    else if prim.linkId ≠ 0 then firstPacketDataTimeslot
    else commonControlTimeslot

def newExpectedAlAck (prim : TlaTlDataReqBl) (ticket : Ticket) (ns : Nat)
    (segments : List ExpectedAlSegment) (dltime : TdmaTime) : ExpectedAlAck where
  key := ⟨prim.mainAddress, prim.endpointId, prim.linkId⟩
  ns := ns
  reqHandle := prim.reqHandle
  pduPrio := prim.pduPrio
  tFirst := dltime
  tSubmittedToUmac := none
  tUmacDone := none
  ticket := ticket
  ackTimeslot := expectedAckTimeslotForOutboundAl prim
  ackStealingRepeatsFlag := prim.stealingRepeatsFlag
  segments := segments
  retransmitCount := 0
  firstCompleteReportSent := false
  tRetransmissionsExhausted := none
  selectiveSegmentRetryPending := false

def bumpNs (session : AdvancedLinkSession) : AdvancedLinkSession :=
  { session with txNextNs := (session.txNextNs + 1) % 8 }

/-- Segments the TL-SDU and queues the transfer; N(S) is used up even by a refused TL-SDU. -/
def admitAl (prim : TlaTlDataReqBl) (ticket : Ticket) (key : AdvancedLinkKey)
    (session : AdvancedLinkSession) : Option Llc := do
  let s := { s with advancedLinks := update s.advancedLinks key (some (bumpNs session)) }
  let payloadBits := alOriginalSegmentPayloadBits s.mainCarrier prim.mainAddress prim.chanAlloc
  let tlSduWithFcs ← alTlSduWithFcs prim.tlSdu
  let split ← splitAlTlSduSegments tlSduWithFcs payloadBits
  match split with
  | none => some { s with port := rejectTldataBacklogFull s.port prim ticket }
  | some payloads => do
    let (segments, s) ← buildAlSegments prim session.txNextNs payloads.length 0 payloads s
    some { s with
      outboundAlMessages := s.outboundAlMessages ++
        [newExpectedAlAck prim ticket session.txNextNs segments s.dltime]
      port := s.port.pushTlaReport (some ticket) prim.reqHandle .noSpecificReport prim.endpointId }

def rxTlaTldataReqAl (prim : TlaTlDataReqBl) (ticket : Ticket) : Option Llc :=
  let rejected : Llc := { s with port := rejectTldataBacklogFull s.port prim ticket }
  let key : AdvancedLinkKey := ⟨prim.mainAddress, prim.endpointId, prim.linkId⟩
  if prim.mainAddress.ssiType = .gssi then some rejected
  else if s.outboundAlMessages.length ≥ llcMaxOutboundAckedMessages then some rejected
  else
    match s.advancedLinks key with
    | none => some rejected
    | some session =>
      if alTlSduWithFcsOctets prim.tlSdu > session.maxTlSduLenBytes then some rejected
      else admitAl s prim ticket key session

/-! Transmission -/

/-- What the attempts on the unacknowledged segments add up to. -/
def alCurrentMacStateOf : List ExpectedAlSegment → Option TxState
  | [] => some .transmitted
  | segment :: segments =>
    if segment.acknowledged then alCurrentMacStateOf segments
    else
      match segment.currentMacReporter with
      | none | some .pending => none
      | some .transmitted | some .acknowledged => alCurrentMacStateOf segments
      | some .discarded | some .lost => some .discarded

def alCurrentMacState : Option TxState :=
  if al.segments = [] then none else alCurrentMacStateOf al.segments

def resetSegment : ExpectedAlSegment :=
  { segment with
    tSubmittedToUmac := none
    tUmacDone := none
    currentMacReporter := none
    acknowledged := false
    retransmissionRequested := false
    ackRequestProbePending := false
    ackRequestProbeCount := 0
    retransmitCount := 0 }

def resetAlTransmissionAttempt : ExpectedAlAck :=
  { al with
    tSubmittedToUmac := none
    tUmacDone := none
    tRetransmissionsExhausted := none
    selectiveSegmentRetryPending := false
    segments := al.segments.map resetSegment }

/-- The same PDU with its acknowledgement requested; the inner `none` if it is no AL-DATA. -/
def alSegmentPduWithAckRequest (pdu : BitBuffer) : Option (Option BitBuffer) :=
  match AlData.fromBitbuf (fromBitbuffer pdu) with
  | .error _ => some none
  | .ok (header, reader) =>
    if header.acknowledgementRequested then some (some (fromBitbuffer pdu))
    else (alSegmentPdu { header with acknowledgementRequested := true } reader).map some

def unsubmit : ExpectedAlSegment :=
  { segment with tSubmittedToUmac := none, tUmacDone := none, currentMacReporter := none }

/-- The TM-SDU of an attempt; a retry or a probe asks for an acknowledgement. -/
def attemptPdu : Option BitBuffer :=
  if segment.retransmissionRequested || segment.ackRequestProbePending then
    (alSegmentPduWithAckRequest segment.retransmissionBuf.pdu).map
      (fun updated => updated.getD segment.retransmissionBuf.pdu)
  else some segment.retransmissionBuf.pdu

def skipsSubmission (maxSegmentRetransmissions : Nat) (segment : ExpectedAlSegment) : Bool :=
  segment.acknowledged || segment.tSubmittedToUmac.isSome ||
    (segment.retransmissionRequested && decide (segment.retransmitCount ≥ maxSegmentRetransmissions))

def submittedSegment (dltime : TdmaTime) : ExpectedAlSegment :=
  { segment with
    retransmitCount :=
      if segment.retransmissionRequested then segment.retransmitCount + 1 else segment.retransmitCount
    ackRequestProbeCount :=
      if segment.ackRequestProbePending then min (segment.ackRequestProbeCount + 1) 255
      else segment.ackRequestProbeCount
    tSubmittedToUmac := some dltime
    tUmacDone := none
    currentMacReporter := some .pending
    ackRequestProbePending := false }

def submitSegments (ticket : Ticket) (dltime : TdmaTime) (maxSegmentRetransmissions : Nat) (p : Port) :
    List ExpectedAlSegment → Option (Port × List ExpectedAlSegment × Bool)
  | [] => some (p, [], false)
  | segment :: segments =>
    if skipsSubmission maxSegmentRetransmissions segment then
      (submitSegments ticket dltime maxSegmentRetransmissions p segments).map
        (fun (p, segments, any) => (p, segment :: segments, any))
    else do
      let pdu ← attemptPdu segment
      let p := p.push (.tmaUnitdataReq { segment.retransmissionBuf with
        pdu := pdu, txReporter := some (.al ticket segment.ss) })
      let (p, segments, _) ← submitSegments ticket dltime maxSegmentRetransmissions p segments
      some (p, submittedSegment segment dltime :: segments, true)

def submitForAlTransmission (dltime : TdmaTime) (maxSegmentRetransmissions : Nat) :
    Option (Port × ExpectedAlAck) := do
  let (p, segments, submittedAny) ← submitSegments al.ticket dltime maxSegmentRetransmissions p
    al.segments
  some (p, { al with
    segments := segments
    tSubmittedToUmac := if submittedAny then some dltime else al.tSubmittedToUmac
    tUmacDone := none })

def highestPriorityUnsubmittedAlIndex (links : AdvancedLinkKey → Option AdvancedLinkSession)
    (messages : List ExpectedAlAck) (linkBlocked : List AdvancedLinkKey) : Option Nat :=
  highestPriorityIndex (fun al => al.tSubmittedToUmac.isNone && !linkBlocked.contains al.key &&
    (!alReceiverNotReady links al.key || alTransferIsRnrAllowed al)) (·.pduPrio) messages 0 none

/-- Submits the transfer of highest priority on each link that is not blocked. -/
def submitFreeAlLoop (links : AdvancedLinkKey → Option AdvancedLinkSession) (dltime : TdmaTime) :
    Nat → Port → List ExpectedAlAck → List AdvancedLinkKey → Option (Port × List ExpectedAlAck)
  | 0, p, messages, _ => some (p, messages)
  | fuel + 1, p, messages, linkBlocked =>
    match highestPriorityUnsubmittedAlIndex links messages linkBlocked with
    | none => some (p, messages)
    | some idx =>
      match messages[idx]? with
      | none => none
      | some al => do
        let (p, submitted) ← submitForAlTransmission p al (dltime.forwardToTimeslot al.tFirst.t)
          (maxSegmentRetransmissions links al.key)
        submitFreeAlLoop links dltime fuel p (messages.set idx submitted) (al.key :: linkBlocked)

def submitFreeAlMessagesToUmac : Option Llc := do
  let s := s.clearExpiredAlReceiverNotReady
  let linkBlocked := (s.outboundAlMessages.filter (·.tSubmittedToUmac.isSome)).map (·.key)
  let (p, messages) ← submitFreeAlLoop s.advancedLinks s.dltime s.outboundAlMessages.length s.port
    s.outboundAlMessages linkBlocked
  some { s with port := p, outboundAlMessages := messages }

/-! Retries -/

/-- Schedules the requested segments again, up to one that has used up its retries. -/
def scheduleRequestedLoop (maxSegmentRetransmissions : Nat) :
    List ExpectedAlSegment → List ExpectedAlSegment × Nat × Option Nat
  | [] => ([], 0, none)
  | segment :: segments =>
    if segment.acknowledged || !segment.retransmissionRequested then
      let (rest, n, exhausted) := scheduleRequestedLoop maxSegmentRetransmissions segments
      (segment :: rest, n, exhausted)
    else if segment.retransmitCount ≥ maxSegmentRetransmissions then
      (segment :: segments, 0, some segment.ss)
    else
      let (rest, n, exhausted) := scheduleRequestedLoop maxSegmentRetransmissions segments
      (unsubmit segment :: rest, n + 1, exhausted)

/-- Clears the times of a transfer part of which is to be sent again. -/
def clearAlTimes : ExpectedAlAck :=
  { al with tSubmittedToUmac := none, tUmacDone := none, tRetransmissionsExhausted := none }

/-- Whether segments were scheduled; `none` if a segment has used up its retries. -/
def scheduleRequestedAlSegmentRetries (maxSegmentRetransmissions : Nat) :
    ExpectedAlAck × Option Bool :=
  match scheduleRequestedLoop maxSegmentRetransmissions al.segments with
  | (segments, _, some _) => ({ al with segments := segments }, none)
  | (segments, n, none) =>
    if 0 < n then (clearAlTimes { al with segments := segments }, some true)
    else ({ al with segments := segments }, some false)

/-- Sends the last submitted segment again to ask for the acknowledgement. -/
def scheduleAlAckRequestProbe (maxAckRequestProbes : Nat) : ExpectedAlAck × Option Bool :=
  match al.segments.reverse.findIdx? (·.tSubmittedToUmac.isSome) with
  | none => (al, some false)
  | some j =>
    let idx := al.segments.length - 1 - j
    match al.segments[idx]? with
    | none => (al, some false)
    | some segment =>
      if segment.ackRequestProbeCount ≥ maxAckRequestProbes then (al, none)
      else
        let probe := { unsubmit segment with ackRequestProbePending := true }
        (clearAlTimes { al with segments := al.segments.set idx probe }, some true)

def alLateAckGraceExpired (now : TdmaTime) : Bool :=
  match al.tRetransmissionsExhausted with
  | none => false
  | some startedAt =>
    decide (t251DownlinkFramesElapsed startedAt now al.ackTimeslot al.ackStealingRepeatsFlag ≥
      alLateAckGraceSignallingFrames)

def noteAlUmacDone (dltime : TdmaTime) : Port × ExpectedAlAck :=
  let macState := alCurrentMacState al
  if al.tUmacDone.isNone && (macState == some .transmitted || macState == some .discarded) then
    let al := { al with tUmacDone := some dltime }
    if macState == some .transmitted && !al.firstCompleteReportSent then
      (reportAlFirstComplete p al, { al with firstCompleteReportSent := true })
    else (p, al)
  else (p, al)

/-- The segment-wise part of a retry: `some true` if it settled the matter. -/
def scheduleAlSegments (maxSegmentRetransmissions : Nat) : ExpectedAlAck × Option Bool :=
  if al.selectiveSegmentRetryPending then
    scheduleRequestedAlSegmentRetries al maxSegmentRetransmissions
  else if !al.firstCompleteReportSent then (al, some false)
  else scheduleAlAckRequestProbe al maxSegmentRetransmissions

/-- The whole TL-SDU again, or the end of the retries. The flag says that it is given up. -/
def retryAlTlSdu (dltime : TdmaTime) (maxRetransmissions : Nat) : ExpectedAlAck × Bool :=
  if al.retransmitCount < maxRetransmissions then
    (resetAlTransmissionAttempt { al with retransmitCount := al.retransmitCount + 1 }, false)
  else if !al.firstCompleteReportSent then (al, true)
  else if al.tRetransmissionsExhausted.isNone then
    ({ al with tRetransmissionsExhausted := some dltime }, false)
  else (al, alLateAckGraceExpired al dltime)

/-- One transfer in the retry pass. The flag says that it is given up. -/
def retryAlOne (links : AdvancedLinkKey → Option AdvancedLinkSession) (dltime : TdmaTime) (p : Port)
    (al : ExpectedAlAck) : Port × ExpectedAlAck × Bool :=
  if al.tRetransmissionsExhausted.isSome then (p, al, alLateAckGraceExpired al dltime)
  else
    let (p, al) := noteAlUmacDone p al dltime
    match al.tUmacDone with
    | none => (p, al, false)
    | some tUmacDone =>
      if t251DownlinkFramesElapsed tUmacDone dltime al.ackTimeslot al.ackStealingRepeatsFlag <
          t252AlAckWaitingSignallingFrames then (p, al, false)
      else
        match scheduleAlSegments al (maxSegmentRetransmissions links al.key) with
        | (al, some true) => (p, al, false)
        | (al, _) =>
          let (al, givenUp) := retryAlTlSdu al dltime (maxTlSduRetransmissions links al.key)
          (p, al, givenUp)

def retryAlAll (links : AdvancedLinkKey → Option AdvancedLinkSession) (dltime : TdmaTime) (p : Port) :
    List ExpectedAlAck → Port × List (ExpectedAlAck × Bool)
  | [] => (p, [])
  | al :: messages =>
    let (p, al, givenUp) := retryAlOne links dltime p al
    let (p, messages) := retryAlAll links dltime p messages
    (p, (al, givenUp) :: messages)

/-- The retry pass; transfers that are given up are failed last to first. -/
def submitAlRetransmissionsToUmac : Llc :=
  let (p, messages) := retryAlAll s.advancedLinks s.dltime s.port s.outboundAlMessages
  { s with
    port := ((messages.filter (·.2)).reverse.map (·.1)).foldl reportAlFailed p
    outboundAlMessages := (messages.filter (fun m => !m.2)).map (·.1) }

/-! Acknowledgements from the peer -/

/-- Index of the one transfer for the peer with this N(S). -/
def findOutboundAlAckBlockMatch (messages : List ExpectedAlAck) (peer : BasicLinkKey) (nr : Nat) :
    Option Nat :=
  match (List.range messages.length).filter (fun i =>
      (messages[i]?).any (fun al => decide (al.key.peer = peer) && al.ns == nr)) with
  | [idx] => some idx
  | _ => none

def alAckBlockCoveredEnd (block : AlAckBlock) : Option Nat :=
  if !block.isSelectiveSegmentAck || block.isRestOfSduCorrectlyReceived then none
  else block.sr.map (fun sr => min (sr + block.acknowledgementLength) 255 - 1)

/-- What the block says about a segment. -/
def alSegmentAcknowledgedInBlock (block : AlAckBlock) (continuationAfter : Option Nat) (ss : Nat) :
    Option Bool :=
  if !block.isSelectiveSegmentAck then none
  else if ss < (continuationAfter.map (fun covered => min (covered + 1) 255)).getD 0 then none
  else if block.isRestOfSduCorrectlyReceived then some true
  else
    block.sr.bind (fun sr =>
      if ss < sr then some true
      else if ss = sr then some false
      else if ss - sr ≥ block.acknowledgementLength then none
      else some (block.acknowledgementBitmap.testBit (ss - sr - 1)))

def alSegmentRetryPendingOrInflight : Bool :=
  if segment.retransmissionRequested || segment.ackRequestProbePending then true
  else if segment.tSubmittedToUmac.isNone then false
  else if segment.tUmacDone.isNone then true
  else segment.currentMacReporter == some .pending

def completeOutboundAlTransferAtIndex (idx : Nat) : Option Llc :=
  match s.outboundAlMessages[idx]? with
  | none => some s
  | some outbound =>
    let p := if outbound.firstCompleteReportSent then s.port else reportAlFirstComplete s.port outbound
    (p.markAcknowledged outbound.ticket).map (fun p =>
      { s with
        port := p.pushTlaReport (some outbound.ticket) outbound.reqHandle .successfulTransfer
          outbound.key.endpointId
        outboundAlMessages := s.outboundAlMessages.eraseIdx idx })

def failOutboundAlTransferAtIndex (idx : Nat) : Llc :=
  match s.outboundAlMessages[idx]? with
  | none => s
  | some outbound =>
    { s with
      port := reportAlFailed s.port outbound
      outboundAlMessages := s.outboundAlMessages.eraseIdx idx }

/-- What a selective block does to the segments: the segments, the number of retries that are
newly asked for, and a segment whose retries are used up, where the scan stops. -/
structure SelectiveScan where
  segments : List ExpectedAlSegment
  newlyRequested : Nat
  exhausted : Option Nat

def SelectiveScan.cons (n : Nat) (scan : SelectiveScan) : SelectiveScan :=
  { scan with segments := segment :: scan.segments, newlyRequested := scan.newlyRequested + n }

def acknowledgeSegment : ExpectedAlSegment :=
  { segment with
    acknowledged := true
    retransmissionRequested := false
    ackRequestProbePending := false
    currentMacReporter := segment.currentMacReporter.map (·.tryMark .transmitted) }

def requestSegment : ExpectedAlSegment :=
  { segment with
    acknowledged := false, retransmissionRequested := true, ackRequestProbePending := false }

/-- `wholeRetryLeft`: the TL-SDU as a whole may still be sent again. -/
def scanSelective (block : AlAckBlock) (continuationAfter : Option Nat)
    (maxSegmentRetransmissions : Nat) (wholeRetryLeft : Bool) : List ExpectedAlSegment → SelectiveScan
  | [] => ⟨[], 0, none⟩
  | segment :: segments =>
    let scan := scanSelective block continuationAfter maxSegmentRetransmissions wholeRetryLeft segments
    match alSegmentAcknowledgedInBlock block continuationAfter segment.ss with
    | some true => scan.cons (acknowledgeSegment segment) 0
    | some false =>
      if segment.acknowledged then scan.cons segment 0
      else if segment.retransmissionRequested && segment.tSubmittedToUmac.isSome &&
          segment.tUmacDone.isSome && decide (segment.retransmitCount ≥ maxSegmentRetransmissions) then
        if wholeRetryLeft then ⟨segment :: segments, 0, some segment.ss⟩
        else scan.cons segment 0
      else if alSegmentRetryPendingOrInflight segment then scan.cons (requestSegment segment) 0
      else if segment.retransmitCount < maxSegmentRetransmissions then
        scan.cons (unsubmit (requestSegment segment)) 1
      else ⟨segment :: segments, 0, some segment.ss⟩
    | none =>
      if alSegmentRetryPendingOrInflight segment then scan.cons segment 0
      else scan.cons { segment with retransmissionRequested := false } 0

/-- The transfer after the scan of a selective block. -/
def applyScan (outbound : ExpectedAlAck) (scan : SelectiveScan) : ExpectedAlAck :=
  let outbound := { outbound with
    segments := scan.segments
    selectiveSegmentRetryPending :=
      scan.segments.any (fun segment => !segment.acknowledged && segment.retransmissionRequested) }
  if 0 < scan.newlyRequested then clearAlTimes outbound else outbound

def rxAlSelectiveBlock (idx : Nat) (outbound : ExpectedAlAck) (block : AlAckBlock)
    (continuationAfter : Option Nat) : Option Llc :=
  let maxTlSdu := maxTlSduRetransmissions s.advancedLinks outbound.key
  let wholeRetryLeft := decide (outbound.retransmitCount < maxTlSdu)
  let scan := scanSelective block continuationAfter
    (maxSegmentRetransmissions s.advancedLinks outbound.key) wholeRetryLeft outbound.segments
  let outbound := applyScan outbound scan
  let replaced := fun al => { s with outboundAlMessages := s.outboundAlMessages.set idx al }
  if scan.exhausted.isSome then
    if wholeRetryLeft then
      some (replaced (resetAlTransmissionAttempt
        { outbound with retransmitCount := outbound.retransmitCount + 1 }))
    else if outbound.firstCompleteReportSent then
      some (replaced { outbound with
        tRetransmissionsExhausted := some (outbound.tRetransmissionsExhausted.getD s.dltime) })
    else some ((replaced outbound).failOutboundAlTransferAtIndex idx)
  else if outbound.segments.all (·.acknowledged) then
    (replaced outbound).completeOutboundAlTransferAtIndex idx
  else some (replaced outbound)

def rxAlAckBlock (peer : BasicLinkKey) (block : AlAckBlock) (continuationAfter : Option Nat) :
    Option Llc :=
  match findOutboundAlAckBlockMatch s.outboundAlMessages peer block.nr with
  | none => some s
  | some idx =>
    match s.outboundAlMessages[idx]? with
    | none => none
    | some outbound =>
      if block.acknowledgesCompleteTlSdu then s.completeOutboundAlTransferAtIndex idx
      else if outbound.tRetransmissionsExhausted.isSome then some s
      else if block.requestsRepeatEntireTlSdu then
        if outbound.retransmitCount < maxTlSduRetransmissions s.advancedLinks outbound.key then
          some { s with
            outboundAlMessages := s.outboundAlMessages.set idx (resetAlTransmissionAttempt
              { outbound with retransmitCount := outbound.retransmitCount + 1 }) }
        else some (s.failOutboundAlTransferAtIndex idx)
      else if block.isSelectiveSegmentAck then
        rxAlSelectiveBlock s idx outbound block continuationAfter
      else some s

/-- The blocks in order; one that goes on with the N(R) of the block before it says nothing
about the segments that block covered. -/
def rxAlAckBlocks (s : Llc) (peer : BasicLinkKey) :
    List AlAckBlock → Option Nat → Option Nat → Option Llc
  | [], _, _ => some s
  | block :: blocks, lastNr, lastCoveredEnd =>
    (rxAlAckBlock s peer block (if lastNr = some block.nr then lastCoveredEnd else none)).bind
      (fun s => rxAlAckBlocks s peer blocks (some block.nr) (alAckBlockCoveredEnd block))

def rxAlAck (prim : TmaUnitdataInd) (pdu : BitBuffer) : Option Llc :=
  match AlAck.fromBitbuf pdu with
  | .error _ => some s
  | .ok (ack, _) =>
    let peer : BasicLinkKey := ⟨prim.mainAddress, prim.endpointId⟩
    rxAlAckBlocks (s.applyAlReceiverFlowControl peer ack.receiverReady) peer
      ack.acknowledgementBlocks none none

/-! Reception -/

def pushAlPdu (addr : TetraAddress) (endpointId : EndpointId) (pdu : BitBuffer)
    (stealingPermission : Bool) (reqHandle airInterfaceEncryption : Todo) : Port :=
  p.push (.tmaUnitdataReq ⟨reqHandle, pdu, addr, endpointId, 5, stealingPermission, 0,
    some airInterfaceEncryption, none, none, none, none⟩)

def pushAlSetupResponseToUmac (addr : TetraAddress) (endpointId : EndpointId) (response : AlSetup)
    (reqHandle airInterfaceEncryption : Todo) : Option Port := do
  let pduBuf ← response.toBitbuf (newAutoexpand 32)
  let pduBuf ← pduBuf.seek 0
  some (pushAlPdu p addr endpointId pduBuf false reqHandle airInterfaceEncryption)

def pushAlAckToUmac (key : AdvancedLinkKey) (ack : AlAck) (reqHandle airInterfaceEncryption : Todo) :
    Option Port := do
  let pduBuf ← ack.toBitbuf (newAutoexpand 16)
  let pduBuf ← pduBuf.seek 0
  some (pushAlPdu p key.addr key.endpointId pduBuf true reqHandle airInterfaceEncryption)

def rxAlSetup (prim : TmaUnitdataInd) (pdu : BitBuffer) : Option Llc :=
  match AlSetup.fromBitbuf pdu with
  | .error _ => some s
  | .ok (setup, _) =>
    if !setup.isOriginalAcknowledgedNonAugmented then some s
    else
      let key : AdvancedLinkKey := ⟨prim.mainAddress, prim.endpointId, setup.linkId⟩
      if setup.setupReport = AlSetup.setupReportSuccess then some (s.establishAdvancedLink key setup)
      else
        let response := negotiateInboundAlSetupResponse setup
        let s :=
          if response.setupReport = AlSetup.setupReportServiceChange then
            let s := (s.clearOtherOriginalAdvancedLinks key).clearAdvancedLinkTransferState key
            { s with
              pendingAdvancedLinkSetups := update s.pendingAdvancedLinkSetups key
                (some response)
              advancedLinks := update s.advancedLinks key none
              advancedLinkRx := update s.advancedLinkRx key none }
          else s.establishAdvancedLink key setup
        let (handle, s) := s.takeTlDataIndReqHandle
        (pushAlSetupResponseToUmac s.port prim.mainAddress prim.endpointId response handle
          prim.airInterfaceEncryption).map (fun p => { s with port := p })

def concatenateLoop (segments : Nat → Option BitBuffer) : List Nat → BitBuffer → Option BitBuffer
  | [], out => some out
  | ss :: rest, out => do
    let segment ← segments ss
    let segment ← (fromBitbuffer segment).seek 0
    let (out, _) ← out.copyBits segment segment.lenRemaining
    concatenateLoop segments rest out

/-- The TL-SDU with its checksum; the inner `none` while segments are missing. -/
def concatenateAlSegments (assembly : AdvancedLinkReceiveAssembly) : Option (Option BitBuffer) :=
  match assembly.finalSs with
  | none => some none
  | some finalSs =>
    let numbers := List.range (finalSs + 1)
    if numbers.all (fun ss => (assembly.segments ss).isSome) then do
      let total := (numbers.map (fun ss => ((assembly.segments ss).map (·.len)).getD 0)).sum
      let out ← concatenateLoop assembly.segments numbers (newAutoexpand total)
      let out ← out.seek 0
      some (some out)
    else some none

def selectiveAlAckForIncompleteReceive (assembly : AdvancedLinkReceiveAssembly) : AlAck :=
  let has := fun ss => (assembly.segments ss).isSome
  let highestReceived := ((List.range 256).reverse.find? has).getD 0
  let highestCovered := assembly.finalSs.getD highestReceived
  let firstMissing := ((List.range (highestCovered + 1)).find? (fun ss => !has ss)).getD
    (min (highestCovered + 1) 255)
  let highestCovered := max highestCovered firstMissing
  let ackLen := min (highestCovered - firstMissing + 1) AlAckBlock.ackLengthMaxSelectiveSegments
  let bitmap := (List.range (ackLen - 1)).foldl
    (fun m i => if has (min (firstMissing + i + 1) 255) then m ||| 2 ^ i else m) 0
  AlAck.selective true assembly.ns firstMissing bitmap ackLen

def TmaUnitdataInd.indication (prim : TmaUnitdataInd) (linkId : LinkId) (tlSdu : Option BitBuffer)
    (fcsFlag : Bool) : TlaInd :=
  ⟨prim.mainAddress, linkId, prim.endpointId, prim.newEndpointId, prim.cssEndpointId, tlSdu,
    prim.scramblingCode, fcsFlag, prim.airInterfaceEncryption, prim.chanChangeResponseReq,
    prim.chanChangeHandle, prim.chanInfo⟩

/-- The assembly of the link once the segment has arrived; a segment that is there stays. -/
def insertAlSegment (existing : Option AdvancedLinkReceiveAssembly) (header : AlData)
    (segment : BitBuffer) : AdvancedLinkReceiveAssembly :=
  let assembly : AdvancedLinkReceiveAssembly :=
    match existing.filter (fun a => a.ns == header.ns) with
    | some a => a
    | none => ⟨header.ns, fun _ => none, none⟩
  { assembly with
    segments := fun ss =>
      if ss = header.ss then some ((assembly.segments ss).getD segment) else assembly.segments ss
    finalSs := if header.finalSegment then some header.ss else assembly.finalSs }

/-- Acknowledges towards the peer under a new handle. -/
def sendAlAck (key : AdvancedLinkKey) (ack : AlAck) (airInterfaceEncryption : Todo) : Option Llc :=
  let (handle, s) := s.takeTlDataIndReqHandle
  (pushAlAckToUmac s.port key ack handle airInterfaceEncryption).map (fun p => { s with port := p })

def alFcsOk (complete : BitBuffer) : Option Bool :=
  if complete.lenRemaining < 32 then some false else Fcs.checkFcs complete

def indicateAlTlSdu (prim : TmaUnitdataInd) (key : AdvancedLinkKey) (ns : Nat)
    (complete : BitBuffer) : Option Llc := do
  let complete ← complete.setRawEnd (complete.rawEnd - 32)
  let complete ← complete.seek 0
  let s := { s with
    advancedLinks := update s.advancedLinks key
      ((s.advancedLinks key).map (fun session : AdvancedLinkSession =>
        { session with lastDeliveredNs := some ns })) }
  let (handle, s) := s.takeTlDataIndReqHandle
  let p := s.port.push (.tlaTlDataIndBl handle (prim.indication key.linkId
    (if complete.lenRemaining > 0 then some complete else none) true))
  let p ← pushAlAckToUmac p key (AlAck.complete ns) handle prim.airInterfaceEncryption
  some { s with port := p }

/-- All segments are there: delivery, or a request to repeat where the checksum is wrong. -/
def deliverAlTlSdu (prim : TmaUnitdataInd) (key : AdvancedLinkKey) (ns : Nat) (complete : BitBuffer) :
    Option Llc := do
  let ok ← alFcsOk complete
  let s := { s with advancedLinkRx := update s.advancedLinkRx key none }
  if ok then s.indicateAlTlSdu prim key ns complete
  else s.sendAlAck key (AlAck.repeatEntire ns) prim.airInterfaceEncryption

def rxAlDataFinal (prim : TmaUnitdataInd) (pdu : BitBuffer) : Option Llc :=
  match AlData.fromBitbuf pdu with
  | .error _ => some s
  | .ok (header, pdu) =>
    match s.resolveOriginalAdvancedLinkKey ⟨prim.mainAddress, prim.endpointId⟩ with
    | none => some s
    | some key =>
      if ((s.advancedLinks key).bind (·.lastDeliveredNs)) = some header.ns then
        s.sendAlAck key (AlAck.complete header.ns) prim.airInterfaceEncryption
      else do
        let assembly := insertAlSegment (s.advancedLinkRx key) header (fromBitbufferPos pdu)
        let s := { s with advancedLinkRx := update s.advancedLinkRx key (some assembly) }
        let complete ← concatenateAlSegments assembly
        match complete with
        | some complete => s.deliverAlTlSdu prim key header.ns complete
        | none =>
          if header.acknowledgementRequested then
            s.sendAlAck key (selectiveAlAckForIncompleteReceive assembly) prim.airInterfaceEncryption
          else some s

end NexusBs.Llc
