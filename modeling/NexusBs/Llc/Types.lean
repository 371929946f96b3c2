import NexusBs.Core.TdmaTime
import NexusBs.Pdus.AdvancedLink
import NexusBs.Pdus.Downlink
import NexusBs.Llc.Fcs

namespace NexusBs

abbrev EndpointId := Nat
abbrev LinkId := Nat
/-- Handles, priorities and other loosely typed parameters of the primitives. -/
abbrev Todo := Int

/-- Number of a TL-DATA request. It also names the receipt its user can watch. -/
abbrev Ticket := Nat

structure CmceChanAllocReq where
  usage : Option Nat
  carrier : Option Todo
  timeslots : Timeslots
  allocType : ChanAllocType
  ulDlAssigned : UlDlAssignment
deriving DecidableEq

/-- The receipt handed to the MAC with one attempt, by what the attempt is for: a TL-DATA
request, a segment of one, or a TL-UNITDATA request. -/
inductive MacReporter where
  | bl (ticket : Ticket)
  | al (ticket : Ticket) (ss : Nat)
  | udata
deriving DecidableEq

structure TmaUnitdataReq where
  reqHandle : Todo
  pdu : BitBuffer
  mainAddress : TetraAddress
  endpointId : EndpointId
  pduPrio : Todo
  stealingPermission : Bool
  subscriberClass : Todo
  airInterfaceEncryption : Option Todo
  stealingRepeatsFlag : Option Bool
  dataCategory : Option Todo
  chanAlloc : Option CmceChanAllocReq
  txReporter : Option MacReporter
deriving DecidableEq

inductive TmaReport where
  | confirmHandle | successRandomAccess | successReservedOrStealing | failedTransfer
  | fragmentationFailure | randomAccessFailure
deriving DecidableEq

/-- A TM-SDU from the MAC, with everything the LLC passes on. -/
structure Llc.TmaUnitdataInd where
  pdu : Option BitBuffer
  mainAddress : TetraAddress
  scramblingCode : Nat
  endpointId : EndpointId
  (newEndpointId cssEndpointId : Option EndpointId)
  airInterfaceEncryption : Todo
  chanChangeResponseReq : Bool
  (chanChangeHandle chanInfo : Option Todo)
deriving DecidableEq

structure TlaTlDataReqBl where
  mainAddress : TetraAddress
  linkId : LinkId
  endpointId : EndpointId
  tlSdu : BitBuffer
  pduPrio : Todo
  stealingPermission : Bool
  subscriberClass : Todo
  fcsFlag : Bool
  airInterfaceEncryption : Option Todo
  stealingRepeatsFlag : Option Bool
  dataClassInfo : Option Todo
  reqHandle : Todo
  chanAlloc : Option CmceChanAllocReq
  /-- Whether the user supplied a receipt; it is a new one for acknowledged service. -/
  txReporter : Bool
deriving DecidableEq

structure TlDataRespBl where
  mainAddress : TetraAddress
  linkId : LinkId
  endpointId : EndpointId
  tlSdu : BitBuffer
  pduPrio : Todo
  stealingPermission : Bool
  subscriberClass : Todo
  fcsFlag : Bool
  airInterfaceEncryption : Todo
  stealingRepeatsFlag : Option Bool
  dataClassInfo : Option Todo
  reqHandle : Todo
deriving DecidableEq

structure TlaTlUnitdataReqBl where
  mainAddress : TetraAddress
  linkId : LinkId
  endpointId : EndpointId
  tlSdu : BitBuffer
  pduPrio : Todo
  stealingPermission : Bool
  subscriberClass : Todo
  fcsFlag : Bool
  airInterfaceEncryption : Option Todo
  stealingRepeatsFlag : Option Bool
  nTlsduRepeats : Option Nat
  dataClassInfo : Option Todo
  reqHandle : Todo
  chanAlloc : Option CmceChanAllocReq
deriving DecidableEq

inductive TlaReport where
  | noSpecificReport | firstCompleteTransmission | successfulTransfer | failedTransfer
deriving DecidableEq

/-- What TL-DATA and TL-UNITDATA indications pass on. -/
structure TlaInd where
  mainAddress : TetraAddress
  linkId : LinkId
  endpointId : EndpointId
  (newEndpointId cssEndpointId : Option EndpointId)
  tlSdu : Option BitBuffer
  scramblingCode : Nat
  fcsFlag : Bool
  airInterfaceEncryption : Todo
  chanChangeRespReq : Bool
  (chanChangeHandle chanInfo : Option Todo)
deriving DecidableEq

/-- Messages the LLC sends. Reports and confirms name the TL-DATA request they are for;
reports for TL-UNITDATA requests name none. -/
inductive SapMsg where
  | tmaUnitdataReq (req : TmaUnitdataReq)
  | tmaCancelReq (reqHandle : Todo)
  | tlaTlReportInd (ticket : Option Ticket) (reqHandle : Todo) (report : TlaReport)
      (endpointId : EndpointId)
  | tlDataConfBl (ticket : Ticket) (reqHandle : Todo) (conf : TlaInd)
  | tlaTlDataIndBl (reqHandle : Todo) (ind : TlaInd)
  | tlaTlUnitdataIndBl (ind : TlaInd)
deriving DecidableEq

structure BasicLinkKey where
  addr : TetraAddress
  endpointId : EndpointId
deriving DecidableEq

structure AdvancedLinkKey where
  addr : TetraAddress
  endpointId : EndpointId
  linkId : LinkId
deriving DecidableEq

/-- The address and endpoint of an advanced link, which its PDUs carry; the link number
they do not. -/
def AdvancedLinkKey.peer (key : AdvancedLinkKey) : BasicLinkKey := ⟨key.addr, key.endpointId⟩

structure ReceiveSeqState where
  lastNs : Nat
  receivedAt : TdmaTime
  ackTimeslot : Nat

structure AdvancedLinkSession where
  (maxTlSduLenBytes maxTlSduRetransmissions maxSegmentRetransmissions txNextNs : Nat)
  lastDeliveredNs : Option Nat
  receiverNotReadySince : Option TdmaTime

/-- Segments received so far of one TL-SDU, by segment number. -/
structure AdvancedLinkReceiveAssembly where
  ns : Nat
  segments : Nat → Option BitBuffer
  finalSs : Option Nat

structure ExpectedAlSegment where
  ss : Nat
  reqHandle : Todo
  (tSubmittedToUmac tUmacDone : Option TdmaTime)
  currentMacReporter : Option TxState
  (acknowledged retransmissionRequested ackRequestProbePending : Bool)
  (ackRequestProbeCount retransmitCount : Nat)
  retransmissionBuf : TmaUnitdataReq

structure ExpectedAlAck where
  key : AdvancedLinkKey
  ns : Nat
  (reqHandle pduPrio : Todo)
  tFirst : TdmaTime
  (tSubmittedToUmac tUmacDone : Option TdmaTime)
  ticket : Ticket
  ackTimeslot : Nat
  ackStealingRepeatsFlag : Option Bool
  segments : List ExpectedAlSegment
  retransmitCount : Nat
  firstCompleteReportSent : Bool
  tRetransmissionsExhausted : Option TdmaTime
  selectiveSegmentRetryPending : Bool

/-- A TL-DATA transfer on a basic link that waits for its turn or its acknowledgement. -/
structure ExpectedInAck where
  ts : Nat
  addr : TetraAddress
  ns : Nat
  reqHandle : Todo
  linkId : LinkId
  endpointId : EndpointId
  pduPrio : Todo
  fcsFlag : Bool
  airInterfaceEncryption : Todo
  stealingRepeatsFlag : Option Bool
  tFirst : TdmaTime
  (tSubmittedToUmac tUmacDone tRetransmissionsExhausted : Option TdmaTime)
  ticket : Ticket
  currentMacReporter : Option TxState
  retransmissionBuf : TmaUnitdataReq
  retransmitCount : Nat
  firstCompleteReportSent : Bool

def ExpectedInAck.key (ack : ExpectedInAck) : BasicLinkKey := ⟨ack.addr, ack.endpointId⟩

structure ScheduledOutAck where
  addr : TetraAddress
  tStart : TdmaTime
  nr : Nat
  indReqHandle : Todo
  endpointId : EndpointId
  airInterfaceEncryption : Todo
  ts : Nat
deriving DecidableEq

def ScheduledOutAck.key (ack : ScheduledOutAck) : BasicLinkKey := ⟨ack.addr, ack.endpointId⟩

structure QueuedUdata where
  addr : TetraAddress
  reqHandle : Todo
  endpointId : EndpointId
  pduPrio : Todo
  sapmsg : TmaUnitdataReq
  currentMacReporter : Option TxState
  (n253 targetCompleteTransmissions completeTransmissions failedTransmissions : Nat)
  (submitted deferMacReadyOnce : Bool)

def QueuedUdata.key (udata : QueuedUdata) : BasicLinkKey := ⟨udata.addr, udata.endpointId⟩

/-- `Pending` to the given state, if it still is pending. -/
def TxState.tryMark (st new : TxState) : TxState := if st = .pending then new else st

/-- A receipt past which nothing is reported; `Transmitted` is not final where an
acknowledgement is expected. -/
def TxState.isFinal : TxState → Bool
  | .discarded | .lost | .acknowledged => true
  | .pending | .transmitted => false

/-- What the LLC shares with the outside: the messages it sent, and the receipts of TL-DATA
requests. -/
structure Port where
  queue : List SapMsg
  receipts : Ticket → TxState

namespace Port

variable (p : Port) (ticket : Ticket)

def push (m : SapMsg) : Port := { p with queue := p.queue ++ [m] }

def pushTlaReport (ticket : Option Ticket) (reqHandle : Todo) (report : TlaReport)
    (endpointId : EndpointId) : Port := p.push (.tlaTlReportInd ticket reqHandle report endpointId)

/-- Compare and exchange on a receipt. -/
def tryMark (curr new : TxState) : Port :=
  { p with receipts :=
      fun t => if t = ticket ∧ p.receipts t = curr then new else p.receipts t }

/-- As `tryMark`; `none` is the panic of an invalid transition. -/
def mark (curr new : TxState) : Option Port :=
  if p.receipts ticket = curr then some (p.tryMark ticket curr new) else none

def markAcknowledged : Option Port := p.mark ticket .transmitted .acknowledged

def markServiceFirstComplete : Port := p.tryMark ticket .pending .transmitted

/-- A transfer that was on air is lost, one that was not is discarded. -/
def markServiceFailed : Port :=
  match p.receipts ticket with
  | .pending => p.tryMark ticket .pending .discarded
  | .transmitted => p.tryMark ticket .transmitted .lost
  | .discarded | .lost | .acknowledged => p

end Port

/-- Logical link control, base station and mobile. `nextTicket` numbers the TL-DATA
requests; the other fields are the source's. -/
structure Llc where
  mainCarrier : Nat
  dltime : TdmaTime
  scheduledOutAcks : List ScheduledOutAck
  outboundMessages : List ExpectedInAck
  outboundUdataMessages : List QueuedUdata
  outboundAlMessages : List ExpectedAlAck
  linkSendSeq : BasicLinkKey → Nat
  inboundReceiveSeq : BasicLinkKey → Option ReceiveSeqState
  advancedLinks : AdvancedLinkKey → Option AdvancedLinkSession
  pendingAdvancedLinkSetups : AdvancedLinkKey → Option AlSetup
  advancedLinkRx : AdvancedLinkKey → Option AdvancedLinkReceiveAssembly
  nextTlDataIndReqHandle : Todo
  port : Port
  nextTicket : Ticket

namespace Llc

def t251SenderRetrySignallingFrames : Nat := 4
def t252AlAckWaitingSignallingFrames : Nat := 9
def t271ReceiverNotReadyForTxTimer : Int := 36 * 4
def n252BlMaxTlsduRetransmitsAcked : Nat := 3
def inboundDuplicateSuppressionSignallingFrames : Nat :=
  (n252BlMaxTlsduRetransmitsAcked + 1) * t251SenderRetrySignallingFrames
def channelAllocationLateAckGraceSignallingFrames : Nat := 18
def alLateAckGraceSignallingFrames : Nat := 72
def n251BlMaxTlsduLenBits : Nat := 2595
def n253BlMaxTlsduRepetitionsUnacked : Nat := 3
def n253MaxRequestedTlsduRepeats : Nat := 5
def tmaHighestPduPriority : Todo := 7
def commonControlTimeslot : Nat := 1
def firstPacketDataTimeslot : Nat := 2
def alSetupPhaseModPdchMaxTimeslots : Nat := 1
def alOriginalDataHeaderBits : Nat := 17
def alOriginalSegmentsPerAckRequest : Nat := 4
def llcMaxOutboundAckedMessages : Nat := 8192
def llcMaxOutboundUdataMessages : Nat := 8192
def schFCap : Nat := 268

variable (mainCarrier : Nat)

def new : Llc where
  mainCarrier := mainCarrier
  dltime := TdmaTime.default
  scheduledOutAcks := []
  outboundMessages := []
  outboundUdataMessages := []
  outboundAlMessages := []
  linkSendSeq := fun _ => 0
  inboundReceiveSeq := fun _ => none
  advancedLinks := fun _ => none
  pendingAdvancedLinkSetups := fun _ => none
  advancedLinkRx := fun _ => none
  nextTlDataIndReqHandle := -1
  port := ⟨[], fun _ => .pending⟩
  nextTicket := 0

/-- Arrivals of the target timeslot after `start`, up to `now`. -/
def downlinkSignallingFramesElapsed (start now : TdmaTime) (targetTimeslot : Nat) : Nat :=
  if 1 ≤ targetTimeslot ∧ targetTimeslot ≤ 4 then
    let diff := now.diff ((start.addTimeslots 1).forwardToTimeslot targetTimeslot)
    if diff < 0 then 0 else diff.toNat / 4 + 1
  else 0

def allDownlinkFramesElapsed (start now : TdmaTime) : Nat :=
  let diff := now.diff ((start.addTimeslots 1).forwardToTimeslot 1)
  if diff < 0 then 0 else diff.toNat / 4 + 1

def t251DownlinkFramesElapsed (start now : TdmaTime) (targetTimeslot : Nat)
    (stealingRepeatsFlag : Option Bool) : Nat :=
  if stealingRepeatsFlag = some true then allDownlinkFramesElapsed start now
  else downlinkSignallingFramesElapsed start now targetTimeslot

/-- First free handle and the one after it; they count down and wrap at the least `i32`. -/
def takeTlDataIndReqHandle (s : Llc) : Todo × Llc :=
  (s.nextTlDataIndReqHandle,
    { s with nextTlDataIndReqHandle :=
        if s.nextTlDataIndReqHandle = -2147483648 then -1 else s.nextTlDataIndReqHandle - 1 })

def cmceToMacChanallocForCapacity (chanAlloc : CmceChanAllocReq) : ChanAllocElement :=
  ⟨chanAlloc.allocType, chanAlloc.timeslots, chanAlloc.ulDlAssigned,
    (chanAlloc.allocType == .replace || chanAlloc.allocType == .additional) &&
      (chanAlloc.ulDlAssigned == .ul || chanAlloc.ulDlAssigned == .both),
    false, mainCarrier, none, 0, some 0⟩

/-- The header a TM-SDU with this address and allocation is sent under. -/
def capacityHeader (addr : TetraAddress) (chanAlloc : Option CmceChanAllocReq) : MacResource :=
  ⟨false, 0, 0, false, 0, some addr, none, chanAlloc.bind (·.usage), none, none,
    chanAlloc.map (cmceToMacChanallocForCapacity mainCarrier)⟩

def schFMacResourceTmSduCapacityBits (addr : TetraAddress) (chanAlloc : Option CmceChanAllocReq) :
    Nat := schFCap - (capacityHeader mainCarrier addr chanAlloc).computeHeaderLen

/-- Appends the checksum of the bits from `start` on, where one is wanted. -/
def appendFcs (pduBuf : BitBuffer) (start : Nat) (hasFcs : Bool) : Option BitBuffer :=
  if hasFcs then
    (Fcs.computeFcs pduBuf start pduBuf.len).bind (fun fcs => pduBuf.writeBits fcs.toNat 32)
  else some pduBuf

/-- Appends the TL-SDU and, for the variants with checksum, its checksum. -/
def appendTlSduAndOptionalFcs (pduBuf tlSdu : BitBuffer) (hasFcs : Bool) : Option BitBuffer := do
  let (written, _) ← pduBuf.copyBits tlSdu tlSdu.lenRemaining
  let written ← appendFcs written pduBuf.lenWritten hasFcs
  written.seek 0

def stripValidatedFcs (pdu : BitBuffer) (hasFcs : Bool) : Option BitBuffer :=
  if hasFcs then pdu.setRawEnd (pdu.rawEnd - 32) else some pdu

end Llc
end NexusBs
