import NexusBs.Pdus.Cmce
import NexusBs.Sched.Types
import NexusBs.Umac.BsFrag

namespace NexusBs
open BitBuffer PduParser

/-- Which members of a group have had a chance to hear a repeated transmission. -/
structure GroupStealingState where
  (targets covered activeBatch : List Nat)
  txReporter : Option TxReporter
  suspendT210 : Bool
deriving DecidableEq

namespace GroupStealingState

variable (g : GroupStealingState) (ts : TdmaTime) (es : EnergySaving)

def isComplete : Bool := g.targets.all (fun i => decide (i ∈ g.covered))

def isFinalBatch : Bool := g.targets.all (fun i => decide (i ∈ g.covered ∨ i ∈ g.activeBatch))

def uncoveredListeners : List Nat :=
  g.targets.filter (fun i => decide (i ∉ g.covered) && es.msListensAt i ts)

def hasUncoveredListener : Bool :=
  g.targets.any (fun i => decide (i ∉ g.covered) && es.msListensAt i ts)

def activeBatchListens : Bool := g.activeBatch.all (fun i => es.msListensAt i ts)

def retainTargets (current : List Nat) : GroupStealingState :=
  { g with
    targets := g.targets.filter (fun i => decide (i ∈ current))
    covered := g.covered.filter (fun i => decide (i ∈ current))
    activeBatch := g.activeBatch.filter (fun i => decide (i ∈ current)) }

def beginBatchIfNeeded : GroupStealingState :=
  if g.activeBatch.isEmpty then { g with activeBatch := g.uncoveredListeners ts es } else g

def markBatchCovered : GroupStealingState :=
  { g with covered := g.covered ++ g.activeBatch, activeBatch := [] }

/-- Whether a batch can be sent now: all of a running one, or some uncovered member, listen. -/
def readyForTx : Bool :=
  if g.activeBatch.isEmpty then g.hasUncoveredListener ts es else g.activeBatchListens ts es

end GroupStealingState

/-- The same coverage for a MAC-RESOURCE, with what is to be sent again. -/
structure GroupDeliveryState extends GroupStealingState where
  originalPdu : MacResource
  originalSdu : BitBuffer
deriving DecidableEq

inductive DlSchedElem where
  | broadcast
  | randomAccessAck (addr : TetraAddress)
  | grant (addr : TetraAddress) (grant : BasicSlotgrant) (usageMarker : Option Nat)
  | pendingGrant (addr : TetraAddress) (debt : PendingGrantDebt) (origin : PendingGrantOrigin)
  | resource (pdu : MacResource) (sdu : BitBuffer) (txReporter : Option TxReporter)
      (group : Option GroupDeliveryState)
  | fragBuf (fragger : BsFragger) (txReporter : Option TxReporter)
      (group : Option GroupDeliveryState)
  | stealing (block : BitBuffer) (addr : TetraAddress) (txReporter : Option TxReporter)
      (group : Option GroupStealingState)
deriving DecidableEq

inductive StealingSchedPriority where
  | ordinary | channelAllocation | cmceChannelAllocation | listenerFloorGrant | positiveFloorGrant
  | floorWithdraw
deriving DecidableEq

def StealingSchedPriority.rank : StealingSchedPriority → Nat
  | ordinary => 0
  | channelAllocation => 1
  | cmceChannelAllocation => 2
  | listenerFloorGrant => 3
  | positiveFloorGrant => 4
  | floorWithdraw => 5

inductive DlBackpressurePriority where
  | ordinary | cmceCallControl | grantOrAck | channelAllocation | listenerFloorGrant
  | positiveFloorGrant | floorWithdraw

def DlBackpressurePriority.rank : DlBackpressurePriority → Nat
  | ordinary => 0
  | cmceCallControl => 1
  | grantOrAck => 2
  | channelAllocation => 3
  | listenerFloorGrant => 4
  | positiveFloorGrant => 5
  | floorWithdraw => 6

structure FloorWithdrawKey where
  addr : TetraAddress
  callId : Nat
  pduType : CmcePduTypeDl
deriving DecidableEq

/-! What a TM-SDU or a prebuilt half slot carries -/

def mleDiscriminator (b : BitBuffer) : Option MleProtocolDiscriminator :=
  (b.peekBits 3).bind MleProtocolDiscriminator.tryFrom

variable (sdu : BitBuffer)

/-- The buffer behind the LLC header, for the PDU types that carry a TL-SDU. -/
def afterLlcHeader : Option BitBuffer :=
  match llcPduTypeOf sdu.fromBitbuffer with
  | some .blAdata | some .blAdataFcs => (parsed BlAdata.fromBitbuf sdu.fromBitbuffer).map Prod.snd
  | some .blData | some .blDataFcs => (parsed BlData.fromBitbuf sdu.fromBitbuffer).map Prod.snd
  | some .blUdata | some .blUdataFcs => (parsed BlUdata.fromBitbuf sdu.fromBitbuffer).map Prod.snd
  | some .alDataAlFinal => (parsed AlData.fromBitbuf sdu.fromBitbuffer).map Prod.snd
  | _ => none

def sduIsSndcpPacketData : Bool :=
  (afterLlcHeader sdu).any (fun b => mleDiscriminator b == some .sndcp)

def sduIsLlcAdvancedLink : Bool :=
  match llcPduTypeOf sdu.fromBitbuffer with
  | some .alSetup | some .alDataAlFinal | some .alAckAlRnr => true
  | _ => false

def sduIsFirstOriginalAlDataSegment : Bool :=
  (parsed AlData.fromBitbuf sdu.fromBitbuffer).any (fun r => r.1.ss == 0)

def cmceTypeAt (b : BitBuffer) : Option CmcePduTypeDl := (b.peekBits 5).bind CmcePduTypeDl.tryFrom

/-- The CMCE PDU in a TM-SDU, bare or behind BL-UDATA and the MLE discriminator. -/
def cmceDlPayloadFromTmaSdu : Option BitBuffer :=
  let direct := sdu.fromBitbuffer
  -- floor control is looked for first: D-TX INTERRUPT starts like a BL-UDATA with FCS
  if cmceTypeAt direct = some .dTxGranted ∨ cmceTypeAt direct = some .dTxCeased ∨
      cmceTypeAt direct = some .dTxInterrupt then some direct
  else
    match parsed BlUdata.fromBitbuf sdu.fromBitbuffer with
    | some (_, wrapped) =>
      if mleDiscriminator wrapped = some .cmce then some (wrapped.advance 3) else none
    | none =>
      match llcPduTypeOf direct with
      | some .blAck | some .blAckFcs | some .blAdata | some .blAdataFcs => none
      | _ =>
        if direct.lenRemaining < 10 then none
        else (cmceTypeAt direct).map (fun _ => direct)

def cmceDlPduTypeFromTmaSdu : Option CmcePduTypeDl := (cmceDlPayloadFromTmaSdu sdu).bind cmceTypeAt

def cmceSetupCallControlPdu : CmcePduTypeDl → Bool
  | .dAlert | .dCallProceeding | .dConnect | .dConnectAcknowledge | .dDisconnect | .dRelease
  | .dSetup | .dCallRestore | .cmceFunctionNotSupported => true
  | _ => false

def resourceIsCmceSetupCallControl : Bool :=
  (cmceDlPduTypeFromTmaSdu sdu).any cmceSetupCallControlPdu

def allocatesUplink (c : Option ChanAllocElement) : Bool :=
  c.any (fun c => c.ulDlAssigned == .ul || c.ulDlAssigned == .both)

namespace DlSchedElem

def isStealing : DlSchedElem → Bool
  | stealing .. => true
  | _ => false

def isResource : DlSchedElem → Bool
  | resource .. => true
  | _ => false

def isFragBuf : DlSchedElem → Bool
  | fragBuf .. => true
  | _ => false

def isGrant : DlSchedElem → Bool
  | grant .. | pendingGrant .. => true
  | _ => false

def isGrantOrAck : DlSchedElem → Bool
  | grant .. | pendingGrant .. | randomAccessAck _ => true
  | _ => false

def elemAddr : DlSchedElem → Option TetraAddress
  | broadcast => none
  | randomAccessAck addr | grant addr _ _ | pendingGrant addr _ _ => some addr
  | resource pdu _ _ _ => pdu.addr
  | fragBuf fragger _ _ => fragger.resource.addr
  | stealing _ addr _ _ => some addr

def elemHasIntegratedGrantOrAck : DlSchedElem → Bool
  | resource pdu _ _ _ => pdu.slotGrantingElement.isSome || pdu.randomAccessFlag
  | _ => false

def elemHasChannelAllocation : DlSchedElem → Bool
  | resource pdu _ _ _ => pdu.chanAllocElement.isSome
  | fragBuf fragger _ _ => fragger.carriesChannelAllocation
  | _ => false

def isCmceSetupResource : DlSchedElem → Bool
  | resource _ sdu _ _ => resourceIsCmceSetupCallControl sdu
  | _ => false

def floorGrantPriority (pdu : MacResource) (payload : BitBuffer) : StealingSchedPriority :=
  match parsed DTxGranted.fromBitbuf payload with
  | none => .ordinary
  | some (g, _) =>
    if g.transmissionGrant = TransmissionGrant.granted.intoRaw ∧
        (allocatesUplink pdu.chanAllocElement ∨ pdu.chanAllocElement.isNone) then .positiveFloorGrant
    else if g.transmissionGrant = TransmissionGrant.grantedToOtherUser.intoRaw then
      .listenerFloorGrant
    else .ordinary

def stealingSchedPriority : DlSchedElem → StealingSchedPriority
  | stealing block _ _ _ =>
    match parsed MacResource.fromBitbuf block.fromBitbuffer with
    | none => .ordinary
    | some (pdu, probe) =>
      match cmceDlPayloadFromTmaSdu probe.fromBitbufferPos with
      | none => if pdu.chanAllocElement.isSome then .channelAllocation else .ordinary
      | some payload =>
        match cmceTypeAt payload with
        | some .dTxInterrupt | some .dTxCeased => .floorWithdraw
        | some .dTxGranted => floorGrantPriority pdu payload
        | _ => if pdu.chanAllocElement.isSome then .cmceChannelAllocation else .ordinary
  | _ => .ordinary

def stealingIsGroupPositiveFloorGrant : DlSchedElem → Bool
  | stealing block addr _ _ =>
    addr.ssiType == .issi &&
      (parsed MacResource.fromBitbuf block.fromBitbuffer).any (fun (pdu, probe) =>
        allocatesUplink pdu.chanAllocElement &&
          (cmceDlPayloadFromTmaSdu probe.fromBitbufferPos).any (fun payload =>
            (parsed DTxGranted.fromBitbuf payload).any (fun (g, _) =>
              g.transmissionGrant == TransmissionGrant.granted.intoRaw)))
  | _ => false

def elemBackpressurePriority (e : DlSchedElem) : DlBackpressurePriority :=
  if e.isStealing then
    match e.stealingSchedPriority with
    | .ordinary => .ordinary
    | .channelAllocation | .cmceChannelAllocation => .channelAllocation
    | .listenerFloorGrant => .listenerFloorGrant
    | .positiveFloorGrant => .positiveFloorGrant
    | .floorWithdraw => .floorWithdraw
  else if e.elemHasChannelAllocation then .channelAllocation
  else if e.elemHasIntegratedGrantOrAck then .grantOrAck
  else if e.isCmceSetupResource then .cmceCallControl
  else if e.isGrantOrAck then .grantOrAck
  else .ordinary

def floorWithdrawKey : DlSchedElem → Option FloorWithdrawKey
  | stealing block fallback _ _ => do
    let (pdu, probe) ← parsed MacResource.fromBitbuf block.fromBitbuffer
    let payload ← cmceDlPayloadFromTmaSdu probe.fromBitbufferPos
    let ty ← cmceTypeAt payload
    if ty = .dTxCeased ∨ ty = .dTxInterrupt then
      let (callId, _) ← (payload.advance 5).readBits 14
      some ⟨pdu.addr.getD fallback, callId, ty⟩
    else none
  | _ => none

def matchesReporter (target : TxReporter) : DlSchedElem → Bool
  | resource _ _ tx group | fragBuf _ tx group =>
    tx == some target || group.any (fun g => g.txReporter == some target)
  | stealing _ _ tx group => tx == some target || group.any (fun g => g.txReporter == some target)
  | _ => false

def groupRepeatAddr : DlSchedElem → Option TetraAddress
  | resource pdu _ _ (some _) => pdu.addr
  | fragBuf fragger _ (some _) => fragger.resource.addr
  | stealing _ addr _ (some _) => some addr
  | _ => none

end DlSchedElem
end NexusBs
