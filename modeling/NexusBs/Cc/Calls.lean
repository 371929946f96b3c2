import NexusBs.Cc.CircuitMgr
import NexusBs.Lib.IndexedQueue

namespace NexusBs.Cc
open Lib

inductive CallOrigin where
  | localMs (callerAddr : TetraAddress)
  | network (brewUuid : Nat)

namespace CallOrigin

def isLocal : CallOrigin → Bool
  | localMs _ => true
  | network _ => false

def networkUuid : CallOrigin → Option Nat
  | localMs _ => none
  | network brewUuid => some brewUuid

def isOwner (issi : Nat) : CallOrigin → Bool
  | localMs callerAddr => callerAddr.ssi == issi
  | network _ => false

end CallOrigin

inductive GroupCallState where
  | transmitting
  | noActiveSpeaker (since : TdmaTime)

inductive TxDemandQueueResult where
  | queued | alreadyQueuedBySameUser | queueBusy | fromCurrentSpeaker

def maxGroupFloorWaiters : Nat := 4096

/-- Radios that wait for the floor of a group call, with the set of their ISSIs. -/
abbrev FloorWaiters := IndexedQueue TetraAddress TetraAddress.ssi maxGroupFloorWaiters

structure ActiveCall where
  origin : CallOrigin
  (destGssi sourceIssi : Nat)
  createdAt : TdmaTime
  callTimeout : CallTimeout
  (priority ts usage : Nat)
  txActive : Bool
  hangtimeStart : Option TdmaTime
  ulInactivityRegrantUsed : Bool
  queuedFloorDemands : FloorWaiters
  brewUuid : Option Nat

namespace ActiveCall

def newLocal (callerAddr : TetraAddress) (destGssi sourceIssi ts usage : Nat)
    (createdAt : TdmaTime) (callTimeout : CallTimeout) (priority : Nat) : ActiveCall where
  origin := .localMs callerAddr
  destGssi := destGssi
  sourceIssi := sourceIssi
  createdAt := createdAt
  callTimeout := callTimeout
  priority := priority
  ts := ts
  usage := usage
  txActive := true
  hangtimeStart := none
  ulInactivityRegrantUsed := false
  queuedFloorDemands := .empty
  brewUuid := none

def newNetwork (brewUuid destGssi sourceIssi ts usage : Nat) (createdAt : TdmaTime)
    (callTimeout : CallTimeout) (priority : Nat) : ActiveCall where
  origin := .network brewUuid
  destGssi := destGssi
  sourceIssi := sourceIssi
  createdAt := createdAt
  callTimeout := callTimeout
  priority := priority
  ts := ts
  usage := usage
  txActive := true
  hangtimeStart := none
  ulInactivityRegrantUsed := false
  queuedFloorDemands := .empty
  brewUuid := some brewUuid

variable (call : ActiveCall)

def state : GroupCallState :=
  if call.txActive then .transmitting
  else .noActiveSpeaker (call.hangtimeStart.getD .default)

def isCurrentSpeaker (issi : Nat) : Bool := call.txActive && call.sourceIssi == issi

def callTimeoutExpired (now : TdmaTime) : Bool :=
  match callTimeoutToTimeslots call.callTimeout with
  | some timeout => call.createdAt.age now > timeout
  | none => false

def enterHangtime (now : TdmaTime) : ActiveCall :=
  { call with txActive := false, hangtimeStart := some now, ulInactivityRegrantUsed := false }

def resetTimeout (now : TdmaTime) : ActiveCall := { call with createdAt := now }

def clearQueuedTxDemandFrom (issi : Nat) : ActiveCall :=
  { call with queuedFloorDemands := call.queuedFloorDemands.removeKey issi }

def clearAllQueuedTxDemands : ActiveCall :=
  { call with queuedFloorDemands := .empty }

def grantFloor (sourceIssi : Nat) : ActiveCall :=
  { call.clearQueuedTxDemandFrom sourceIssi with
    sourceIssi := sourceIssi
    txActive := true
    hangtimeStart := none
    ulInactivityRegrantUsed := false }

/-- The network takes the floor, and the call with it. -/
def grantFloorToNetwork (brewUuid sourceIssi priority : Nat) : ActiveCall :=
  { call.grantFloor sourceIssi with
    priority := priority
    brewUuid := some brewUuid
    origin := .network brewUuid }

def markUlInactivityRegrantIfUnused : Bool × ActiveCall :=
  if call.ulInactivityRegrantUsed then (false, call)
  else (true, { call with ulInactivityRegrantUsed := true })

def queueTxDemandAfterCeaseTail (requester : TetraAddress) : TxDemandQueueResult × ActiveCall :=
  if hk : requester.ssi ∈ call.queuedFloorDemands.keys then (.alreadyQueuedBySameUser, call)
  else if hl : call.queuedFloorDemands.items.length < maxGroupFloorWaiters then
    (.queued, { call with queuedFloorDemands := call.queuedFloorDemands.push requester hk hl })
  else (.queueBusy, call)

def queueTxDemand (requester : TetraAddress) : TxDemandQueueResult × ActiveCall :=
  if call.isCurrentSpeaker requester.ssi then (.fromCurrentSpeaker, call)
  else call.queueTxDemandAfterCeaseTail requester

def takeQueuedTxDemandThrough (targetIssi : Option Nat) : Option TetraAddress × ActiveCall :=
  let r := call.queuedFloorDemands.takeThrough targetIssi
  (r.1, { call with queuedFloorDemands := r.2 })

end ActiveCall

inductive IndividualCallState where
  | callSetupPending | incomingSetupPending | incomingAlerting | incomingSetupWaitNetworkAck
  | calledConnectAckPending | callerConnectAckPending | active
  | disconnectPending (awaitingReleaseFrom releaseToIssi : Nat) (startedAt : TdmaTime)
      (cause : DisconnectCause)
deriving DecidableEq

structure CalledContext where
  (handle linkId endpointId : Nat)

structure IndividualCall where
  (callingAddr calledAddr : TetraAddress)
  (callingHandle callingLinkId callingEndpointId : Nat)
  calledContext : Option CalledContext
  (callingTs calledTs callingUsage calledUsage : Nat)
  (simplexDuplex requestToTransmitSendData : Bool)
  state : IndividualCallState
  setupTimerStarted : Option TdmaTime
  setupTimeout : Option CallTimeoutSetupPhase
  activeTimerStarted : Option TdmaTime
  callTimeout : CallTimeout
  (calledOverBrew callingOverBrew : Bool)
  brewUuid : Option Nat
  networkCall : Option NetworkCircuitCall
  connectRequestSent : Bool
  (floorHolder lastFloorHolder : Option Nat)
  queuedTxDemand : Option TetraAddress

namespace IndividualCall

variable (call : IndividualCall) (now : TdmaTime)

def isAlerted : Bool :=
  match call.state with
  | .incomingAlerting => true
  | .incomingSetupWaitNetworkAck => true
  | .calledConnectAckPending => true
  | .callerConnectAckPending => true
  | .active => true
  | _ => false

def markAlerted (setupTimeout : CallTimeoutSetupPhase) : IndividualCall :=
  { call with
    state :=
      match call.state with
      | .callSetupPending => .incomingAlerting
      | .incomingSetupPending => .incomingAlerting
      | state => state
    setupTimerStarted := some now
    setupTimeout := some setupTimeout }

def isActive : Bool := call.state == .active

def hasAssignedCircuit : Bool :=
  match call.state with
  | .calledConnectAckPending => true
  | .callerConnectAckPending => true
  | .active => true
  | .disconnectPending _ _ _ _ => true
  | _ => false

def isConnectAckPending : Bool :=
  match call.state with
  | .calledConnectAckPending => true
  | .callerConnectAckPending => true
  | _ => false

def markCalledConnectAckPending : IndividualCall :=
  match call.state with
  | .callSetupPending => { call with state := .calledConnectAckPending }
  | .incomingSetupPending => { call with state := .calledConnectAckPending }
  | .incomingAlerting => { call with state := .calledConnectAckPending }
  | _ => call

def markCallerConnectAckPending : IndividualCall :=
  match call.state with
  | .calledConnectAckPending => { call with state := .callerConnectAckPending }
  | _ => call

def activate : IndividualCall :=
  { call with
    state := .active
    setupTimerStarted := none
    setupTimeout := none
    activeTimerStarted := some now
    connectRequestSent := false }

def peerIssiFor (senderIssi : Nat) : Option Nat :=
  if senderIssi = call.callingAddr.ssi then some call.calledAddr.ssi
  else if senderIssi = call.calledAddr.ssi then some call.callingAddr.ssi
  else none

def setFloorHolder (holderIssi : Nat) : IndividualCall :=
  { call with floorHolder := some holderIssi, lastFloorHolder := some holderIssi }

def clearFloorHolder : IndividualCall :=
  { call with
    floorHolder := none
    lastFloorHolder := call.floorHolder.orElse (fun _ => call.lastFloorHolder) }

def beginDisconnectPending (awaitingReleaseFrom releaseToIssi : Nat) (startedAt : TdmaTime)
    (cause : DisconnectCause) : IndividualCall :=
  { call.clearFloorHolder with
    state := .disconnectPending awaitingReleaseFrom releaseToIssi startedAt cause
    queuedTxDemand := none }

def queueTxDemand (requester : TetraAddress) : TxDemandQueueResult × IndividualCall :=
  if call.floorHolder = some requester.ssi then (.fromCurrentSpeaker, call)
  else
    match call.queuedTxDemand with
    | some existing =>
      if existing.ssi = requester.ssi then (.alreadyQueuedBySameUser, call) else (.queueBusy, call)
    | none => (.queued, { call with queuedTxDemand := some requester })

def pendingDisconnectReleaseIfAwaitedBy (senderIssi : Nat) : Option (DisconnectCause × Nat) :=
  match call.state with
  | .disconnectPending awaitingReleaseFrom releaseToIssi _ cause =>
    if awaitingReleaseFrom = senderIssi then some (cause, releaseToIssi) else none
  | _ => none

def isDisconnectPending : Bool :=
  match call.state with
  | .disconnectPending _ _ _ _ => true
  | _ => false

def pendingDisconnectTimeoutExpired (limitTimeslots : Int) : Option DisconnectCause :=
  match call.state with
  | .disconnectPending _ _ startedAt cause =>
    if startedAt.age now > limitTimeslots then some cause else none
  | _ => none

def setupTimeoutExpired : Bool :=
  if call.isActive then false
  else
    match call.setupTimerStarted, call.setupTimeout with
    | some started, some timeout => started.age now > setupTimeoutToTimeslots timeout
    | _, _ => false

/-- Duplex calls have no time-out. -/
def activeTimeoutExpired : Bool :=
  if !call.isActive then false
  else if call.simplexDuplex then false
  else
    match call.activeTimerStarted, callTimeoutToTimeslots call.callTimeout with
    | some started, some limit => started.age now > limit
    | _, _ => false

def involves (issi : Nat) : Bool := call.callingAddr.ssi == issi || call.calledAddr.ssi == issi

end IndividualCall

/-! Entries of the tables are kept under their call identifier; the copy of it that the source's
records hold is left out. -/

structure CachedSetup where
  pdu : DSetup
  destAddr : TetraAddress
  resend : Bool
  lastResendReporter : Option TxReporter
  isIndividual : Bool

structure PendingGroupRelease where
  (destGssi ts : Nat)
  cause : DisconnectCause
  reporter : TxReporter
  startedAt : TdmaTime
  preclosedCircuit : Option CmceCircuit
  isLocal : Bool
  networkBrewUuid : Option Nat

structure PendingGroupTxCeasedTailDrain where
  sender : TetraAddress
  (destGssi ts usage : Nat)
  notifyBrew : Bool
  startedAt : TdmaTime

structure PendingGroupFloorActivation where
  (sourceIssi destGssi ts : Nat)
  reporters : List TxReporter
  notifyBrew : Bool
  startedAt : TdmaTime

structure PendingNetworkGroupReady where
  (brewUuid sourceIssi destGssi ts usage : Nat)
  reporters : List TxReporter
  startedAt : TdmaTime

structure PendingIndividualRelease where
  call : IndividualCall
  cause : DisconnectCause
  reporters : List TxReporter
  startedAt : TdmaTime
  preclosedCircuits : List CmceCircuit
  notifyBrew : Bool

structure PendingIndividualDisconnectDelivery where
  (awaitingReleaseFrom releaseToIssi : Nat)
  cause : DisconnectCause
  reporter : TxReporter
  startedAt : TdmaTime

structure PendingIndividualDisconnectTailDrain where
  sender : TetraAddress
  peerIssi : Nat
  cause : DisconnectCause
  startedAt : TdmaTime

structure PendingIndividualDisconnectReleaseAck where
  releaseToIssi : Nat
  cause : DisconnectCause
  (reporters peerReleaseReporters : List TxReporter)
  startedAt : TdmaTime
  peerClearComplete : Bool

structure IndividualTailDrainLeg where
  addr : TetraAddress
  (ts usage : Nat)

structure PendingIndividualTxCeasedTailDrain where
  (sender peer : IndividualTailDrainLeg)
  notifyBrew : Bool
  startedAt : TdmaTime

inductive PendingIndividualConnectAckStage where
  | calledConnectAck (attempts : Nat) (requiresL2Ack : Bool)
  | callerDConnect (attempts : Nat)

structure PendingIndividualConnectAck where
  reporter : TxReporter
  stage : PendingIndividualConnectAckStage
  startedAt : TdmaTime

inductive PendingNetworkIndividualConnectKind where
  | localCallerDConnect | localCalledDConnectAck

structure PendingNetworkIndividualConnect where
  reporter : TxReporter
  (brewUuid ts : Nat)
  mediaDirection : Direction
  secondaryMedia : Option (Nat × Direction)
  secondaryReporter : Option TxReporter
  (localAddr peerAddr : TetraAddress)
  simplexDuplex : Bool
  grant : TransmissionGrant
  permission : Nat
  startedAt : TdmaTime
  kind : PendingNetworkIndividualConnectKind

/-- The echo service keeps the last frames of its caller. -/
structure EchoSession where
  (ts callId : Nat)
  buffer : List (List Nat)

def echoDelayFrames : Nat := 10

def EchoSession.pushUlFrame (session : EchoSession) (data : List Nat) :
    Option (List Nat) × EchoSession :=
  let buffer := session.buffer ++ [data]
  if buffer.length > echoDelayFrames then (buffer.head?, { session with buffer := buffer.tail })
  else (none, { session with buffer := buffer })

inductive ParrotState where
  | recording | playing | releasing
deriving DecidableEq

/-- The parrot service records its caller and plays the recording back. -/
structure ParrotSession where
  (ts callId : Nat)
  caller : TetraAddress
  frames : List VoiceFrame
  state : ParrotState
  (lastFrameAt playbackStartedAt playbackReleaseStartedAt : Option TdmaTime)
  playbackFinished : Bool

def echoIssi : Nat := 999
def parrotIssi : Nat := 99999
def parrotMaxFrames : Nat := 20 * 17
def parrotPlaybackStartGuardTimeslots : Int := 12
def parrotPlaybackDrainTimeslots : Int := 16
def parrotPlaybackDeadlineTimeslots : Int := (20 + 2) * 72

namespace ParrotSession

def new (ts callId : Nat) (caller : TetraAddress) : ParrotSession :=
  ⟨ts, callId, caller, [], .recording, none, none, none, false⟩

variable (session : ParrotSession)

/-- Frames beyond the limit are taken from the uplink and dropped. -/
def recordUlFrame (ts : Nat) (frame : VoiceFrame) : Bool × ParrotSession :=
  if session.ts ≠ ts ∨ session.state ≠ .recording then (false, session)
  else if session.frames.length ≥ parrotMaxFrames then (true, session)
  else (true, { session with frames := session.frames ++ [frame] })

def startPlayback (now : TdmaTime) : Option ParrotSession :=
  if session.state ≠ .recording then none
  else
    some { session with
      state := .playing
      lastFrameAt := none
      playbackStartedAt := some now
      playbackReleaseStartedAt := none
      playbackFinished := false }

def finishWithoutPlayback : ParrotSession :=
  if session.state ≠ .recording then session
  else
    { session with
      frames := []
      state := .releasing
      playbackReleaseStartedAt := none
      playbackFinished := false }

def nextPlaybackMsg (now : TdmaTime) : Option Msg × ParrotSession :=
  match session.state with
  | .recording => (none, session)
  | .releasing =>
    if session.playbackReleaseStartedAt.any (fun t => t.age now ≥ parrotPlaybackDrainTimeslots) then
      (none, { session with playbackReleaseStartedAt := none, playbackFinished := true })
    else (none, session)
  | .playing =>
    if session.playbackStartedAt.any (fun t => t.age now ≥ parrotPlaybackDeadlineTimeslots) then
      (none, { session with
        frames := []
        state := .releasing
        playbackReleaseStartedAt := none
        playbackFinished := true })
    else if now.t ≠ session.ts ∨ now.f = 18 then (none, session)
    else if session.playbackStartedAt.any
        (fun t => t.age now < parrotPlaybackStartGuardTimeslots) then (none, session)
    else if session.lastFrameAt = some now then (none, session)
    else
      match session.frames with
      | [] =>
        (none, { session with
          state := .releasing
          playbackReleaseStartedAt := some (session.lastFrameAt.getD now) })
      | frame :: frames =>
        (some (.tmdCircuitDataReq session.ts frame),
          { session with frames := frames, lastFrameAt := some now })

def takePlaybackFinished : Bool × ParrotSession :=
  (session.playbackFinished, { session with playbackFinished := false })

def floorGrantedMsg : Msg :=
  .umac (.floorGranted session.callId session.caller.ssi parrotIssi session.ts)

def playbackFloorGrantedMsg : Msg :=
  .umac (.floorGranted session.callId parrotIssi session.caller.ssi session.ts)

end ParrotSession
end NexusBs.Cc
