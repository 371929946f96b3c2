import NexusBs.Cc.GroupSetup

namespace NexusBs.Cc
open Lib

def individualReleasePendingTimeoutTimeslots : Int := 2 * 18 * 4
def individualDisconnectDeliveryTimeoutTimeslots : Int := 2 * 18 * 4
def individualSimplexTailDrainTimeslots : Int := (4 - 1) * 4
def individualDisconnectPendingTimeoutTimeslots : Int := 5 * 18 * 4
def setupReleaseRepeats : Nat := 3

namespace IndividualCall

variable (call : IndividualCall)

def callingLeg : IndividualTailDrainLeg := ⟨call.callingAddr, call.callingTs, call.callingUsage⟩

def calledLeg : IndividualTailDrainLeg := ⟨call.calledAddr, call.calledTs, call.calledUsage⟩

def legsOf (sender : TetraAddress) : IndividualTailDrainLeg × IndividualTailDrainLeg :=
  if sender.ssi = call.callingAddr.ssi then
    (⟨sender, call.callingTs, call.callingUsage⟩, call.calledLeg)
  else (⟨sender, call.calledTs, call.calledUsage⟩, call.callingLeg)

def overBrew : Bool := call.calledOverBrew || call.callingOverBrew

def individualLegIsLocalRf (addr : TetraAddress) : Bool :=
  !(call.calledOverBrew && addr == call.calledAddr) &&
    !(call.callingOverBrew && addr == call.callingAddr)

/-- A message for a leg that is served by radio; nothing goes out for one of the network. -/
def ifLocalRf (addr : TetraAddress) (msg : Msg) : List Msg :=
  if call.individualLegIsLocalRf addr then [msg] else []

/-- The parties that a release goes to: both, or the one that is named. -/
def releasesCallingLeg (releaseToIssi : Option Nat) : Bool :=
  !call.callingOverBrew && releaseToIssi.all (· == call.callingAddr.ssi)

def releasesCalledLeg (releaseToIssi : Option Nat) : Bool :=
  !call.calledOverBrew && releaseToIssi.all (· == call.calledAddr.ssi)

/-- A duplex call to the network on two slots hears its release on the second one. -/
def callingReleaseLeg : IndividualTailDrainLeg :=
  if call.calledOverBrew && call.simplexDuplex && call.calledTs != call.callingTs then
    ⟨call.callingAddr, call.calledTs, call.calledUsage⟩
  else call.callingLeg

def releaseCloseDirection (ts : Nat) : Direction :=
  if call.simplexDuplex && call.calledTs != call.callingTs && call.overBrew then
    if ts = call.callingTs then .ul
    else if ts = call.calledTs then .dl
    else .both
  else .both

def timeslots : List Nat :=
  call.callingTs :: if call.calledTs != call.callingTs then [call.calledTs] else []

end IndividualCall

def pushIndividualDTxGranted (callId : Nat) (leg : IndividualTailDrainLeg)
    (ulDlAssigned : UlDlAssignment) (grant : TransmissionGrant) : Msg :=
  buildSapmsgStealing (.dTxGranted callId grant none) leg.addr leg.ts leg.usage ulDlAssigned none
    (some 0)

def pushIndividualDTxCeased (callId : Nat) (leg : IndividualTailDrainLeg) : Msg :=
  buildSapmsgStealing (.dTxCeased callId) leg.addr leg.ts leg.usage .dl none (some 0)

/-- The floor of a call between two parties goes to one of them. -/
def individualFloorGrantedMsgs (call : IndividualCall) (callId : Nat)
    (requester listener : IndividualTailDrainLeg) (toBrew : Bool) : List Msg :=
  call.ifLocalRf requester.addr (pushIndividualDTxGranted callId requester .both .granted) ++
    call.ifLocalRf listener.addr
      (pushIndividualDTxGranted callId listener .both .grantedToOtherUser) ++
    floorMsgs toBrew
      (.floorGranted callId requester.addr.ssi listener.addr.ssi requester.ts)

namespace Shared

/-- One D-RELEASE on the assigned channel of each leg, each with a receipt. -/
def sendFacchReleases (s : Shared) (callId : Nat) (cause : DisconnectCause) :
    List IndividualTailDrainLeg → List TxReporter × Shared
  | [] => ([], s)
  | leg :: legs =>
    let reporter := s.newReporter false
    let rest := (s.sendReported
      [buildSapmsgStealing (s.dRelease callId cause) leg.addr leg.ts leg.usage .dl (some reporter)
        none]).sendFacchReleases callId cause legs
    (reporter :: rest.1, rest.2)

variable (s : Shared) (callId : Nat) (call : IndividualCall) (cause : DisconnectCause)

variable (releaseToIssi : Option Nat)

def sendEstablishedIndividualReleasePdus : List TxReporter × Shared :=
  s.sendFacchReleases callId cause
    ((if call.releasesCallingLeg releaseToIssi then [call.callingReleaseLeg] else []) ++
      if call.releasesCalledLeg releaseToIssi then [call.calledLeg] else [])

def sendDirectIndividualReleasePdu (targetIssi : Nat) : Shared :=
  if targetIssi = call.callingAddr.ssi then
    s.send [buildSapmsgDirect (s.dRelease callId cause) call.callingAddr call.callingHandle
      call.callingLinkId call.callingEndpointId]
  else if targetIssi = call.calledAddr.ssi then
    match call.calledContext with
    | some ctx =>
      s.send [buildSapmsgDirect (s.dRelease callId cause) call.calledAddr ctx.handle ctx.linkId
        ctx.endpointId]
    | none =>
      s.send [buildSapmsg (s.dRelease callId cause) none call.calledAddr .unacknowledged none]
  else s

/-- Released while it is being connected: only a called radio that was told to go to its channel is
released there. -/
def sendConnectingIndividualReleasePdus : List TxReporter × Shared :=
  let s :=
    if call.releasesCallingLeg releaseToIssi then
      s.sendDirectIndividualReleasePdu callId call cause call.callingAddr.ssi
    else s
  if call.releasesCalledLeg releaseToIssi then
    if call.state = .callerConnectAckPending then
      s.sendFacchReleases callId cause [call.calledLeg]
    else ([], s.sendDirectIndividualReleasePdu callId call cause call.calledAddr.ssi)
  else ([], s)

def sendIndividualReleasePdus : List TxReporter × Shared :=
  if call.isConnectAckPending then
    s.sendConnectingIndividualReleasePdus callId call cause releaseToIssi
  else s.sendEstablishedIndividualReleasePdus callId call cause releaseToIssi

/-- Close the circuit of a slot of the call and give the slot back. -/
def closeReleasedSlot (preclosedCircuits : List CmceCircuit) (ts : Nat) : Shared :=
  let s :=
    match preclosedCircuits.find? (fun circuit => circuit.ts == ts) with
    | some circuit => s.send [signalUmacCircuitClose circuit]
    | none => s.closeCircuit (call.releaseCloseDirection ts) ts
  (s.send [.umac (.callEnded callId ts)]).releaseTimeslot ts

end Shared

namespace IndividualSide

def send (i : IndividualSide) (msgs : List Msg) : IndividualSide :=
  { i with toShared := i.toShared.send msgs }

variable (c : Ctx) (i : IndividualSide) (callId : Nat) (call : IndividualCall)

def setCall : IndividualSide :=
  { i with individualCalls := i.individualCalls.insert callId call }

def clearPending : IndividualSide :=
  { i with
    pendingIndividualDisconnectTailDrains := i.pendingIndividualDisconnectTailDrains.erase callId
    pendingIndividualDisconnectDeliveries := i.pendingIndividualDisconnectDeliveries.erase callId
    pendingIndividualDisconnectReleaseAcks := i.pendingIndividualDisconnectReleaseAcks.erase callId
    pendingIndividualTxCeasedTailDrains := i.pendingIndividualTxCeasedTailDrains.erase callId
    pendingIndividualConnectAcks := i.pendingIndividualConnectAcks.erase callId
    pendingNetworkIndividualConnects := i.pendingNetworkIndividualConnects.erase callId }

def removeCall : IndividualSide :=
  { i with individualCalls := i.individualCalls.erase callId }

def releaseEchoSessionIfMatches : IndividualSide :=
  { i with
    echoSession := i.echoSession.filter (fun session => session.callId != callId)
    parrotSession := i.parrotSession.filter (fun session => session.callId != callId) }

variable (cause : DisconnectCause) (ul : UlContext)
  (pending : PendingIndividualDisconnectReleaseAck)

def releaseEndMsgs (notifyBrew : Bool) : List Msg :=
  if notifyBrew && call.overBrew && cause != .swmiRequestedDisconnection then
    match call.brewUuid with
    | some brewUuid => [.brew (.networkCircuitRelease brewUuid cause)]
    | none => []
  else []

def completeIndividualReleaseCleanup (preclosedCircuits : List CmceCircuit) (notifyBrew : Bool) :
    IndividualSide :=
  let s := call.timeslots.foldl
    (fun s ts => s.closeReleasedSlot callId call preclosedCircuits ts) i.toShared
  let i := { i with toShared := s.eraseCachedSetup callId }
  (((i.removeCall callId).clearPending callId).send
    (releaseEndMsgs call cause notifyBrew)).releaseEchoSessionIfMatches callId

def completePendingIndividualRelease : IndividualSide :=
  match i.pendingIndividualReleases.lookup callId with
  | none => i
  | some pending =>
    { i with pendingIndividualReleases := i.pendingIndividualReleases.erase callId
      }.completeIndividualReleaseCleanup callId pending.call pending.cause
        pending.preclosedCircuits pending.notifyBrew

/-- Copies of the D-RELEASE on the control channel, for parties that have no channel yet. -/
def setupReleaseMsgs (s : Shared) (callId : Nat) (call : IndividualCall) (cause : DisconnectCause)
    (releaseToIssi : Option Nat) : List Msg :=
  (List.replicate setupReleaseRepeats
    ((if call.releasesCallingLeg releaseToIssi then
        [buildSapmsg (s.dRelease callId cause) none call.callingAddr .unacknowledged none]
      else []) ++
      if call.releasesCalledLeg releaseToIssi then
        [buildSapmsg (s.dRelease callId cause) none call.calledAddr .unacknowledged none]
      else [])).flatten

def beginIndividualRelease (preclosedCircuits : List CmceCircuit) (notifyBrew : Bool)
    (releaseToIssi : Option Nat) : IndividualSide :=
  if callId ∈ i.pendingIndividualReleases then i
  else
    let i := i.clearPending callId
    match i.individualCalls.lookup callId with
    | none => i
    | some call =>
      let i := i.removeCall callId
      if call.hasAssignedCircuit then
        let r := i.toShared.sendIndividualReleasePdus callId call cause releaseToIssi
        let i := { i with
          toShared := r.2
          pendingIndividualReleases := i.pendingIndividualReleases.insert callId
            { call := call
              cause := cause
              reporters := r.1
              startedAt := c.dltime
              preclosedCircuits := preclosedCircuits
              notifyBrew := notifyBrew } }
        -- nobody has to be told: there is nothing to wait for
        if r.1.isEmpty then i.completePendingIndividualRelease callId else i
      else
        (i.send (setupReleaseMsgs i.toShared callId call cause
          releaseToIssi)).completeIndividualReleaseCleanup callId call cause preclosedCircuits
          notifyBrew

def releaseIndividualCall : IndividualSide := i.beginIndividualRelease c callId cause [] true none

def releaseIndividualCallWithoutBrewEcho : IndividualSide :=
  i.beginIndividualRelease c callId cause [] false none

def releaseIndividualCallToIssi (releaseToIssi : Nat) : IndividualSide :=
  i.beginIndividualRelease c callId cause [] true (some releaseToIssi)

def drainPendingIndividualReleases : IndividualSide :=
  (i.pendingIndividualReleases.select (c.order .pendingIndividualReleases) (fun _ pending =>
    pending.reporters.all c.isTransmitted ||
      pending.startedAt.age c.dltime ≥ individualReleasePendingTimeoutTimeslots)).foldl
    (fun i callId => i.completePendingIndividualRelease callId) i

/-- A call whose release is under way answers late signalling with its release. -/
def pendingReleaseDirectAck : Option Msg :=
  (i.pendingIndividualReleases.lookup callId).map (fun pending =>
    ul.reply (i.toShared.dRelease callId pending.cause))

/-! Disconnection of a call between two radios: the party that hangs up is released at once, its
peer when the tail of the speech has been sent. -/

def releaseAckDone : Bool :=
  pending.reporters.all c.isTransmitted && pending.peerReleaseReporters.all c.isTransmitted ||
    pending.startedAt.age c.dltime ≥ individualReleasePendingTimeoutTimeslots

def peerClearDone : Bool :=
  pending.peerClearComplete ||
    !pending.peerReleaseReporters.isEmpty &&
      (pending.peerReleaseReporters.all c.isTransmitted ||
        pending.startedAt.age c.dltime ≥ individualReleasePendingTimeoutTimeslots)

def disconnectReady : Bool := peerClearDone c pending && releaseAckDone c pending

def completeIndividualDisconnectIfReady : IndividualSide :=
  match i.pendingIndividualDisconnectReleaseAcks.lookup callId with
  | none => i
  | some pending =>
    if disconnectReady c pending then
      let i := { i with
        pendingIndividualDisconnectReleaseAcks :=
          i.pendingIndividualDisconnectReleaseAcks.erase callId }
      match i.individualCalls.lookup callId with
      | none => i
      | some call =>
        (i.removeCall callId).completeIndividualReleaseCleanup callId call pending.cause [] true
    else i

def drainPendingIndividualDisconnectReleaseAcks : IndividualSide :=
  (i.pendingIndividualDisconnectReleaseAcks.select
    (c.order .pendingIndividualDisconnectReleaseAcks) (fun _ pending =>
      disconnectReady c pending)).foldl
    (fun i callId => i.completeIndividualDisconnectIfReady c callId) i

def sendIndividualDisconnectReleaseAck (releaseToIssi : Nat) (cause : DisconnectCause) :
    IndividualSide :=
  if callId ∈ i.pendingIndividualDisconnectReleaseAcks then i
  else
    let r := i.toShared.sendEstablishedIndividualReleasePdus callId call cause (some releaseToIssi)
    { i with
      toShared := r.2
      pendingIndividualDisconnectReleaseAcks := i.pendingIndividualDisconnectReleaseAcks.insert
        callId
        { releaseToIssi := releaseToIssi
          cause := cause
          reporters := r.1
          peerReleaseReporters := []
          startedAt := c.dltime
          peerClearComplete := false } }.completeIndividualDisconnectIfReady c callId

def sendIndividualDisconnectPeerRelease (peerIssi : Nat) : IndividualSide :=
  let r := i.toShared.sendEstablishedIndividualReleasePdus callId call cause (some peerIssi)
  let i := { i with toShared := r.2 }
  match i.pendingIndividualDisconnectReleaseAcks.lookup callId with
  | some pending =>
    { i with
      pendingIndividualDisconnectReleaseAcks := i.pendingIndividualDisconnectReleaseAcks.insert
        callId { pending with peerReleaseReporters := pending.peerReleaseReporters ++ r.1 }
      }.completeIndividualDisconnectIfReady c callId
  | none => i.beginIndividualRelease c callId cause [] true (some peerIssi)

def completeIndividualDisconnectPeerRelease (releaseToIssi : Nat) : IndividualSide :=
  match i.pendingIndividualDisconnectReleaseAcks.lookup callId with
  | some pending =>
    { i with
      pendingIndividualDisconnectReleaseAcks := i.pendingIndividualDisconnectReleaseAcks.insert
        callId { pending with peerClearComplete := true }
      }.completeIndividualDisconnectIfReady c callId
  | none => i.releaseIndividualCallToIssi c callId cause releaseToIssi

def releaseIndividualDisconnectFallback (releaseToIssi : Option Nat) : IndividualSide :=
  let peerOfAck :=
    match i.pendingIndividualDisconnectReleaseAcks.lookup callId with
    | none => none
    | some ack =>
      releaseToIssi.or
        ((i.individualCalls.lookup callId).bind (fun call => call.peerIssiFor ack.releaseToIssi))
  match peerOfAck with
  | some peerIssi => i.beginIndividualRelease c callId cause [] true (some peerIssi)
  | none => i.releaseIndividualCall c callId cause

/-- A tail of speech that is being sent already counts for the disconnection. -/
def beginIndividualDisconnectTailDrain (sender : TetraAddress) (peerIssi : Nat)
    (cause : DisconnectCause) : IndividualSide :=
  if callId ∈ i.pendingIndividualDisconnectTailDrains then i
  else
    let startedAt :=
      ((i.pendingIndividualTxCeasedTailDrains.lookup callId).map (·.startedAt)).getD c.dltime
    { i with
      pendingIndividualTxCeasedTailDrains := i.pendingIndividualTxCeasedTailDrains.erase callId
      pendingIndividualDisconnectTailDrains := i.pendingIndividualDisconnectTailDrains.insert callId
        { sender := sender, peerIssi := peerIssi, cause := cause, startedAt := startedAt } }

def drainIndividualDisconnectTailDrain : IndividualSide :=
  match i.pendingIndividualDisconnectTailDrains.lookup callId with
  | none => i
  | some pending =>
    let i := { i with
      pendingIndividualDisconnectTailDrains :=
        i.pendingIndividualDisconnectTailDrains.erase callId }
    match i.individualCalls.lookup callId with
    | none => i
    | some call =>
      if !call.isActive then i
      else if call.peerIssiFor pending.sender.ssi ≠ some pending.peerIssi then i
      else i.sendIndividualDisconnectPeerRelease c callId call pending.cause pending.peerIssi

def drainPendingIndividualDisconnectTailDrains : IndividualSide :=
  (i.pendingIndividualDisconnectTailDrains.select (c.order .pendingIndividualDisconnectTailDrains)
    (fun _ pending =>
      pending.startedAt.age c.dltime ≥ individualSimplexTailDrainTimeslots)).foldl
    (fun i callId => i.drainIndividualDisconnectTailDrain c callId) i

def drainIndividualDisconnectDelivery (disconnectWasTransmitted : Bool) : IndividualSide :=
  match i.pendingIndividualDisconnectDeliveries.lookup callId with
  | none => i
  | some pending =>
    let i := { i with
      pendingIndividualDisconnectDeliveries :=
        i.pendingIndividualDisconnectDeliveries.erase callId }
    if disconnectWasTransmitted then
      match i.individualCalls.lookup callId with
      | none => i
      | some call =>
        if call.isActive then
          i.setCall callId (call.beginDisconnectPending pending.awaitingReleaseFrom
            pending.releaseToIssi c.dltime pending.cause)
        else i
    else
      i.releaseIndividualDisconnectFallback c callId pending.cause
        (some pending.awaitingReleaseFrom)

/-- Whether the D-DISCONNECT was sent is settled when the table is walked, and acted on after. -/
def drainPendingIndividualDisconnectDeliveries : IndividualSide :=
  (i.pendingIndividualDisconnectDeliveries.select
    (c.order .pendingIndividualDisconnectDeliveries) (fun _ pending =>
      c.isTransmitted pending.reporter || c.isDiscarded pending.reporter ||
        pending.startedAt.age c.dltime ≥ individualDisconnectDeliveryTimeoutTimeslots)).foldl
    (fun i' callId => i'.drainIndividualDisconnectDelivery c callId
      ((i.pendingIndividualDisconnectDeliveries.lookup callId).any (fun pending =>
        c.isTransmitted pending.reporter))) i

def completeIndividualDisconnectPeerClearWithoutDownlink : IndividualSide :=
  match i.pendingIndividualDisconnectReleaseAcks.lookup callId with
  | some pending =>
    { i with
      pendingIndividualDisconnectReleaseAcks := i.pendingIndividualDisconnectReleaseAcks.insert
        callId { pending with peerClearComplete := true }
      }.completeIndividualDisconnectIfReady c callId
  | none =>
    match i.individualCalls.lookup callId with
    | none => i
    | some call =>
      (i.removeCall callId).completeIndividualReleaseCleanup callId call cause [] true

def checkIndividualDisconnectPendingTimeout : IndividualSide :=
  let expired (call : IndividualCall) := call.pendingDisconnectTimeoutExpired c.dltime
    individualDisconnectPendingTimeoutTimeslots
  (i.individualCalls.select (c.order .individualCalls) (fun _ call => (expired call).isSome)).foldl
    (fun i' callId =>
      match (i.individualCalls.lookup callId).bind expired with
      | some cause => i'.completeIndividualDisconnectPeerClearWithoutDownlink c callId cause
      | none => i') i

def disconnectClearPending : Bool :=
  decide (callId ∈ i.pendingIndividualDisconnectTailDrains) ||
    decide (callId ∈ i.pendingIndividualDisconnectDeliveries) ||
    decide (callId ∈ i.pendingIndividualDisconnectReleaseAcks)

/-! The floor of a simplex call. -/

def beginIndividualTxCeasedTailDrain (sender peer : IndividualTailDrainLeg) (notifyBrew : Bool) :
    IndividualSide :=
  if callId ∈ i.pendingIndividualTxCeasedTailDrains then i
  else
    { i with
      pendingIndividualTxCeasedTailDrains := i.pendingIndividualTxCeasedTailDrains.insert callId
        { sender := sender, peer := peer, notifyBrew := notifyBrew, startedAt := c.dltime } }

def cancelMatchingIndividualTxCeasedTailDrain (senderIssi : Nat) : IndividualSide :=
  if (i.pendingIndividualTxCeasedTailDrains.lookup callId).any
      (fun pending => pending.sender.addr.ssi == senderIssi) then
    { i with
      pendingIndividualTxCeasedTailDrains := i.pendingIndividualTxCeasedTailDrains.erase callId }
  else i

def handOverFloor (requester : TetraAddress) (sender peer : IndividualTailDrainLeg) (toBrew : Bool) :
    IndividualSide :=
  let legs := if requester.ssi = peer.addr.ssi then (peer, sender) else (sender, peer)
  (i.setCall callId ({ call.clearFloorHolder with queuedTxDemand := none }.setFloorHolder
    legs.1.addr.ssi)).send (individualFloorGrantedMsgs call callId legs.1 legs.2 toBrew)

def completeIndividualTxCeasedTailDrain (pending : PendingIndividualTxCeasedTailDrain) :
    IndividualSide :=
  match i.individualCalls.lookup callId with
  | none => i
  | some call =>
    if !call.isActive || call.simplexDuplex then i
    else if call.floorHolder ≠ some pending.sender.addr.ssi then i
    else
      match call.queuedTxDemand with
      | some requester =>
        i.handOverFloor callId call requester pending.sender pending.peer pending.notifyBrew
      | none =>
        (i.setCall callId call.clearFloorHolder).send
          (call.ifLocalRf pending.sender.addr (pushIndividualDTxCeased callId pending.sender) ++
            call.ifLocalRf pending.peer.addr (pushIndividualDTxCeased callId pending.peer) ++
            floorMsgs pending.notifyBrew (.floorReleased callId pending.sender.ts))

def drainIndividualTxCeasedTailDrain : IndividualSide :=
  match i.pendingIndividualTxCeasedTailDrains.lookup callId with
  | none => i
  | some pending =>
    { i with
      pendingIndividualTxCeasedTailDrains := i.pendingIndividualTxCeasedTailDrains.erase callId
      }.completeIndividualTxCeasedTailDrain callId pending

def drainPendingIndividualTxCeasedTailDrains : IndividualSide :=
  (i.pendingIndividualTxCeasedTailDrains.select (c.order .pendingIndividualTxCeasedTailDrains)
    (fun _ pending =>
      pending.startedAt.age c.dltime ≥ individualSimplexTailDrainTimeslots)).foldl
    (fun i callId => i.drainIndividualTxCeasedTailDrain callId) i

/-- The caller of the parrot service has finished: its recording is played back, and where there is
none the call is released. -/
def parrotTxCeased (sender : IndividualTailDrainLeg) : IndividualSide :=
  match i.parrotSession with
  | none => i
  | some session =>
    if session.frames.isEmpty then
      { i with parrotSession := some session.finishWithoutPlayback
        }.releaseIndividualCallToIssi c callId .swmiRequestedDisconnection sender.addr.ssi
    else
      match session.startPlayback c.dltime with
      | none => i
      | some session =>
        ({ i with parrotSession := some session }.setCall callId
          (call.setFloorHolder parrotIssi)).send
          [pushIndividualDTxGranted callId sender .dl .grantedToOtherUser,
            session.playbackFloorGrantedMsg]

def fsmOnUTxCeased (sender : TetraAddress) : IndividualSide :=
  if i.disconnectClearPending callId then i
  else if !call.isActive then i
  else if (call.peerIssiFor sender.ssi).isNone then i
  else if call.simplexDuplex then i
  else
    let legs := call.legsOf sender
    if call.floorHolder ≠ some sender.ssi then
      -- a waiting party withdraws its request
      if call.queuedTxDemand.any (fun requester => requester.ssi == sender.ssi) then
        i.setCall callId { call with queuedTxDemand := none }
      else i
    else if call.calledAddr.ssi = parrotIssi then i.parrotTxCeased c callId call legs.1
    else
      match call.queuedTxDemand with
      | some requester =>
        i.handOverFloor callId call requester legs.1 legs.2
          (call.overBrew && call.brewUuid.isSome)
      | none => i.beginIndividualTxCeasedTailDrain c callId legs.1 legs.2 call.overBrew

def individualTxDemandWhileHeld (holderIssi : Nat) (requester peer : IndividualTailDrainLeg)
    (txDemandPriority : Nat) : IndividualSide :=
  if c.cell.transmissionInterruptionEnabled && isPreemptiveTxDemandPriority txDemandPriority then
    ((i.cancelMatchingIndividualTxCeasedTailDrain callId holderIssi).setCall callId
      ({ call with queuedTxDemand := none }.setFloorHolder requester.addr.ssi)).send
      (call.ifLocalRf peer.addr
          (dTxInterruptFacch callId peer.addr requester.addr.ssi peer.ts peer.usage
            .grantedToOtherUser) ++
        call.ifLocalRf requester.addr
          (pushIndividualDTxGranted callId requester .both .granted) ++
        floorMsgs (call.overBrew && call.brewUuid.isSome)
          (.floorGranted callId requester.addr.ssi peer.addr.ssi requester.ts))
  else
    let r := call.queueTxDemand requester.addr
    let grant : TransmissionGrant :=
      match r.1 with
      | .queueBusy => .notGranted
      | .fromCurrentSpeaker => .granted
      | _ => .requestQueued
    (i.setCall callId r.2).send [pushIndividualDTxGranted callId requester .dl grant]

def fsmOnUTxDemand (txDemandPriority : Nat) : IndividualSide :=
  if i.disconnectClearPending callId then i
  else if !call.isActive then i
  else if (call.peerIssiFor ul.address.ssi).isNone then
    i.send [ul.reply (.dTxGranted callId .notGranted none)]
  else if call.simplexDuplex then i
  else
    let legs := call.legsOf ul.address
    match call.floorHolder.filter (fun holderIssi => holderIssi != ul.address.ssi) with
    | some holderIssi =>
      i.individualTxDemandWhileHeld c callId call holderIssi legs.1 legs.2 txDemandPriority
    | none =>
      ((i.cancelMatchingIndividualTxCeasedTailDrain callId ul.address.ssi).setCall callId
        (call.setFloorHolder ul.address.ssi)).send
        (individualFloorGrantedMsgs call callId legs.1 legs.2
          (call.overBrew && call.brewUuid.isSome))

/-- The digits that a party dials go to the network one by one. -/
def fsmOnUInfo (dtmfDigits : Option (List Char)) : IndividualSide :=
  match i.individualCalls.lookup callId with
  | none => i
  | some call =>
    if !call.overBrew then i
    else
      match call.brewUuid, dtmfDigits with
      | some brewUuid, some digits =>
        i.send (digits.map (fun digit => .brew (.networkCircuitDtmf brewUuid digit)))
      | _, _ => i

def fsmOnURelease : IndividualSide :=
  match (i.pendingIndividualDisconnectDeliveries.lookup callId).filter
      (fun pending => pending.awaitingReleaseFrom == ul.address.ssi) with
  | some pending =>
    { i with
      pendingIndividualDisconnectDeliveries :=
        i.pendingIndividualDisconnectDeliveries.erase callId
      }.completeIndividualDisconnectPeerRelease c callId pending.cause pending.releaseToIssi
  | none =>
    match call.pendingDisconnectReleaseIfAwaitedBy ul.address.ssi with
    | some (cause, releaseToIssi) =>
      i.completeIndividualDisconnectPeerRelease c callId cause releaseToIssi
    | none =>
      if call.isDisconnectPending then i
      else if (call.peerIssiFor ul.address.ssi).isNone then
        i.send [{ ul with address := .issi ul.address.ssi }.reply
          (.dRelease callId .requestedServiceNotAvailable)]
      else i

def normalizeIndividualUDisconnectCause : DisconnectCause :=
  if cause = .preEmptiveUseOfResource then .userRequestedDisconnection else cause

def fsmOnUDisconnect (rawDisconnectCause : DisconnectCause) : IndividualSide :=
  let cause := normalizeIndividualUDisconnectCause rawDisconnectCause
  if call.isDisconnectPending then i
  else
    match call.peerIssiFor ul.address.ssi with
    | none =>
      i.send [{ ul with address := .issi ul.address.ssi }.reply
        (.dRelease callId .requestedServiceNotAvailable)]
    | some peerIssi =>
      if !call.overBrew && call.isActive then
        if i.disconnectClearPending callId then i
        else
          let i := i.sendIndividualDisconnectReleaseAck c callId call ul.address.ssi cause
          if !call.simplexDuplex then
            i.beginIndividualDisconnectTailDrain c callId ul.address peerIssi cause
          else i.sendIndividualDisconnectPeerRelease c callId call cause peerIssi
      else i.releaseIndividualCall c callId cause

/-! Timers. -/

/-- The leg whose uplink carries the floor holder, and the other one. -/
def holderLegs (holderIssi : Nat) : IndividualTailDrainLeg × IndividualTailDrainLeg :=
  if holderIssi = call.callingAddr.ssi then (call.callingLeg, call.calledLeg)
  else (call.calledLeg, call.callingLeg)

/-- The simplex call whose floor holder should be heard on a slot. -/
def floorHeldOn (ts : Nat) : Option (Nat × IndividualCall) :=
  i.individualCalls.find (c.order .individualCalls) (fun _ call =>
    call.isActive && !call.simplexDuplex &&
      call.floorHolder.any (fun holderIssi => (holderLegs call holderIssi).1.ts == ts))

/-- No speech for a while from the radio that holds the floor. -/
def individualUlInactivity : IndividualSide :=
  if call.calledAddr.ssi = parrotIssi then i.parrotTxCeased c callId call call.callingLeg
  else
    match call.floorHolder with
    | none => i
    | some holderIssi =>
      let legs := holderLegs call holderIssi
      let toBrew := call.overBrew && call.brewUuid.isSome
      match call.queuedTxDemand with
      | some requester => i.handOverFloor callId call requester legs.1 legs.2 toBrew
      | none =>
        (i.setCall callId call.clearFloorHolder).send
          (call.ifLocalRf legs.1.addr (pushIndividualDTxCeased callId legs.1) ++
            call.ifLocalRf legs.2.addr (pushIndividualDTxCeased callId legs.2) ++
            floorMsgs toBrew (.floorReleased callId legs.1.ts))

def checkIndividualCallTimeoutExpiry : IndividualSide :=
  (i.individualCalls.select (c.order .individualCalls) (fun _ call =>
    call.activeTimeoutExpired c.dltime)).foldl
    (fun i callId => i.releaseIndividualCall c callId .expiryOfTimer) i

def releaseExpiredSetups : IndividualSide :=
  (i.individualCalls.select (c.order .individualCalls) (fun _ call =>
    call.setupTimeoutExpired c.dltime)).foldl
    (fun i callId => i.releaseIndividualCall c callId .expiryOfTimer) i

def dsetupFirstRetryAfterTimeslots : Int := 18 * 4
def dsetupRetryIntervalTimeslots : Int := 10 * 18 * 4

def dsetupRetryDue : Bool :=
  call.state == .callSetupPending &&
    call.setupTimerStarted.any (fun started =>
      let age := started.age c.dltime
      age ≥ dsetupFirstRetryAfterTimeslots &&
        (age - dsetupFirstRetryAfterTimeslots) % dsetupRetryIntervalTimeslots == 0)

/-- Repeat the set-up for a radio that may have been asleep. -/
def retryIndividualDSetup : IndividualSide :=
  match i.cachedSetups.lookup callId with
  | none => i
  | some cached =>
    if !cached.isIndividual || cached.lastResendReporter.any (fun r => !c.isInFinalState r) ||
        !cached.pdu.validate then i
    else
      let reporter := i.newReporter false
      { i with
        toShared := { i.toShared with
          cachedSetups := i.cachedSetups.insert callId
            { cached with lastResendReporter := some reporter } }.sendReported
          [buildSapmsg (.dSetup cached.pdu) none cached.destAddr .unacknowledged (some reporter)] }

def checkIndividualSetupTimeout : IndividualSide :=
  let i := i.releaseExpiredSetups c
  (i.individualCalls.select (c.order .individualCalls) (fun _ call => dsetupRetryDue c call)).foldl
    (fun i callId => i.retryIndividualDSetup c callId) i

/-! Echo and parrot services. -/

def handleEchoUlFrame (ts : Nat) (data : List Nat) : IndividualSide :=
  match i.echoSession with
  | none => i
  | some session =>
    if session.ts ≠ ts then i
    else
      let r := session.pushUlFrame data
      { i with echoSession := some r.2 }.send
        (r.1.toList.map (fun data => .tmdCircuitDataReq ts ⟨data, none⟩))

def handleParrotUlFrame (ts : Nat) (frame : VoiceFrame) : Bool × IndividualSide :=
  match i.parrotSession with
  | none => (false, i)
  | some session =>
    if session.ts ≠ ts then (false, i)
    else (true, { i with parrotSession := some (session.recordUlFrame ts frame).2 })

def driveParrotSession : IndividualSide :=
  match i.parrotSession with
  | none => i
  | some session =>
    let r := session.nextPlaybackMsg c.dltime
    let f := r.2.takePlaybackFinished
    let i := { i with parrotSession := some f.2 }.send r.1.toList
    if f.1 then
      i.releaseIndividualCallToIssi c session.callId .swmiRequestedDisconnection session.caller.ssi
    else i

end IndividualSide
end NexusBs.Cc
