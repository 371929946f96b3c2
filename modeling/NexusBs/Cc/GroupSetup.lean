import NexusBs.Cc.Group

namespace NexusBs.Cc
open Lib

def dCallProceedingMsg (ul : UlContext) (pdu : USetup) (callId : Nat)
    (setupTimeout : CallTimeoutSetupPhase) (hookMethodSelection : Bool) : Msg :=
  ul.reply (.dCallProceeding callId setupTimeout hookMethodSelection pdu.simplexDuplexSelection)

def setupCallTimeout (c : Ctx) (simplexDuplexSelection : Bool) : CallTimeout :=
  if simplexDuplexSelection then .infinite else c.cell.callTimeout

def groupDConnectMsg (c : Ctx) (ul : UlContext) (pdu : USetup) (callId ts usage : Nat) : Msg :=
  .lcmc {
    pdu := .dConnect {
      callIdentifier := callId
      callTimeOut := setupCallTimeout c pdu.simplexDuplexSelection
      hookMethodSelection := pdu.hookMethodSelection
      simplexDuplexSelection := pdu.simplexDuplexSelection
      transmissionGrant := .granted
      transmissionRequestPermission := false
      callOwnership := true }
    handle := ul.handle
    linkId := ul.linkId
    endpointId := ul.endpointId
    layer2service := .unacknowledged
    stealingPermission := false
    unackedBlRepetitions := none
    chanAlloc := some (replaceAlloc (some usage) ts .both)
    mainAddress := ul.address
    txReporter := none }

def groupCachedSetup (pdu : DSetup) (destGssi : Nat) : CachedSetup where
  pdu := pdu
  destAddr := gssiAddress destGssi
  resend := true
  lastResendReporter := none
  isIndividual := false

namespace GroupSide

variable (c : Ctx) (g : GroupSide)

/-- A U-SETUP for a group whose call is idle, or from its own speaker, is answered as a set-up with
the call that exists. -/
def fsmGroupOnUSetupMaintainedReentry (ul : UlContext) (pdu : USetup) (callId : Nat) :
    GroupSide × Option GroupTransitionError :=
  match g.activeCalls.lookup callId with
  | none => (g, some .unknownCall)
  | some call =>
    if call.txActive && call.sourceIssi != ul.address.ssi then (g, some .invalidTransition)
    else
      match g.cachedSetups.lookup callId with
      | none => (g, some .missingCachedSetup)
      | some cached =>
        let g := g.setCall callId (call.grantFloor ul.address.ssi)
        let g := g.cancelMatchingGroupTxCeasedTailDrain callId ul.address.ssi
        let g := g.send
          (dCallProceedingMsg ul pdu callId .t10s pdu.hookMethodSelection ::
            groupDConnectMsg c ul pdu callId call.ts call.usage ::
            c.groupListenerDTxGranted callId ul.address.ssi cached.destAddr.ssi call.ts call.usage)
        let g := g.resetGroupT310AfterFloorGrant c callId
        let g := { g with
          toShared := g.toShared.refreshGroupCachedDSetupSpeaker callId ul.address.ssi }
        (g.send (floorMsgs (c.cell.isBrewGssiRoutable call.destGssi)
          (.floorGranted callId ul.address.ssi call.destGssi call.ts)), none)

/-- A U-SETUP for a group that has a call already. -/
def fsmOnUSetupActiveGroup (ul : UlContext) (pdu : USetup) (destGssi callId : Nat)
    (call : ActiveCall) : GroupSide :=
  if !c.subscriberAffiliatedToGroup ul.address.ssi destGssi then
    g.send [rejectUSetupBeforeCallId ul .requestedServiceNotAvailable]
  else
    match g.cachedSetups.lookup callId with
    | none => g.send [rejectUSetupBeforeCallId ul .requestedServiceNotAvailable]
    | some cached =>
      if cached.pdu.hookMethodSelection != pdu.hookMethodSelection ||
          cached.pdu.simplexDuplexSelection != pdu.simplexDuplexSelection ||
          cached.pdu.basicServiceInformation != pdu.basicServiceInformation then
        g.send [rejectUSetupBeforeCallId ul .requestedServiceNotAvailable]
      else
        let sameSpeakerTailPending := call.sourceIssi == ul.address.ssi &&
          (g.pendingGroupTxCeasedTailDrains.lookup callId).any
            (fun pending => pending.sender.ssi == ul.address.ssi)
        if !sameSpeakerTailPending && (!call.txActive || call.sourceIssi == ul.address.ssi) then
          (g.fsmGroupOnUSetupMaintainedReentry c ul pdu callId).1
        else if call.txActive && call.sourceIssi == ul.address.ssi then
          (g.fsmGroupReassertCurrentSpeakerFloor c callId ul.address).1
        else (g.fsmGroupOnTxDemand c callId ul.address 0).1

def groupDSetup (pdu : USetup) (callId callingSsi : Nat) : DSetup where
  callIdentifier := callId
  callTimeOut := setupCallTimeout c pdu.simplexDuplexSelection
  hookMethodSelection := pdu.hookMethodSelection
  simplexDuplexSelection := pdu.simplexDuplexSelection
  basicServiceInformation := pdu.basicServiceInformation
  transmissionGrant := .grantedToOtherUser
  transmissionRequestPermission := false
  callPriority := pdu.callPriority
  callingPartyAddressSsi := some callingSsi
  externalSubscriberNumber := none

/-- A new group call of a radio, on a circuit that was found for it. -/
def openLocalGroupCall (ul : UlContext) (pdu : USetup) (destGssi : Nat) (circuit : CmceCircuit) :
    GroupSide :=
  let callId := circuit.callId
  let dSetup := groupDSetup c pdu callId ul.address.ssi
  let g := g.send
    [signalUmacCircuitOpenWithSecondary circuit none .localLoopback (some (gssiAddress destGssi))
        [ul.address],
      dCallProceedingMsg ul pdu callId .t10s pdu.hookMethodSelection,
      groupDConnectMsg c ul pdu callId circuit.ts circuit.usage,
      dSetupMsg dSetup (gssiAddress destGssi) circuit.usage circuit.ts none]
  let g := { g with
    cachedSetups := g.cachedSetups.insert callId (groupCachedSetup dSetup destGssi)
    activeCalls := g.activeCalls.insert callId
      (.newLocal ul.address destGssi ul.address.ssi circuit.ts circuit.usage c.dltime
        c.cell.callTimeout pdu.callPriority) }
  g.send (floorMsgs (c.cell.isBrewGssiRoutable destGssi)
    (.floorGranted callId ul.address.ssi destGssi circuit.ts))

def fsmOnUSetupGroup (occupiedCallIds : Nat → Bool) (ul : UlContext) (pdu : USetup) : GroupSide :=
  if !c.cell.transmissionInterruptionEnabled && isPreemptiveCallPriority pdu.callPriority then
    g.send [rejectUSetupBeforeCallId ul .requestedServiceNotAvailable]
  else
    match pdu.calledPartySsi with
    | none => g.send [rejectUSetupBeforeCallId ul .requestedServiceNotAvailable]
    | some destGssi =>
      if !c.hasListener destGssi then
        g.send [rejectUSetupBeforeCallId ul .requestedServiceNotAvailable]
      else
        match g.activeCalls.find (c.order .activeCalls) (fun callId call =>
            call.destGssi == destGssi && !g.releasePending callId) with
        | some (callId, call) => g.fsmOnUSetupActiveGroup c ul pdu destGssi callId call
        | none =>
          match g.toShared.allocateCircuit pdu.basicServiceInformation.communicationType
              pdu.simplexDuplexSelection occupiedCallIds with
          | (none, s) =>
            { g with toShared := s }.send
              [rejectUSetupBeforeCallId ul .congestionInInfrastructure]
          | (some circuit, s) =>
            { g with toShared := s }.openLocalGroupCall c ul pdu destGssi circuit

def networkGroupDSetup (callId sourceIssi priority : Nat) : DSetup where
  callIdentifier := callId
  callTimeOut := c.cell.callTimeout
  hookMethodSelection := false
  simplexDuplexSelection := false
  basicServiceInformation :=
    { circuitModeType := .tchS
      encryptionFlag := false
      communicationType := .p2mp
      slotsPerFrame := none
      speechService := some 0 }
  transmissionGrant := .grantedToOtherUser
  transmissionRequestPermission := false
  callPriority := priority
  callingPartyAddressSsi := some sourceIssi
  externalSubscriberNumber := none

/-- A new group call of the network, on a circuit that was found for it. -/
def openNetworkGroupCall (brewUuid sourceIssi destGssi priority : Nat) (circuit : CmceCircuit) :
    GroupSide :=
  let callId := circuit.callId
  let dSetup := networkGroupDSetup c callId sourceIssi priority
  let reporter := g.newReporter false
  let g := { g with
    toShared := g.toShared.sendReported
      [signalUmacCircuitOpenWithSecondary circuit none .swMI (some (gssiAddress destGssi))
          [.issi sourceIssi],
        dSetupMsg dSetup (gssiAddress destGssi) circuit.usage circuit.ts (some reporter)] }
  let g := { g with
    cachedSetups := g.cachedSetups.insert callId (groupCachedSetup dSetup destGssi)
    activeCalls := g.activeCalls.insert callId
      (.newNetwork brewUuid destGssi sourceIssi circuit.ts circuit.usage c.dltime
        c.cell.callTimeout priority) }
  g.queueNetworkGroupReady c callId brewUuid sourceIssi destGssi circuit.ts circuit.usage [reporter]

def localSpeakerHasFloor (call : ActiveCall) : Bool :=
  call.txActive && c.subscriberAffiliatedToGroup call.sourceIssi call.destGssi

def fsmOnNetworkCallStart (occupiedCallIds : Nat → Bool)
    (brewUuid sourceIssi destGssi priority : Nat) : GroupSide :=
  if !c.cell.isBrewGssiRoutable destGssi then g.send [.brew (.networkCallEnd brewUuid)]
  else if !c.hasLocalListener destGssi then
    (g.dropGroupCallsIfUnlistened c destGssi).send [.brew (.networkCallEnd brewUuid)]
  else if !c.cell.transmissionInterruptionEnabled && isPreemptiveCallPriority priority then
    g.send [.brew (.networkCallEnd brewUuid)]
  else
    match g.activeCalls.find (c.order .activeCalls) (fun callId call =>
        call.destGssi == destGssi && !g.releasePending callId) with
    | some (callId, call) =>
      if localSpeakerHasFloor c call && !(c.cell.transmissionInterruptionEnabled &&
          isPreemptiveCallPriority priority && priority > call.priority) then
        g.send [.brew (.networkCallEnd brewUuid)]
      else (g.fsmGroupOnNetworkCallStart c callId brewUuid sourceIssi priority).1
    | none =>
      match g.toShared.allocateCircuit .p2mp false occupiedCallIds with
      | (none, s) => { g with toShared := s }.send [.brew (.networkCallEnd brewUuid)]
      | (some circuit, s) =>
        { g with toShared := s }.openNetworkGroupCall c brewUuid sourceIssi destGssi priority
          circuit

end GroupSide
end NexusBs.Cc
