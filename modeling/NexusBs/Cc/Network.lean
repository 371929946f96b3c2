import NexusBs.Cc.PrivateSetup

namespace NexusBs.Cc
open Lib

/-! Individual calls with one party behind the network. -/

def networkIndividualConnectPendingTimeoutTimeslots : Int := 2 * 18 * 4
def networkDuplexConnectAckUnackedRepetitions : Nat := 0

def networkCircuitCallTimeout (raw : Nat) (fallback : CallTimeout) : CallTimeout :=
  match CallTimeout.tryFrom raw with
  | some .reserved => fallback
  | some timeout => timeout
  | none => fallback

def networkCircuitHookMethod (raw : Nat) : Bool := raw != 0

/-- The service of a call when its set-up is not at hand. -/
def speechService : BasicServiceInformation where
  circuitModeType := .tchS
  encryptionFlag := false
  communicationType := .p2p
  slotsPerFrame := none
  speechService := some 0

def networkDSetup (callId : Nat) (call : NetworkCircuitCall) : DSetup where
  callIdentifier := callId
  callTimeOut := networkCircuitCallTimeout call.timeout .t5m
  hookMethodSelection := networkCircuitHookMethod call.method
  simplexDuplexSelection := call.duplex != 0
  basicServiceInformation :=
    { circuitModeType := (CircuitModeType.tryFrom call.mode).getD .tchS
      encryptionFlag := false
      communicationType := (CommunicationType.tryFrom call.communication).getD .p2p
      slotsPerFrame := none
      speechService := some call.service }
  transmissionGrant := .notGranted
  transmissionRequestPermission := false
  callPriority := call.priority
  callingPartyAddressSsi := some call.sourceIssi
  externalSubscriberNumber := encodeExternalSubscriberNumber call.number

variable (c : Ctx) (call : IndividualCall) (pending : PendingNetworkIndividualConnect)

def networkSetupCall (brewUuid : Nat) (call : NetworkCircuitCall) (ts usage : Nat) :
    IndividualCall where
  callingAddr := .issi call.sourceIssi
  calledAddr := .issi call.destination
  callingHandle := 0
  callingLinkId := 0
  callingEndpointId := 0
  calledContext := none
  callingTs := ts
  calledTs := ts
  callingUsage := usage
  calledUsage := usage
  simplexDuplex := call.duplex != 0
  requestToTransmitSendData := false
  state := .incomingSetupPending
  setupTimerStarted := some c.dltime
  setupTimeout := some .t60s
  activeTimerStarted := none
  callTimeout := networkCircuitCallTimeout call.timeout .t5m
  calledOverBrew := false
  callingOverBrew := true
  brewUuid := some brewUuid
  networkCall := some call
  connectRequestSent := false
  floorHolder := none
  lastFloorHolder := none
  queuedTxDemand := none

/-- Both parties are on one slot, or a duplex call has a downlink and an uplink slot of its own. -/
def splitBrewDuplex : Bool := call.simplexDuplex && call.callingTs != call.calledTs

/-- A slot of the call opened to one direction, fed by the network. -/
def brewCircuitMsg (callId : Nat) (service : BasicServiceInformation) (direction : Direction)
    (ts usage : Nat) (peerTs : Option Nat) (activeAddr : TetraAddress) : Msg :=
  signalUmacCircuitOpenWithSecondary
    { legCircuit c call callId service ⟨activeAddr, ts, usage⟩ with direction := direction }
    peerTs .swMI (some activeAddr) []

def openBrewCircuitMsgs (callId : Nat) (service : BasicServiceInformation) (ts usage : Nat)
    (activeAddr : TetraAddress) : List Msg :=
  if splitBrewDuplex call then
    [brewCircuitMsg c call callId service .dl call.calledTs call.calledUsage (some call.callingTs)
        activeAddr,
      brewCircuitMsg c call callId service .ul call.callingTs call.calledUsage none activeAddr]
  else [brewCircuitMsg c call callId service .both ts usage none activeAddr]

/-- A channel allocation without a PDU, for the uplink of a split duplex call. -/
def splitDuplexUlAllocationMsg (address : TetraAddress) (ulTs usage : Nat)
    (reporter : TxReporter) : Msg :=
  .lcmc {
    pdu := .empty
    handle := 0
    linkId := 0
    endpointId := 0
    layer2service := .unacknowledged
    stealingPermission := false
    unackedBlRepetitions := some 0
    chanAlloc := some
      { usage := some usage
        allocType := .additional
        timeslots := Timeslots.single ulTs
        ulDlAssigned := .ul }
    mainAddress := address
    txReporter := some reporter }

def brewConnectAlloc (ts usage : Nat) : ChanAllocReq :=
  if splitBrewDuplex call then replaceAlloc (some call.calledUsage) call.calledTs .dl
  else replaceAlloc (some usage) ts .both

def pendingNetworkConnectCompletesOnTx : Bool :=
  match pending.simplexDuplex, pending.kind, pending.grant with
  | false, .localCalledDConnectAck, .grantedToOtherUser => true
  | false, .localCallerDConnect, .granted => true
  | true, _, .granted => true
  | _, _, _ => false

def pendingNetworkPrimaryConnectComplete : Bool :=
  c.isAcknowledged pending.reporter ||
    pendingNetworkConnectCompletesOnTx pending && c.isTransmitted pending.reporter

def pendingNetworkConnectComplete : Bool :=
  pendingNetworkPrimaryConnectComplete c pending &&
    pending.secondaryReporter.all c.isTransmitted

def pendingNetworkConnectFailed : Bool :=
  !pendingNetworkPrimaryConnectComplete c pending && c.isInFinalState pending.reporter ||
    pending.secondaryReporter.any (fun reporter =>
      c.isInFinalState reporter && !c.isTransmitted reporter) ||
    pending.startedAt.age c.dltime ≥ networkIndividualConnectPendingTimeoutTimeslots

/-- Local leg of a call over the network, and the address of the party behind it. -/
def brewPrivateLocalAndPeerLegs : Option (IndividualTailDrainLeg × TetraAddress) :=
  if call.calledOverBrew && !call.callingOverBrew then some (call.callingLeg, call.calledAddr)
  else if call.callingOverBrew && !call.calledOverBrew then
    some (call.calledLeg, call.callingAddr)
  else none

namespace IndividualSide

variable (c : Ctx) (i : IndividualSide) (brewUuid callId : Nat)

def findBrewIndividualCall : Option (Nat × IndividualCall) :=
  i.individualCalls.find (c.order .individualCalls) (fun _ call => call.brewUuid == some brewUuid)

variable (call : IndividualCall) (pending : PendingNetworkIndividualConnect)

/-- The floor with which a simplex call over the network starts. -/
def applyBrewSimplexInitialFloor : IndividualSide :=
  if pending.simplexDuplex then i.setCall callId call
  else
    match pending.grant with
    | .granted =>
      (i.setCall callId (call.setFloorHolder pending.localAddr.ssi)).send
        [.umac (.floorGranted callId pending.localAddr.ssi pending.peerAddr.ssi pending.ts)]
    | .grantedToOtherUser =>
      -- both parties may bear the same number
      (i.setCall callId (call.setFloorHolder pending.peerAddr.ssi)).send
        (if pending.peerAddr.ssi = pending.localAddr.ssi then
          [.umac (.floorGranted callId pending.localAddr.ssi pending.peerAddr.ssi pending.ts)]
        else [])
    | _ => i.setCall callId call.clearFloorHolder

def networkConnectReadyMsgs : List Msg :=
  let confirm : List Msg :=
    match pending.kind with
    | .localCallerDConnect =>
      if pending.simplexDuplex then
        [.brew (.networkCircuitConnectConfirm pending.brewUuid pending.grant pending.permission)]
      else
        [.brew (.networkCircuitConnectConfirm pending.brewUuid
          (oppositePrivateSimplexGrant pending.grant) 0)]
    | .localCalledDConnectAck => []
  let secondary : List Msg :=
    match pending.secondaryMedia with
    | some (ts, direction) =>
      if ts = pending.ts then []
      else [.brew (.networkCircuitMediaReady pending.brewUuid callId ts direction)]
    | none => []
  confirm ++ .brew (.networkCircuitMediaReady pending.brewUuid callId pending.ts
    pending.mediaDirection) :: secondary

/-- A call whose state does not take the connection is left as it is, but gets the floor. -/
def completePendingNetworkIndividualConnect : IndividualSide :=
  match i.individualCalls.lookup callId with
  | none => i
  | some call =>
    let call :=
      if validateIndividualTransition call.state .connect then call.activate c.dltime else call
    (i.applyBrewSimplexInitialFloor callId call pending).send
      (networkConnectReadyMsgs callId pending)

def drainNetworkIndividualConnect : IndividualSide :=
  match i.pendingNetworkIndividualConnects.lookup callId with
  | none => i
  | some pending =>
    let i := { i with
      pendingNetworkIndividualConnects := i.pendingNetworkIndividualConnects.erase callId }
    if pendingNetworkConnectComplete c pending then
      i.completePendingNetworkIndividualConnect c callId pending
    else i.releaseIndividualCall c callId .acknowledgedServiceNotComplete

def drainPendingNetworkIndividualConnects : IndividualSide :=
  (i.pendingNetworkIndividualConnects.select (c.order .pendingNetworkIndividualConnects)
    (fun _ pending => pendingNetworkConnectComplete c pending ||
      pendingNetworkConnectFailed c pending)).foldl
    (fun i callId => i.drainNetworkIndividualConnect c callId) i

def rejectNetworkSetup (cause : DisconnectCause) : IndividualSide :=
  i.send [.brew (.networkCircuitSetupReject brewUuid cause)]

def fsmOnNetworkCircuitSetupRequest (occupiedCallIds : Nat → Bool) (brewUuid : Nat)
    (call : NetworkCircuitCall) : IndividualSide :=
  if call.destination = 0 then i.rejectNetworkSetup brewUuid .calledPartyNotReachable
  else if call.destination ∉ c.subs.subscriberGroups then
    i.rejectNetworkSetup brewUuid .calledPartyNotReachable
  else if isPreemptiveCallPriority call.priority then
    i.rejectNetworkSetup brewUuid .requestedServiceNotAvailable
  else if i.findIndividualCallByIssi c call.destination then
    i.rejectNetworkSetup brewUuid .calledPartyBusy
  else
    match i.toShared.allocateCircuit ((CommunicationType.tryFrom call.communication).getD .p2p)
        (call.duplex != 0) occupiedCallIds with
    | (none, s) => { i with toShared := s }.rejectNetworkSetup brewUuid .congestionInInfrastructure
    | (some circuit, s) =>
      let dSetup := networkDSetup circuit.callId call
      let calledAddr := TetraAddress.issi call.destination
      { i with
        toShared := { s with
          cachedSetups := s.cachedSetups.insert circuit.callId
            { pdu := dSetup
              destAddr := calledAddr
              resend := false
              lastResendReporter := none
              isIndividual := true } }.send
          [.brew (.networkCircuitSetupAccept brewUuid),
            buildSapmsg (.dSetup dSetup) none calledAddr .unacknowledged none]
        }.fsmIndividualCreateSetupCall circuit.callId
        (networkSetupCall c brewUuid call circuit.ts circuit.usage)

def rxNetworkCircuitSetupReject (cause : Nat) : IndividualSide :=
  match i.findBrewIndividualCall c brewUuid with
  | none => i
  | some (callId, _) =>
    i.releaseIndividualCallWithoutBrewEcho c callId
      ((DisconnectCause.tryFrom cause).getD .requestedServiceNotAvailable)

def rxNetworkCircuitRelease (cause : Nat) : IndividualSide :=
  match i.findBrewIndividualCall c brewUuid with
  | none => i
  | some (callId, _) =>
    i.releaseIndividualCallWithoutBrewEcho c callId
      ((DisconnectCause.tryFrom cause).getD .swmiRequestedDisconnection)

def rxNetworkCircuitAlert : IndividualSide :=
  match i.findBrewIndividualCall c brewUuid with
  | none => i
  | some (callId, _) => i.fsmIndividualOnAlert c callId none .t60s

/-- Wait until the radio of the cell has been told to go to its channel. -/
def awaitNetworkConnect (brewUuid : Nat) (call : IndividualCall) (leg : IndividualTailDrainLeg)
    (peerAddr : TetraAddress) (ts : Nat) (grant : TransmissionGrant) (permission : Nat)
    (kind : PendingNetworkIndividualConnectKind) (reporter : TxReporter) (connectMsg : Msg)
    (openMsgs : List Msg) : IndividualSide :=
  let s := i.toShared.sendReported [connectMsg]
  let split := splitBrewDuplex call
  let secondary := s.newReporter false
  let s :=
    if split then
      s.sendReported
        [splitDuplexUlAllocationMsg leg.addr call.callingTs call.calledUsage secondary]
    else s
  { i with
    toShared := s.send openMsgs
    pendingNetworkIndividualConnects := i.pendingNetworkIndividualConnects.insert callId
      { reporter := reporter
        brewUuid := brewUuid
        ts := ts
        mediaDirection := if split then .dl else .both
        secondaryMedia := if split then some (call.callingTs, .ul) else none
        secondaryReporter := if split then some secondary else none
        localAddr := leg.addr
        peerAddr := peerAddr
        simplexDuplex := call.simplexDuplex
        grant := grant
        permission := permission
        startedAt := c.dltime
        kind := kind } }

/-- The network has the answer of its party: the radio that called it is connected. -/
def connectLocalCaller (callInfo : NetworkCircuitCall) : IndividualSide :=
  let i :=
    if validateIndividualTransition call.state .setNetworkCall then
      i.setCall callId { call with networkCall := some callInfo }
    else i
  let grant := networkCircuitGrant callInfo.grant
  let reporter := i.newReporter true
  i.awaitNetworkConnect c callId brewUuid call call.callingLeg call.calledAddr
    (if splitBrewDuplex call then call.calledTs else call.callingTs) grant callInfo.permission
    .localCallerDConnect reporter
    (.lcmc {
      pdu := .dConnect {
        callIdentifier := callId
        callTimeOut := networkCircuitCallTimeout callInfo.timeout call.callTimeout
        hookMethodSelection := networkCircuitHookMethod callInfo.method
        simplexDuplexSelection := call.simplexDuplex
        transmissionGrant := grant
        transmissionRequestPermission := callInfo.permission != 0
        callOwnership := true }
      handle := call.callingHandle
      linkId := call.callingLinkId
      endpointId := call.callingEndpointId
      layer2service := .acknowledged
      stealingPermission := false
      unackedBlRepetitions := none
      chanAlloc := some (brewConnectAlloc call call.callingTs call.callingUsage)
      mainAddress := call.callingAddr
      txReporter := some reporter })
    (openBrewCircuitMsgs c call callId speechService call.callingTs call.callingUsage
      call.callingAddr)

/-- In a simplex call the called radio is granted the opposite of what it asked for its caller. -/
def connectConfirmGrant (grant : Nat) : TransmissionGrant :=
  if call.callingOverBrew && !call.simplexDuplex then
    oppositePrivateSimplexGrant (networkCircuitGrant ((call.networkCall.map (·.grant)).getD grant))
  else networkCircuitGrant grant

/-- The network has connected its party: so is the radio that answered it. -/
def connectLocalCalled (ctx : CalledContext) (grant permission : Nat) : IndividualSide :=
  let grantEnum := connectConfirmGrant call grant
  let onRfTx := call.simplexDuplex && grantEnum == .granted
  let reporter := i.newReporter (!onRfTx)
  let service :=
    ((i.cachedSetups.lookup callId).map (·.pdu.basicServiceInformation)).getD speechService
  i.awaitNetworkConnect c callId brewUuid call call.calledLeg call.callingAddr call.calledTs
    grantEnum permission .localCalledDConnectAck reporter
    (.lcmc {
      pdu := .dConnectAcknowledge {
        callIdentifier := callId
        callTimeOut := call.callTimeout
        transmissionGrant := grantEnum
        transmissionRequestPermission := permission != 0
        notificationIndicator := none }
      handle := ctx.handle
      linkId := ctx.linkId
      endpointId := ctx.endpointId
      layer2service := if onRfTx then .unacknowledged else .acknowledged
      stealingPermission := false
      unackedBlRepetitions := if onRfTx then some networkDuplexConnectAckUnackedRepetitions else none
      chanAlloc := some (brewConnectAlloc call call.calledTs call.calledUsage)
      mainAddress := call.calledAddr
      txReporter := some reporter })
    (openBrewCircuitMsgs c call callId service call.calledTs call.calledUsage call.calledAddr)

def fsmOnNetworkCircuitConnectConfirm (grant permission : Nat) : IndividualSide :=
  match i.findBrewIndividualCall c brewUuid with
  | none => i
  | some (callId, call) =>
    if !call.callingOverBrew then i
    else if call.isActive then i
    else
      match call.calledContext with
      | none => i
      | some ctx => i.connectLocalCalled c brewUuid callId call ctx grant permission

def fsmOnNetworkCircuitConnectRequest (callInfo : NetworkCircuitCall) : IndividualSide :=
  match i.findBrewIndividualCall c brewUuid with
  | none => i
  | some (callId, call) =>
    if call.callingOverBrew then
      i.fsmOnNetworkCircuitConnectConfirm c brewUuid callInfo.grant callInfo.permission
    else if call.isActive then i
    else i.connectLocalCaller c brewUuid callId call callInfo

def fsmOnNetworkCircuitSimplexGranted (grant : Nat) : IndividualSide :=
  match i.findBrewIndividualCall c brewUuid with
  | none => i
  | some (callId, call) =>
    if call.simplexDuplex then i
    else if !call.isActive then i
    else
      match brewPrivateLocalAndPeerLegs call with
      | none => i
      | some (leg, peerAddr) =>
        match networkCircuitGrant grant with
        | .granted =>
          (i.setCall callId (call.setFloorHolder leg.addr.ssi)).send
            [pushIndividualDTxGranted callId leg .both .granted,
              .umac (.floorGranted callId leg.addr.ssi peerAddr.ssi leg.ts)]
        | .grantedToOtherUser =>
          (i.setCall callId (call.setFloorHolder peerAddr.ssi)).send
            [pushIndividualDTxGranted callId leg .both .grantedToOtherUser,
              .umac (.floorGranted callId peerAddr.ssi leg.addr.ssi leg.ts)]
        | grantEnum => i.send [pushIndividualDTxGranted callId leg .dl grantEnum]

def fsmOnNetworkCircuitSimplexIdle : IndividualSide :=
  match i.findBrewIndividualCall c brewUuid with
  | none => i
  | some (callId, call) =>
    if call.simplexDuplex || !call.isActive then i
    else
      match brewPrivateLocalAndPeerLegs call with
      | none => i
      | some (leg, peerAddr) =>
        if call.floorHolder.any (fun holder => holder != peerAddr.ssi) then i
        else
          match call.queuedTxDemand with
          | some requester =>
            (i.setCall callId
              { call.setFloorHolder requester.ssi with queuedTxDemand := none }).send
              [pushIndividualDTxGranted callId leg .both .granted,
                .umac (.floorGranted callId leg.addr.ssi peerAddr.ssi leg.ts),
                .brew (.networkCircuitSimplexGranted brewUuid .grantedToOtherUser 0)]
          | none =>
            (i.setCall callId call.clearFloorHolder).send
              [pushIndividualDTxCeased callId leg, .umac (.floorReleased callId leg.ts)]

end IndividualSide
end NexusBs.Cc
