import NexusBs.Cc.Individual

namespace NexusBs.Cc
open Lib

/-! Set-up of an individual call, from the first answer of the called party to the open call. -/

inductive IndividualEvent where
  | createSetup | bindCalledContext | setNetworkCall | markConnectRequestSent | alert | connect
deriving DecidableEq

/-- The events that a call in a given state takes. -/
def validateIndividualTransition : IndividualCallState → IndividualEvent → Bool
  | _, .createSetup => false
  | .callSetupPending, _ => true
  | .incomingSetupPending, _ => true
  | .incomingAlerting, _ => true
  | .incomingSetupWaitNetworkAck, event => event != .alert
  | .callerConnectAckPending, event => event == .connect
  | _, _ => false

def individualConnectAckPendingTimeoutTimeslots : Int := 2 * 18 * 4
def individualConnectAckMaxAttempts : Nat := 5
def individualCallerConnectMaxAttempts : Nat := 3
def privateSimplexConnectAckUnackedRepetitions : Nat := 3
def notificationCalledUserConnected : Nat := 19

def privateSimplexCalledMsTransmitsFirst
    (simplexDuplex hookMethodSelection requestToTransmitSendData : Bool) : Bool :=
  !simplexDuplex && hookMethodSelection && requestToTransmitSendData

/-- What the called and the calling party are granted when they are connected. -/
def privateConnectGrants (simplexDuplex calledMsTransmitsFirst : Bool) :
    TransmissionGrant × TransmissionGrant :=
  if simplexDuplex then (.granted, .granted)
  else if calledMsTransmitsFirst then (.granted, .grantedToOtherUser)
  else (.grantedToOtherUser, .granted)

/-- Attempts that are made on the assigned channel and not on the control channel. -/
def calledConnectAckRecovery (attempt : Nat) : Bool :=
  !(attempt == 1 || attempt == 2 || attempt == 4)

def callerDConnectRecovery (attempt : Nat) : Bool := attempt != 1

namespace IndividualCall

def bindCalledContext (call : IndividualCall) (ctx : CalledContext) : IndividualCall :=
  if call.calledContext.isNone then { call with calledContext := some ctx } else call

/-- The service that remains when the called party offers simplex for a duplex call. -/
def toSimplex (call : IndividualCall) (callTimeout : CallTimeout) : IndividualCall :=
  let call :=
    if call.calledTs = call.callingTs then call
    else if call.callingOverBrew && !call.calledOverBrew then
      { call with callingTs := call.calledTs, callingUsage := call.calledUsage }
    else { call with calledTs := call.callingTs, calledUsage := call.callingUsage }
  { call with
    simplexDuplex := false
    callTimeout := callTimeout
    networkCall := call.networkCall.map (fun networkCall => { networkCall with duplex := 0 }) }

end IndividualCall

def UlContext.calledContext (ul : UlContext) : CalledContext := ⟨ul.handle, ul.linkId, ul.endpointId⟩

def cmceFnsPtrUConnectBasicServiceInformation : Nat := 17
def cmceFnsPtrUConnectType3 : Nat := 18
def cmceFnsPtrUAlertReserved : Nat := 14
def cmceFnsPtrUAlertBasicServiceInformation : Nat := 17
def cmceFnsPtrUAlertType3 : Nat := 18

/-- A service that was offered must be the one that was asked for. -/
def offerRefused (offered requested : Option BasicServiceInformation) : Bool :=
  offered.any (fun offered => requested != some offered)

def unsupportedUConnectFunction (pdu : UConnect) (requested : Option BasicServiceInformation) :
    Option Nat :=
  if offerRefused pdu.basicServiceInformation requested then
    some cmceFnsPtrUConnectBasicServiceInformation
  else if pdu.facility || pdu.proprietary then some cmceFnsPtrUConnectType3
  else none

def unsupportedUAlertFunction (pdu : UAlert) (requested : Option BasicServiceInformation) :
    Option Nat :=
  if !pdu.reserved then some cmceFnsPtrUAlertReserved
  else if offerRefused pdu.basicServiceInformation requested then
    some cmceFnsPtrUAlertBasicServiceInformation
  else if pdu.facility || pdu.proprietary then some cmceFnsPtrUAlertType3
  else none

variable (c : Ctx) (call : IndividualCall) (callId : Nat)

def dAlertMsg (setupTimeout : CallTimeoutSetupPhase) : Msg :=
  buildSapmsgDirect (.dAlert callId setupTimeout call.simplexDuplex) call.callingAddr
    call.callingHandle call.callingLinkId call.callingEndpointId

/-- The circuit of a leg as UMAC opens it when the call is connected. -/
def legCircuit (service : BasicServiceInformation) (leg : IndividualTailDrainLeg) :
    CmceCircuit where
  tsCreated := c.dltime
  direction := .both
  ts := leg.ts
  callId := callId
  usage := leg.usage
  circuitMode := service.circuitModeType
  commType := service.communicationType
  simplexDuplex := call.simplexDuplex
  speechService := service.speechService
  eteeEncrypted := service.encryptionFlag

/-- One circuit for both parties of a simplex call, a crossed pair for a duplex call. -/
def openPrivateCircuitMsgs (service : BasicServiceInformation) : List Msg :=
  if call.calledTs = call.callingTs then
    [signalUmacCircuitOpenWithSecondary (legCircuit c call callId service call.callingLeg) none
      .localLoopback (some call.calledAddr) [call.callingAddr]]
  else
    [signalUmacCircuitOpenWithSecondary (legCircuit c call callId service call.callingLeg)
        (some call.calledTs) .localLoopback (some call.callingAddr) [],
      signalUmacCircuitOpenWithSecondary (legCircuit c call callId service call.calledLeg)
        (some call.callingTs) .localLoopback (some call.calledAddr) []]

def privateCalledDConnectAckMsg (calledMsTransmitsFirst recovery : Bool) (reporter : TxReporter) :
    Msg :=
  .lcmc {
    pdu := .dConnectAcknowledge {
      callIdentifier := callId
      callTimeOut := setupCallTimeout c call.simplexDuplex
      transmissionGrant := (privateConnectGrants call.simplexDuplex calledMsTransmitsFirst).1
      transmissionRequestPermission := false
      notificationIndicator := some notificationCalledUserConnected }
    handle := (call.calledContext.map (·.handle)).getD 0
    linkId := (call.calledContext.map (·.linkId)).getD 0
    endpointId := (call.calledContext.map (·.endpointId)).getD 0
    layer2service := if call.simplexDuplex then .acknowledged else .unacknowledged
    stealingPermission := recovery
    unackedBlRepetitions :=
      if call.simplexDuplex then none else some privateSimplexConnectAckUnackedRepetitions
    chanAlloc := some (replaceAlloc (some call.calledUsage) call.calledTs .both)
    mainAddress := call.calledAddr
    txReporter := some reporter }

def privateCallerDConnectMsg (cached : CachedSetup) (calledMsTransmitsFirst recovery : Bool)
    (reporter : TxReporter) : Msg :=
  .lcmc {
    pdu := .dConnect {
      callIdentifier := callId
      callTimeOut := setupCallTimeout c call.simplexDuplex
      hookMethodSelection := cached.pdu.hookMethodSelection
      simplexDuplexSelection := call.simplexDuplex
      transmissionGrant := (privateConnectGrants call.simplexDuplex calledMsTransmitsFirst).2
      transmissionRequestPermission := false
      callOwnership := true }
    handle := call.callingHandle
    linkId := call.callingLinkId
    endpointId := call.callingEndpointId
    layer2service := .acknowledged
    stealingPermission := recovery
    unackedBlRepetitions := none
    chanAlloc := some (replaceAlloc (some call.callingUsage) call.callingTs .both)
    mainAddress := call.callingAddr
    txReporter := some reporter }

/-- What a pending delivery calls for. -/
inductive PendingConnectAckAction where
  | calledDeliveryComplete | callerDeliveryComplete | retryOrFailCalledDelivery
  | retryOrFailCallerDelivery

def pendingConnectAckAction (pending : PendingIndividualConnectAck) :
    Option PendingConnectAckAction :=
  let failed := c.isInFinalState pending.reporter ||
    pending.startedAt.age c.dltime ≥ individualConnectAckPendingTimeoutTimeslots
  match pending.stage with
  | .calledConnectAck _ requiresL2Ack =>
    if requiresL2Ack && c.isAcknowledged pending.reporter ||
        !requiresL2Ack && c.isTransmitted pending.reporter then some .calledDeliveryComplete
    else if failed then some .retryOrFailCalledDelivery
    else none
  | .callerDConnect _ =>
    if c.isAcknowledged pending.reporter then some .callerDeliveryComplete
    else if failed then some .retryOrFailCallerDelivery
    else none

/-- Attempts made so far; an entry of the other stage counts as exhausted. -/
def calledAttempts : Option PendingIndividualConnectAck → Nat
  | some { stage := .calledConnectAck attempts _, .. } => attempts
  | _ => individualConnectAckMaxAttempts

def callerAttempts : Option PendingIndividualConnectAck → Nat
  | some { stage := .callerDConnect attempts, .. } => attempts
  | _ => individualCallerConnectMaxAttempts

namespace IndividualSide

variable (c : Ctx) (i : IndividualSide) (callId : Nat) (call : IndividualCall)

def fsmIndividualCreateSetupCall : IndividualSide :=
  if callId ∈ i.individualCalls then i
  else if call.state = .callSetupPending ∨ call.state = .incomingSetupPending then
    i.setCall callId call
  else i

/-- The called party rings: the caller is told once, the set-up timer starts anew. -/
def fsmIndividualOnAlert (ctx : Option CalledContext) (setupTimeout : CallTimeoutSetupPhase) :
    IndividualSide :=
  match i.individualCalls.lookup callId with
  | none => i
  | some call =>
    if !validateIndividualTransition call.state .alert then i
    else
      let bound := (ctx.map call.bindCalledContext).getD call
      if call.callingOverBrew then
        match call.brewUuid with
        | none => i.setCall callId bound
        | some brewUuid =>
          (i.send [.brew (.networkCircuitAlert brewUuid)]).setCall callId
            (bound.markAlerted c.dltime setupTimeout)
      else
        (i.send (if call.isAlerted then [] else [dAlertMsg call callId setupTimeout])).setCall
          callId (bound.markAlerted c.dltime setupTimeout)

/-- Give back the second slot of a duplex call that becomes a simplex call. -/
def acceptCalledSimplexOfferForRequestedDuplex : IndividualSide :=
  if !call.simplexDuplex then i
  else
    let unusedTs :=
      if call.calledTs = call.callingTs then none
      else if call.callingOverBrew && !call.calledOverBrew then some call.callingTs
      else some call.calledTs
    let i :=
      match unusedTs with
      | none => i
      | some ts => { i with
          toShared := { i.toShared with circuits := (i.circuits.closeCircuit .both ts).2
            }.releaseTimeslot ts }
    i.setCall callId (call.toSimplex c.cell.callTimeout)

def fsmOnUAlert (ul : UlContext) (pdu : UAlert) : IndividualSide :=
  let callId := pdu.callIdentifier
  match i.individualCalls.lookup callId with
  | none => i.send (i.pendingReleaseDirectAck callId ul).toList
  | some call =>
    if call.calledAddr.ssi ≠ ul.address.ssi then i
    else
      let i :=
        if call.simplexDuplex && !pdu.simplexDuplexSelection then
          i.acceptCalledSimplexOfferForRequestedDuplex c callId call
        else i
      i.fsmIndividualOnAlert c callId (some ul.calledContext) .t60s

def rxUAlert (ul : UlContext) (pdu : UAlert) : IndividualSide :=
  let requested :=
    (i.cachedSetups.lookup pdu.callIdentifier).map (·.pdu.basicServiceInformation)
  match unsupportedUAlertFunction pdu requested with
  | some pointer => i.send [functionNotSupported ul .uAlert (some pdu.callIdentifier) pointer]
  | none => i.fsmOnUAlert c ul pdu

def connectRequestCall (pdu : UConnect) : NetworkCircuitCall :=
  let base := call.networkCall.getD
    { sourceIssi := call.calledAddr.ssi
      destination := call.callingAddr.ssi
      number := []
      priority := 0
      service := 0
      mode := CircuitModeType.tchS.intoRaw
      duplex := call.simplexDuplex.toNat
      method := pdu.hookMethodSelection.toNat
      communication := CommunicationType.p2p.intoRaw
      grant := 0
      permission := 0
      timeout := 7
      ownership := 0
      queued := 0 }
  let first := privateSimplexCalledMsTransmitsFirst pdu.simplexDuplexSelection
    pdu.hookMethodSelection call.requestToTransmitSendData
  { base with
    sourceIssi := call.calledAddr.ssi
    destination := call.callingAddr.ssi
    duplex := pdu.simplexDuplexSelection.toNat
    method := pdu.hookMethodSelection.toNat
    grant := (privateConnectGrants pdu.simplexDuplexSelection first).2.intoRaw
    permission := 0 }

/-- The answer to a call of the network is passed on to it, once. -/
def connectOverBrew (pdu : UConnect) : IndividualSide :=
  match call.brewUuid with
  | none => i
  | some brewUuid =>
    if !validateIndividualTransition call.state .markConnectRequestSent ||
        call.connectRequestSent then i
    else
      let info := connectRequestCall call pdu
      (i.setCall callId
        { call with
          connectRequestSent := true
          networkCall := some info
          state := .incomingSetupWaitNetworkAck }).send
        [.brew (.networkCircuitConnectRequest brewUuid info)]

/-- The answer to a call of a radio of the cell: circuits are opened and the called party is told
to go to its channel. -/
def connectLocally : IndividualSide :=
  match i.cachedSetups.lookup callId with
  | none => i
  | some cached =>
    if callId ∈ i.pendingIndividualConnectAcks then i
    else
      let first := privateSimplexCalledMsTransmitsFirst call.simplexDuplex
        cached.pdu.hookMethodSelection call.requestToTransmitSendData
      let call' := call.markCalledConnectAckPending
      let reporter := i.newReporter call.simplexDuplex
      let i := i.setCall callId call'
      { i with
        toShared := i.toShared.sendReported
          (openPrivateCircuitMsgs c call callId cached.pdu.basicServiceInformation ++
            [privateCalledDConnectAckMsg c call' callId first false reporter])
        pendingIndividualConnectAcks := i.pendingIndividualConnectAcks.insert callId
          { reporter := reporter
            stage := .calledConnectAck 1 call.simplexDuplex
            startedAt := c.dltime } }

/-- The call with the answer of the called radio, where its state still takes it. -/
def answerUConnect (ul : UlContext) (pdu : UConnect) : IndividualSide :=
  if !validateIndividualTransition call.state .bindCalledContext then i
  else
    let call := call.bindCalledContext ul.calledContext
    let i := i.setCall callId call
    if call.callingOverBrew then i.connectOverBrew callId call pdu
    else i.connectLocally c callId call

def fsmOnUConnect (ul : UlContext) (pdu : UConnect) : IndividualSide :=
  let callId := pdu.callIdentifier
  match i.individualCalls.lookup callId with
  | none => i.send (i.pendingReleaseDirectAck callId ul).toList
  | some call =>
    if call.isActive || call.isConnectAckPending then i
    else if call.calledAddr.ssi ≠ ul.address.ssi then i
    else
      let requested := (i.cachedSetups.lookup callId).map (·.pdu.basicServiceInformation)
      match unsupportedUConnectFunction pdu requested with
      | some pointer => i.send [functionNotSupported ul .uConnect (some callId) pointer]
      | none =>
        if call.simplexDuplex && !pdu.simplexDuplexSelection then
          (i.acceptCalledSimplexOfferForRequestedDuplex c callId call).answerUConnect c callId
            (call.toSimplex c.cell.callTimeout) ul pdu
        else i.answerUConnect c callId call ul pdu

def calledMsTransmitsFirst (cached : CachedSetup) : Bool :=
  privateSimplexCalledMsTransmitsFirst call.simplexDuplex cached.pdu.hookMethodSelection
    call.requestToTransmitSendData

def dropConnectAck : IndividualSide :=
  { i with pendingIndividualConnectAcks := i.pendingIndividualConnectAcks.erase callId }

def completePrivateConnectAfterCalledDelivery : IndividualSide :=
  match i.individualCalls.lookup callId with
  | none => i
  | some call =>
    match i.cachedSetups.lookup callId with
    | none => i.releaseIndividualCall c callId .acknowledgedServiceNotComplete
    | some cached =>
      let reporter := i.newReporter true
      let i := i.setCall callId call.markCallerConnectAckPending
      { i with
        toShared := i.toShared.sendReported
          [privateCallerDConnectMsg c call callId cached (calledMsTransmitsFirst call cached)
            (callerDConnectRecovery 1) reporter]
        pendingIndividualConnectAcks := i.pendingIndividualConnectAcks.insert callId
          { reporter := reporter, stage := .callerDConnect 1, startedAt := c.dltime } }

/-- The call is open; in a simplex call the party that speaks first gets the floor. -/
def completePrivateConnectAfterCallerConnectDelivery : IndividualSide :=
  match i.individualCalls.lookup callId with
  | none => i
  | some call =>
    if !validateIndividualTransition call.state .connect then i
    else
      let active := call.activate c.dltime
      if call.simplexDuplex then i.setCall callId active
      else
        match i.cachedSetups.lookup callId with
        | none => i.setCall callId active
        | some cached =>
          let legs :=
            if calledMsTransmitsFirst call cached then (call.calledLeg, call.callingLeg)
            else (call.callingLeg, call.calledLeg)
          (i.setCall callId (active.setFloorHolder legs.1.addr.ssi)).send
            [.umac (.floorGranted callId legs.1.addr.ssi legs.2.addr.ssi legs.1.ts)]

def retryOrFailCalledDelivery : IndividualSide :=
  let attempts := calledAttempts (i.pendingIndividualConnectAcks.lookup callId)
  if attempts ≥ individualConnectAckMaxAttempts then
    (i.dropConnectAck callId).releaseIndividualCall c callId .acknowledgedServiceNotComplete
  else
    match i.individualCalls.lookup callId, i.cachedSetups.lookup callId with
    | some call, some cached =>
      let reporter := i.newReporter call.simplexDuplex
      { i with
        toShared := i.toShared.sendReported
          [privateCalledDConnectAckMsg c call callId (calledMsTransmitsFirst call cached)
            (calledConnectAckRecovery (attempts + 1)) reporter]
        pendingIndividualConnectAcks := Table.modify i.pendingIndividualConnectAcks callId
          (fun _ => { reporter := reporter
                      stage := .calledConnectAck (attempts + 1) call.simplexDuplex
                      startedAt := c.dltime }) }
    | _, _ => i.dropConnectAck callId

def retryOrFailCallerDelivery : IndividualSide :=
  let attempts := callerAttempts (i.pendingIndividualConnectAcks.lookup callId)
  if attempts ≥ individualCallerConnectMaxAttempts then
    (i.dropConnectAck callId).releaseIndividualCall c callId .acknowledgedServiceNotComplete
  else
    match i.individualCalls.lookup callId, i.cachedSetups.lookup callId with
    | none, _ => i.dropConnectAck callId
    | some _, none =>
      (i.dropConnectAck callId).releaseIndividualCall c callId .acknowledgedServiceNotComplete
    | some call, some cached =>
      let reporter := i.newReporter true
      { i with
        toShared := i.toShared.sendReported
          [privateCallerDConnectMsg c call callId cached (calledMsTransmitsFirst call cached)
            (callerDConnectRecovery (attempts + 1)) reporter]
        pendingIndividualConnectAcks := Table.modify i.pendingIndividualConnectAcks callId
          (fun _ => { reporter := reporter
                      stage := .callerDConnect (attempts + 1)
                      startedAt := c.dltime }) }

def drainIndividualConnectAck : PendingConnectAckAction → IndividualSide
  | .calledDeliveryComplete =>
    (i.dropConnectAck callId).completePrivateConnectAfterCalledDelivery c callId
  | .callerDeliveryComplete =>
    (i.dropConnectAck callId).completePrivateConnectAfterCallerConnectDelivery c callId
  | .retryOrFailCalledDelivery => i.retryOrFailCalledDelivery c callId
  | .retryOrFailCallerDelivery => i.retryOrFailCallerDelivery c callId

/-- What to do is settled for all entries when the table is walked, and done after. -/
def drainPendingIndividualConnectAcks : IndividualSide :=
  (i.pendingIndividualConnectAcks.select (c.order .pendingIndividualConnectAcks) (fun _ pending =>
    (pendingConnectAckAction c pending).isSome)).foldl
    (fun i' callId =>
      match (i.pendingIndividualConnectAcks.lookup callId).bind (pendingConnectAckAction c) with
      | some action => i'.drainIndividualConnectAck c callId action
      | none => i') i

end IndividualSide
end NexusBs.Cc
