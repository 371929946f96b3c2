import NexusBs.Cc.Connect

namespace NexusBs.Cc
open Lib

/-! Set-up of individual calls by radios of the cell: to each other, over the network, to the echo
and to the parrot service. -/

/-- The digit of a half octet of an external number. -/
def nibbleDigit (nibble : Nat) : Option Char :=
  if nibble ≤ 9 then some (Char.ofNat (48 + nibble))
  else if nibble = 10 then some '*'
  else if nibble = 11 then some '#'
  else none

def digitNibble (ch : Char) : Option Nat :=
  if ch.isDigit then some (ch.toNat - 48)
  else if ch = '*' then some 10
  else if ch = '#' then some 11
  else none

def decodeExternalSubscriberNumber (field : Type3FieldGeneric) : List Char :=
  let nibbleCount := min (field.len / 4) 32
  (List.range nibbleCount).filterMap (fun i =>
    nibbleDigit ((field.data >>> (nibbleCount * 4 - 4 - i * 4)) % 16))

def encodeExternalSubscriberNumber (number : List Char) : Option Type3FieldGeneric :=
  let nibbles := (number.filterMap digitNibble).take 32
  if nibbles.isEmpty then none
  else some ⟨nibbles.length * 4, nibbles.foldl (fun data nibble => data * 16 + nibble) 0⟩

def buildNetworkCircuitCallFromUSetup (pdu : USetup) (sourceIssi : Nat) : NetworkCircuitCall :=
  let decoded := (pdu.externalSubscriberNumber.map decodeExternalSubscriberNumber).getD []
  { sourceIssi := sourceIssi
    destination := pdu.calledPartySsi.getD 0
    number :=
      match pdu.calledPartySsi with
      | some ssi =>
        if 0 < ssi ∧ ssi < 1000000 ∧ pdu.externalSubscriberNumber.isSome then Nat.toDigits 10 ssi
        else decoded
      | none => decoded
    priority := pdu.callPriority
    service := pdu.basicServiceInformation.speechService.getD 0
    mode := pdu.basicServiceInformation.circuitModeType.intoRaw
    duplex := pdu.simplexDuplexSelection.toNat
    method := pdu.hookMethodSelection.toNat
    communication := pdu.basicServiceInformation.communicationType.intoRaw
    grant := 0
    permission := pdu.requestToTransmitSendData.toNat
    timeout := 7
    ownership := 1
    queued := 0 }

def hasExternalCalledParty (pdu : USetup) (networkCall : NetworkCircuitCall) : Bool :=
  !networkCall.number.isEmpty || pdu.externalSubscriberNumber.isSome ||
    pdu.calledPartyShortNumberAddress.isSome

def setupCall (c : Ctx) (ul : UlContext) (pdu : USetup) (calledAddr : TetraAddress)
    (callingTs callingUsage calledTs calledUsage : Nat) : IndividualCall where
  callingAddr := ul.address
  calledAddr := calledAddr
  callingHandle := ul.handle
  callingLinkId := ul.linkId
  callingEndpointId := ul.endpointId
  calledContext := none
  callingTs := callingTs
  calledTs := calledTs
  callingUsage := callingUsage
  calledUsage := calledUsage
  simplexDuplex := pdu.simplexDuplexSelection
  requestToTransmitSendData := pdu.requestToTransmitSendData
  state := .callSetupPending
  setupTimerStarted := some c.dltime
  setupTimeout := some .t60s
  activeTimerStarted := none
  callTimeout := c.cell.callTimeout
  calledOverBrew := false
  callingOverBrew := false
  brewUuid := none
  networkCall := none
  connectRequestSent := false
  floorHolder := none
  lastFloorHolder := none
  queuedTxDemand := none

def serviceCall (c : Ctx) (ul : UlContext) (pdu : USetup) (serviceIssi : Nat)
    (circuit : CmceCircuit) : IndividualCall :=
  { setupCall c ul pdu (.issi serviceIssi) circuit.ts circuit.usage circuit.ts circuit.usage with
    state := .active
    setupTimerStarted := none
    setupTimeout := none
    activeTimerStarted := some c.dltime
    floorHolder := some ul.address.ssi
    lastFloorHolder := some ul.address.ssi }

def serviceDConnectMsg (ul : UlContext) (pdu : USetup) (callTimeOut : CallTimeout)
    (simplexDuplexSelection : Bool) (circuit : CmceCircuit) : Msg :=
  .lcmc {
    pdu := .dConnect {
      callIdentifier := circuit.callId
      callTimeOut := callTimeOut
      hookMethodSelection := pdu.hookMethodSelection
      simplexDuplexSelection := simplexDuplexSelection
      transmissionGrant := .granted
      transmissionRequestPermission := false
      callOwnership := true }
    handle := ul.handle
    linkId := ul.linkId
    endpointId := ul.endpointId
    layer2service := .unacknowledged
    stealingPermission := false
    unackedBlRepetitions := none
    chanAlloc := some (replaceAlloc (some circuit.usage) circuit.ts .both)
    mainAddress := ul.address
    txReporter := none }

namespace IndividualSide

variable (c : Ctx) (i : IndividualSide) (occupiedCallIds : Nat → Bool) (ul : UlContext)

def reject (cause : DisconnectCause) : IndividualSide := i.send [rejectUSetupBeforeCallId ul cause]

/-- The call, or the release that is under way, in which a radio takes part. -/
def findIndividualCallByIssi (issi : Nat) : Bool :=
  (i.individualCalls.find (c.order .individualCalls) (fun _ call => call.involves issi)).isSome ||
    (i.pendingIndividualReleases.find (c.order .pendingIndividualReleases) (fun _ pending =>
      pending.call.involves issi)).isSome

def fsmOnUSetupParrot (pdu : USetup) : IndividualSide :=
  if pdu.simplexDuplexSelection then i.reject ul .incompatibleTrafficCase
  else if i.parrotSession.isSome then i.reject ul .calledPartyBusy
  else
    match i.toShared.allocateCircuit pdu.basicServiceInformation.communicationType
        pdu.simplexDuplexSelection occupiedCallIds with
    | (none, s) => { i with toShared := s }.reject ul .congestionInInfrastructure
    | (some circuit, s) =>
      let session := ParrotSession.new circuit.ts circuit.callId ul.address
      ({ i with toShared := s, parrotSession := some session }.setCall circuit.callId
        (serviceCall c ul pdu parrotIssi circuit)).send
        [signalUmacCircuitOpenWithSecondary circuit none .localParrot (some ul.address)
            [.issi parrotIssi],
          dCallProceedingMsg ul pdu circuit.callId .t10s pdu.hookMethodSelection,
          serviceDConnectMsg ul pdu c.cell.callTimeout false circuit,
          session.floorGrantedMsg]

def fsmOnUSetupEcho (pdu : USetup) : IndividualSide :=
  if i.echoSession.isSome then i.reject ul .calledPartyBusy
  else
    match i.toShared.allocateCircuit pdu.basicServiceInformation.communicationType false
        occupiedCallIds with
    | (none, s) => { i with toShared := s }.reject ul .congestionInInfrastructure
    | (some circuit, s) =>
      ({ i with toShared := s, echoSession := some ⟨circuit.ts, circuit.callId, []⟩ }.setCall
        circuit.callId (serviceCall c ul pdu echoIssi circuit)).send
        [signalUmacCircuitOpenWithSecondary circuit none .localLoopback (some ul.address) [],
          dCallProceedingMsg ul pdu circuit.callId .t10s pdu.hookMethodSelection,
          serviceDConnectMsg ul pdu (setupCallTimeout c pdu.simplexDuplexSelection)
            pdu.simplexDuplexSelection circuit,
          .umac (.floorGranted circuit.callId ul.address.ssi ul.address.ssi circuit.ts)]

/-- A destination that the network cannot reach is left out of a call to an external number, unless
the number is a service code. -/
def brewDestination (pdu : USetup) (networkCall : NetworkCircuitCall) : NetworkCircuitCall :=
  let routable := networkCall.destination == 0 ||
    c.cell.isBrewIssiRoutable networkCall.destination
  let serviceCode := !networkCall.number.isEmpty && networkCall.number.all Char.isDigit
  if hasExternalCalledParty pdu networkCall && !routable && networkCall.destination != 0 &&
      !serviceCode then { networkCall with destination := 0 }
  else networkCall

def fsmOnUSetupP2pOverBrew (pdu : USetup) (calledAddr : TetraAddress) : IndividualSide :=
  let networkCall := buildNetworkCircuitCallFromUSetup pdu ul.address.ssi
  if !c.cell.isActive then i.reject ul .requestedServiceNotAvailable
  else if !c.networkConnected then i.reject ul .requestedServiceNotAvailable
  else if !c.cell.isBrewIssiRoutable ul.address.ssi then i.reject ul .calledPartyNotReachable
  else if !hasExternalCalledParty pdu networkCall && !(networkCall.destination == 0 ||
      c.cell.isBrewIssiRoutable networkCall.destination) then i.reject ul .calledPartyNotReachable
  else
    let networkCall := brewDestination c pdu networkCall
    match i.toShared.allocateCircuit pdu.basicServiceInformation.communicationType
        pdu.simplexDuplexSelection occupiedCallIds with
    | (none, s) => { i with toShared := s }.reject ul .congestionInInfrastructure
    | (some circuit, s) =>
      ({ i with toShared := s }.send
        [dCallProceedingMsg ul pdu circuit.callId .t60s pdu.hookMethodSelection,
          .brew (.networkCircuitSetupRequest c.newUuid networkCall)]
        ).fsmIndividualCreateSetupCall circuit.callId
        { setupCall c ul pdu calledAddr circuit.ts circuit.usage circuit.ts circuit.usage with
          calledOverBrew := true
          brewUuid := some c.newUuid
          networkCall := some networkCall }

/-- One circuit for a simplex call and two for a duplex call, or none at all. -/
def allocatePrivateCircuits (s : Shared) (pdu : USetup) (occupiedCallIds : Nat → Bool) :
    Option (CmceCircuit × CmceCircuit) × Shared :=
  let commType := pdu.basicServiceInformation.communicationType
  if pdu.simplexDuplexSelection && !s.timeslotAlloc.canAllocatePreempting 2 .packetData then
    (none, s)
  else
    match s.allocateCircuit commType pdu.simplexDuplexSelection occupiedCallIds with
    | (none, s) => (none, s)
    | (some calling, s) =>
      if !pdu.simplexDuplexSelection then (some (calling, calling), s)
      else
        match s.circuits.allocateCircuitForCallWithAllocator calling.callId .both commType
            pdu.simplexDuplexSelection s.timeslotAlloc .cmce with
        | (some called, m, alloc) =>
          (some (calling, called), { s with circuits := m, timeslotAlloc := alloc })
        | (none, m, alloc) =>
          (none, { s with
            circuits := (m.closeCircuit .both calling.ts).2
            timeslotAlloc := alloc }.releaseTimeslot calling.ts)

def privateSetupGrant (simplexDuplex hook requestToTransmit : Bool) : TransmissionGrant :=
  if !simplexDuplex && hook &&
      privateSimplexCalledMsTransmitsFirst simplexDuplex hook requestToTransmit then .granted
  else if !simplexDuplex && hook then .grantedToOtherUser
  else .notGranted

def privateDSetup (pdu : USetup) (callId : Nat) (hook : Bool) : DSetup where
  callIdentifier := callId
  callTimeOut := setupCallTimeout c pdu.simplexDuplexSelection
  hookMethodSelection := hook
  simplexDuplexSelection := pdu.simplexDuplexSelection
  basicServiceInformation := pdu.basicServiceInformation
  transmissionGrant :=
    privateSetupGrant pdu.simplexDuplexSelection hook pdu.requestToTransmitSendData
  transmissionRequestPermission := false
  callPriority := pdu.callPriority
  callingPartyAddressSsi := some ul.address.ssi
  externalSubscriberNumber := none

def openPrivateCall (pdu : USetup) (calledAddr : TetraAddress) (calling called : CmceCircuit) :
    IndividualSide :=
  let callId := calling.callId
  let hook := pdu.hookMethodSelection || c.cell.forcePrivateP2pHookSignalling
  let dSetup := privateDSetup c ul pdu callId hook
  let reporter := i.newReporter false
  { i with
    toShared := { i.toShared with
      cachedSetups := i.cachedSetups.insert callId
        { pdu := dSetup
          destAddr := calledAddr
          resend := true
          lastResendReporter := some reporter
          isIndividual := true } }.sendReported
      [dCallProceedingMsg ul pdu callId .t60s hook,
        buildSapmsg (.dSetup dSetup) none calledAddr .unacknowledged (some reporter)]
    }.fsmIndividualCreateSetupCall callId
    (setupCall c ul pdu calledAddr calling.ts calling.usage called.ts called.usage)

/-- A called party that cannot be one: another address form than an SSI or TSI without a network,
a number with an SSI, an extension without a TSI, or a TSI of another network. -/
def calledPartyRefused (pdu : USetup) : Bool :=
  let isIssiAddress := pdu.calledPartyTypeIdentifier == .ssi ||
    pdu.calledPartyTypeIdentifier == .tsi
  !isIssiAddress && !c.cell.isActive ||
    isIssiAddress && (pdu.calledPartyShortNumberAddress.isSome ||
      pdu.calledPartyExtension.isSome && pdu.calledPartyTypeIdentifier != .tsi) ||
    pdu.calledPartyTypeIdentifier == .tsi &&
      pdu.calledPartyExtension.all (fun extension =>
        (extension >>> 14) % 1024 != c.cell.mcc || extension % 16384 != c.cell.mnc)

def fsmOnUSetupP2p (pdu : USetup) : IndividualSide :=
  let calledSsi := pdu.calledPartySsi.getD 0
  let calledAddr := TetraAddress.issi calledSsi
  if calledPartyRefused c pdu then i.reject ul .requestedServiceNotAvailable
  else if calledSsi == 0 && !(pdu.externalSubscriberNumber.isSome ||
      pdu.calledPartyShortNumberAddress.isSome) then i.reject ul .requestedServiceNotAvailable
  else if i.findIndividualCallByIssi c ul.address.ssi then i.reject ul .noIdleCcEntity
  else if calledSsi = parrotIssi then i.fsmOnUSetupParrot c occupiedCallIds ul pdu
  else if calledSsi = echoIssi then i.fsmOnUSetupEcho c occupiedCallIds ul pdu
  else if calledSsi = 0 then i.fsmOnUSetupP2pOverBrew c occupiedCallIds ul pdu calledAddr
  else if calledSsi ∉ c.subs.subscriberGroups then
    if c.cell.isLocalSsi calledSsi then i.reject ul .calledPartyNotReachable
    else i.fsmOnUSetupP2pOverBrew c occupiedCallIds ul pdu calledAddr
  else if i.findIndividualCallByIssi c calledSsi then i.reject ul .calledPartyBusy
  else
    match allocatePrivateCircuits i.toShared pdu occupiedCallIds with
    | (none, s) => { i with toShared := s }.reject ul .congestionInInfrastructure
    | (some (calling, called), s) =>
      { i with toShared := s }.openPrivateCall c ul pdu calledAddr calling called

end IndividualSide
end NexusBs.Cc
