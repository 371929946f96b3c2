import NexusBs.Cc.Subscribers
import NexusBs.Lib.Run

namespace NexusBs.Cc
open Lib

def cmceFnsPtrUDisconnectType3 : Nat := 20
def cmceFnsPtrUInfoModify : Nat := 16
def cmceFnsPtrUInfoType3 : Nat := 17
def cmceFnsPtrUReleaseType3 : Nat := 20
def cmceFnsPtrUTxDemandEncryptionControl : Nat := 16
def cmceFnsPtrUTxDemandReserved : Nat := 17
def cmceFnsPtrUTxDemandType3 : Nat := 19

def featureCheckUSetup (pdu : USetup) : Bool :=
  pdu.areaSelection == 0 &&
    !(pdu.basicServiceInformation.communicationType != .p2p && pdu.simplexDuplexSelection) &&
    pdu.clirControl == 0 && !pdu.facility && !pdu.dmMsAddress && !pdu.proprietary

def unsupportedUDisconnectFunction (pdu : UDisconnect) : Option Nat :=
  if pdu.facility || pdu.proprietary then some cmceFnsPtrUDisconnectType3 else none

def unsupportedUReleaseFunction (pdu : URelease) : Option Nat :=
  if pdu.facility || pdu.proprietary then some cmceFnsPtrUReleaseType3 else none

def unsupportedUInfoFunction (pdu : UInfo) : Option Nat :=
  if pdu.modify.isSome then some cmceFnsPtrUInfoModify
  else if pdu.facility || pdu.proprietary then some cmceFnsPtrUInfoType3
  else none

def unsupportedUTxDemandFunction (pdu : UTxDemand) : Option Nat :=
  if pdu.encryptionControl then some cmceFnsPtrUTxDemandEncryptionControl
  else if pdu.reserved then some cmceFnsPtrUTxDemandReserved
  else if pdu.facility || pdu.dmMsAddress || pdu.proprietary then some cmceFnsPtrUTxDemandType3
  else none

inductive UplinkPdu where
  | uSetup (pdu : USetup)
  | uTxCeased (pdu : UTxCeased)
  | uTxDemand (pdu : UTxDemand)
  | uRelease (pdu : URelease)
  | uDisconnect (pdu : UDisconnect)
  | uAlert (pdu : UAlert)
  | uConnect (pdu : UConnect)
  | uInfo (pdu : UInfo)
  | uCallRestore

/-- What the network sends; indications that are only logged are left out. -/
inductive NetworkEvent where
  | callStart (brewUuid sourceIssi destGssi priority : Nat)
  | callEnd (brewUuid : Nat)
  | circuitSetupRequest (brewUuid : Nat) (call : NetworkCircuitCall)
  | circuitSetupReject (brewUuid cause : Nat)
  | circuitAlert (brewUuid : Nat)
  | circuitConnectRequest (brewUuid : Nat) (call : NetworkCircuitCall)
  | circuitConnectConfirm (brewUuid grant permission : Nat)
  | circuitSimplexGranted (brewUuid grant : Nat)
  | circuitSimplexIdle (brewUuid : Nat)
  | circuitRelease (brewUuid cause : Nat)

/-- Events of call control. The last three are changes that others make to the shared state. -/
inductive CcEvent where
  | uplink (ul : UlContext) (pdu : UplinkPdu)
  | network (event : NetworkEvent)
  | mmUpdate (update : SubscriberUpdate)
  | brewUpdate (update : SubscriberUpdate)
  | kickMs (issi : Nat)
  | ulInactivityTimeout (ts : Nat)
  | ulFrame (ts : Nat) (frame : VoiceFrame)
  | tick (dltime : TdmaTime)
  | registryChanged (registry : SubscriberRegistry)
  | timeslotChanged (owner : TimeslotOwner) (ts : Nat) (reserved : Bool)
  | networkConnectedChanged (connected : Bool)

namespace CcBs

variable (env : Env) (s : CcBs) (ul : UlContext) (callId : Nat)

/-- Call identifiers that something still refers to. -/
def occupiedCallIds : Bool :=
  callId != 0 &&
    (decide (callId ∈ s.cachedSetups) || decide (callId ∈ s.activeCalls) ||
      decide (callId ∈ s.pendingGroupReleases) || decide (callId ∈ s.individualCalls) ||
      decide (callId ∈ s.pendingIndividualDisconnectTailDrains) ||
      decide (callId ∈ s.pendingIndividualDisconnectDeliveries) ||
      decide (callId ∈ s.pendingIndividualDisconnectReleaseAcks) ||
      decide (callId ∈ s.pendingIndividualTxCeasedTailDrains) ||
      decide (callId ∈ s.pendingGroupTxCeasedTailDrains) ||
      decide (callId ∈ s.pendingGroupFloorActivations) ||
      decide (callId ∈ s.pendingNetworkGroupReadies) ||
      decide (callId ∈ s.pendingIndividualConnectAcks) ||
      decide (callId ∈ s.pendingIndividualReleases) ||
      s.circuits.activeCallIds.contains callId ||
      s.echoSession.any (fun session => session.callId == callId) ||
      s.parrotSession.any (fun session => session.callId == callId))

/-! Uplink PDUs. -/

def fsmOnUSetup (pdu : USetup) : CcBs :=
  if !featureCheckUSetup pdu then s.send [rejectUSetupBeforeCallId ul .incompatibleTrafficCase]
  else if pdu.basicServiceInformation.communicationType = .p2p then
    s.onIndividual (fun i => i.fsmOnUSetupP2p (s.ctx env) s.occupiedCallIds ul pdu)
  else s.onGroup (fun g => g.fsmOnUSetupGroup (s.ctx env) s.occupiedCallIds ul pdu)

def fsmOnUTxCeased (env : Env) (s : CcBs) (ul : UlContext) (callId : Nat) : CcBs :=
  match s.individualCalls.lookup callId with
  | some call => s.onIndividual (fun i => i.fsmOnUTxCeased (s.ctx env) callId call ul.address)
  | none => s.onGroup (fun g => (g.fsmGroupOnTxCeased (s.ctx env) callId ul.address).1)

def fsmOnUTxDemand (env : Env) (s : CcBs) (ul : UlContext) (callId txDemandPriority : Nat) : CcBs :=
  match s.individualCalls.lookup callId with
  | some call =>
    s.onIndividual (fun i => i.fsmOnUTxDemand (s.ctx env) callId call ul txDemandPriority)
  | none =>
    if callId ∈ s.pendingIndividualReleases then s
    else
      s.onGroup (fun g =>
        match g.fsmGroupOnTxDemand (s.ctx env) callId ul.address txDemandPriority with
        | (g, some .unknownCall) => g.send [ul.reply (.dTxGranted callId .notGranted none)]
        | (g, _) => g)

/-- Only the radio that set a group call up may end it, and only with a U-DISCONNECT. -/
def refuseNonOwner : CcBs :=
  s.send [{ ul with address := .issi ul.address.ssi }.reply
    (.dRelease callId .requestedServiceNotAvailable)]

def fsmOnURelease (env : Env) (s : CcBs) (ul : UlContext) (callId : Nat) : CcBs :=
  match s.individualCalls.lookup callId with
  | some call => s.onIndividual (fun i => i.fsmOnURelease (s.ctx env) callId call ul)
  | none =>
    match s.activeCalls.lookup callId with
    | none => s
    | some call =>
      if callId ∈ s.pendingGroupReleases then s
      else if call.origin.isOwner ul.address.ssi then s
      else s.refuseNonOwner ul callId

def fsmOnUDisconnect (env : Env) (s : CcBs) (ul : UlContext) (callId : Nat)
    (cause : DisconnectCause) : CcBs :=
  match s.individualCalls.lookup callId with
  | some call => s.onIndividual (fun i => i.fsmOnUDisconnect (s.ctx env) callId call ul cause)
  | none =>
    match s.individualSide.pendingReleaseDirectAck callId ul with
    | some msg => s.send [msg]
    | none =>
      match s.activeCalls.lookup callId with
      | none => s
      | some call =>
        if callId ∈ s.pendingGroupReleases then s
        else if call.origin.isOwner ul.address.ssi then
          s.onGroup (fun g => g.releaseGroupCall (s.ctx env) callId .userRequestedDisconnection)
        else s.refuseNonOwner ul callId

/-- A PDU with an element that is not supported is answered and not acted on. -/
def orNotSupported (ty : CmcePduTypeUl) (callId : Nat) (unsupported : Option Nat) (handled : CcBs) :
    CcBs :=
  match unsupported with
  | some pointer => s.send [functionNotSupported ul ty (some callId) pointer]
  | none => handled

def routeXxDeliver : UplinkPdu → CcBs
  | .uSetup pdu => s.fsmOnUSetup env ul pdu
  | .uTxCeased pdu => s.fsmOnUTxCeased env ul pdu.callIdentifier
  | .uTxDemand pdu =>
    s.orNotSupported ul .uTxDemand pdu.callIdentifier (unsupportedUTxDemandFunction pdu)
      (s.fsmOnUTxDemand env ul pdu.callIdentifier pdu.txDemandPriority)
  | .uRelease pdu =>
    s.orNotSupported ul .uRelease pdu.callIdentifier (unsupportedUReleaseFunction pdu)
      (s.fsmOnURelease env ul pdu.callIdentifier)
  | .uDisconnect pdu =>
    s.orNotSupported ul .uDisconnect pdu.callIdentifier (unsupportedUDisconnectFunction pdu)
      (s.fsmOnUDisconnect env ul pdu.callIdentifier pdu.disconnectCause)
  | .uAlert pdu => s.onIndividual (fun i => i.rxUAlert (s.ctx env) ul pdu)
  | .uConnect pdu => s.onIndividual (fun i => i.fsmOnUConnect (s.ctx env) ul pdu)
  | .uInfo pdu =>
    s.orNotSupported ul .uInfo pdu.callIdentifier (unsupportedUInfoFunction pdu)
      (s.onIndividual (fun i => i.fsmOnUInfo pdu.callIdentifier pdu.dtmfDigits))
  | .uCallRestore => s.send [functionNotSupported ul .uCallRestore none 0]

/-! Events of the network. -/

def rxCallControl : NetworkEvent → CcBs
  | .callStart brewUuid sourceIssi destGssi priority =>
    s.onGroup (fun g => g.fsmOnNetworkCallStart (s.ctx env) s.occupiedCallIds brewUuid sourceIssi
      destGssi priority)
  | .callEnd brewUuid => s.onGroup (fun g => g.rxNetworkCallEnd (s.ctx env) brewUuid)
  | .circuitSetupRequest brewUuid call =>
    s.onIndividual (fun i =>
      i.fsmOnNetworkCircuitSetupRequest (s.ctx env) s.occupiedCallIds brewUuid call)
  | .circuitSetupReject brewUuid cause =>
    s.onIndividual (fun i => i.rxNetworkCircuitSetupReject (s.ctx env) brewUuid cause)
  | .circuitAlert brewUuid => s.onIndividual (fun i => i.rxNetworkCircuitAlert (s.ctx env) brewUuid)
  | .circuitConnectRequest brewUuid call =>
    s.onIndividual (fun i => i.fsmOnNetworkCircuitConnectRequest (s.ctx env) brewUuid call)
  | .circuitConnectConfirm brewUuid grant permission =>
    s.onIndividual (fun i =>
      i.fsmOnNetworkCircuitConnectConfirm (s.ctx env) brewUuid grant permission)
  | .circuitSimplexGranted brewUuid grant =>
    s.onIndividual (fun i => i.fsmOnNetworkCircuitSimplexGranted (s.ctx env) brewUuid grant)
  | .circuitSimplexIdle brewUuid =>
    s.onIndividual (fun i => i.fsmOnNetworkCircuitSimplexIdle (s.ctx env) brewUuid)
  | .circuitRelease brewUuid cause =>
    s.onIndividual (fun i => i.rxNetworkCircuitRelease (s.ctx env) brewUuid cause)

/-! Time. -/

/-- Nothing was heard for a while on a slot: of a simplex call, of a group call, or of the echo
service, whose caller is always heard. -/
def handleUlInactivityTimeout (ts : Nat) : CcBs :=
  match s.individualSide.floorHeldOn (s.ctx env) ts with
  | some (callId, call) =>
    s.onIndividual (fun i => i.individualUlInactivity (s.ctx env) callId call)
  | none =>
    match s.groupSide.transmittingCallOn (s.ctx env) ts with
    | some (callId, call) => s.onGroup (fun g => g.groupUlInactivity (s.ctx env) callId call ts)
    | none =>
      match s.echoSession.filter (fun session => session.ts == ts) with
      | some session => s.send [.umac (.floorGranted session.callId 0 0 ts)]
      | none => s

/-- Late entry: the set-up of a group call is repeated, with the radio that speaks now. -/
def resendDSetup (usage ts : Nat) : CcBs :=
  if callId ∈ s.pendingGroupReleases ∨ callId ∈ s.pendingGroupTxCeasedTailDrains ∨
      callId ∈ s.pendingGroupFloorActivations ∨ callId ∈ s.pendingIndividualReleases then s
  else
    match s.cachedSetups.lookup callId with
    | none => s
    | some cached =>
      if !cached.resend || cached.isIndividual ||
          cached.lastResendReporter.any (fun r => !(s.ctx env).isInFinalState r) then s
      else
        let pdu :=
          match s.activeCalls.lookup callId with
          | none => cached.pdu
          | some active =>
            { cached.pdu with
              callingPartyAddressSsi := some active.sourceIssi
              transmissionGrant := .grantedToOtherUser
              transmissionRequestPermission := false }
        let reporter := s.newReporter false
        { s with
          toShared := { s.toShared with
            cachedSetups := s.cachedSetups.insert callId
              { cached with pdu := pdu, lastResendReporter := some reporter } }.sendReported
            [dSetupMsg pdu cached.destAddr usage ts (some reporter)] }

/-- A circuit that has been open for too long takes its call with it. -/
def closeStaleCircuit (circuit : CmceCircuit) : CcBs :=
  if callId ∈ s.pendingGroupReleases ∨ callId ∈ s.pendingIndividualReleases then s
  else if callId ∈ s.activeCalls then
    s.onGroup (fun g => g.beginGroupRelease (s.ctx env) callId .expiryOfTimer (some circuit))
  else if callId ∈ s.individualCalls then
    s.onIndividual (fun i =>
      i.beginIndividualRelease (s.ctx env) callId .expiryOfTimer [circuit] true none)
  else
    { s with
      toShared :=
        (s.toShared.send [signalUmacCircuitClose circuit]).releaseTimeslot circuit.ts }

def circuitTask : CircuitMgrCmd → CcBs
  | .sendDSetup callId usage ts => s.resendDSetup env callId usage ts
  | .sendClose callId circuit => s.closeStaleCircuit env callId circuit

def tickCircuits : CcBs :=
  let r := s.circuits.tickStart s.dltime
  r.1.foldl (fun s task => s.circuitTask env task) { s with circuits := r.2 }

/-- Work that waits for a transfer or for a time. -/
def drainPending : CcBs :=
  let c := s.ctx env
  let s := s.onIndividual (fun i => i.drainPendingIndividualTxCeasedTailDrains c)
  let s := s.onGroup (fun g => g.drainPendingGroupTxCeasedTailDrains c)
  let s := s.onGroup (fun g => g.drainPendingGroupFloorActivations c)
  let s := s.onGroup (fun g => g.drainPendingNetworkGroupReadies c)
  let s := s.onIndividual (fun i => i.drainPendingIndividualDisconnectTailDrains c)
  let s := s.onGroup (fun g => g.drainPendingGroupReleases c)
  let s := s.onIndividual (fun i => i.drainPendingIndividualReleases c)
  let s := s.onIndividual (fun i => i.drainPendingIndividualDisconnectDeliveries c)
  let s := s.onIndividual (fun i => i.drainPendingIndividualDisconnectReleaseAcks c)
  let s := s.onIndividual (fun i => i.checkIndividualDisconnectPendingTimeout c)
  let s := s.onIndividual (fun i => i.drainPendingIndividualConnectAcks c)
  let s := s.onIndividual (fun i => i.drainPendingNetworkIndividualConnects c)
  s.onIndividual (fun i => i.driveParrotSession c)

def checkTimers : CcBs :=
  let c := s.ctx env
  let s := s.onGroup (fun g => g.checkGroupCallTimeoutExpiry c)
  let s := s.onIndividual (fun i => i.checkIndividualCallTimeoutExpiry c)
  let s := s.onIndividual (fun i => i.checkIndividualSetupTimeout c)
  s.onGroup (fun g => g.checkHangtimeExpiry c)

def tickStart (dltime : TdmaTime) : CcBs :=
  (({ s with dltime := dltime }.drainPending env).checkTimers env).tickCircuits env

def handle : CcEvent → CcBs
  | .uplink ul pdu => s.routeXxDeliver env ul pdu
  | .network event => s.rxCallControl env event
  | .mmUpdate update => s.handleSubscriberUpdate env update
  | .brewUpdate update => s.handleExternalSubscriberUpdate env update
  | .kickMs issi => s.kickMs env issi
  | .ulInactivityTimeout ts => s.handleUlInactivityTimeout env ts
  | .ulFrame ts frame =>
    (s.onIndividual (fun i => (i.handleParrotUlFrame ts frame).2)).onIndividual (fun i =>
      i.handleEchoUlFrame ts frame.data)
  | .tick dltime => s.tickStart env dltime
  | .registryChanged registry => { s with registry := registry }
  | .timeslotChanged owner ts reserved =>
    -- call control's own slots are changed by call control alone
    if owner = .cmce then s
    else if reserved then { s with timeslotAlloc := s.timeslotAlloc.reserve owner ts }
    else { s with timeslotAlloc := s.timeslotAlloc.release owner ts }
  | .networkConnectedChanged connected => { s with networkConnected := connected }

/-- Handle one event. The messages of the step before are gone; there is no result where the code
panics on a PDU that it cannot serialise. -/
def step (input : Env × CcEvent) : Option CcBs :=
  let s' := { s with sent := [] }.handle (input.1.knows s.nextReporter) input.2
  if s'.sent.all Msg.validate then some s' else none

/-- Before the first event: no calls, and the shared state as the others have made it. -/
def start (cell : CellConfig) (registry : SubscriberRegistry) (alloc : TimeslotAllocator)
    (networkConnected : Bool) : CcBs where
  circuits := .new
  timeslotAlloc := alloc
  cachedSetups := ∅
  nextReporter := 0
  sent := []
  activeCalls := ∅
  pendingGroupReleases := ∅
  pendingGroupTxCeasedTailDrains := ∅
  pendingGroupFloorActivations := ∅
  pendingNetworkGroupReadies := ∅
  individualCalls := ∅
  pendingIndividualDisconnectTailDrains := ∅
  pendingIndividualDisconnectDeliveries := ∅
  pendingIndividualDisconnectReleaseAcks := ∅
  pendingIndividualTxCeasedTailDrains := ∅
  pendingIndividualConnectAcks := ∅
  pendingNetworkIndividualConnects := ∅
  pendingIndividualReleases := ∅
  echoSession := none
  parrotSession := none
  cell := cell
  dltime := .default
  registry := registry
  subs := .new
  networkConnected := networkConnected

end CcBs

def CellConfig.sample : CellConfig where
  brew := some ⟨false, none⟩
  localSsiRanges := []
  mcc := 204
  mnc := 1337
  callTimeoutSecs := 120
  hangtimeSecs := 5
  transmissionInterruptionEnabled := false
  legacyGssiGroupCall := false
  forcePrivateP2pHookSignalling := false

/-- Tables are walked as they are stored, and every transfer has come as far as `tx` says. -/
def Env.sample (tx : TxState) : Env where
  order := fun _ => .stored
  tx := fun _ => tx
  newUuid := 7

def USetup.sample (communicationType : CommunicationType) (duplex : Bool) (called : Nat) :
    USetup where
  areaSelection := 0
  hookMethodSelection := false
  simplexDuplexSelection := duplex
  basicServiceInformation := ⟨.tchS, false, communicationType, none, some 0⟩
  requestToTransmitSendData := false
  callPriority := 0
  clirControl := 0
  calledPartyTypeIdentifier := .ssi
  calledPartyShortNumberAddress := none
  calledPartySsi := some called
  calledPartyExtension := none
  externalSubscriberNumber := none
  facility := false
  dmMsAddress := false
  proprietary := false

def UlContext.sample (issi : Nat) : UlContext := ⟨.issi issi, 0, 0, 0⟩

/-- States that call control can reach, whatever happens. -/
def Reachable (s : CcBs) : Prop :=
  ∃ cell registry alloc connected inputs,
    Lib.run CcBs.step (.start cell registry alloc connected) inputs = some s

end NexusBs.Cc
