import NexusBs.Cc.Calls

namespace NexusBs.Cc
open Lib

inductive TableName where
  | activeCalls | pendingGroupReleases | pendingGroupTxCeasedTailDrains
  | pendingGroupFloorActivations | pendingNetworkGroupReadies | individualCalls
  | pendingIndividualDisconnectTailDrains | pendingIndividualDisconnectDeliveries
  | pendingIndividualDisconnectReleaseAcks | pendingIndividualTxCeasedTailDrains
  | pendingIndividualConnectAcks | pendingNetworkIndividualConnects | pendingIndividualReleases
  | subscriberGroups

/-- What call control reads and does not change while it handles an event: the configuration, the
time, the subscribers, the order in which its tables are walked, how far the transfers that it
follows have come, and an identifier for a new network call. -/
structure Ctx where
  cell : CellConfig
  dltime : TdmaTime
  registry : SubscriberRegistry
  subs : Subscribers
  networkConnected : Bool
  order : TableName → Order
  tx : Nat → TxState
  newUuid : Nat

namespace Ctx

variable (c : Ctx) (r : TxReporter)

def isDiscarded : Bool := c.tx r.handle == .discarded

def isTransmitted : Bool :=
  match c.tx r.handle with
  | .transmitted => true
  | .lost => true
  | .acknowledged => true
  | _ => false

def isAcknowledged : Bool := c.tx r.handle == .acknowledged

def isInFinalState : Bool :=
  match c.tx r.handle with
  | .pending => false
  | .transmitted => !r.expectsAck
  | _ => true

def hasLocalListener (gssi : Nat) : Bool :=
  c.registry.hasGroupMembers gssi || (c.subs.groupListeners.lookup gssi).getD 0 > 0

def hasListener (gssi : Nat) : Bool :=
  c.hasLocalListener gssi || (c.subs.externalGroupListeners.lookup gssi).getD 0 > 0

def subscriberAffiliatedToGroup (issi gssi : Nat) : Bool :=
  c.registry.containsGroupMember gssi issi ||
    (c.subs.subscriberGroups.lookup issi).any (fun groups => decide (gssi ∈ groups))

def firstAffiliatedGroupFloorRequester (call : ActiveCall) : Option TetraAddress :=
  call.queuedFloorDemands.items.find? (fun requester =>
    c.subscriberAffiliatedToGroup requester.ssi call.destGssi)

end Ctx

/-! Messages to the radios. The priority of a message is a function of its PDU and left out. -/

def buildSapmsg (pdu : CcPdu) (chanAlloc : Option ChanAllocReq) (address : TetraAddress)
    (layer2service : Layer2Service) (reporter : Option TxReporter) : Msg :=
  .lcmc {
    pdu := pdu
    handle := 0
    linkId := 0
    endpointId := 0
    layer2service := layer2service
    stealingPermission := false
    unackedBlRepetitions := none
    chanAlloc := chanAlloc
    mainAddress := address
    txReporter := reporter }

def buildSapmsgDirect (pdu : CcPdu) (address : TetraAddress) (handle linkId endpointId : Nat) :
    Msg :=
  .lcmc {
    pdu := pdu
    handle := handle
    linkId := linkId
    endpointId := endpointId
    layer2service := .unacknowledged
    stealingPermission := false
    unackedBlRepetitions := none
    chanAlloc := none
    mainAddress := address
    txReporter := none }

def UlContext.reply (ul : UlContext) (pdu : CcPdu) : Msg :=
  buildSapmsgDirect pdu ul.address ul.handle ul.linkId ul.endpointId

def replaceAlloc (usage : Option Nat) (ts : Nat) (ulDlAssigned : UlDlAssignment) : ChanAllocReq where
  usage := usage
  allocType := .replace
  timeslots := Timeslots.single ts
  ulDlAssigned := ulDlAssigned

/-- Signalling that steals from the speech of an assigned channel. -/
def buildSapmsgStealing (pdu : CcPdu) (address : TetraAddress) (ts usage : Nat)
    (ulDlAssigned : UlDlAssignment) (reporter : Option TxReporter)
    (unackedBlRepetitions : Option Nat) : Msg :=
  .lcmc {
    pdu := pdu
    handle := 0
    linkId := 0
    endpointId := 0
    layer2service := .unacknowledged
    stealingPermission := true
    unackedBlRepetitions := unackedBlRepetitions
    chanAlloc := some (replaceAlloc (some usage) ts ulDlAssigned)
    mainAddress := address
    txReporter := reporter }

def gssiAddress (gssi : Nat) : TetraAddress := ⟨gssi, .gssi⟩

/-- The answer to a U-SETUP that no call identifier has been given to yet. -/
def rejectUSetupBeforeCallId (ul : UlContext) (cause : DisconnectCause) : Msg :=
  ul.reply (.dRelease 0 cause)

def functionNotSupported (ul : UlContext) (ty : CmcePduTypeUl) (callIdentifier : Option Nat)
    (pointer : Nat) : Msg :=
  ul.reply (.cmceFunctionNotSupported ty callIdentifier pointer)

/-- Only a positive grant opens the uplink. -/
def dTxGrantedIndividual (callId : Nat) (target : TetraAddress) (ts usage : Nat)
    (grant : TransmissionGrant) (reporter : Option TxReporter) : Msg :=
  buildSapmsgStealing (.dTxGranted callId grant none) target ts usage
    (if grant = .granted then .both else .dl) reporter (some 0)

def dTxGrantedFacch (callId sourceIssi destGssi ts usage : Nat) (ulDlAssigned : UlDlAssignment)
    (reporter : Option TxReporter) : Msg :=
  buildSapmsgStealing (.dTxGranted callId .grantedToOtherUser (some sourceIssi))
    (gssiAddress destGssi) ts usage ulDlAssigned reporter (some 0)

def dTxInterruptFacch (callId : Nat) (target : TetraAddress) (sourceIssi ts usage : Nat)
    (grant : TransmissionGrant) : Msg :=
  buildSapmsgStealing (.dTxInterrupt callId grant (some sourceIssi)) target ts usage .dl none
    (some 0)

def dTxCeasedFacch (callId destGssi ts usage : Nat) : Msg :=
  buildSapmsgStealing (.dTxCeased callId) (gssiAddress destGssi) ts usage .dl none (some 0)

def maxLocalListenerIndividualFloorGrants : Nat := 100

/-- Tell the listeners of a group who speaks: one by one where the speaker is a member and there
are few of them, else with one message to the group. -/
def Ctx.groupListenerDTxGranted (c : Ctx) (callId sourceIssi destGssi ts usage : Nat) : List Msg :=
  let listeners := (c.registry.groupMemberIssis destGssi).filter (· ≠ sourceIssi)
  if c.registry.containsGroupMember destGssi sourceIssi ∧
      listeners.length ≤ maxLocalListenerIndividualFloorGrants then
    listeners.map (fun issi =>
      dTxGrantedIndividual callId (.issi issi) ts usage .grantedToOtherUser none)
  else [dTxGrantedFacch callId sourceIssi destGssi ts usage .dl none]

def dSetupMsg (pdu : DSetup) (destAddr : TetraAddress) (usage ts : Nat)
    (reporter : Option TxReporter) : Msg :=
  buildSapmsg (.dSetup pdu) (some (replaceAlloc (some usage) ts .both)) destAddr .unacknowledged
    reporter

def signalUmacCircuitOpenWithSecondary (circuit : CmceCircuit) (peerTs : Option Nat)
    (dlMediaSource : CircuitDlMediaSource) (activeAddr : Option TetraAddress)
    (activeSecondaryAddrs : List TetraAddress) : Msg :=
  .umac (.openCircuit {
    direction := circuit.direction
    ts := circuit.ts
    peerTs := peerTs
    usage := circuit.usage
    circuitMode := circuit.circuitMode
    speechService := circuit.speechService
    eteeEncrypted := circuit.eteeEncrypted
    dlMediaSource := dlMediaSource
    activeAddr := activeAddr
    activeSecondaryAddrs := activeSecondaryAddrs })

def signalUmacCircuitClose (circuit : CmceCircuit) : Msg :=
  .umac (.close circuit.direction circuit.ts)

/-- A floor message for UMAC, with a copy for the network where `toBrew`. -/
def floorMsgs (toBrew : Bool) (control : CallControl) : List Msg :=
  .umac control :: if toBrew then [.brew control] else []

/-- What both kinds of calls use: circuits, timeslots, cached set-ups, the number of the next
receipt, and the messages of the step so far. -/
structure Shared where
  circuits : CircuitMgr
  timeslotAlloc : TimeslotAllocator
  cachedSetups : Table CachedSetup
  nextReporter : Nat
  sent : List Msg

namespace Shared

variable (s : Shared)

def send (msgs : List Msg) : Shared := { s with sent := s.sent ++ msgs }

def newReporter (expectsAck : Bool) : TxReporter := ⟨s.nextReporter, expectsAck⟩

def sendReported (msgs : List Msg) : Shared :=
  { s with nextReporter := s.nextReporter + 1, sent := s.sent ++ msgs }

def refreshGroupCachedDSetupSpeaker (callId speakerIssi : Nat) : Shared :=
  { s with
    cachedSetups := Table.modify s.cachedSetups callId (fun cached =>
      if cached.isIndividual then cached
      else
        { cached with
          pdu := { cached.pdu with
            callingPartyAddressSsi := some speakerIssi
            transmissionGrant := .grantedToOtherUser
            transmissionRequestPermission := false }
          lastResendReporter := none }) }

def sendGroupDSetupRefreshReported (callId ts usage : Nat) : Option TxReporter × Shared :=
  match s.cachedSetups.lookup callId with
  | none => (none, s)
  | some cached =>
    if cached.isIndividual then (none, s)
    else
      let reporter := s.newReporter false
      let s := { s with
        cachedSetups := s.cachedSetups.insert callId
          { cached with lastResendReporter := some reporter } }
      (some reporter, s.sendReported [dSetupMsg cached.pdu cached.destAddr usage ts (some reporter)])

/-- The D-RELEASE of a call, with the identifier that its cached set-up carries. -/
def dRelease (s : Shared) (callId : Nat) (cause : DisconnectCause) : CcPdu :=
  .dRelease (((s.cachedSetups.lookup callId).map (·.pdu.callIdentifier)).getD callId) cause

def releaseTimeslot (ts : Nat) : Shared :=
  { s with timeslotAlloc := s.timeslotAlloc.release .cmce ts }

def eraseCachedSetup (callId : Nat) : Shared :=
  { s with cachedSetups := s.cachedSetups.erase callId }

def closeCircuit (s : Shared) (dir : Direction) (ts : Nat) : Shared :=
  match s.circuits.closeCircuit dir ts with
  | (some circuit, m) => { s with circuits := m }.send [signalUmacCircuitClose circuit]
  | (none, m) => { s with circuits := m }

def allocateCircuit (commType : CommunicationType) (simplexDuplex : Bool)
    (occupiedCallIds : Nat → Bool) : Option CmceCircuit × Shared :=
  let r := s.circuits.allocateCircuitWithAllocatorDuplexAvoiding .both commType simplexDuplex
    s.timeslotAlloc .cmce occupiedCallIds
  (r.1, { s with circuits := r.2.1, timeslotAlloc := r.2.2 })

end Shared

structure GroupTables where
  activeCalls : Table ActiveCall
  pendingGroupReleases : Table PendingGroupRelease
  pendingGroupTxCeasedTailDrains : Table PendingGroupTxCeasedTailDrain
  pendingGroupFloorActivations : Table PendingGroupFloorActivation
  pendingNetworkGroupReadies : Table PendingNetworkGroupReady

structure IndividualTables where
  individualCalls : Table IndividualCall
  pendingIndividualDisconnectTailDrains : Table PendingIndividualDisconnectTailDrain
  pendingIndividualDisconnectDeliveries : Table PendingIndividualDisconnectDelivery
  pendingIndividualDisconnectReleaseAcks : Table PendingIndividualDisconnectReleaseAck
  pendingIndividualTxCeasedTailDrains : Table PendingIndividualTxCeasedTailDrain
  pendingIndividualConnectAcks : Table PendingIndividualConnectAck
  pendingNetworkIndividualConnects : Table PendingNetworkIndividualConnect
  pendingIndividualReleases : Table PendingIndividualRelease
  echoSession : Option EchoSession
  parrotSession : Option ParrotSession

structure GroupSide extends Shared, GroupTables

structure IndividualSide extends Shared, IndividualTables

end NexusBs.Cc
