import NexusBs.Core.TdmaTime
import NexusBs.Pdus.Cmce
import NexusBs.Sched.Circuits
import NexusBs.Lib.Table

namespace NexusBs.Cc
open Lib

/-- The cell configuration that call control reads. -/
structure BrewConfig where
  hostIsTetrapack : Bool
  whitelistedSsis : Option (List Nat)

structure CellConfig where
  brew : Option BrewConfig
  localSsiRanges : List (Nat × Nat)
  (mcc mnc callTimeoutSecs hangtimeSecs : Nat)
  (transmissionInterruptionEnabled legacyGssiGroupCall forcePrivateP2pHookSignalling : Bool)

namespace CellConfig

variable (cell : CellConfig)

def isLocalSsi (ssi : Nat) : Bool := cell.localSsiRanges.any (fun r => r.1 ≤ ssi && ssi ≤ r.2)

def isActive : Bool := cell.brew.isSome

def isBrewGssiRoutable (ssi : Nat) : Bool :=
  match cell.brew with
  | none => false
  | some brew =>
    if cell.isLocalSsi ssi then false
    else
      match brew.whitelistedSsis with
      | some whitelist => whitelist.contains ssi
      | none => true

def isBrewIssiRoutable (issi : Nat) : Bool :=
  match cell.brew with
  | none => false
  | some brew =>
    if cell.isLocalSsi issi then false
    else if brew.hostIsTetrapack then 1000000 ≤ issi && issi ≤ 9999999 || issi < 1000000
    else true

end CellConfig

inductive CallTimeout where
  | infinite | t30s | t45s | t60s | t2m | t3m | t4m | t5m | t6m | t8m | t10m | t12m | t15m | t20m
  | t30m | reserved
deriving DecidableEq

inductive CallTimeoutSetupPhase where
  | predefined | t1s | t2s | t5s | t10s | t20s | t30s | t60s
deriving DecidableEq

/-- One slot lasts 170/12 ms; no time-out is a whole number of slots, so that the quotient of the
source's floating-point numbers is cut to this. -/
def secondsToTimeslots (seconds : Nat) : Int := (seconds * 1200 / 17 : Nat)

def setupTimeoutToTimeslots : CallTimeoutSetupPhase → Int
  | .predefined => secondsToTimeslots 10
  | .t1s => secondsToTimeslots 1
  | .t2s => secondsToTimeslots 2
  | .t5s => secondsToTimeslots 5
  | .t10s => secondsToTimeslots 10
  | .t20s => secondsToTimeslots 20
  | .t30s => secondsToTimeslots 30
  | .t60s => secondsToTimeslots 60

def callTimeoutToTimeslots : CallTimeout → Option Int
  | .infinite => none
  | .reserved => none
  | .t30s => some (secondsToTimeslots 30)
  | .t45s => some (secondsToTimeslots 45)
  | .t60s => some (secondsToTimeslots 60)
  | .t2m => some (secondsToTimeslots 120)
  | .t3m => some (secondsToTimeslots 180)
  | .t4m => some (secondsToTimeslots 240)
  | .t5m => some (secondsToTimeslots 300)
  | .t6m => some (secondsToTimeslots 360)
  | .t8m => some (secondsToTimeslots 480)
  | .t10m => some (secondsToTimeslots 600)
  | .t12m => some (secondsToTimeslots 720)
  | .t15m => some (secondsToTimeslots 900)
  | .t20m => some (secondsToTimeslots 1200)
  | .t30m => some (secondsToTimeslots 1800)

def CallTimeout.all : List CallTimeout :=
  [.infinite, .t30s, .t45s, .t60s, .t2m, .t3m, .t4m, .t5m, .t6m, .t8m, .t10m, .t12m, .t15m, .t20m,
    .t30m, .reserved]

def CallTimeout.tryFrom (raw : Nat) : Option CallTimeout := CallTimeout.all[raw]?

/-- The configured time-out, as the nearest value that can be announced. -/
def CellConfig.callTimeout (cell : CellConfig) : CallTimeout :=
  let secs := cell.callTimeoutSecs
  if secs = 0 then .infinite
  else if secs ≤ 37 then .t30s
  else if secs ≤ 52 then .t45s
  else if secs ≤ 90 then .t60s
  else if secs ≤ 150 then .t2m
  else if secs ≤ 210 then .t3m
  else if secs ≤ 270 then .t4m
  else if secs ≤ 390 then .t5m
  else if secs ≤ 540 then .t6m
  else if secs ≤ 720 then .t8m
  else if secs ≤ 900 then .t10m
  else if secs ≤ 1080 then .t12m
  else if secs ≤ 1350 then .t15m
  else if secs ≤ 1800 then .t20m
  else .t30m

inductive DisconnectCause where
  | causeNotDefinedOrUnknown | userRequestedDisconnection | calledPartyBusy
  | calledPartyNotReachable | calledPartyDoesNotSupportEncryption | congestionInInfrastructure
  | notAllowedTrafficCase | incompatibleTrafficCase | requestedServiceNotAvailable
  | preEmptiveUseOfResource | invalidCallIdentifier | callRejectedByTheCalledParty | noIdleCcEntity
  | expiryOfTimer | swmiRequestedDisconnection | acknowledgedServiceNotComplete
  | unknownTetraIdentity | ssSpecificDisconnection | unknownExternalSubscriberIdentity
  | callRestorationOfTheOtherUserFailed | calledPartyRequiresEncryption
  | concurrentSetUpNotSupported | calledPartyIsUnderTheSameDmGateOfTheCallingParty
  | nonCallOwnerRequestedDisconnection
deriving DecidableEq

namespace DisconnectCause

def all : List DisconnectCause :=
  [causeNotDefinedOrUnknown, userRequestedDisconnection, calledPartyBusy, calledPartyNotReachable,
    calledPartyDoesNotSupportEncryption, congestionInInfrastructure, notAllowedTrafficCase,
    incompatibleTrafficCase, requestedServiceNotAvailable, preEmptiveUseOfResource,
    invalidCallIdentifier, callRejectedByTheCalledParty, noIdleCcEntity, expiryOfTimer,
    swmiRequestedDisconnection, acknowledgedServiceNotComplete, unknownTetraIdentity,
    ssSpecificDisconnection, unknownExternalSubscriberIdentity,
    callRestorationOfTheOtherUserFailed, calledPartyRequiresEncryption,
    concurrentSetUpNotSupported, calledPartyIsUnderTheSameDmGateOfTheCallingParty,
    nonCallOwnerRequestedDisconnection]

def tryFrom (raw : Nat) : Option DisconnectCause := all[raw]?

end DisconnectCause

/-- The two low bits of what the network sent. -/
def networkCircuitGrant (raw : Nat) : TransmissionGrant :=
  match raw % 4 with
  | 0 => .granted
  | 1 => .notGranted
  | 2 => .requestQueued
  | _ => .grantedToOtherUser

/-- The grant as the other party of a simplex call sees it. -/
def oppositePrivateSimplexGrant : TransmissionGrant → TransmissionGrant
  | .granted => .grantedToOtherUser
  | .grantedToOtherUser => .granted
  | .requestQueued => .requestQueued
  | .notGranted => .notGranted

inductive CircuitModeType where
  | tchS | tch72 | tch48n1 | tch48n4 | tch48n8 | tch24n1 | tch24n4 | tch24n8
deriving DecidableEq

namespace CircuitModeType

def all : List CircuitModeType :=
  [tchS, tch72, tch48n1, tch48n4, tch48n8, tch24n1, tch24n4, tch24n8]

def tryFrom (raw : Nat) : Option CircuitModeType := all[raw]?

def intoRaw (mode : CircuitModeType) : Nat := all.idxOf mode

end CircuitModeType

inductive CommunicationType where
  | p2p | p2mp | p2mpAcked | broadcast
deriving DecidableEq

namespace CommunicationType

def all : List CommunicationType := [p2p, p2mp, p2mpAcked, broadcast]

def tryFrom (raw : Nat) : Option CommunicationType := all[raw]?

def intoRaw (ty : CommunicationType) : Nat := all.idxOf ty

end CommunicationType

inductive PartyTypeIdentifier where
  | sna | ssi | tsi | reserved
deriving DecidableEq

inductive CmcePduTypeUl where
  | uAlert | uConnect | uDisconnect | uInfo | uRelease | uTxDemand | uCallRestore
deriving DecidableEq

inductive Direction where
  | dl | ul | both
deriving DecidableEq

namespace Direction

def includesDl : Direction → Bool
  | dl => true
  | ul => false
  | both => true

def includesUl : Direction → Bool
  | dl => false
  | ul => true
  | both => true

end Direction

structure BasicServiceInformation where
  circuitModeType : CircuitModeType
  encryptionFlag : Bool
  communicationType : CommunicationType
  (slotsPerFrame speechService : Option Nat)
deriving DecidableEq

/-- Speech has a speech service of two bits, every other mode a number of slots of two bits. -/
def BasicServiceInformation.validate (b : BasicServiceInformation) : Bool :=
  match b.circuitModeType, b.slotsPerFrame, b.speechService with
  | .tchS, none, some speechService => speechService ≤ 3
  | .tchS, _, _ => false
  | _, some slotsPerFrame, none => slotsPerFrame ≤ 3
  | _, _, _ => false

/-- A type 3 element: its length in bits and its bits as a number. -/
structure Type3FieldGeneric where
  (len data : Nat)
deriving DecidableEq

structure VoiceFrame where
  data : List Nat
  rawTchSBlock : Option PhyBlockNum
deriving DecidableEq

/-- A transmit receipt: its number, and whether the transfer asks for an acknowledgement. -/
structure TxReporter where
  handle : Nat
  expectsAck : Bool
deriving DecidableEq

/-! Uplink PDUs as the parsers deliver them. Type 3 elements that are only tested for presence are
kept as flags. -/

structure USetup where
  areaSelection : Nat
  (hookMethodSelection simplexDuplexSelection : Bool)
  basicServiceInformation : BasicServiceInformation
  requestToTransmitSendData : Bool
  (callPriority clirControl : Nat)
  calledPartyTypeIdentifier : PartyTypeIdentifier
  (calledPartyShortNumberAddress calledPartySsi calledPartyExtension : Option Nat)
  externalSubscriberNumber : Option Type3FieldGeneric
  (facility dmMsAddress proprietary : Bool)

structure UTxDemand where
  (callIdentifier txDemandPriority : Nat)
  (encryptionControl reserved facility dmMsAddress proprietary : Bool)

structure UTxCeased where
  callIdentifier : Nat

structure URelease where
  callIdentifier : Nat
  disconnectCause : DisconnectCause
  (facility proprietary : Bool)

structure UDisconnect where
  callIdentifier : Nat
  disconnectCause : DisconnectCause
  (facility proprietary : Bool)

structure UAlert where
  callIdentifier : Nat
  (reserved simplexDuplexSelection : Bool)
  basicServiceInformation : Option BasicServiceInformation
  (facility proprietary : Bool)

structure UConnect where
  callIdentifier : Nat
  (hookMethodSelection simplexDuplexSelection : Bool)
  basicServiceInformation : Option BasicServiceInformation
  (facility proprietary : Bool)

/-- The digits that the DTMF element decodes to, where it starts a tone or lists digits. -/
structure UInfo where
  callIdentifier : Nat
  modify : Option Nat
  dtmfDigits : Option (List Char)
  (facility proprietary : Bool)

/-! Downlink PDUs; elements that call control never sets are left out. -/

structure DSetup where
  callIdentifier : Nat
  callTimeOut : CallTimeout
  (hookMethodSelection simplexDuplexSelection : Bool)
  basicServiceInformation : BasicServiceInformation
  transmissionGrant : TransmissionGrant
  transmissionRequestPermission : Bool
  callPriority : Nat
  callingPartyAddressSsi : Option Nat
  externalSubscriberNumber : Option Type3FieldGeneric
deriving DecidableEq

structure DConnect where
  callIdentifier : Nat
  callTimeOut : CallTimeout
  (hookMethodSelection simplexDuplexSelection : Bool)
  transmissionGrant : TransmissionGrant
  (transmissionRequestPermission callOwnership : Bool)
deriving DecidableEq

structure DConnectAcknowledge where
  callIdentifier : Nat
  callTimeOut : CallTimeout
  transmissionGrant : TransmissionGrant
  transmissionRequestPermission : Bool
  notificationIndicator : Option Nat
deriving DecidableEq

inductive CcPdu where
  | dSetup (pdu : DSetup)
  | dConnect (pdu : DConnect)
  | dConnectAcknowledge (pdu : DConnectAcknowledge)
  | dCallProceeding (callIdentifier : Nat) (callTimeOutSetUpPhase : CallTimeoutSetupPhase)
      (hookMethodSelection simplexDuplexSelection : Bool)
  | dAlert (callIdentifier : Nat) (callTimeOutSetUpPhase : CallTimeoutSetupPhase)
      (simplexDuplexSelection : Bool)
  | dTxGranted (callIdentifier : Nat) (transmissionGrant : TransmissionGrant)
      (transmittingPartyAddressSsi : Option Nat)
  | dTxInterrupt (callIdentifier : Nat) (transmissionGrant : TransmissionGrant)
      (transmittingPartyAddressSsi : Option Nat)
  | dTxCeased (callIdentifier : Nat)
  | dRelease (callIdentifier : Nat) (disconnectCause : DisconnectCause)
  | cmceFunctionNotSupported (notSupportedPduType : CmcePduTypeUl) (callIdentifier : Option Nat)
      (functionNotSupportedPointer : Nat)
  /-- A channel allocation without a PDU. -/
  | empty
deriving DecidableEq

def DSetup.validate (pdu : DSetup) : Bool :=
  pdu.callIdentifier ≤ 0x3FFF && pdu.basicServiceInformation.validate && pdu.callPriority ≤ 0xF &&
    pdu.callingPartyAddressSsi.all (· ≤ 0xFFFFFF)

/-- The PDU can be serialised; where it cannot, the code panics. -/
def CcPdu.validate : CcPdu → Bool
  | dSetup pdu => pdu.validate
  | dConnect pdu => pdu.callIdentifier ≤ 0x3FFF
  | dConnectAcknowledge pdu => pdu.callIdentifier ≤ 0x3FFF
  | dCallProceeding callIdentifier _ _ _ => callIdentifier ≤ 0x3FFF
  | dAlert callIdentifier _ _ => callIdentifier ≤ 0x3FFF
  | dTxGranted callIdentifier _ party => callIdentifier ≤ 0x3FFF && party.all (· ≤ 0xFFFFFF)
  | dTxInterrupt callIdentifier _ party => callIdentifier ≤ 0x3FFF && party.all (· ≤ 0xFFFFFF)
  | dTxCeased callIdentifier => callIdentifier ≤ 0x3FFF
  | dRelease callIdentifier _ => callIdentifier ≤ 0x3FFF
  | cmceFunctionNotSupported _ callIdentifier _ => callIdentifier.all (· ≤ 0x3FFF)
  | empty => true

inductive Layer2Service where
  | acknowledged | unacknowledged
deriving DecidableEq

structure ChanAllocReq where
  usage : Option Nat
  allocType : ChanAllocType
  timeslots : Timeslots
  ulDlAssigned : UlDlAssignment
deriving DecidableEq

structure UlContext where
  address : TetraAddress
  (handle linkId endpointId : Nat)

structure LcmcMleUnitdataReq where
  pdu : CcPdu
  (handle linkId endpointId : Nat)
  layer2service : Layer2Service
  stealingPermission : Bool
  unackedBlRepetitions : Option Nat
  chanAlloc : Option ChanAllocReq
  mainAddress : TetraAddress
  txReporter : Option TxReporter
deriving DecidableEq

structure Circuit where
  direction : Direction
  ts : Nat
  peerTs : Option Nat
  usage : Nat
  circuitMode : CircuitModeType
  speechService : Option Nat
  eteeEncrypted : Bool
  dlMediaSource : CircuitDlMediaSource
  activeAddr : Option TetraAddress
  activeSecondaryAddrs : List TetraAddress
deriving DecidableEq

structure NetworkCircuitCall where
  (sourceIssi destination : Nat)
  number : List Char
  (priority service mode duplex method communication grant permission timeout ownership : Nat)
  queued : Nat
deriving DecidableEq

inductive CallControl where
  | openCircuit (circuit : Circuit)
  | setDlMediaSource (ts : Nat) (dlMediaSource : CircuitDlMediaSource)
  | close (direction : Direction) (ts : Nat)
  | floorGranted (callId sourceIssi destGssi ts : Nat)
  | floorReleased (callId ts : Nat)
  | callEnded (callId ts : Nat)
  | networkCallReady (brewUuid callId ts usage : Nat)
  | networkCallEnd (brewUuid : Nat)
  | networkCircuitSetupRequest (brewUuid : Nat) (call : NetworkCircuitCall)
  | networkCircuitSetupAccept (brewUuid : Nat)
  | networkCircuitSetupReject (brewUuid : Nat) (cause : DisconnectCause)
  | networkCircuitAlert (brewUuid : Nat)
  | networkCircuitConnectRequest (brewUuid : Nat) (call : NetworkCircuitCall)
  | networkCircuitConnectConfirm (brewUuid : Nat) (grant : TransmissionGrant) (permission : Nat)
  | networkCircuitSimplexGranted (brewUuid : Nat) (grant : TransmissionGrant) (permission : Nat)
  | networkCircuitMediaReady (brewUuid callId ts : Nat) (direction : Direction)
  | networkCircuitDtmf (brewUuid : Nat) (digit : Char)
  | networkCircuitRelease (brewUuid : Nat) (cause : DisconnectCause)
deriving DecidableEq

inductive Msg where
  | lcmc (req : LcmcMleUnitdataReq)
  | umac (control : CallControl)
  | brew (control : CallControl)
  | mmDeregister (issi : Nat)
  | tmdCircuitDataReq (ts : Nat) (frame : VoiceFrame)
  /-- Group D-SETUPs of the call that the queue still holds are dropped from it. -/
  | discardQueuedGroupDSetups (callId : Nat) (destAddr : TetraAddress)
deriving DecidableEq

def Msg.validate : Msg → Bool
  | lcmc req => req.pdu.validate
  | _ => true

end NexusBs.Cc
