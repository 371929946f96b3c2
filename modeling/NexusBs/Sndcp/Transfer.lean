import NexusBs.Lib.Bits
import NexusBs.Sndcp.Context

namespace NexusBs.Sndcp

open Lib

inductive SndcpTransferRejectCause where
  | undefined | unknownNsapi | systemResourcesNotAvailable
  | requestedMinimumPeakThroughputNotAvailable | requestedScheduleNotAvailable
  | sndcpServiceTemporarilyNotAvailable

structure SndcpPhaseModulationResourceRequest where
  (uplinkTimeslots downlinkTimeslots fullPhaseModulationCapabilityTimeslots : Nat)
  unspecifiedPhaseModulationResource : Bool
deriving DecidableEq

inductive SndcpPacketDataResourceRequest where
  | none
  | phaseModulation (request : SndcpPhaseModulationResourceRequest)
deriving DecidableEq

structure SndcpDataTransmitRequest where
  nsapi : Nat
  logicalLinkStatus : Bool
  resourceRequest : SndcpPacketDataResourceRequest

inductive SndcpDataTransmitResponseResult where
  | accepted
  | rejected (cause : SndcpTransferRejectCause)

structure SndcpDataTransmitResponse where
  nsapi : Nat
  result : SndcpDataTransmitResponseResult

structure SndcpEndOfData where
  immediateServiceChange : Bool

structure SndcpReconnect where
  nsapi : Option Nat
  resourceRequest : SndcpPacketDataResourceRequest

inductive SndcpTransferError where
  | unsupportedResourceRequest
  | reservedNsapi (nsapi : Nat)

def snPduTypeDataTransmitRequest : Nat := 6
def snPduTypeDataTransmitResponse : Nat := 7
def snPduTypeEndOfData : Nat := 8

def validateNsapiForTransfer (nsapi : Nat) : Except SndcpTransferError Unit :=
  match validateNsapi nsapi with
  | .ok _ => .ok ()
  | .error _ => .error (.reservedNsapi nsapi)

def validatePhaseModulationResourceRequest (request : SndcpPhaseModulationResourceRequest) :
    Except SndcpTransferError Unit :=
  let full := request.fullPhaseModulationCapabilityTimeslots
  if ¬ ([request.uplinkTimeslots, request.downlinkTimeslots, full].all
      (fun timeslots => 1 ≤ timeslots && timeslots ≤ 4)) then .error .unsupportedResourceRequest
  else if request.uplinkTimeslots > full ∨ request.downlinkTimeslots > full then
    .error .unsupportedResourceRequest
  else if request.unspecifiedPhaseModulationResource ∧
      (request.uplinkTimeslots ≠ request.downlinkTimeslots ∨ request.uplinkTimeslots ≠ full) then
    .error .unsupportedResourceRequest
  else .ok ()

def timeslotCountCode (timeslots : Nat) : Except SndcpTransferError Nat :=
  if 1 ≤ timeslots ∧ timeslots ≤ 4 then .ok (timeslots - 1) else .error .unsupportedResourceRequest

def writeResourceRequest : SndcpPacketDataResourceRequest → Except SndcpTransferError (List Bool)
  | .none => .ok []
  | .phaseModulation request => do
    validatePhaseModulationResourceRequest request
    let asymmetric : Bool := request.uplinkTimeslots ≠ request.downlinkTimeslots
    let throughput := toBits 3 (if request.unspecifiedPhaseModulationResource then 0b110 else 0b000)
    let uplink := toBits 2 (← timeslotCountCode request.uplinkTimeslots)
    let downlink ← if asymmetric then (timeslotCountCode request.downlinkTimeslots).map (toBits 2)
      else pure []
    let full := toBits 2 (← timeslotCountCode request.fullPhaseModulationCapabilityTimeslots)
    return asymmetric :: throughput ++ uplink ++ downlink ++ full ++ toBits 2 0b11

def transmitRejectCauseCode : SndcpTransferRejectCause → Nat
  | .undefined => 0
  | .unknownNsapi => 1
  | .systemResourcesNotAvailable => 2
  | .requestedMinimumPeakThroughputNotAvailable => 23
  | .requestedScheduleNotAvailable => 25
  | .sndcpServiceTemporarilyNotAvailable => 34

-- each of these PDUs ends in the bit that announces optional elements, which are never sent

def encodeDataTransmitRequest (request : SndcpDataTransmitRequest) :
    Except SndcpTransferError (List Bool) := do
  validateNsapiForTransfer request.nsapi
  let resource ← writeResourceRequest request.resourceRequest
  return toBits 4 snPduTypeDataTransmitRequest ++ toBits 4 request.nsapi ++
    [request.logicalLinkStatus, decide (request.resourceRequest ≠ .none)] ++ resource ++ [false]

def encodeDataTransmitResponse (response : SndcpDataTransmitResponse) :
    Except SndcpTransferError (List Bool) := do
  validateNsapiForTransfer response.nsapi
  let result :=
    match response.result with
    | .accepted => [true]
    | .rejected cause => false :: toBits 8 (transmitRejectCauseCode cause)
  return toBits 4 snPduTypeDataTransmitResponse ++ toBits 4 response.nsapi ++ result ++ [false]

def encodeEndOfData (endOfData : SndcpEndOfData) : Except SndcpTransferError (List Bool) :=
  .ok (toBits 4 snPduTypeEndOfData ++ [endOfData.immediateServiceChange, false])

end NexusBs.Sndcp
