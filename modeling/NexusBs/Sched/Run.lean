import NexusBs.Lib.Run
import NexusBs.Sched.Finalize

namespace NexusBs

inductive SchedOp where
  | dlEnqueueGrant (ts : Nat) (addr : TetraAddress) (g : BasicSlotgrant) (usageMarker : Option Nat)
  | dlEnqueueReservationGrant (ts : Nat) (addr : TetraAddress) (resReq : ReservationRequirement)
  | dlEnqueuePacketDataReservationGrant (ts : Nat) (addr : TetraAddress)
      (resReq : ReservationRequirement)
  | dlEnqueueRandomAccessAck (ts : Nat) (addr : TetraAddress)
  | dlEnqueueTma (pdu : MacResource) (sdu : BitBuffer) (txReporter : Option TxReporter)
      (ackGrant : Option (TetraAddress × ReservationRequirement))
  | dlEnqueueTmaNextFrame (pdu : MacResource) (sdu : BitBuffer) (txReporter : Option TxReporter)
  | takePendingRaAckForStch (ts : Nat) (addr : TetraAddress) (carriesChannelAllocation : Bool)
  | takePendingOrReadyRaAckForStch (ts : Nat) (addr : TetraAddress)
      (carriesChannelAllocation : Bool)
  | dlEnqueueStealing (ts : Nat) (block : BitBuffer) (addr : TetraAddress)
      (txReporter : Option TxReporter)
  | dlDiscardPendingStealing (ts : Nat)
  | dlCancelByReporter (target : TxReporter)
  | dlDropQueuedGssiRepeats (groupAddr : TetraAddress)
  | setHangtime (ts : Nat) (active : Bool)
  | createCircuit (dir : Direction) (circuit : Circuit)
  | closeCircuit (dir : Direction) (ts : Nat)
  | clearDlMediaQueue (ts : Nat)
  | clearDlMediaQueueExceptSource (ts sourceUlTs : Nat) (sourceAddr : TetraAddress)
  | dlScheduleTmd (ts : Nat) (block : CircuitTxBlock)
  | setSystemWideServicesState (enabled : Bool)
  | drainPacketDataAllocatorLossEvents
  | ulProcessCapReq (ts : Nat) (addr : TetraAddress) (resReq : ReservationRequirement)
  | nextSlot (env : SlotEnv)

namespace BsChannelScheduler

/-- One request, or the next slot; `none` where it panics. -/
def step (s : BsChannelScheduler) : SchedOp → Option BsChannelScheduler
  | .dlEnqueueGrant ts addr g marker => some (s.dlEnqueueGrant ts addr g marker)
  | .dlEnqueueReservationGrant ts addr resReq => some (s.dlEnqueueReservationGrant ts addr resReq)
  | .dlEnqueuePacketDataReservationGrant ts addr resReq =>
    some (s.dlEnqueuePacketDataReservationGrant ts addr resReq)
  | .dlEnqueueRandomAccessAck ts addr => some (s.dlEnqueueRandomAccessAck ts addr)
  | .dlEnqueueTma pdu sdu tx ackGrant => some (s.dlEnqueueTmaInner pdu sdu tx ackGrant)
  | .dlEnqueueTmaNextFrame pdu sdu tx => some (s.dlEnqueueTmaNextFrame pdu sdu tx)
  | .takePendingRaAckForStch ts addr alloc => some (s.takePendingRaAckForStch ts addr alloc).2
  | .takePendingOrReadyRaAckForStch ts addr alloc =>
    some (s.takePendingOrReadyRaAckForStch ts addr alloc).2
  | .dlEnqueueStealing ts block addr tx => some (s.dlEnqueueStealing ts block addr tx)
  | .dlDiscardPendingStealing ts => some (s.dlDiscardPendingStealing ts)
  | .dlCancelByReporter target => some (s.dlCancelByReporter target)
  | .dlDropQueuedGssiRepeats groupAddr => some (s.dlDropQueuedGssiRepeats groupAddr)
  | .setHangtime ts active => some (s.setHangtime ts active)
  | .createCircuit dir circuit => some (s.createCircuit dir circuit)
  | .closeCircuit dir ts => some (s.closeCircuit dir ts)
  | .clearDlMediaQueue ts => some (s.clearDlMediaQueue ts)
  | .clearDlMediaQueueExceptSource ts src addr =>
    some (s.clearDlMediaQueueExceptSource ts src addr)
  | .dlScheduleTmd ts block => some (s.dlScheduleTmd ts block)
  | .setSystemWideServicesState enabled => some (s.setSystemWideServicesState enabled)
  | .drainPacketDataAllocatorLossEvents => some s.drainPacketDataAllocatorLossEvents.2
  | .ulProcessCapReq ts addr resReq => (s.ulProcessCapReq ts addr resReq).map Prod.snd
  | .nextSlot env => (s.nextSlot env).map Finalized.sched

end BsChannelScheduler

def sampleCell : PrecomputedUmacPdus :=
  let sysinfo (opt : SysinfoOptField) : MacSysinfo :=
    ⟨1521, 4, 0, 0, false, 0, 5, 3, 7, 9, none, some 0, opt⟩
  { macSysinfo1 := sysinfo (.defaultDefForAccCodeA ⟨8, 5, 15, false, 0, 0⟩)
    macSysinfo2 := sysinfo (.extServicesBroadcast ⟨false, true, .noEncryption, 2, false, 0, 0⟩)
    mleSysinfo := ⟨1, 65535, ⟨true, true, false, true, false, true, true, false, true, false, true⟩⟩
    macSync := ⟨1, 1, .default, 0, 0, false, false⟩
    mleSync := ⟨901, 9999, 2, 0, true⟩ }

/-- Nobody is registered and nobody sleeps. -/
def quietEnv : SlotEnv := ⟨⟨[], fun _ => []⟩, fun _ => none, none, fun _ => true⟩

/-- Packet data on timeslot 2 for a radio, announced in a message of the given length. -/
def assignPacketData (issi len : Nat) : SchedOp :=
  let sdu := BitBuffer.fromBitarr
    ([false, false, true, false] ++ [true, false, false] ++ List.replicate (len - 7) false)
  let alloc : ChanAllocElement := ⟨.replace, .single 2, .both, true, false, 1521, none, 0, some 0⟩
  .dlEnqueueTma (MacResource.updateLenAndFillInd
    ⟨false, 0, 0, false, 0, some (.issi issi), none, none, none, none, some alloc⟩
      sdu.len) sdu none none

end NexusBs
