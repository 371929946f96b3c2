import NexusBs.Pdus.Broadcast
import NexusBs.Sched.Circuits
import NexusBs.Sched.Queue
import NexusBs.Sched.UlSched

namespace NexusBs
open Lib

/-- The scheduler; arrays are indexed by timeslot number less one. The last three
fields are history variables that no operation reads: the absolute number of the
current slot, the oldest slot the ring still holds, and what is reserved from there on. -/
structure BsChannelScheduler where
  curDltime : TdmaTime
  scramblingCode : Nat
  precomps : PrecomputedUmacPdus
  dltxNextSlotQueue : List DlSchedElem
  dltxQueues : Nat → List DlSchedElem
  ulsched : UlSched
  circuits : CircuitMgr
  hangtime : Nat → Bool
  pendingRaAcks : Nat → List TetraAddress
  mcchChanAllocSentThisFrame : Bool
  nextUsageMarker : Nat → Nat
  packetDataAssignments : Nat → Option PacketDataAssignment
  packetDataDownlinkCursor : Nat
  packetDataAllocatorLossEvents : List TetraAddress
  (now oldest : Int)
  booked : UlSched.Calendar

def macschedTxAhead : Nat := 1
def packetDataAssignedScchTs : Nat := 2
def packetDataAssignmentTtlTimeslots : Int := 4 * 18 * 300
def predefinedBroadcastGssi : Nat := 0xFFFFFF

namespace BsChannelScheduler

/-- The scheduler before its first slot, where `dltime` is the slot before that. -/
def new (scramblingCode : Nat) (precomps : PrecomputedUmacPdus) (dltime : TdmaTime) :
    BsChannelScheduler where
  curDltime := dltime
  scramblingCode := scramblingCode
  precomps := precomps
  dltxNextSlotQueue := []
  dltxQueues := fun _ => []
  ulsched := UlSched.empty
  circuits := .new
  hangtime := fun _ => false
  pendingRaAcks := fun _ => []
  mcchChanAllocSentThisFrame := false
  nextUsageMarker := fun _ => 4
  packetDataAssignments := fun _ => none
  packetDataDownlinkCursor := 0
  packetDataAllocatorLossEvents := []
  now := dltime.toInt
  oldest := dltime.toInt - 2
  booked := fun _ => emptySchedElem

def dlSlotIndex (ts : Nat) : Option Nat := if isTimeslot ts then some (ts - 1) else none

def canCarryScheduledSchf (ts : TdmaTime) : Bool :=
  decide (ts.f ≠ 18) || (!ts.isMandatoryBsch && !ts.isMandatoryBnch)

variable (s : BsChannelScheduler)

def setQueue (slot : Nat) (q : List DlSchedElem) : BsChannelScheduler :=
  { s with dltxQueues := Function.update s.dltxQueues slot q }

@[simp] theorem setQueue_self (slot : Nat) (q : List DlSchedElem) :
    (s.setQueue slot q).dltxQueues slot = q := Function.update_self ..

theorem setQueue_of_ne (q : List DlSchedElem) (h : slot' ≠ slot) :
    (s.setQueue slot q).dltxQueues slot' = s.dltxQueues slot' := Function.update_of_ne h ..

def pushSchedQueueWithCap (slot : Nat) (e : DlSchedElem) (cap : Nat) : BsChannelScheduler :=
  s.setQueue slot (SchedQueue.push cap (s.dltxQueues slot) e)

def pushSchedQueueBounded (slot : Nat) (e : DlSchedElem) : BsChannelScheduler :=
  s.pushSchedQueueWithCap slot e maxDlschedElemsPerTimeslot

def setNextSlotQueue (q : List DlSchedElem) : BsChannelScheduler :=
  { s with dltxNextSlotQueue := q }

def pushNextSlotQueueBounded (e : DlSchedElem) : BsChannelScheduler :=
  s.setNextSlotQueue (SchedQueue.push maxDlschedNextSlotElems s.dltxNextSlotQueue e)

def hasPendingStealing (ts : Nat) : Bool := (s.dltxQueues (ts - 1)).any DlSchedElem.isStealing

def isHangtimeEffective (ts : Nat) : Bool :=
  isTimeslot ts && s.hangtime (ts - 1) && !s.hasPendingStealing ts

def ulCircuitPrimaryAddr (ts : Nat) : Option TetraAddress :=
  (s.circuits.circuit .ul ts).bind Circuit.activeAddr

def hasPendingGroupPositiveFloorGrantStealing (ts : Nat) : Bool :=
  isTimeslot ts && (s.ulCircuitPrimaryAddr ts).any (fun a => a.ssiType == .gssi) &&
    (s.dltxQueues (ts - 1)).any DlSchedElem.stealingIsGroupPositiveFloorGrant

end BsChannelScheduler
end NexusBs
