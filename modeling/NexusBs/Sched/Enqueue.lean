import NexusBs.Sched.Grants

namespace NexusBs
open SchedQueue

/-- A random access acknowledgement taken from a list, the last one filling its place. -/
def swapRemove {α : Type} (xs : List α) (i : Nat) : List α :=
  match xs.getLast? with
  | none => xs
  | some x => if i + 1 = xs.length then xs.dropLast else xs.dropLast.set i x

namespace BsChannelScheduler

variable (s : BsChannelScheduler)

variable (ts : Nat) (pdu : MacResource) (sdu : BitBuffer) (addr : TetraAddress)

def dlEnqueueGrant (g : BasicSlotgrant) (usageMarker : Option Nat) : BsChannelScheduler :=
  match dlSlotIndex ts with
  | none => s
  | some slot => s.pushSchedQueueBounded slot (.grant addr g usageMarker)

variable (txReporter : Option TxReporter) (resReq : ReservationRequirement)

def dlEnqueueReservationGrantWithOrigin (origin : PendingGrantOrigin) : BsChannelScheduler :=
  match dlSlotIndex ts with
  | none => s
  | some slot => s.pushSchedQueueBounded slot (.pendingGrant addr (.new resReq) origin)

def dlEnqueueReservationGrant : BsChannelScheduler :=
  s.dlEnqueueReservationGrantWithOrigin ts addr resReq .commonControl

def dlEnqueuePacketDataReservationGrant : BsChannelScheduler :=
  s.dlEnqueueReservationGrantWithOrigin ts addr resReq (.packetData ts)

def dlEnqueueRandomAccessAck : BsChannelScheduler :=
  match dlSlotIndex ts with
  | none => s
  | some slot => s.pushSchedQueueWithCap slot (.randomAccessAck addr) maxPendingRaAcksPerTimeslot

/-- The timeslot a resource is queued for: its packet data channel or the common
control channel. -/
def downlinkTimeslot (ackGrant : Option (TetraAddress × ReservationRequirement)) :
    Nat × BsChannelScheduler :=
  if ackGrant.isNone then
    let (ts, s) := s.packetDataDownlinkTimeslotForResource pdu sdu
    (ts.getD 1, s)
  else (1, s)

/-- Only the first channel allocation of a frame stays in the current frame. -/
def dlEnqueueTmaInner (ackGrant : Option (TetraAddress × ReservationRequirement)) :
    BsChannelScheduler :=
  match s.adaptPacketDataChannelAllocationForVoicePriority pdu sdu none with
  | none => s
  | some pdu =>
    let (ts, s) := s.downlinkTimeslot pdu sdu ackGrant
    let elem := DlSchedElem.resource pdu sdu txReporter none
    let grantElem := ackGrant.map (fun (addr, resReq) =>
      DlSchedElem.pendingGrant addr (.new resReq) .commonControl)
    if ts = 1 ∧ pdu.chanAllocElement.isSome ∧ s.mcchChanAllocSentThisFrame then
      let s := s.pushNextSlotQueueBounded elem
      (grantElem.map s.pushNextSlotQueueBounded).getD s
    else
      let sent := s.mcchChanAllocSentThisFrame || (ts == 1 && pdu.chanAllocElement.isSome)
      let s := { s with mcchChanAllocSentThisFrame := sent }
      let s := s.pushSchedQueueBounded (ts - 1) elem
      (grantElem.map (s.pushSchedQueueBounded (ts - 1))).getD s

def dlEnqueueTmaNextFrame : BsChannelScheduler :=
  s.pushNextSlotQueueBounded (.resource pdu sdu txReporter none)

def takePendingRaAck : Bool × BsChannelScheduler :=
  match dlSlotIndex ts with
  | none => (false, s)
  | some slot =>
    let pending := s.pendingRaAcks slot
    if addr ∈ pending then
      let left := swapRemove pending (pending.idxOf addr)
      (true, { s with pendingRaAcks := Function.update s.pendingRaAcks slot left })
    else (false, s)

/-- An acknowledgement that waits for the next stolen block of its address. -/
def storePendingRaAck (slot : Nat) (addr : TetraAddress) : BsChannelScheduler :=
  let pending := s.pendingRaAcks slot
  if addr ∈ pending then s
  else
    let pending := if pending.length ≥ maxPendingRaAcksPerTimeslot then swapRemove pending 0
      else pending
    { s with pendingRaAcks := Function.update s.pendingRaAcks slot (pending ++ [addr]) }

def takePendingRaAckForStch (carriesChannelAllocation : Bool) : Bool × BsChannelScheduler :=
  match dlSlotIndex ts with
  | none => (false, s)
  | some slot =>
    if addr ∉ s.pendingRaAcks slot then (false, s)
    else if carriesChannelAllocation then s.takePendingRaAck ts addr
    else (true, s)

def takePendingOrReadyRaAckForStch (carriesChannelAllocation : Bool) : Bool × BsChannelScheduler :=
  match s.takePendingRaAckForStch ts addr carriesChannelAllocation with
  | (true, s) => (true, s)
  | (false, s) =>
    match dlSlotIndex ts with
    | none => (false, s)
    | some slot =>
      let q := s.dltxQueues slot
      if DlSchedElem.randomAccessAck addr ∈ q then
        (true, if carriesChannelAllocation then s.setQueue slot (q.erase (.randomAccessAck addr))
          else s)
      else (false, s)

def dlEnqueueStealing (block : BitBuffer) (addr : TetraAddress) (txReporter : Option TxReporter) :
    BsChannelScheduler :=
  match dlSlotIndex ts with
  | none => s
  | some slot => s.pushSchedQueueBounded slot (.stealing block addr txReporter none)

def dlRequeueGroupStealing (block : BitBuffer) (addr : TetraAddress) (group : GroupStealingState) :
    BsChannelScheduler :=
  match dlSlotIndex ts with
  | none => s
  | some slot => s.pushSchedQueueBounded slot (.stealing block addr group.txReporter (some group))

def dlEnqueueTmaFragNextFrame (fragger : BsFragger) (txReporter : Option TxReporter)
    (group : Option GroupDeliveryState) : BsChannelScheduler :=
  s.pushNextSlotQueueBounded (.fragBuf fragger txReporter group)

def dlEnqueueGroupRepeatNextFrame (group : GroupDeliveryState) : BsChannelScheduler :=
  s.pushNextSlotQueueBounded (.resource group.originalPdu group.originalSdu none (some group))

def dlDeferPendingGrantNextFrame (debt : PendingGrantDebt) (origin : PendingGrantOrigin) :
    BsChannelScheduler := s.pushNextSlotQueueBounded (.pendingGrant addr debt origin)

/-- Empties a queue of everything that only signalling slots can carry. The
acknowledgement of an address whose grant is dropped too goes with it. -/
def dlDropAllExceptStolen (timeslot : Nat) : BsChannelScheduler :=
  match dlSlotIndex timeslot with
  | none => s
  | some slot =>
    let q := s.dltxQueues slot
    let droppedGrantAddrs := (q.filter DlSchedElem.isGrant).filterMap DlSchedElem.elemAddr
    let acks := q.filterMap (fun e =>
      match e with
      | .randomAccessAck addr => if addr ∈ droppedGrantAddrs then none else some addr
      | _ => none)
    let s := acks.foldl (fun s addr => s.storePendingRaAck slot addr) s
    s.setQueue slot (q.filter DlSchedElem.isStealing)

def setHangtime (active : Bool) : BsChannelScheduler :=
  if isTimeslot ts then
    let s := { s with hangtime := Function.update s.hangtime (ts - 1) active }
    if active then s else s.dlDropAllExceptStolen ts
  else s

def dlDiscardPendingStealing : BsChannelScheduler :=
  match dlSlotIndex ts with
  | none => s
  | some slot => s.setQueue slot ((s.dltxQueues slot).filter (fun e => !e.isStealing))

def dlCancelByReporter (target : TxReporter) : BsChannelScheduler :=
  s.purgeQueues (DlSchedElem.matchesReporter target)

def dlDropQueuedGssiRepeats (groupAddr : TetraAddress) : BsChannelScheduler :=
  if groupAddr.ssiType ≠ .gssi then s
  else s.purgeQueues (fun e => e.groupRepeatAddr == some groupAddr)

def clearFutureUplink : BsChannelScheduler :=
  { s with
    ulsched := s.ulsched.clearFutureUplinkReservationsForTimeslot ts
    booked := UlSched.withoutTimeslot s.booked ts }

/-- Traffic is only carried on timeslots 2 to 4. -/
def createCircuit (dir : Direction) (circuit : Circuit) : BsChannelScheduler :=
  if isTimeslot circuit.ts = false ∨ circuit.ts = 1 then s
  else
    let s := s.dlDropAllExceptStolen circuit.ts
    let (_, s, _) := s.clearPacketDataAssignmentForSlot circuit.ts none
    let s := s.clearFutureUplink circuit.ts
    { s with
      hangtime := Function.update s.hangtime (circuit.ts - 1) false
      circuits := s.circuits.createCircuit dir circuit }

def closeCircuit (dir : Direction) (ts : Nat) : BsChannelScheduler :=
  { s with
    hangtime := if isTimeslot ts then Function.update s.hangtime (ts - 1) false else s.hangtime
    circuits := s.circuits.closeCircuit dir ts }

def clearDlMediaQueue : BsChannelScheduler :=
  { s with circuits := s.circuits.clearTxData ts }

def clearDlMediaQueueExceptSource (sourceUlTs : Nat) (sourceAddr : TetraAddress) :
    BsChannelScheduler :=
  { s with circuits := s.circuits.clearTxDataExceptSource ts sourceUlTs sourceAddr }

/-- Media scheduled for a downlink slot, packed speech or a received half slot. -/
def dlScheduleTmd (block : CircuitTxBlock) : BsChannelScheduler :=
  { s with circuits := s.circuits.putBlock ts block }

def setSystemWideServicesState (enabled : Bool) : BsChannelScheduler :=
  { s with precomps := s.precomps.setSystemWideServices enabled }

def drainPacketDataAllocatorLossEvents : List TetraAddress × BsChannelScheduler :=
  (s.packetDataAllocatorLossEvents, { s with packetDataAllocatorLossEvents := [] })

end BsChannelScheduler
end NexusBs
