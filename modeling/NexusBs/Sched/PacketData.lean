import NexusBs.Sched.State

namespace NexusBs
open SchedQueue

/-! The allocator, which may be absent, as packet data sees it -/

variable (a : PacketDataAssignment) (alloc : Option TimeslotAllocator) (ts : Nat)

def packetDataAllocatorBlocksAssignment : Bool :=
  alloc.any (fun a => (a.owner ts).any (fun o => o != .packetData))

def packetDataAllocatorConfirmsAssignment : Bool :=
  alloc.all (fun a => a.owner ts == some .packetData)

def reservePacketDataAllocatorSlot : Option TimeslotAllocator × Bool :=
  match alloc with
  | none => (none, true)
  | some a =>
    match a.owner ts with
    | none => let (a, ok) := a.reserve .packetData ts; (some a, ok)
    | some .packetData => (some a, true)
    | some _ => (some a, false)

def releasePacketDataAllocatorSlot : Option TimeslotAllocator :=
  alloc.map (fun a => a.release .packetData ts)

def packetDataAssignmentSupportsDownlink : Bool := a.ulDlAssigned == .dl || a.ulDlAssigned == .both

def packetDataAssignmentSupportsUplink : Bool := a.ulDlAssigned == .ul || a.ulDlAssigned == .both

def packetDataAssignmentUpdateFromResource (pdu : MacResource) (sdu : BitBuffer) :
    Option PacketDataAssignmentUpdate := do
  let addr ← pdu.addr
  if addr.ssiType ≠ .issi ∨ sduIsSndcpPacketData sdu = false then none
  else
    let c ← pdu.chanAllocElement
    match c.allocType with
    | .replace =>
      if c.ulDlAssigned = .augmented then none
      else if c.tsAssigned.toList.any id = false then some (.quitAndGo addr)
      else some (.replace addr c.tsAssigned c.ulDlAssigned c.carrierNum)
    | .additional =>
      if c.ulDlAssigned = .augmented then none
      else if c.tsAssigned.toList.any id = false then some (.quitAndGo addr)
      else some (.additional addr c.tsAssigned c.ulDlAssigned c.carrierNum)
    | .quitAndGo => some (.quitAndGo addr)
    | .replaceWithCarrierSignalling => none

def packetDataRequestedTrafficSlotCount (t : Timeslots) : Nat :=
  let requestedNonMcch := ([t.ts2, t.ts3, t.ts4].filter id).length
  if requestedNonMcch > 0 then requestedNonMcch else if t.ts1 then 1 else 0

def packetDataResourceRequiresPacketDataOwner (pdu : MacResource) (sdu : BitBuffer) : Bool :=
  pdu.chanAllocElement.isNone && pdu.addr.any (fun a => a.ssiType == .issi) &&
    (sduIsSndcpPacketData sdu || sduIsLlcAdvancedLink sdu)

def packetDataAddrAllowedOnAllocatedSlot (requiresPacketDataOwner : Bool)
    (alloc : Option TimeslotAllocator) : Bool :=
  if ts = 1 ∨ requiresPacketDataOwner = false then true
  else if ts ≠ packetDataAssignedScchTs then false
  else alloc.all (fun a => a.owner ts == some .packetData)

def packetDataResourceAllowedOnAllocatedSlot (pdu : MacResource) (sdu : BitBuffer)
    (alloc : Option TimeslotAllocator) : Bool :=
  packetDataAddrAllowedOnAllocatedSlot ts (packetDataResourceRequiresPacketDataOwner pdu sdu) alloc

def packetDataChannelAllocation (tsAssigned : Timeslots) (allocType : ChanAllocType) :
    ChanAllocElement where
  allocType := allocType
  tsAssigned := tsAssigned
  ulDlAssigned := a.ulDlAssigned
  clchPermission := packetDataAssignmentSupportsUplink a
  cellChangeFlag := false
  carrierNum := a.carrierNum
  ext := none
  monPattern := 0
  frame18MonPattern := some 0

def packetDataRelease : MacResource :=
  MacResource.updateLenAndFillInd { dlMakeMinimalResource a.addr none false with
    chanAllocElement := some (packetDataChannelAllocation a .none .quitAndGo) } 0

/-- A pending grant of the given address on the given assigned timeslot. -/
def isPacketDataPendingGrant (addr : TetraAddress) (assignedTs : Nat) : DlSchedElem → Bool
  | .pendingGrant a _ (.packetData ts) => a == addr && ts == assignedTs
  | _ => false

def schedElemIsPacketDataPayloadForAddr (addr : TetraAddress) : DlSchedElem → Bool
  | .resource pdu sdu _ _ =>
    pdu.addr == some addr && packetDataResourceRequiresPacketDataOwner pdu sdu
  | .fragBuf fragger _ _ => fragger.resource.addr == some addr && fragger.requiresPacketDataOwner
  | _ => false

namespace BsChannelScheduler

variable (s : BsChannelScheduler)

variable (ts : Nat) (addr : TetraAddress) (alloc : Option TimeslotAllocator)

def packetDataSlotHasVoiceCircuit : Bool :=
  decide (2 ≤ ts ∧ ts ≤ 4) && (s.circuits.isActive .dl ts || s.circuits.isActive .ul ts)

def packetDataSlotHasOtherAssignment : Bool :=
  decide (2 ≤ ts ∧ ts ≤ 4) && (s.packetDataAssignments (ts - 1)).any (fun a => a.addr != addr)

def packetDataHasActiveAssignmentForOtherAddr : Bool :=
  (s.packetDataAssignments (packetDataAssignedScchTs - 1)).any (fun a =>
    a.addr != addr && !s.packetDataSlotHasVoiceCircuit packetDataAssignedScchTs &&
      packetDataAllocatorConfirmsAssignment alloc packetDataAssignedScchTs)

def packetDataSlotAvailableForAssignment : Bool :=
  !s.packetDataSlotHasVoiceCircuit ts && !packetDataAllocatorBlocksAssignment alloc ts &&
    !s.packetDataSlotHasOtherAssignment ts addr

/-- Packet data gets timeslot 2 or nothing. -/
def planPacketDataTrafficSlots (requestedCount : Nat) (addr : TetraAddress)
    (alloc : Option TimeslotAllocator) : Timeslots :=
  if requestedCount = 0 then .none
  else if s.packetDataHasActiveAssignmentForOtherAddr addr alloc then .none
  else if s.packetDataSlotAvailableForAssignment packetDataAssignedScchTs addr alloc then
    .single packetDataAssignedScchTs
  else .none

def setAssignment (slot : Nat) (a : Option PacketDataAssignment) : BsChannelScheduler :=
  { s with packetDataAssignments := Function.update s.packetDataAssignments slot a }

/-- Gives the planned timeslots to the address and takes the others from it. -/
def assignPlanned (addr : TetraAddress) (planned : Timeslots) (a : PacketDataAssignment) :
    List Nat → BsChannelScheduler → Option TimeslotAllocator →
      BsChannelScheduler × Option TimeslotAllocator
  | [], s, alloc => (s, alloc)
  | ts :: rest, s, alloc =>
    if planned.toList.getD (ts - 1) false then
      let (alloc', ok) :=
        if s.packetDataSlotAvailableForAssignment ts addr alloc then
          reservePacketDataAllocatorSlot alloc ts
        else (alloc, false)
      if ok then assignPlanned addr planned a rest (s.setAssignment (ts - 1) (some a)) alloc'
      else assignPlanned addr planned a rest (s.setAssignment (ts - 1) none)
        (releasePacketDataAllocatorSlot alloc' ts)
    else if (s.packetDataAssignments (ts - 1)).any (fun x => x.addr == addr) then
      assignPlanned addr planned a rest (s.setAssignment (ts - 1) none)
        (releasePacketDataAllocatorSlot alloc ts)
    else assignPlanned addr planned a rest s alloc

/-- Clears the assignments that meet `p`, with their allocator entry. -/
def dropAssignments (p : PacketDataAssignment → Bool) :
    List Nat → BsChannelScheduler → Option TimeslotAllocator →
      BsChannelScheduler × Option TimeslotAllocator
  | [], s, alloc => (s, alloc)
  | ts :: rest, s, alloc =>
    if (s.packetDataAssignments (ts - 1)).any p then
      dropAssignments p rest (s.setAssignment (ts - 1) none) (releasePacketDataAllocatorSlot alloc ts)
    else dropAssignments p rest s alloc

def applyPacketDataAssignmentUpdate (update : PacketDataAssignmentUpdate) (now : TdmaTime)
    (alloc : Option TimeslotAllocator) : BsChannelScheduler × Option TimeslotAllocator :=
  let expiresAt := now.addTimeslots packetDataAssignmentTtlTimeslots
  match update with
  | .replace addr tsAssigned ulDl carrier | .additional addr tsAssigned ulDl carrier =>
    let planned := s.planPacketDataTrafficSlots (packetDataRequestedTrafficSlotCount tsAssigned)
      addr alloc
    assignPlanned addr planned ⟨addr, ulDl, carrier, expiresAt⟩ [2, 3, 4] s alloc
  | .quitAndGo addr => dropAssignments (fun a => a.addr == addr) [2, 3, 4] s alloc

def expirePacketDataAssignments (now : TdmaTime) (alloc : Option TimeslotAllocator) :
    BsChannelScheduler × Option TimeslotAllocator :=
  dropAssignments (fun a => decide (a.expiresAt.diff now ≤ 0)) [2, 3, 4] s alloc

def packetDataAssignmentForTimeslot (ts : TdmaTime) (alloc : Option TimeslotAllocator) :
    Option PacketDataAssignment :=
  if ts.t ≠ packetDataAssignedScchTs ∨ ts.f = 18 then none
  else if packetDataAllocatorConfirmsAssignment alloc ts.t = false then none
  else if s.packetDataSlotHasVoiceCircuit ts.t then none
  else s.packetDataAssignments (ts.t - 1)

def packetDataPendingGrantOriginIsValid (origin : PendingGrantOrigin)
    (alloc : Option TimeslotAllocator) : Bool :=
  match origin with
  | .commonControl => true
  | .packetData assignedTs =>
    decide (assignedTs = packetDataAssignedScchTs) &&
      !s.packetDataSlotHasVoiceCircuit assignedTs &&
      packetDataAllocatorConfirmsAssignment alloc assignedTs &&
      (s.packetDataAssignments (assignedTs - 1)).any (fun a =>
        a.addr == addr && packetDataAssignmentSupportsUplink a)

/-- Maps the requested timeslots of an SNDCP channel allocation to what packet
data can have; `none` where it can have nothing now. -/
def adaptPacketDataChannelAllocationForVoicePriority (pdu : MacResource) (sdu : BitBuffer)
    (alloc : Option TimeslotAllocator) : Option MacResource :=
  match pdu.addr, pdu.chanAllocElement with
  | some addr, some c =>
    if addr.ssiType ≠ .issi ∨ sduIsSndcpPacketData sdu = false then some pdu
    else if c.ulDlAssigned = .augmented then some pdu
    else if c.allocType ≠ .replace ∧ c.allocType ≠ .additional then some pdu
    else
      let requestedCount := packetDataRequestedTrafficSlotCount c.tsAssigned
      if requestedCount = 0 then some pdu
      else
        let planned := s.planPacketDataTrafficSlots requestedCount addr alloc
        if planned = c.tsAssigned then some pdu
        else if planned.toList.any id then
          let c := { c with
            tsAssigned := planned
            clchPermission := c.ulDlAssigned == .ul || c.ulDlAssigned == .both }
          some (MacResource.updateLenAndFillInd { pdu with chanAllocElement := some c } sdu.len)
        else none
  | _, _ => some pdu

def packetDataActiveDownlinkSlotsForAddr : List Nat :=
  [packetDataAssignedScchTs].filter (fun ts =>
    (s.packetDataAssignments (ts - 1)).any (fun a =>
      a.addr == addr && packetDataAssignmentSupportsDownlink a &&
        !s.packetDataSlotHasVoiceCircuit ts))

def packetDataActiveUplinkSlotsForAddr : List Nat :=
  [packetDataAssignedScchTs].filter (fun ts =>
    (s.packetDataAssignments (ts - 1)).any (fun a =>
      a.addr == addr && packetDataAssignmentSupportsUplink a &&
        !s.packetDataSlotHasVoiceCircuit ts && packetDataAllocatorConfirmsAssignment alloc ts))

/-- Timeslot for packet data of a radio that holds one, else none. -/
def packetDataDownlinkTimeslotForResource (pdu : MacResource) (sdu : BitBuffer) :
    Option Nat × BsChannelScheduler :=
  match pdu.addr with
  | some addr =>
    if pdu.chanAllocElement.isSome ∨
        (sduIsSndcpPacketData sdu = false ∧ sduIsLlcAdvancedLink sdu = false) ∨
        addr.ssiType ≠ .issi then (none, s)
    else
      match s.packetDataActiveDownlinkSlotsForAddr addr with
      | [] => (none, s)
      | ts :: rest =>
        if sduIsFirstOriginalAlDataSegment sdu then
          (some ts, { s with packetDataDownlinkCursor := 1 })
        else
          ((ts :: rest)[s.packetDataDownlinkCursor % (ts :: rest).length]?,
            { s with packetDataDownlinkCursor := (s.packetDataDownlinkCursor + 1) % 2 ^ 64 })
  | none => (none, s)

def purgeQueues (p : DlSchedElem → Bool) : BsChannelScheduler :=
  { s with
    dltxNextSlotQueue := s.dltxNextSlotQueue.filter (fun e => !p e)
    dltxQueues := fun slot => (s.dltxQueues slot).filter (fun e => !p e) }

def purgePacketDataPendingGrantsForSlot (assignedTs : Nat) : BsChannelScheduler :=
  s.purgeQueues (isPacketDataPendingGrant addr assignedTs)

def purgePacketDataQueuedPayloadForAddr : BsChannelScheduler :=
  s.purgeQueues (schedElemIsPacketDataPayloadForAddr addr)

def queuePacketDataCommonControlRelease (a : PacketDataAssignment) : BsChannelScheduler :=
  s.pushSchedQueueBounded 0
    (.resource (packetDataRelease a) (BitBuffer.new 0) none none)

/-- The address that lost the timeslot, if one held it. -/
def clearPacketDataAssignmentForSlot :
    Option TetraAddress × BsChannelScheduler × Option TimeslotAllocator :=
  match dlSlotIndex ts with
  | none => (none, s, alloc)
  | some slot =>
    match s.packetDataAssignments slot with
    | none => (none, s, alloc)
    | some a =>
      let s := s.purgePacketDataPendingGrantsForSlot a.addr ts
      let s := s.purgePacketDataQueuedPayloadForAddr a.addr
      let s := s.setAssignment slot none
      (some a.addr, s.queuePacketDataCommonControlRelease a,
        releasePacketDataAllocatorSlot alloc ts)

def syncPacketDataAssignmentsWithAllocator : List Nat → BsChannelScheduler →
    Option TimeslotAllocator → BsChannelScheduler × Option TimeslotAllocator
  | [], s, alloc => (s, alloc)
  | ts :: rest, s, alloc =>
    if (s.packetDataAssignments (ts - 1)).isSome ∧
        (ts ≠ packetDataAssignedScchTs ∨ s.packetDataSlotHasVoiceCircuit ts ∨
          alloc.any (fun a => a.owner ts != some .packetData)) then
      match s.clearPacketDataAssignmentForSlot ts alloc with
      | (some addr, s, alloc) =>
        let events := s.packetDataAllocatorLossEvents
        syncPacketDataAssignmentsWithAllocator rest
          { s with packetDataAllocatorLossEvents :=
              if addr ∈ events then events else events ++ [addr] } alloc
      | (none, s, alloc) => syncPacketDataAssignmentsWithAllocator rest s alloc
    else syncPacketDataAssignmentsWithAllocator rest s alloc

end BsChannelScheduler
end NexusBs
