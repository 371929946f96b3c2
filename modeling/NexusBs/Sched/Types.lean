import NexusBs.Pdus.Downlink
import NexusBs.Core.TdmaTime

namespace NexusBs

inductive ReservationRequirement where
  | req1Subslot | req1Slot | req2Slots | req3Slots | req4Slots | req5Slots | req6Slots | req8Slots
  | req10Slots | req13Slots | req17Slots | req24Slots | req34Slots | req51Slots | req68Slots
  | reqOver68
deriving DecidableEq

namespace ReservationRequirement

def fromReqSlotcount (req : Nat) : ReservationRequirement :=
  if req = 0 then req1Subslot
  else if req = 1 then req1Slot
  else if req = 2 then req2Slots
  else if req = 3 then req3Slots
  else if req = 4 then req4Slots
  else if req = 5 then req5Slots
  else if req = 6 then req6Slots
  else if req ≤ 8 then req8Slots
  else if req ≤ 10 then req10Slots
  else if req ≤ 13 then req13Slots
  else if req ≤ 17 then req17Slots
  else if req ≤ 24 then req24Slots
  else if req ≤ 34 then req34Slots
  else if req ≤ 51 then req51Slots
  else if req ≤ 68 then req68Slots
  else reqOver68

def toReqSlotcount : ReservationRequirement → Nat
  | req1Subslot => 0
  | req1Slot => 1
  | req2Slots => 2
  | req3Slots => 3
  | req4Slots => 4
  | req5Slots => 5
  | req6Slots => 6
  | req8Slots => 8
  | req10Slots => 10
  | req13Slots => 13
  | req17Slots => 17
  | req24Slots => 24
  | req34Slots => 34
  | req51Slots => 51
  | req68Slots => 68
  | reqOver68 => 68

end ReservationRequirement

/-- One uplink slot of the reservation ring: who may send in either subslot. -/
structure TimeslotSchedule where
  (ul1 ul2 usageMarker : Option Nat)

def emptySchedElem : TimeslotSchedule := ⟨none, none, none⟩

structure PacketDataAssignment where
  addr : TetraAddress
  ulDlAssigned : UlDlAssignment
  carrierNum : Nat
  expiresAt : TdmaTime

inductive PacketDataAssignmentUpdate where
  | replace (addr : TetraAddress) (tsAssigned : Timeslots) (ulDlAssigned : UlDlAssignment)
      (carrierNum : Nat)
  | additional (addr : TetraAddress) (tsAssigned : Timeslots) (ulDlAssigned : UlDlAssignment)
      (carrierNum : Nat)
  | quitAndGo (addr : TetraAddress)

structure PendingGrantDebt where
  resReq : ReservationRequirement
  (remainingSlots waitGrants : Nat)
deriving DecidableEq

inductive PendingGrantOrigin where
  | commonControl
  | packetData (assignedTs : Nat)
deriving DecidableEq

namespace PendingGrantDebt

def maxReservedAccessGrantChunkSlots : Nat := 4
def maxPacketDataPendingGrantWaitGrants : Nat := 24

def new (resReq : ReservationRequirement) : PendingGrantDebt :=
  ⟨resReq, if resReq = .req1Subslot then 1 else resReq.toReqSlotcount, 0⟩

variable (d : PendingGrantDebt)

def isHalfslot : Bool := d.resReq == .req1Subslot

def nextChunkSlots : Nat :=
  if d.isHalfslot then 1 else min d.remainingSlots maxReservedAccessGrantChunkSlots

def remainingAfterGrant (grantedSlots : Nat) : Option PendingGrantDebt :=
  if d.isHalfslot ∨ grantedSlots ≥ d.remainingSlots then none
  else
    let remainingSlots := d.remainingSlots - grantedSlots
    some ⟨.fromReqSlotcount remainingSlots, remainingSlots, 0⟩

def waitCapacityAllocation : BasicSlotgrantCapAlloc :=
  if d.isHalfslot then .firstSubslotGranted else .fromReqSlotcount d.remainingSlots

def coalesceMax (other : PendingGrantDebt) : PendingGrantDebt :=
  { (if other.remainingSlots > d.remainingSlots then other else d) with
    waitGrants := max d.waitGrants other.waitGrants }

/-- The counter is a byte and saturates. -/
def afterWaitGrant : PendingGrantDebt :=
  { d with waitGrants := min (d.waitGrants + 1) 255 }

def packetDataWaitBudgetExhausted : Bool :=
  decide (d.waitGrants ≥ maxPacketDataPendingGrantWaitGrants)

end PendingGrantDebt

inductive TimeslotOwner where
  | brew | cmce | packetData
deriving DecidableEq

structure TimeslotAllocator where
  (ts2 ts3 ts4 : Option TimeslotOwner)

namespace TimeslotAllocator

variable (a : TimeslotAllocator)

def owner : Nat → Option TimeslotOwner
  | 2 => a.ts2
  | 3 => a.ts3
  | 4 => a.ts4
  | _ => none

def set (ts : Nat) (o : Option TimeslotOwner) : TimeslotAllocator :=
  match ts with
  | 2 => { a with ts2 := o }
  | 3 => { a with ts3 := o }
  | 4 => { a with ts4 := o }
  | _ => a

/-- The flag tells whether the timeslot was reserved. -/
def reserve (o : TimeslotOwner) (ts : Nat) : TimeslotAllocator × Bool :=
  if 2 ≤ ts ∧ ts ≤ 4 ∧ a.owner ts = none then (a.set ts (some o), true) else (a, false)

def release (o : TimeslotOwner) (ts : Nat) : TimeslotAllocator :=
  if a.owner ts = some o then a.set ts none else a

end TimeslotAllocator

/-- Energy economy of one radio: mode 0 always listens, modes 1 to 7 sleep. -/
structure EnergySavingAssignment where
  mode : Nat
  (frame multiframe : Option Nat)
  awakeUntil : Option TdmaTime
  suspensionCount : Nat

namespace EnergySavingAssignment

def sleepFrames : Nat → Option Nat
  | 1 => some 1
  | 2 => some 2
  | 3 => some 5
  | 4 => some 8
  | 5 => some 17
  | 6 => some 71
  | 7 => some 359
  | _ => none

def receiveCycleUsesFrame (mode frame multiframe targetFrame : Nat) : Bool :=
  match sleepFrames mode with
  | none => false
  | some sleep =>
    if (1 ≤ frame ∧ frame ≤ 18) ∧ (1 ≤ multiframe ∧ multiframe ≤ 60) ∧
        (1 ≤ targetFrame ∧ targetFrame ≤ 18) then
      -- one probe per receive frame of the 18 * 60 frame cycle
      (List.range ((18 * 60 + sleep) / (sleep + 1))).any (fun k =>
        ((multiframe - 1) * 18 + (frame - 1) + k * (sleep + 1)) % (18 * 60) % 18 + 1 == targetFrame)
    else false

def isEnergyEconomy (e : EnergySavingAssignment) : Bool :=
  match sleepFrames e.mode, e.frame, e.multiframe with
  | some _, some frame, some multiframe =>
    decide (1 ≤ frame ∧ frame ≤ 17) && decide (1 ≤ multiframe ∧ multiframe ≤ 60) &&
      !receiveCycleUsesFrame e.mode frame multiframe 18
  | _, _, _ => false

def listensAt (e : EnergySavingAssignment) (ts : TdmaTime) : Bool :=
  if e.isEnergyEconomy = false then true
  else if e.suspensionCount > 0 then true
  else if e.awakeUntil.any (fun u => decide (ts.diff u ≤ 0)) then true
  else
    match sleepFrames e.mode, e.frame, e.multiframe with
    | some sleep, some frame, some multiframe =>
      let startIndex : Int := ((multiframe : Int) - 1) * 18 + ((frame : Int) - 1)
      let currentIndex : Int := ((ts.m : Int) - 1) * 18 + ((ts.f : Int) - 1)
      (currentIndex - startIndex) % (18 * 60) % ((sleep : Int) + 1) == 0
    | _, _, _ => true

def markAwakeFromSignallingActivity (e : EnergySavingAssignment) (activityTime : TdmaTime) :
    EnergySavingAssignment :=
  if e.isEnergyEconomy then
    let t210Until := activityTime.addTimeslots (18 * 4)
    { e with awakeUntil := some (match e.awakeUntil with
      | some existing => if existing.diff t210Until ≥ 0 then existing else t210Until
      | none => t210Until) }
  else e

end EnergySavingAssignment

structure SubscriberRegistry where
  allRegisteredIssis : List Nat
  groupMemberIssis : Nat → List Nat

/-- Energy economy by radio; a radio without an entry always listens. -/
abbrev EnergySaving := Nat → Option EnergySavingAssignment

namespace EnergySaving

def msListensAt (es : EnergySaving) (issi : Nat) (ts : TdmaTime) : Bool :=
  ((es issi).map (fun a => a.listensAt ts)).getD true

def markAwake (es : EnergySaving) (ts : TdmaTime) (issi : Nat) : EnergySaving :=
  fun i => if i = issi then (es i).map (fun a => a.markAwakeFromSignallingActivity ts) else es i

end EnergySaving

/-- Handle of a delivery report; clones of one report share it. -/
abbrev TxReporter := Nat

end NexusBs
