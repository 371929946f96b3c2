import NexusBs.Cc.Types
import Mathlib.Data.Finset.Basic

namespace NexusBs.Cc
open Lib

inductive TimeslotOwner where
  | brew | cmce | packetData
deriving DecidableEq

structure TimeslotAllocator where
  owners : Nat → Option TimeslotOwner

namespace TimeslotAllocator

def traffic : List Nat := [2, 3, 4]

def empty : TimeslotAllocator := ⟨fun _ => none⟩

variable (a : TimeslotAllocator)

variable (owner : TimeslotOwner) (ts : Nat)

def set (owner : Option TimeslotOwner) : TimeslotAllocator := ⟨Function.update a.owners ts owner⟩

def canAllocatePreempting (needed : Nat) (preemptibleOwner : TimeslotOwner) : Bool :=
  needed ≤ 3 &&
    needed ≤ (traffic.filter (fun ts =>
      a.owners ts == none || a.owners ts == some preemptibleOwner)).length

/-- The first free slot, else the first one of the owner that may be pre-empted. -/
def allocateAnyPreemptingExcluding (preemptibleOwner : TimeslotOwner) (excluded : List Nat) :
    Option (Nat × TimeslotAllocator) :=
  let usable := traffic.filter (fun ts => !excluded.contains ts)
  match usable.find? (fun ts => a.owners ts == none) with
  | some ts => some (ts, a.set ts owner)
  | none =>
    match usable.find? (fun ts => a.owners ts == some preemptibleOwner) with
    | some ts => some (ts, a.set ts owner)
    | none => none

def reserve : TimeslotAllocator :=
  if traffic.contains ts && a.owners ts == none then a.set ts owner else a

def release : TimeslotAllocator :=
  if traffic.contains ts && a.owners ts == some owner then a.set ts none else a

end TimeslotAllocator

structure CmceCircuit where
  tsCreated : TdmaTime
  direction : Direction
  (ts callId usage : Nat)
  circuitMode : CircuitModeType
  commType : CommunicationType
  simplexDuplex : Bool
  speechService : Option Nat
  eteeEncrypted : Bool

inductive CircuitMgrCmd where
  | sendDSetup (callId usage ts : Nat)
  | sendClose (callId : Nat) (circuit : CmceCircuit)

/-- Circuits by timeslot: those with a downlink, and those of the uplink alone. -/
structure CircuitMgr where
  dltime : TdmaTime
  dl : Nat → Option CmceCircuit
  ulOnly : Nat → Option CmceCircuit
  (nextCallIdentifier nextUsageNumber : Nat)

def maxCallIdentifier : Nat := 0x3FFF
def circuitExpiryTimeslots : Int := 6 * 60 * 18 * 4
def lateEntryIntervalTimeslots : Int := 5 * 18 * 4

namespace CircuitMgr

def new : CircuitMgr := ⟨.default, fun _ => none, fun _ => none, 4, 4⟩

def slots : List Nat := [1, 2, 3, 4]

variable (m : CircuitMgr) (dir : Direction)

def isActive (ts : Nat) : Bool × Bool :=
  match m.dl ts with
  | some circuit =>
    if circuit.direction = .both then (true, true) else (true, (m.ulOnly ts).isSome)
  | none => (false, (m.ulOnly ts).isSome)

variable (circuit : CmceCircuit) (commType : CommunicationType) (simplexDuplex : Bool)
  (callId : Nat)

def normalCallIdentifier : Nat :=
  if 1 ≤ callId ∧ callId ≤ maxCallIdentifier then callId else 1

def callIdentifierAfter : Nat :=
  if maxCallIdentifier ≤ callId then 1 else callId + 1

def getNextCallId : Nat × CircuitMgr :=
  let callId := normalCallIdentifier m.nextCallIdentifier
  (callId, { m with nextCallIdentifier := callIdentifierAfter callId })

/-- The first identifier of at most `tries` in turn that is not occupied. -/
def getNextCallIdAvoiding (occupied : Nat → Bool) : Nat → CircuitMgr → Option Nat × CircuitMgr
  | 0, m => (none, m)
  | tries + 1, m =>
    let r := m.getNextCallId
    if occupied r.1 then getNextCallIdAvoiding occupied tries r.2 else (some r.1, r.2)

def getNextUsageNumber : Nat × CircuitMgr :=
  (m.nextUsageNumber,
    { m with
      nextUsageNumber := if m.nextUsageNumber + 1 > 63 then 4 else m.nextUsageNumber + 1 })

/-- Register a circuit, unless a direction that it needs is in use. -/
def insertCircuit : Option CircuitMgr :=
  let active := m.isActive circuit.ts
  if circuit.direction.includesDl && active.1 then none
  else if circuit.direction.includesUl && active.2 then none
  else
    match circuit.direction with
    | .ul => some { m with ulOnly := Function.update m.ulOnly circuit.ts circuit }
    | _ => some { m with dl := Function.update m.dl circuit.ts circuit }

def closeCircuit (ts : Nat) : Option CmceCircuit × CircuitMgr :=
  match dir with
  | .ul => (m.ulOnly ts, { m with ulOnly := Function.update m.ulOnly ts none })
  | _ => (m.dl ts, { m with dl := Function.update m.dl ts none })

def circuitFor (usage ts : Nat) : CmceCircuit where
  tsCreated := m.dltime
  direction := dir
  ts := ts
  callId := callId
  usage := usage
  circuitMode := .tchS
  commType := commType
  simplexDuplex := simplexDuplex
  speechService := some 0
  eteeEncrypted := false

def getFreeTs : Option Nat :=
  [2, 3, 4].find? (fun ts =>
    match dir, m.isActive ts with
    | .dl, (false, _) | .ul, (false, false) | .both, (false, false) => true
    | .ul, (true, false) => (m.dl ts).any (·.direction ≠ .both)
    | _, _ => false)

def allocateCircuitDuplex : Option CmceCircuit × CircuitMgr :=
  match m.getFreeTs dir with
  | none => (none, m)
  | some ts =>
    let r := m.getNextCallId
    let u := r.2.getNextUsageNumber
    let circuit := u.2.circuitFor dir commType simplexDuplex r.1 u.1 ts
    match u.2.insertCircuit circuit with
    | none => (none, u.2)
    | some m => (some circuit, m)

/-- Try traffic timeslots until one has no circuit; each slot that fails is given back and not
tried again, so that four rounds are enough. -/
def allocateOnFreeSlot (owner : TimeslotOwner) (mk : Nat → CmceCircuit) :
    Nat → List Nat → CircuitMgr → TimeslotAllocator →
      Option CmceCircuit × CircuitMgr × TimeslotAllocator
  | 0, _, m, alloc => (none, m, alloc)
  | rounds + 1, excluded, m, alloc =>
    match alloc.allocateAnyPreemptingExcluding owner .packetData excluded with
    | none => (none, m, alloc)
    | some (ts, alloc) =>
      match m.insertCircuit (mk ts) with
      | some m => (some (mk ts), m, alloc)
      | none => allocateOnFreeSlot owner mk rounds (excluded ++ [ts]) m (alloc.release owner ts)

def allocateCircuitForCallWithAllocator (dir : Direction) (commType : CommunicationType)
    (simplexDuplex : Bool) (alloc : TimeslotAllocator) (owner : TimeslotOwner) :
    Option CmceCircuit × CircuitMgr × TimeslotAllocator :=
  let r := m.getNextUsageNumber
  allocateOnFreeSlot owner (r.2.circuitFor dir commType simplexDuplex callId r.1) 4 [] r.2 alloc

def allocateCircuitWithAllocatorDuplexAvoiding (alloc : TimeslotAllocator) (owner : TimeslotOwner)
    (occupiedCallIds : Nat → Bool) : Option CmceCircuit × CircuitMgr × TimeslotAllocator :=
  match getNextCallIdAvoiding occupiedCallIds maxCallIdentifier m with
  | (none, m) => (none, m, alloc)
  | (some callId, m) =>
    m.allocateCircuitForCallWithAllocator callId dir commType simplexDuplex alloc owner

def activeCallIds : List Nat :=
  (slots.filterMap m.dl ++ slots.filterMap m.ulOnly).map CmceCircuit.callId

/-- Circuits of simplex calls that have been open for longer than six minutes. -/
def expired : Bool :=
  !circuit.simplexDuplex && circuit.tsCreated.age m.dltime > circuitExpiryTimeslots

def closeExpiredCircuits : List CircuitMgrCmd × CircuitMgr :=
  ((slots.filterMap m.dl ++ slots.filterMap m.ulOnly).filter m.expired).foldl
    (fun r circuit =>
      match r.2.closeCircuit circuit.direction circuit.ts with
      | (some closed, m) => (r.1 ++ [.sendClose circuit.callId closed], m)
      | (none, m) => (r.1, m))
    ([], m)

/-- One back-up of the set-up in the frame after the first one, then one every five multiframes. -/
def wantsDSetup (dltime : TdmaTime) : Bool :=
  let age := circuit.tsCreated.age dltime
  1 ≤ age && age ≤ 4 || (age.tdiv 4).tmod (lateEntryIntervalTimeslots.tdiv 4) == 0

def tickStart (dltime : TdmaTime) : List CircuitMgrCmd × CircuitMgr :=
  let m := { m with dltime := dltime }
  if dltime.t = 1 then
    let r := m.closeExpiredCircuits
    (r.1 ++ ((slots.filterMap r.2.dl).filter (wantsDSetup · dltime)).map
      (fun circuit => .sendDSetup circuit.callId circuit.usage circuit.ts), r.2)
  else ([], m)

end CircuitMgr

/-- The registered radios of the cell and the groups that each is attached to. -/
abbrev SubscriberRegistry := Table (Finset Nat)

namespace SubscriberRegistry

variable (r : SubscriberRegistry) (issi gssi : Nat)

def isRegistered : Bool := decide (issi ∈ r)

def register : SubscriberRegistry := r.insert issi ∅

def deregister : SubscriberRegistry := r.erase issi

def affiliate : SubscriberRegistry := Table.modify r issi (insert gssi)

def deaffiliate : SubscriberRegistry := Table.modify r issi (Finset.erase · gssi)

def containsGroupMember (issi : Nat) : Bool :=
  (r.lookup issi).any (fun groups => decide (gssi ∈ groups))

def groupMemberIssis : List Nat := r.keys.filter (containsGroupMember r gssi)

def hasGroupMembers : Bool := r.keys.any (containsGroupMember r gssi)

end SubscriberRegistry

/-- Groups by radio and listeners by group, for the radios of the cell and for those behind the
network. -/
structure Subscribers where
  subscriberGroups : Table (Finset Nat)
  groupListeners : Table Nat
  externalSubscriberGroups : Table (Finset Nat)
  externalGroupListeners : Table Nat

namespace Subscribers

def new : Subscribers := ⟨∅, ∅, ∅, ∅⟩

def incListener (t : Table Nat) (gssi : Nat) : Table Nat :=
  t.insert gssi ((t.lookup gssi).getD 0 + 1)

def decListener (t : Table Nat) (gssi : Nat) : Table Nat :=
  match t.lookup gssi with
  | none => t
  | some n => if n ≤ 1 then t.erase gssi else t.insert gssi (n - 1)

end Subscribers
end NexusBs.Cc
