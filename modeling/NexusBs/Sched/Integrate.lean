import NexusBs.Sched.Enqueue

namespace NexusBs
open SchedQueue

structure SlotEnv where
  subscribers : SubscriberRegistry
  energySaving : EnergySaving
  alloc : Option TimeslotAllocator
  /-- The delivery reports that have been marked transmitted. -/
  transmitted : TxReporter → Bool

variable (addr : TetraAddress)

def groupTargets (subscribers : SubscriberRegistry) : List Nat :=
  if addr.ssiType ≠ .gssi then []
  else
    let targets := if addr.ssi = predefinedBroadcastGssi then subscribers.allRegisteredIssis
      else subscribers.groupMemberIssis addr.ssi
    (targets.mergeSort (fun a b => decide (a ≤ b))).dedup

def energyEconomyTargets (targets : List Nat) (es : EnergySaving) : List Nat :=
  targets.filter (fun i => (es i).any EnergySavingAssignment.isEnergyEconomy)

/-- The answer whether some member listens, kept from the first time it was asked for. -/
abbrev GroupReadinessCache := TetraAddress → Option Bool

namespace GroupReadinessCache

def default : GroupReadinessCache := fun _ => none

def anyTargetListens (cache : GroupReadinessCache) (addr : TetraAddress) (ts : TdmaTime)
    (es : EnergySaving) (subscribers : SubscriberRegistry) : Bool × GroupReadinessCache :=
  match cache addr with
  | some listens => (listens, cache)
  | none =>
    let targets := groupTargets addr subscribers
    let listens := targets.isEmpty || targets.any (fun i => es.msListensAt i ts)
    (listens, Function.update cache addr (some listens))

end GroupReadinessCache

def DlSchedElem.groupReady (ts : TdmaTime) (es : EnergySaving) : DlSchedElem → Option Bool
  | .resource _ _ _ (some g) | .fragBuf _ _ (some g) => some (g.readyForTx ts es)
  | .stealing _ _ _ (some g) => some (g.readyForTx ts es)
  | _ => none

def elemIsReadyForTx (e : DlSchedElem) (ts : TdmaTime) (es : EnergySaving)
    (subscribers : SubscriberRegistry) (cache : GroupReadinessCache) : Bool × GroupReadinessCache :=
  match e.elemAddr with
  | none => (true, cache)
  | some addr =>
    match addr.ssiType with
    | .issi => (es.msListensAt addr.ssi ts, cache)
    | .gssi =>
      match e.groupReady ts es with
      | some ready => (ready, cache)
      | none => cache.anyTargetListens addr ts es subscribers
    | _ => (true, cache)

def takeReadyGrantsAndAcks (ts : TdmaTime) (es : EnergySaving) (subscribers : SubscriberRegistry) :
    List DlSchedElem → GroupReadinessCache → List DlSchedElem × List DlSchedElem
  | [], _ => ([], [])
  | e :: rest, cache =>
    if e.isGrantOrAck then
      let (ready, cache) := elemIsReadyForTx e ts es subscribers cache
      let (taken, retained) := takeReadyGrantsAndAcks ts es subscribers rest cache
      if ready then (e :: taken, retained) else (taken, e :: retained)
    else
      let (taken, retained) := takeReadyGrantsAndAcks ts es subscribers rest cache
      (taken, e :: retained)

abbrev ResourceIndexes := TetraAddress → Option Nat

def DlSchedElem.isResourceFor : DlSchedElem → Bool
  | .resource pdu _ _ _ => pdu.addr == some addr
  | _ => false

def lastResource (q : List DlSchedElem) : Option Nat :=
  (q.reverse.findIdx? (DlSchedElem.isResourceFor addr)).map (fun i => q.length - 1 - i)

def integrateInto (e : DlSchedElem) (pdu : MacResource) : MacResource :=
  match e with
  | .grant _ g marker =>
    { pdu with slotGrantingElement := some g, usageMarker := pdu.usageMarker <|> marker }
  | _ => { pdu with randomAccessFlag := true }

/-- The header made for a grant or an acknowledgement that finds none. -/
def minimalFor (e : DlSchedElem) : MacResource :=
  match e with
  | .grant _ g marker => { dlMakeMinimalResource addr (some g) false with usageMarker := marker }
  | _ => dlMakeMinimalResource addr none true

namespace BsChannelScheduler

variable (s : BsChannelScheduler)

variable (ts : TdmaTime)

def dlTakeAllReadyGrantsAndAcks (env : SlotEnv) : List DlSchedElem × BsChannelScheduler :=
  match dlSlotIndex ts.t with
  | none => ([], s)
  | some slot =>
    let (taken, retained) := takeReadyGrantsAndAcks ts env.energySaving env.subscribers
      (s.dltxQueues slot) .default
    (taken, s.setQueue slot retained)

/-- Gives up a packet data assignment whose radio waited too long for a grant. -/
def dropAfterWaitBudget (addr : TetraAddress) (origin : PendingGrantOrigin) : BsChannelScheduler :=
  match origin with
  | .commonControl => s
  | .packetData assignedTs =>
    match s.packetDataAssignments (assignedTs - 1) with
    | none => s
    | some a =>
      if a.addr = addr then
        let s := s.purgePacketDataPendingGrantsForSlot addr assignedTs
        let s := s.purgePacketDataQueuedPayloadForAddr addr
        let s := s.setAssignment (assignedTs - 1) none
        s.queuePacketDataCommonControlRelease a
      else s

/-- Turns a taken element into the grant or the acknowledgement to integrate, or
drops it (inner `none`). -/
def resolveGrant (alloc : Option TimeslotAllocator) (e : DlSchedElem) :
    Option (Option DlSchedElem × BsChannelScheduler) :=
  match e with
  | .pendingGrant addr debt origin =>
    if s.packetDataPendingGrantOriginIsValid addr origin alloc = false then some (none, s)
    else
      (s.ulProcessPendingGrantFrom ts ts.t addr debt alloc).map (fun (r, s) =>
        match r with
        | some (g, marker, grantedSlots) =>
          let s := match debt.remainingAfterGrant grantedSlots with
            | some left => s.dlDeferPendingGrantNextFrame addr left origin
            | none => s
          (some (.grant addr g marker), s)
        | none =>
          if debt.packetDataWaitBudgetExhausted then (none, s.dropAfterWaitBudget addr origin)
          else
            (some (.grant addr ⟨debt.waitCapacityAllocation, .waitForAnotherSlotgrantMessage⟩ none),
              s.dlDeferPendingGrantNextFrame addr debt.afterWaitGrant origin))
  | e => some (some e, s)

/-- Puts a grant or an acknowledgement where the index table says; `none` where
the entry there is no MAC-RESOURCE. -/
def placeGrant (slot : Nat) (idx : ResourceIndexes) (e : DlSchedElem) :
    Option (ResourceIndexes × BsChannelScheduler) :=
  match e.elemAddr with
  | none => none
  | some addr =>
    match idx addr with
    | some index =>
      match (s.dltxQueues slot)[index]? with
      | some (.resource pdu sdu tx group) =>
        let e' := DlSchedElem.resource (integrateInto e pdu) sdu tx group
        some (idx, s.setQueue slot ((s.dltxQueues slot).set index e'))
      | _ => none
    | none =>
      let s := s.pushSchedQueueBounded slot
        (.resource (minimalFor addr e) (BitBuffer.new 0) none none)
      match lastResource addr (s.dltxQueues slot) with
      | some index => some (Function.update idx addr (some index), s)
      | none => some (idx, s)

def integrateElem (slot : Nat) (alloc : Option TimeslotAllocator)
    (st : ResourceIndexes × BsChannelScheduler) (e : DlSchedElem) :
    Option (ResourceIndexes × BsChannelScheduler) :=
  (st.2.resolveGrant ts alloc e).bind (fun (r, s) =>
    match r with
    | none => some (st.1, s)
    | some e => s.placeGrant slot st.1 e)

def dlIntegrateSchedElemsForTimeslot (env : SlotEnv) : Option BsChannelScheduler :=
  match dlSlotIndex ts.t with
  | none => some s
  | some slot =>
    if canCarryScheduledSchf ts = false then some s
    else
      let (taken, s) := s.dlTakeAllReadyGrantsAndAcks ts env
      let idx : ResourceIndexes := fun addr => lastResource addr (s.dltxQueues slot)
      (taken.foldlM (integrateElem ts slot env.alloc) (idx, s)).map Prod.snd

end BsChannelScheduler
end NexusBs
