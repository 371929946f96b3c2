import NexusBs.Sched.Integrate

namespace NexusBs
open SchedQueue DlSchedElem

def schHdCap : Nat := 124
def tchSCap : Nat := 274

def isPredefinedBroadcastGssi (addr : Option TetraAddress) : Bool :=
  addr.any (fun a => decide (a.ssi = predefinedBroadcastGssi) && a.ssiType == .gssi)

namespace GroupDeliveryState

def mapState (g : GroupDeliveryState) (f : GroupStealingState → GroupStealingState) :
    GroupDeliveryState :=
  { g with toGroupStealingState := f g.toGroupStealingState }

def new (pdu : MacResource) (sdu : BitBuffer) (targets : List Nat) (txReporter : Option TxReporter)
    (suspendT210 : Bool) : GroupDeliveryState :=
  ⟨⟨targets, [], [], txReporter, suspendT210⟩, pdu, sdu⟩

end GroupDeliveryState

def retainCurrentTargets (addr : TetraAddress) (subscribers : SubscriberRegistry)
    (es : EnergySaving) (g : GroupStealingState) : GroupStealingState :=
  g.retainTargets (energyEconomyTargets (groupTargets addr subscribers) es)

/-- A queued group repeat with the radios that are still members, or nothing when
all of them are covered. -/
def pruneGroupState (subscribers : SubscriberRegistry) (es : EnergySaving) (e : DlSchedElem) :
    Option DlSchedElem :=
  match e with
  | .resource pdu sdu tx (some g) =>
    match pdu.addr with
    | none => some e
    | some addr =>
      let g := g.mapState (retainCurrentTargets addr subscribers es)
      if g.isComplete then none else some (.resource pdu sdu tx (some g))
  | .fragBuf fragger tx (some g) =>
    match fragger.resource.addr with
    | none => some e
    | some addr =>
      let g := g.mapState (retainCurrentTargets addr subscribers es)
      if g.isComplete then none else some (.fragBuf fragger tx (some g))
  | .stealing block addr tx (some g) =>
    let g := retainCurrentTargets addr subscribers es g
    if g.isComplete then none else some (.stealing block addr tx (some g))
  | _ => some e

def groupStateForResource (addr : TetraAddress) (pdu : MacResource) (sdu : BitBuffer)
    (txReporter : Option TxReporter) (subscribers : SubscriberRegistry) (es : EnergySaving) :
    Option GroupDeliveryState :=
  if addr.ssiType ≠ .gssi then none
  else
    let targets := energyEconomyTargets (groupTargets addr subscribers) es
    if targets.isEmpty then none
    else some (.new pdu sdu targets txReporter (decide (addr.ssi ≠ predefinedBroadcastGssi)))

def markAddrSignallingActivity (addr : Option TetraAddress) (ts : TdmaTime) (es : EnergySaving) :
    EnergySaving :=
  match addr with
  | some a => if a.ssiType = .issi then es.markAwake ts a.ssi else es
  | none => es

def markGroupSignallingActivity (group : Option GroupStealingState) (ts : TdmaTime)
    (es : EnergySaving) : EnergySaving :=
  match group with
  | some g => if g.suspendT210 then g.activeBatch.foldl (fun es i => es.markAwake ts i) es else es
  | none => es

def markStealingSignallingActivity (addr : TetraAddress) (group : Option GroupStealingState)
    (ts : TdmaTime) (subscribers : SubscriberRegistry) (es : EnergySaving) : EnergySaving :=
  match group with
  | some g => markGroupSignallingActivity (some g) ts es
  | none =>
    match addr.ssiType with
    | .issi => markAddrSignallingActivity (some addr) ts es
    | .gssi =>
      if addr.ssi = predefinedBroadcastGssi then es
      else (subscribers.groupMemberIssis addr.ssi).foldl
        (fun es i => if es.msListensAt i ts then es.markAwake ts i else es) es
    | _ => es

def findReady (ts : TdmaTime) (es : EnergySaving) (subscribers : SubscriberRegistry)
    (p : DlSchedElem → Bool) : List DlSchedElem → GroupReadinessCache →
      Option Nat × GroupReadinessCache
  | [], cache => (none, cache)
  | e :: rest, cache =>
    let (ready, cache) :=
      if p e then elemIsReadyForTx e ts es subscribers cache else (false, cache)
    if ready then (some 0, cache)
    else
      let (i, cache) := findReady ts es subscribers p rest cache
      (i.map (fun i => i + 1), cache)

def prioritized : List (DlSchedElem → Bool) :=
  [isGrant, elemHasChannelAllocation,
    elemHasIntegratedGrantOrAck, isCmceSetupResource,
    isFragBuf, isResource]

def findFirstReady (ts : TdmaTime) (es : EnergySaving) (subscribers : SubscriberRegistry)
    (q : List DlSchedElem) : List (DlSchedElem → Bool) → GroupReadinessCache →
      Option Nat × GroupReadinessCache
  | [], cache => (none, cache)
  | p :: rest, cache =>
    match findReady ts es subscribers p q cache with
    | (some i, cache) => (some i, cache)
    | (none, cache) => findFirstReady ts es subscribers q rest cache

/-- The ready stealing block to send, the first of the highest priority. -/
def dlSelectReadyStealingIndex (ts : TdmaTime) (es : EnergySaving)
    (subscribers : SubscriberRegistry) : List DlSchedElem → Nat → GroupReadinessCache →
      Option (Nat × StealingSchedPriority) → Option Nat
  | [], _, _, selected => selected.map Prod.fst
  | e :: rest, index, cache, selected =>
    if e.isStealing = false then
      dlSelectReadyStealingIndex ts es subscribers rest (index + 1) cache selected
    else
      let (ready, cache) := elemIsReadyForTx e ts es subscribers cache
      let priority := e.stealingSchedPriority
      if ready && selected.all (fun (_, p) => decide (p.rank < priority.rank)) then
        if priority = .floorWithdraw then some index
        else dlSelectReadyStealingIndex ts es subscribers rest (index + 1) cache
          (some (index, priority))
      else dlSelectReadyStealingIndex ts es subscribers rest (index + 1) cache selected

/-- What the loop over the queue of a slot works on. The last field is a history
variable: the MAC-RESOURCE headers in the block, with the positions they start at. -/
structure Building where
  sched : BsChannelScheduler
  buf : Option BitBuffer
  cache : GroupReadinessCache
  energySaving : EnergySaving
  alloc : Option TimeslotAllocator
  headers : List (Nat × MacResource)

/-- A downlink traffic block: coded speech, or a received half slot. -/
inductive DlTchBlock where
  | acElp (buf : BitBuffer)
  | rawTchSHalfSlot (type5Bits : BitBuffer)

namespace BsChannelScheduler

variable (s : BsChannelScheduler)

def pruneCompletedStaleGroupStatesForSlot (slot : Nat) (subscribers : SubscriberRegistry)
    (es : EnergySaving) : BsChannelScheduler :=
  s.setQueue slot ((s.dltxQueues slot).filterMap (pruneGroupState subscribers es))

def dlTakePrioritizedSchedItem (ts : TdmaTime) (subscribers : SubscriberRegistry)
    (es : EnergySaving) (cache : GroupReadinessCache) :
    Option DlSchedElem × BsChannelScheduler × GroupReadinessCache :=
  if canCarryScheduledSchf ts = false ∨ isTimeslot ts.t = false then (none, s, cache)
  else
    let slot := ts.t - 1
    let s := s.pruneCompletedStaleGroupStatesForSlot slot subscribers es
    let q := s.dltxQueues slot
    let (i, cache) := findFirstReady ts es subscribers q prioritized cache
    match i with
    | some i => (q[i]?, s.setQueue slot (q.eraseIdx i), cache)
    | none => (none, s, cache)

end BsChannelScheduler

namespace Building

def startBatch (addr : Option TetraAddress) (ts : TdmaTime) (subscribers : SubscriberRegistry)
    (es : EnergySaving) (g : GroupDeliveryState) : GroupDeliveryState :=
  let g := match addr with
    | some addr => g.mapState (retainCurrentTargets addr subscribers es)
    | none => g
  g.mapState (fun g => g.beginBatchIfNeeded ts es)

variable (b : Building) (ts : TdmaTime) (env : SlotEnv)

def applyUpdate (update : Option PacketDataAssignmentUpdate) : Building :=
  match update with
  | some update =>
    let (sched, alloc) := b.sched.applyPacketDataAssignmentUpdate update ts b.alloc
    { b with sched := sched, alloc := alloc }
  | none => b

/-- Writes the next chunk of a transfer and queues what is left of it. -/
def sendChunk (fragger : BsFragger) (txReporter : Option TxReporter)
    (group : Option GroupDeliveryState) (update : Option PacketDataAssignmentUpdate) :
    Option Building :=
  let addr := fragger.resource.addr
  let buf := b.buf.getD (BitBuffer.new BsFragger.schFCap)
  let headerDue := !fragger.macHdrIsWritten
  (fragger.getNextChunk buf).map (fun (fragger, buf', fullyTransmitted) =>
    let headers := if headerDue && fragger.macHdrIsWritten then
        b.headers ++ [(buf.lenWritten, fragger.resource)]
      else b.headers
    let es := if buf'.lenWritten > buf.lenWritten then
        markGroupSignallingActivity (group.map (fun g => g.toGroupStealingState)) ts
          (markAddrSignallingActivity addr ts b.energySaving)
      else b.energySaving
    let b := { b with buf := some buf', energySaving := es, headers := headers }
    if fullyTransmitted then
      let group := group.map (fun g => g.mapState (fun g =>
        let g := g.markBatchCovered
        if isPredefinedBroadcastGssi addr && g.txReporter.any env.transmitted then
          { g with txReporter := none }
        else g))
      match group with
      | some g =>
        if g.isComplete = false then { b with sched := b.sched.dlEnqueueGroupRepeatNextFrame g }
        else b.applyUpdate ts update
      | none => b.applyUpdate ts update
    else { b with sched := b.sched.dlEnqueueTmaFragNextFrame fragger txReporter group })

/-- Which delivery report a transfer to a group has: none before its last batch. -/
def fraggerReporter (addr : Option TetraAddress) (txReporter : Option TxReporter)
    (group : Option GroupDeliveryState) : Option TxReporter :=
  match group with
  | some g =>
    if isPredefinedBroadcastGssi addr then g.txReporter
    else if g.isFinalBatch = false then none
    else g.txReporter
  | none => txReporter

def sendResource (pdu : MacResource) (sdu : BitBuffer) (txReporter : Option TxReporter)
    (group : Option GroupDeliveryState) : Option Building :=
  if packetDataResourceAllowedOnAllocatedSlot ts.t pdu sdu b.alloc = false then some b
  else
    match b.sched.adaptPacketDataChannelAllocationForVoicePriority pdu sdu b.alloc with
    | none => some b
    | some pdu =>
      let group := group <|> pdu.addr.bind (fun addr =>
        groupStateForResource addr pdu sdu txReporter env.subscribers b.energySaving)
      let group := group.map (startBatch pdu.addr ts env.subscribers b.energySaving)
      (BsFragger.new pdu sdu none).bind (fun fragger =>
        let fragger := { fragger with
          requiresPacketDataOwner := packetDataResourceRequiresPacketDataOwner pdu sdu }
        b.sendChunk ts env fragger (fraggerReporter pdu.addr txReporter group) group
          (packetDataAssignmentUpdateFromResource pdu sdu))

def sendFragBuf (fragger : BsFragger) (txReporter : Option TxReporter)
    (group : Option GroupDeliveryState) : Option Building :=
  if packetDataAddrAllowedOnAllocatedSlot ts.t fragger.requiresPacketDataOwner b.alloc = false then
    some b
  else
    let group := group.map (startBatch fragger.resource.addr ts env.subscribers b.energySaving)
    b.sendChunk ts env fragger txReporter group none

/-- One element of the queue; kinds that a signalling slot does not carry are dropped. -/
def send : DlSchedElem → Option Building
  | .resource pdu sdu tx group => b.sendResource ts env pdu sdu tx group
  | .fragBuf fragger tx group => b.sendFragBuf ts env fragger tx group
  | _ => some b

def loop (ts : TdmaTime) (env : SlotEnv) : Nat → Building → Option Building
  | 0, b => some b
  | fuel + 1, b =>
    match b.sched.dlTakePrioritizedSchedItem ts env.subscribers b.energySaving b.cache with
    | (none, sched, cache) => some { b with sched := sched, cache := cache }
    | (some e, sched, cache) =>
      ({ b with sched := sched, cache := cache }.send ts env e).bind (loop ts env fuel)

end Building

namespace BsChannelScheduler

variable (s : BsChannelScheduler)

/-- What could not be sent goes in front of the queue of this timeslot. -/
def mergeNextSlotQueue (slot : Nat) : BsChannelScheduler :=
  if s.dltxNextSlotQueue.isEmpty then s
  else
    (s.setNextSlotQueue []).setQueue slot
      (enforceSchedQueueCap maxDlschedElemsPerTimeslot (s.dltxNextSlotQueue ++ s.dltxQueues slot))

def startBuilding (env : SlotEnv) : Building := ⟨s, none, .default, env.energySaving, env.alloc, []⟩

/-- The block, the scheduler, what the radios and the allocator are now, and the
headers in the block. -/
def dlBuildBlockFromSignallingSchedule (ts : TdmaTime) (env : SlotEnv) :
    Option (Option BitBuffer × BsChannelScheduler × EnergySaving × Option TimeslotAllocator ×
      List (Nat × MacResource)) :=
  let slot := ts.t - 1
  (Building.loop ts env (s.dltxQueues slot).length (s.startBuilding env)).map (fun b =>
    (b.buf, b.sched.mergeNextSlotQueue slot, b.energySaving, b.alloc, b.headers))

/-- Speech is cut to the bits of a speech frame; a half slot is only kept in its second place. -/
def tchBlockOf (block : CircuitTxBlock) : Option (Option DlTchBlock) :=
  match block with
  | .acElp _ _ _ block =>
    let buf := BitBuffer.fromBitarr (block.flatMap (Lib.toBits 8))
    (buf.setRawEnd (buf.rawStart + tchSCap)).map (fun b => some (.acElp b))
  | .rawTchSHalfSlot _ _ _ blockNum type5Bits =>
    if blockNum ≠ .block2 ∨ type5Bits.length ≠ 216 then some none
    else some (some (.rawTchSHalfSlot (BitBuffer.fromBitarr type5Bits)))

def stealToGroup (ts : TdmaTime) (env : SlotEnv) (block : BitBuffer) (addr : TetraAddress)
    (txReporter : Option TxReporter) (group : Option GroupStealingState) :
    BsChannelScheduler × EnergySaving :=
  let es := env.energySaving
  let targets := energyEconomyTargets (groupTargets addr env.subscribers) es
  if targets.isEmpty then (s, markStealingSignallingActivity addr none ts env.subscribers es)
  else
    let g := group.getD ⟨targets, [], [], txReporter, decide (addr.ssi ≠ predefinedBroadcastGssi)⟩
    let g := if g.targets.isEmpty then g else retainCurrentTargets addr env.subscribers es g
    if g.targets.isEmpty then
      (s, markStealingSignallingActivity addr none ts env.subscribers es)
    else
      let g := g.beginBatchIfNeeded ts es
      let es := markStealingSignallingActivity addr (some g) ts env.subscribers es
      let g := g.markBatchCovered
      let g := if isPredefinedBroadcastGssi (some addr) then { g with txReporter := none } else g
      (if g.isComplete then s else s.dlRequeueGroupStealing ts.t block addr g, es)

def dlBuildTrafficBlock (ts : TdmaTime) (env : SlotEnv) :
    Option (Option DlTchBlock × Option BitBuffer × BsChannelScheduler × EnergySaving) :=
  let (block, circuits) := s.circuits.takeBlock ts.t
  let s := { s with circuits := circuits }
  ((block.map tchBlockOf).getD (some none)).map (fun tch =>
    let slot := ts.t - 1
    let s := if isTimeslot ts.t then
        s.pruneCompletedStaleGroupStatesForSlot slot env.subscribers env.energySaving
      else s
    let q := s.dltxQueues slot
    match (dlSelectReadyStealingIndex ts env.energySaving env.subscribers q 0 .default none).bind
        (fun i => (q[i]?).map (fun e => (i, e))) with
    | some (i, .stealing block addr tx group) =>
      let s := s.setQueue slot (q.eraseIdx i)
      if addr.ssiType = .gssi then
        let (s, es) := s.stealToGroup ts env block addr tx group
        (tch, some block, s, es)
      else
        (tch, some block, s,
          markStealingSignallingActivity addr none ts env.subscribers env.energySaving)
    | _ => (tch, none, s, env.energySaving))

end BsChannelScheduler
end NexusBs
