import NexusBs.Sched.Media

namespace NexusBs

/-- The directions that an open or a close names. -/
inductive Directions where
  | none | dl | ul | both

def Directions.toList : Directions → List Direction
  | none => []
  | dl => [.dl]
  | ul => [.ul]
  | both => [.dl, .ul]

/-- Speech as the TMD-SAP carries it: a stolen burst's other half, or the bits of a full slot. -/
inductive TmdCircuitData where
  | rawTchS (blockNum : PhyBlockNum) (type5Bits : List Bool)
  | acElp (bits : List Nat)

/-- Speech of the uplink that is good enough to be passed on. -/
inductive AcceptedUlMedia where
  | rawTchSHalfSlot (blockNum : PhyBlockNum) (type5Bits : List Bool)
  | acElp (originalBits packedBits : List Nat)

inductive PendingPrivateUlMediaKind where
  | rawTchSHalfSlot (blockNum : PhyBlockNum) (type5Bits : List Bool)
  | acElp (packedBits : List Nat)

/-- Speech that waits for a floor grant or for the next slot; where it arrived is history. -/
structure PendingPrivateUlMedia where
  (ulTs dlTargetTs : Nat)
  receivedAt : TdmaTime
  speakerAddr : Option TetraAddress
  peerTs : Option Nat
  deferredDuringHangtime : Bool
  media : PendingPrivateUlMediaKind
  arrival : Arrival

namespace PendingPrivateUlMedia

def involves (ts : Nat) (media : PendingPrivateUlMedia) : Bool :=
  media.ulTs == ts || media.dlTargetTs == ts

def preserved (sourceUlTs : Nat) (sourceAddr : TetraAddress) (media : PendingPrivateUlMedia) : Bool :=
  media.ulTs == sourceUlTs && media.speakerAddr.all (fun a => a == sourceAddr)

end PendingPrivateUlMedia

inductive UmacMsg where
  | tmdCircuitDataIndToCmce (ts : Nat) (data : TmdCircuitData)
  | tmdCircuitDataIndToBrew (ts : Nat) (data : TmdCircuitData)
  | ulInactivityTimeout (ts : Nat)

structure UmacBsConfig where
  brew : Bool
  ulInactivitySecs : Nat

/-- What no operation reads: how many events there were, when a downlink circuit of a timeslot was
opened and when its last uplink circuit was closed, which timeslots have had a half slot of speech
since the last tick, and what was taken for the downlink. -/
structure UmacHistory where
  clock : Nat
  dlOpenedAt : Nat → Nat
  ulClosedAt : Nat → Nat
  halfSlots : Nat → Bool
  onAir : List (Nat × CircuitTxBlock)

/-- The part of the upper MAC that circuits and speech go through; arrays are indexed by timeslot
number less one. -/
structure UmacBs where
  config : UmacBsConfig
  dltime : TdmaTime
  channelScheduler : BsChannelScheduler
  lastUlVoice : Nat → Option TdmaTime
  pendingPrivateUlMedia : Nat → List PendingPrivateUlMedia
  currentUlSpeaker : Nat → Option TetraAddress
  queue : List UmacMsg
  history : UmacHistory

def maxPendingPrivateUlMediaPerTs : Nat := 4
def pendingPrivateUlMediaTtlTimeslots : Int := 18

def packedTchSBytes : Nat := (tchSCap + 7) / 8

/-- Full-slot speech is packed already, or comes with a bit in each byte. -/
def packUlAcelpBits (bits : List Nat) : Option (List Nat) :=
  if bits.length = packedTchSBytes then some bits
  else if bits.length < tchSCap then none
  else
    some ((List.range packedTchSBytes).map (fun chunk =>
      ((List.range 8).map (fun bit =>
        if chunk * 8 + bit < tchSCap then bits.getD (chunk * 8 + bit) 0 % 2 * 2 ^ (7 - bit)
        else 0)).sum))

def acceptUlMedia : TmdCircuitData → Option AcceptedUlMedia
  | .rawTchS blockNum type5Bits =>
    if blockNum = .block2 ∧ type5Bits.length = 216 then some (.rawTchSHalfSlot blockNum type5Bits)
    else none
  | .acElp bits => (packUlAcelpBits bits).map (fun packed => .acElp bits packed)

def AcceptedUlMedia.kind : AcceptedUlMedia → PendingPrivateUlMediaKind
  | .rawTchSHalfSlot blockNum type5Bits => .rawTchSHalfSlot blockNum type5Bits
  | .acElp _ packed => .acElp packed

def AcceptedUlMedia.data : AcceptedUlMedia → TmdCircuitData
  | .rawTchSHalfSlot blockNum type5Bits => .rawTchS blockNum type5Bits
  | .acElp bits _ => .acElp bits

def PendingPrivateUlMediaKind.block (sourceUlTs : Option Nat) (speakerAddr : Option TetraAddress)
    (arrival : Option Arrival) : PendingPrivateUlMediaKind → CircuitTxBlock
  | .rawTchSHalfSlot blockNum type5Bits =>
    .rawTchSHalfSlot sourceUlTs speakerAddr arrival blockNum type5Bits
  | .acElp packed => .acElp sourceUlTs speakerAddr arrival packed

section Block

variable (sourceUlTs : Option Nat) (speakerAddr : Option TetraAddress) (arrival : Option Arrival)
  (kind : PendingPrivateUlMediaKind)

@[simp] theorem block_sourceUlTs :
    (kind.block sourceUlTs speakerAddr arrival).sourceUlTs = sourceUlTs := by
  cases kind <;> rfl

@[simp] theorem block_speakerAddr :
    (kind.block sourceUlTs speakerAddr arrival).speakerAddr = speakerAddr := by
  cases kind <;> rfl

@[simp] theorem block_arrival : (kind.block sourceUlTs speakerAddr arrival).arrival = arrival := by
  cases kind <;> rfl

end Block

namespace BsChannelScheduler

variable (s : BsChannelScheduler)

variable (ts : Nat)

def isHangtime : Bool := isTimeslot ts && s.hangtime (ts - 1)

def ulCircuitIsPrivateParticipantScoped : Bool :=
  (s.circuits.circuit .ul ts).any Circuit.isPrimaryIssiScoped

def ulCircuitPeerTs : Option Nat := (s.circuits.circuit .ul ts).bind Circuit.peerTs

def dlCircuitPeerTs : Option Nat := (s.circuits.circuit .dl ts).bind Circuit.peerTs

def ulCircuitDlMediaSource : CircuitDlMediaSource :=
  ((s.circuits.circuit .ul ts).map Circuit.dlMediaSource).getD .localLoopback

def circuitIsActiveForAddr (dir : Direction) (ts : Nat) (addr : TetraAddress) : Bool :=
  (s.circuits.circuit dir ts).any (fun c => c.isActiveForAddr addr)

end BsChannelScheduler

namespace UmacBs

variable (s : UmacBs)

/-! Who speaks -/

variable (ts : Nat)

def setCurrentUlSpeaker (addr : TetraAddress) : UmacBs :=
  if isTimeslot ts ∧ addr.ssiType = .issi then
    { s with currentUlSpeaker := Function.update s.currentUlSpeaker (ts - 1) (some addr) }
  else s

def clearCurrentUlSpeaker : UmacBs :=
  if isTimeslot ts then
    { s with currentUlSpeaker := Function.update s.currentUlSpeaker (ts - 1) none }
  else s

def currentUlSignalAddr : Option TetraAddress :=
  if isTimeslot ts then s.currentUlSpeaker (ts - 1) else none

/-- Private simplex on one shared channel has no speaker before its floor is granted. -/
def initialUlSpeakerForOpenCircuit (circuit : Circuit) : Option TetraAddress :=
  if circuit.peerTs.isNone && circuit.isPrimaryIssiScoped &&
      circuit.activeSecondaryAddrs.any (fun a => a.ssiType == .issi) then none
  else
    match circuit.activeAddr with
    | some addr =>
      if addr.ssiType = .issi then some addr
      else if addr.ssiType = .gssi then
        circuit.activeSecondaryAddrs.find? (fun a => a.ssiType == .issi)
      else none
    | none => none

def privateSimplexWaitingForFloorGrant : Bool :=
  s.channelScheduler.ulCircuitIsPrivateParticipantScoped ts &&
    (s.channelScheduler.ulCircuitPeerTs ts).isNone && (s.currentUlSignalAddr ts).isNone

/-- On a shared private channel the first speech may come before its grant: it has no tag. -/
def ulMediaSpeakerTag : Option TetraAddress :=
  if isTimeslot ts then
    if s.channelScheduler.ulCircuitIsPrivateParticipantScoped ts &&
        (s.channelScheduler.ulCircuitPeerTs ts).isNone then none
    else s.currentUlSignalAddr ts
  else none

/-! Speech that waits -/

def canDeferUlMediaDuringHangtime : Bool :=
  s.channelScheduler.circuits.isActive .ul ts &&
    (s.channelScheduler.ulCircuitDlMediaSource ts == .localLoopback) &&
    s.channelScheduler.circuits.isActive .dl ((s.channelScheduler.ulCircuitPeerTs ts).getD ts)

def retainPending (keep : PendingPrivateUlMedia → Bool) : UmacBs :=
  { s with pendingPrivateUlMedia := fun idx => (s.pendingPrivateUlMedia idx).filter keep }

def discardPendingPrivateUlMediaInvolving : UmacBs :=
  if isTimeslot ts then s.retainPending (fun m => !m.involves ts) else s

def discardPendingPrivateUlMediaExceptSource (affectedTs sourceUlTs : Nat)
    (sourceAddr : TetraAddress) : UmacBs :=
  if isTimeslot affectedTs then
    s.retainPending (fun m => !m.involves affectedTs ||
      m.preserved sourceUlTs sourceAddr)
  else s

def discardPendingGroupUlMediaExceptHangtimeSource (affectedTs sourceUlTs : Nat)
    (sourceAddr : TetraAddress) : UmacBs :=
  if isTimeslot affectedTs then
    s.retainPending (fun m => !m.involves affectedTs ||
      (m.deferredDuringHangtime && m.preserved sourceUlTs sourceAddr))
  else s

/-- How a block that arrives now on a timeslot is remembered. -/
def arrivalOn : Arrival := ⟨s.history.clock, ts, s.currentUlSignalAddr ts⟩

/-- A full queue of waiting speech gives up its oldest block. -/
def deferPrivateUlMedia (ulTs dlTargetTs : Nat) (media : PendingPrivateUlMediaKind) : UmacBs :=
  if isTimeslot ulTs then
    let queue := s.pendingPrivateUlMedia (ulTs - 1)
    let queue := if queue.length ≥ maxPendingPrivateUlMediaPerTs then queue.drop 1 else queue
    let item : PendingPrivateUlMedia :=
      { ulTs := ulTs
        dlTargetTs := dlTargetTs
        receivedAt := s.dltime
        speakerAddr := s.ulMediaSpeakerTag ulTs
        peerTs := s.channelScheduler.ulCircuitPeerTs ulTs
        deferredDuringHangtime :=
          s.channelScheduler.isHangtime ulTs || s.channelScheduler.isHangtime dlTargetTs
        media := media
        arrival := s.arrivalOn ulTs }
    { s with
      pendingPrivateUlMedia :=
        Function.update s.pendingPrivateUlMedia (ulTs - 1) (queue ++ [item]) }
  else s

/-- What becomes of waiting speech when it is looked at. -/
inductive FlushVerdict where
  | drop | keep
  | route (dlTargetTs : Nat)

def flushVerdict (media : PendingPrivateUlMedia) : FlushVerdict :=
  let sched := s.channelScheduler
  if media.receivedAt.age s.dltime > pendingPrivateUlMediaTtlTimeslots then .drop
  else if !sched.circuits.isActive .ul media.ulTs then .drop
  else if sched.isHangtime media.ulTs then .keep
  else if s.privateSimplexWaitingForFloorGrant media.ulTs then .keep
  else if media.speakerAddr.isSome && s.currentUlSignalAddr media.ulTs != media.speakerAddr then .drop
  else if sched.ulCircuitPeerTs media.ulTs ≠ media.peerTs then .drop
  else
    match media.peerTs with
    | none =>
      if sched.ulCircuitDlMediaSource media.ulTs ≠ .localLoopback then .drop
      else if media.ulTs ≠ media.dlTargetTs then .drop
      else if sched.isHangtime media.ulTs then .keep
      else if !sched.circuits.isActive .dl media.ulTs then .drop
      else .route media.ulTs
    | some peerTs =>
      if peerTs ≠ media.dlTargetTs then .drop
      else if sched.isHangtime peerTs then .keep
      else if !sched.circuits.isActive .dl peerTs then .drop
      else .route peerTs

/-- Speech received then keeps the timeslot alive, and its peer. -/
def noteUlVoice (at' : TdmaTime) : UmacBs :=
  let s := { s with lastUlVoice := Function.update s.lastUlVoice (ts - 1) (some at') }
  match s.channelScheduler.ulCircuitPeerTs ts with
  | some peerTs =>
    if isTimeslot peerTs ∧ s.channelScheduler.circuits.isActive .ul peerTs then
      { s with lastUlVoice := Function.update s.lastUlVoice (peerTs - 1) (some at') }
    else s
  | none => s

def flushPendingPrivateUlMediaItem (media : PendingPrivateUlMedia) :
    UmacBs × Option PendingPrivateUlMedia :=
  match s.flushVerdict media with
  | .drop => (s, none)
  | .keep => (s, some media)
  | .route dlTargetTs =>
    let block := media.media.block (some media.ulTs) media.speakerAddr (some media.arrival)
    let s := { s with channelScheduler := s.channelScheduler.dlScheduleTmd dlTargetTs block }
    (s.noteUlVoice media.ulTs media.receivedAt, none)

def flushNext (idx : Nat) (media : PendingPrivateUlMedia) : UmacBs :=
  match s.flushPendingPrivateUlMediaItem media with
  | (s, some media) =>
    { s with
      pendingPrivateUlMedia :=
        Function.update s.pendingPrivateUlMedia idx (s.pendingPrivateUlMedia idx ++ [media]) }
  | (s, none) => s

def flushQueue (idx : Nat) : UmacBs :=
  let pending := s.pendingPrivateUlMedia idx
  let s := { s with pendingPrivateUlMedia := Function.update s.pendingPrivateUlMedia idx [] }
  pending.foldl (fun s media => s.flushNext idx media) s

def flushPendingPrivateUlMedia : UmacBs :=
  [0, 1, 2, 3].foldl (fun s idx => s.flushQueue idx) s

def floorMediaTimeslots : List Nat :=
  if isTimeslot ts then
    ts :: ((s.channelScheduler.ulCircuitPeerTs ts).filter
      (fun peerTs => isTimeslot peerTs && peerTs != ts)).toList
  else []

/-! Speech from the network and from the radios -/

def scheduleTmd (block : CircuitTxBlock) : UmacBs :=
  { s with channelScheduler := s.channelScheduler.dlScheduleTmd ts block }

/-- Speech for the downlink keeps the uplink of its timeslot alive, and of its peer. -/
def noteDlVoice : UmacBs :=
  let s := if isTimeslot ts ∧ s.channelScheduler.circuits.isActive .ul ts then
      { s with lastUlVoice := Function.update s.lastUlVoice (ts - 1) (some s.dltime) }
    else s
  match s.channelScheduler.dlCircuitPeerTs ts with
  | some peerUlTs =>
    if isTimeslot peerUlTs ∧ s.channelScheduler.circuits.isActive .ul peerUlTs then
      { s with lastUlVoice := Function.update s.lastUlVoice (peerUlTs - 1) (some s.dltime) }
    else s
  | none => s

/-- Speech for the downlink: from the network, or the parrot's. -/
def rxTmdCircuitDataReq (data : TmdCircuitData) : UmacBs :=
  let s := s.noteDlVoice ts
  if s.channelScheduler.circuits.isActive .dl ts then
    match acceptUlMedia data with
    | some media =>
      let source :=
        if s.channelScheduler.ulCircuitDlMediaSource ts = .localParrot then some ts else none
      s.scheduleTmd ts (media.kind.block source none none)
    | none => s
  else s

/-- The downlink timeslot that hears the radios of an uplink timeslot. -/
def dlTargetTs : Option Nat :=
  match s.channelScheduler.ulCircuitPeerTs ts with
  | some peerTs => some peerTs
  | none => if s.channelScheduler.ulCircuitDlMediaSource ts = .localLoopback then some ts else none

def forwardToBrew (media : AcceptedUlMedia) : UmacBs × Bool :=
  match media with
  | .acElp bits _ =>
    if s.config.brew then
      ({ s with queue := s.queue ++ [.tmdCircuitDataIndToBrew ts (.acElp bits)] }, true)
    else (s, false)
  | .rawTchSHalfSlot .. => (s, false)

/-- A half slot always waits for the signalling of its burst; a full slot waits in hangtime. -/
def routeUlMedia (dlTargetTs : Nat) (media : AcceptedUlMedia) (defer : Bool) : UmacBs × Bool :=
  let deferForHangtime := defer &&
    (s.channelScheduler.isHangtime ts || s.channelScheduler.isHangtime dlTargetTs)
  match media with
  | .rawTchSHalfSlot .. => (s.deferPrivateUlMedia ts dlTargetTs media.kind, false)
  | .acElp .. =>
    if deferForHangtime then (s.deferPrivateUlMedia ts dlTargetTs media.kind, false)
    else
      (s.scheduleTmd dlTargetTs
        (media.kind.block (some ts) (s.ulMediaSpeakerTag ts) (some (s.arrivalOn ts))), true)

/-- Speech for the radios, after the network was told of it. -/
def deliverUlMedia (media : AcceptedUlMedia) (defer forwarded : Bool) : UmacBs :=
  match s.dlTargetTs ts with
  | none =>
    if forwarded then
      { s with lastUlVoice := Function.update s.lastUlVoice (ts - 1) (some s.dltime) }
    else s
  | some dlTargetTs =>
    if s.channelScheduler.isHangtime dlTargetTs && !defer then s
    else
      let (s, routed) :=
        if s.channelScheduler.circuits.isActive .dl dlTargetTs then
          s.routeUlMedia ts dlTargetTs media defer
        else (s, false)
      if forwarded || routed then s.noteUlVoice ts s.dltime else s

def rxUlMedia (media : AcceptedUlMedia) : UmacBs :=
  let defer := s.canDeferUlMediaDuringHangtime ts
  if s.channelScheduler.isHangtime ts && !defer then s
  else if s.privateSimplexWaitingForFloorGrant ts then s.deferPrivateUlMedia ts ts media.kind
  else if s.channelScheduler.ulCircuitDlMediaSource ts = .localParrot then
    { s with
      queue := s.queue ++ [.tmdCircuitDataIndToCmce ts media.data]
      lastUlVoice := Function.update s.lastUlVoice (ts - 1) (some s.dltime) }
  else
    let (s, forwarded) := s.forwardToBrew ts media
    s.deliverUlMedia ts media defer forwarded

/-- Speech that a radio sent; a half slot is remembered until the next tick. -/
def rxTmdCircuitDataInd (data : TmdCircuitData) : UmacBs :=
  if isTimeslot ts ∧ s.channelScheduler.circuits.isActive .ul ts then
    match acceptUlMedia data with
    | some (.rawTchSHalfSlot blockNum bits) =>
      let s := s.rxUlMedia ts (.rawTchSHalfSlot blockNum bits)
      { s with history.halfSlots := Function.update s.history.halfSlots ts true }
    | some (.acElp bits packed) => s.rxUlMedia ts (.acElp bits packed)
    | none => s
  else s

/-! Circuits and floors -/

def onScheduler (f : BsChannelScheduler → BsChannelScheduler) : UmacBs :=
  { s with channelScheduler := f s.channelScheduler }

def closeIfActive (dir : Direction) (ts : Nat) : UmacBs :=
  if s.channelScheduler.circuits.isActive dir ts then
    let closed := s.onScheduler (fun sched => sched.closeCircuit dir ts)
    match dir with
    | .dl => closed
    | .ul => { closed with
        history.ulClosedAt := Function.update s.history.ulClosedAt ts s.history.clock }
  else s

/-- A circuit in one direction; timeslot 1 and numbers beyond 4 get none. -/
def openDirection (circuit : Circuit) (dir : Direction) : UmacBs :=
  let ts := circuit.ts
  let s := (s.closeIfActive dir ts).onScheduler (fun sched => sched.createCircuit dir circuit)
  match dir with
  | .dl =>
    if isTimeslot ts ∧ ts ≠ 1 then
      { s with history.dlOpenedAt := Function.update s.history.dlOpenedAt ts s.history.clock }
    else s
  | .ul =>
    if isTimeslot ts then
      let s := { s with lastUlVoice := Function.update s.lastUlVoice (ts - 1) (some s.dltime) }
      let s := s.clearCurrentUlSpeaker ts
      match initialUlSpeakerForOpenCircuit circuit with
      | some addr => s.setCurrentUlSpeaker ts addr
      | none => s
    else s

def rxControlCircuitOpen (directions : Directions) (circuit : Circuit) : UmacBs :=
  directions.toList.foldl (fun s dir => s.openDirection circuit dir)
    (s.discardPendingPrivateUlMediaInvolving circuit.ts)

def closeDirection (dir : Direction) : UmacBs :=
  if s.channelScheduler.circuits.isActive dir ts then
    let s := s.closeIfActive dir ts
    match dir with
    | .dl => s.onScheduler (fun sched => sched.dlDiscardPendingStealing ts)
    | .ul =>
      let s := { s with lastUlVoice := Function.update s.lastUlVoice (ts - 1) none }
      s.clearCurrentUlSpeaker ts
  else s.onScheduler (fun sched => sched.closeCircuit dir ts)

def rxControlCircuitClose (directions : Directions) (ts : Nat) : UmacBs :=
  directions.toList.foldl (fun s dir => s.closeDirection ts dir)
    (s.discardPendingPrivateUlMediaInvolving ts)

/-- No speech of a timeslot waits any more, and it has no speaker; it is in hangtime or not. -/
def silence (hangtime : Bool) (ts : Nat) : UmacBs :=
  let s := s.discardPendingPrivateUlMediaInvolving ts
  let s := s.onScheduler (fun sched => (sched.clearDlMediaQueue ts).setHangtime ts hangtime)
  let s := { s with lastUlVoice := Function.update s.lastUlVoice (ts - 1) none }
  s.clearCurrentUlSpeaker ts

def floorReleased : UmacBs :=
  (s.floorMediaTimeslots ts).foldl (fun s floorTs => s.silence true floorTs) s

def callEnded : UmacBs :=
  (s.floorMediaTimeslots ts).foldl (fun s floorTs => s.silence false floorTs) s

/-- Speech of others than the new holder of the floor goes, and hangtime ends. -/
def grantOn (privateScoped swmiDownlinkFloor : Bool) (ts : Nat) (sourceAddr : TetraAddress)
    (floorTs : Nat) : UmacBs :=
  let s :=
    if privateScoped then
      if swmiDownlinkFloor then s.discardPendingPrivateUlMediaInvolving floorTs
      else
        (s.discardPendingPrivateUlMediaExceptSource floorTs ts sourceAddr).onScheduler
          (fun sched => sched.clearDlMediaQueueExceptSource floorTs ts sourceAddr)
    else
      (s.discardPendingGroupUlMediaExceptHangtimeSource floorTs ts sourceAddr).onScheduler
        (fun sched => sched.clearDlMediaQueue floorTs)
  s.onScheduler (fun sched => sched.setHangtime floorTs false)

def floorGranted (sourceIssi destGssi ts : Nat) : UmacBs :=
  if isTimeslot ts then
    let sourceAddr := TetraAddress.issi sourceIssi
    let privateScoped := s.channelScheduler.ulCircuitIsPrivateParticipantScoped ts
    let local' := s.channelScheduler.circuitIsActiveForAddr .ul ts sourceAddr
    let swmiDownlinkFloor := privateScoped && !local' &&
      (s.channelScheduler.ulCircuitDlMediaSource ts == .swMI)
    if privateScoped && !local' && !swmiDownlinkFloor then s
    else
      let s := if swmiDownlinkFloor then s else s.setCurrentUlSpeaker ts sourceAddr
      let s := (s.floorMediaTimeslots ts).foldl
        (fun s floorTs => s.grantOn privateScoped swmiDownlinkFloor ts sourceAddr floorTs) s
      let s := s.flushPendingPrivateUlMedia
      let s := if privateScoped then s
        else s.onScheduler (fun sched => sched.dlDropQueuedGssiRepeats ⟨destGssi, .gssi⟩)
      { s with
        lastUlVoice := Function.update s.lastUlVoice (ts - 1)
          (if swmiDownlinkFloor then none else some s.dltime) }
  else s

def setCircuitDlMediaSource (source : CircuitDlMediaSource) : UmacBs :=
  s.onScheduler (fun sched =>
    { sched with circuits := sched.circuits.setDlMediaSource ts source })

/-! Time -/

def ulInactivityTimeslots : Int := s.config.ulInactivitySecs * 18 * 4

def checkUlInactivityOn : UmacBs :=
  if s.channelScheduler.circuits.isActive .ul ts && !s.channelScheduler.isHangtime ts &&
      (s.lastUlVoice (ts - 1)).any (fun t => decide (t.age s.dltime > s.ulInactivityTimeslots)) then
    { s with
      lastUlVoice := Function.update s.lastUlVoice (ts - 1) none
      queue := s.queue ++ [.ulInactivityTimeout ts] }
  else s

def checkUlInactivity : UmacBs := [1, 2, 3, 4].foldl checkUlInactivityOn s

def prepareTick : UmacBs :=
  let s := s.onScheduler BsChannelScheduler.tickStart
  let s := { s with dltime := s.channelScheduler.curDltime }
  s.checkUlInactivity.flushPendingPrivateUlMedia

def finishTick (env : SlotEnv) (r : BsChannelScheduler.Finalized) : UmacBs :=
  { s with
    channelScheduler := r.sched
    history := { s.history with
      halfSlots := fun _ => false
      onAir := s.history.onAir ++ (s.channelScheduler.takenBlock env).toList } }

/-- A tick; `none` where building the slot ahead panics. -/
def tickStart (env : SlotEnv) : Option UmacBs :=
  let s := s.prepareTick
  (s.channelScheduler.finalizeTsForTick env).map (fun r => s.finishTick env r)

end UmacBs

/-- What reaches the upper MAC about circuits and speech, the ticks, and its other signalling. -/
inductive UmacEvent where
  | open (directions : Directions) (circuit : Circuit)
  | close (directions : Directions) (ts : Nat)
  | setDlMediaSource (ts : Nat) (source : CircuitDlMediaSource)
  | floorGranted (sourceIssi destGssi ts : Nat)
  | floorReleased (ts : Nat)
  | callEnded (ts : Nat)
  | tmdCircuitDataReq (ts : Nat) (data : TmdCircuitData)
  | tmdCircuitDataInd (ts : Nat) (data : TmdCircuitData)
  | signalling (op : SchedOp)
  | tick (env : SlotEnv)

namespace UmacBs

/-- Everything that happens is counted. -/
def count (s : UmacBs) : UmacBs := { s with history.clock := s.history.clock + 1 }

def handle (s : UmacBs) : UmacEvent → Option UmacBs
  | .open directions circuit => some (s.rxControlCircuitOpen directions circuit)
  | .close directions ts => some (s.rxControlCircuitClose directions ts)
  | .setDlMediaSource ts source => some (s.setCircuitDlMediaSource ts source)
  | .floorGranted sourceIssi destGssi ts => some (s.floorGranted sourceIssi destGssi ts)
  | .floorReleased ts => some (s.floorReleased ts)
  | .callEnded ts => some (s.callEnded ts)
  | .tmdCircuitDataReq ts data => some (s.rxTmdCircuitDataReq ts data)
  | .tmdCircuitDataInd ts data => some (s.rxTmdCircuitDataInd ts data)
  | .signalling op =>
    if op.queuesOnly then
      (s.channelScheduler.step op).map (fun sched => { s with channelScheduler := sched })
    else some s
  | .tick env => s.tickStart env

def step (s : UmacBs) (e : UmacEvent) : Option UmacBs := s.count.handle e

def new (config : UmacBsConfig) (sched : BsChannelScheduler) : UmacBs where
  config := config
  dltime := sched.curDltime
  channelScheduler := sched
  lastUlVoice := fun _ => none
  pendingPrivateUlMedia := fun _ => []
  currentUlSpeaker := fun _ => none
  queue := []
  history := ⟨0, fun _ => 0, fun _ => 0, fun _ => false, []⟩

end UmacBs
end NexusBs
