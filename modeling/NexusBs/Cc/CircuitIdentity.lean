import NexusBs.Cc.CircuitMgr
import NexusBs.Lib.Run
import Mathlib.Data.Fintype.Prod

namespace NexusBs.Cc
open Function Lib Cc.CircuitMgr

namespace TimeslotAllocator

variable {a a' : TimeslotAllocator} {owner preemptible : TimeslotOwner} {ts : Nat}

/-- The slot handed out is a traffic slot that was free or could be pre-empted. -/
theorem allocateAny_spec
    (h : a.allocateAnyPreemptingExcluding owner preemptible excluded = some (ts, a')) :
    ts ∈ traffic ∧ a' = a.set ts owner ∧ (a.owners ts = none ∨ a.owners ts = some preemptible) := by
  unfold allocateAnyPreemptingExcluding at h
  dsimp only at h
  split at h
  · rename_i hf
    cases h
    exact ⟨List.mem_of_mem_filter (List.mem_of_find?_eq_some hf), rfl,
      .inl (by simpa using List.find?_some hf)⟩
  · split at h
    · rename_i hf
      cases h
      exact ⟨List.mem_of_mem_filter (List.mem_of_find?_eq_some hf), rfl,
        .inr (by simpa using List.find?_some hf)⟩
    · cases h

theorem release_set (hts : ts ∈ traffic) : (a.set ts owner).release owner ts = a.set ts none := by
  simp [release, set, hts]

end TimeslotAllocator

/-- A place is the downlink or the uplink alone of one of the four timeslots. -/
def CmceCircuit.isAt (circuit : CmceCircuit) (place : Bool × Fin 4) : Prop :=
  place.1 = (circuit.direction != .ul) ∧ place.2 + 1 = circuit.ts

instance (circuit : CmceCircuit) (place : Bool × Fin 4) : Decidable (circuit.isAt place) :=
  inferInstanceAs (Decidable (_ ∧ _))

namespace CircuitMgr

variable {m m' : CircuitMgr} {circuit c d : CmceCircuit} {dir : Direction} {ts : Nat}

def circuitAt (m : CircuitMgr) (place : Bool × Fin 4) : Option CmceCircuit :=
  if place.1 then m.dl (place.2 + 1) else m.ulOnly (place.2 + 1)

/-- A circuit of this direction does not fit on the timeslot. -/
def blocked (m : CircuitMgr) (dir : Direction) (ts : Nat) : Bool :=
  dir.includesDl && (m.isActive ts).1 || dir.includesUl && (m.isActive ts).2

/-- Whatever circuit a step leaves was there before, or is the one that it opened, at its place; the
counters stand still. -/
structure Adds (opened : Option CmceCircuit) (m m' : CircuitMgr) : Prop where
  circuits : ∀ p, ∀ d ∈ m'.circuitAt p,
    d ∈ m.circuitAt p ∧ (∀ c ∈ opened, ¬c.isAt p) ∨ opened = some d ∧ d.isAt p
  usages : m'.nextUsageNumber = m.nextUsageNumber
  callIds : m'.nextCallIdentifier = m.nextCallIdentifier

theorem Adds.refl (m : CircuitMgr) : Adds none m m := ⟨fun _ _ h => .inl ⟨h, nofun⟩, rfl, rfl⟩

theorem mem_update {f : Nat → Option CmceCircuit} (h : d ∈ update f circuit.ts (some circuit) n) :
    d ∈ f n ∧ n ≠ circuit.ts ∨ circuit = d ∧ n = d.ts := by
  by_cases hn : n = circuit.ts
  · subst hn
    rw [update_self, Option.mem_some_iff] at h
    exact .inr ⟨h, by rw [h]⟩
  · rw [update_of_ne hn] at h
    exact .inl ⟨h, hn⟩

theorem insertCircuit_adds (h : m.insertCircuit circuit = some m') : Adds (some circuit) m m' := by
  unfold insertCircuit at h
  dsimp only at h
  split at h
  · cases h
  split at h
  · cases h
  -- only the map of the circuit's own side changes
  cases hdir : circuit.direction <;> rw [hdir] at h <;> cases h
  all_goals
    refine ⟨?_, rfl, rfl⟩
    rintro ⟨side, i⟩ d hd
    cases side
  all_goals first
    | exact .inl ⟨hd, fun c hc hat => by cases hc; simp [CmceCircuit.isAt, hdir] at hat⟩
    | exact (mem_update hd).imp (fun ⟨hd, hn⟩ => ⟨hd, fun c hc hat => by cases hc; exact hn hat.2⟩)
        (fun ⟨hc, ht⟩ => ⟨by rw [hc], by rw [← hc, hdir]; rfl, ht⟩)

theorem insertCircuit_isSome (h : m.blocked circuit.direction circuit.ts = false) :
    (m.insertCircuit circuit).isSome := by
  obtain ⟨hdl, hul⟩ := Bool.or_eq_false_iff.mp h
  simp only [insertCircuit, hdl, hul, Bool.false_eq_true, if_false]
  split <;> rfl

theorem Adds.close (h : Adds none m m') (dir : Direction) (ts : Nat) :
    Adds none m (m'.closeCircuit dir ts).2 := by
  refine ⟨?_, by cases dir <;> exact h.usages, by cases dir <;> exact h.callIds⟩
  rintro ⟨side, i⟩ d hd
  have hu : ∀ f : Nat → Option CmceCircuit, d ∈ update f ts none (i + 1) → d ∈ f (i + 1) := by
    intro f hf
    by_cases hn : (i : Nat) + 1 = ts
    · rw [hn, update_self] at hf
      cases hf
    · rwa [update_of_ne hn] at hf
  refine h.circuits (side, i) d ?_
  cases dir <;> cases side
  all_goals first | exact hd | exact hu _ hd

theorem tickStart_adds (m : CircuitMgr) (dltime : TdmaTime) : Adds none m (m.tickStart dltime).2 := by
  unfold tickStart
  dsimp only
  split
  · refine List.foldlRecOn (motive := fun r : List CircuitMgrCmd × CircuitMgr => Adds none m r.2)
      _ _ ⟨fun _ _ h => .inl ⟨h, nofun⟩, rfl, rfl⟩ ?_
    intro r hr circuit _
    have hc := hr.close circuit.direction circuit.ts
    cases ho : r.2.closeCircuit circuit.direction circuit.ts with
    | mk closed =>
      rw [ho] at hc
      cases closed <;> exact hc
  · exact ⟨fun _ _ h => .inl ⟨h, nofun⟩, rfl, rfl⟩

/-- The manager when so many usage numbers and call identifiers have been drawn. -/
def atCounts (m : CircuitMgr) (usages callIds : Nat) : CircuitMgr :=
  { m with
    nextUsageNumber := 4 + usages % 60
    nextCallIdentifier := 1 + callIds % 16383 }

/-- The counters tell how many numbers have been drawn. -/
theorem Adds.counts {u k : Nat} (h : Adds r (m.atCounts u k) m') : m' = m'.atCounts u k := by
  have hu := h.usages
  have hc := h.callIds
  cases m'
  simp_all [atCounts]

/-- Of two circuits at different places, at most one was opened just now. -/
theorem Adds.pair (h : Adds r m m') (hc : c ∈ m'.circuitAt p) (hd : d ∈ m'.circuitAt q)
    (hpq : p ≠ q) :
    c ∈ m.circuitAt p ∧ d ∈ m.circuitAt q ∨ c ∈ m.circuitAt p ∧ d ∈ r ∨
      d ∈ m.circuitAt q ∧ c ∈ r := by
  rcases h.circuits p c hc with ⟨hc, -⟩ | ⟨hrc, hp⟩ <;>
    rcases h.circuits q d hd with ⟨hd, -⟩ | ⟨hrd, hq⟩
  · exact .inl ⟨hc, hd⟩
  · exact .inr (.inl ⟨hc, hrd⟩)
  · exact .inr (.inr ⟨hd, hrc⟩)
  · cases hrc.symm.trans hrd
    have ht := hp.2.trans hq.2.symm
    exact absurd (Prod.ext (hp.1.trans hq.1.symm) (Fin.ext (by omega))) hpq

theorem getNextUsageNumber_atCounts (m : CircuitMgr) (usages callIds : Nat) :
    (m.atCounts usages callIds).getNextUsageNumber =
      (4 + usages % 60, m.atCounts (usages + 1) callIds) := by
  have hnext : (if 4 + usages % 60 + 1 > 63 then 4 else 4 + usages % 60 + 1) =
      4 + (usages + 1) % 60 := by
    split <;> omega
  exact congrArg (fun n => (4 + usages % 60, { m.atCounts usages callIds with nextUsageNumber := n }))
    hnext

theorem getNextCallId_atCounts (m : CircuitMgr) (usages callIds : Nat) :
    (m.atCounts usages callIds).getNextCallId =
      (1 + callIds % 16383, m.atCounts usages (callIds + 1)) := by
  have hid : normalCallIdentifier (1 + callIds % 16383) = 1 + callIds % 16383 :=
    if_pos ⟨by omega, by simp only [maxCallIdentifier]; omega⟩
  have hnext : callIdentifierAfter (1 + callIds % 16383) = 1 + (callIds + 1) % 16383 := by
    have hmax : maxCallIdentifier = 16383 := rfl
    unfold callIdentifierAfter
    split <;> omega
  simp only [getNextCallId, atCounts, hid, hnext]

/-- Identifiers that are occupied are passed over, and one that is not is taken. -/
theorem getNextCallIdAvoiding_atCounts (occupied : Nat → Bool) (tries : Nat) (m : CircuitMgr)
    (usages callIds : Nat) :
    ∃ passed ≤ tries, (∀ i < passed, occupied (1 + (callIds + i) % 16383) = true) ∧
      (getNextCallIdAvoiding occupied tries (m.atCounts usages callIds) =
          (none, m.atCounts usages (callIds + passed)) ∨
        occupied (1 + (callIds + passed) % 16383) = false ∧
          getNextCallIdAvoiding occupied tries (m.atCounts usages callIds) =
            (some (1 + (callIds + passed) % 16383), m.atCounts usages (callIds + passed + 1))) := by
  induction tries generalizing callIds with
  | zero => exact ⟨0, Nat.le_refl _, nofun, .inl rfl⟩
  | succ tries ih =>
    rw [getNextCallIdAvoiding, getNextCallId_atCounts]
    dsimp only
    split
    · rename_i hocc
      obtain ⟨passed, hle, hpassed, hr⟩ := ih (callIds + 1)
      refine ⟨passed + 1, Nat.succ_le_succ hle, fun i hi => ?_, ?_⟩
      · cases i with
        | zero => exact hocc
        | succ i =>
          rw [Nat.add_comm i, ← Nat.add_assoc]
          exact hpassed i (Nat.lt_of_succ_lt_succ hi)
      · rw [Nat.add_comm passed, ← Nat.add_assoc]
        exact hr
    · rename_i hocc
      exact ⟨0, Nat.zero_le _, nofun, .inr ⟨by simpa using hocc, rfl⟩⟩

/-- In one round no identifier comes twice, so no more are passed over than are occupied. -/
theorem passed_le (occupied : List Nat) (hle : passed ≤ maxCallIdentifier)
    (h : ∀ i < passed, occupied.contains (1 + (callIds + i) % 16383) = true) :
    passed ≤ occupied.length := by
  have hnodup : ((List.range passed).map (fun i => 1 + (callIds + i) % 16383)).Nodup := by
    refine List.nodup_range.map_on (fun x hx y hy he => ?_)
    simp only [List.mem_range, maxCallIdentifier] at hx hy hle
    omega
  have hsub : (List.range passed).map (fun i => 1 + (callIds + i) % 16383) ⊆ occupied := by
    intro k hk
    obtain ⟨i, hi, rfl⟩ := List.mem_map.mp hk
    simpa using h i (List.mem_range.mp hi)
  simpa using (hnodup.subperm hsub).length_le

/-- The search ends with a circuit on a slot of its owner, or without one; then each slot tried is
given back, and only one that was pre-empted has lost its owner. -/
theorem allocateOnFreeSlot_spec (owner : TimeslotOwner) (mk : Nat → CmceCircuit) (rounds : Nat)
    (excluded : List Nat) (m : CircuitMgr) (alloc : TimeslotAllocator) :
    ∃ r m' alloc', allocateOnFreeSlot owner mk rounds excluded m alloc = (r, m', alloc') ∧
      ((∃ ts, r = some (mk ts) ∧ m.insertCircuit (mk ts) = some m' ∧
          alloc'.owners ts = some owner) ∨
        r = none ∧ m' = m ∧
          ((∀ ts ∈ TimeslotAllocator.traffic, alloc.owners ts = some .packetData →
            (m.insertCircuit (mk ts)).isSome) → alloc' = alloc)) := by
  induction rounds generalizing excluded alloc with
  | zero => exact ⟨_, _, _, rfl, .inr ⟨rfl, rfl, fun _ => rfl⟩⟩
  | succ rounds ih =>
    rw [allocateOnFreeSlot]
    cases ha : alloc.allocateAnyPreemptingExcluding owner .packetData excluded with
    | none => exact ⟨_, _, _, rfl, .inr ⟨rfl, rfl, fun _ => rfl⟩⟩
    | some taken =>
      obtain ⟨ts, alloc1⟩ := taken
      obtain ⟨hts, rfl, howner⟩ := TimeslotAllocator.allocateAny_spec ha
      dsimp only
      cases hi : m.insertCircuit (mk ts) with
      | some =>
        exact ⟨_, _, _, rfl, .inl ⟨ts, rfl, hi, update_self ..⟩⟩
      | none =>
        dsimp only
        rw [TimeslotAllocator.release_set hts]
        obtain ⟨r, m', alloc', hr, hs | ⟨hn, hm, hsame⟩⟩ := ih (excluded ++ [ts]) (alloc.set ts none)
        · exact ⟨r, m', alloc', hr, .inl hs⟩
        · refine ⟨r, m', alloc', hr, .inr ⟨hn, hm, fun hfit => ?_⟩⟩
          -- a pre-empted slot would have taken the circuit
          have hfree : alloc.owners ts = none := by
            refine howner.resolve_right (fun hp => ?_)
            have hfits := hfit ts hts hp
            rw [hi] at hfits
            cases hfits
          have hset : alloc.set ts none = alloc := by
            rw [TimeslotAllocator.set, ← hfree, update_eq_self]
          rw [hset] at hsame
          exact hsame hfit

theorem allocateCircuitForCallWithAllocator_spec (m : CircuitMgr) (callId : Nat) (dir : Direction)
    (commType : CommunicationType) (simplexDuplex : Bool) (alloc : TimeslotAllocator)
    (owner : TimeslotOwner) :
    ∃ r m' alloc', m.allocateCircuitForCallWithAllocator callId dir commType simplexDuplex alloc
        owner = (r, m', alloc') ∧ Adds r m.getNextUsageNumber.2 m' ∧
      (∀ c ∈ r, c.usage = m.nextUsageNumber ∧ c.callId = callId ∧ alloc'.owners c.ts = some owner) ∧
      (r = none → (∀ ts ∈ TimeslotAllocator.traffic, alloc.owners ts = some .packetData →
        m.blocked dir ts = false) → alloc' = alloc) := by
  obtain ⟨r, m', alloc', hr, ⟨ts, rfl, hi, hown⟩ | ⟨rfl, rfl, hsame⟩⟩ :=
    allocateOnFreeSlot_spec owner (m.getNextUsageNumber.2.circuitFor dir commType simplexDuplex callId
      m.getNextUsageNumber.1) 4 [] m.getNextUsageNumber.2 alloc
  · refine ⟨_, m', alloc', hr, insertCircuit_adds hi, ?_, fun hn => nomatch hn⟩
    intro c hc
    cases hc
    exact ⟨rfl, rfl, hown⟩
  · refine ⟨none, _, alloc', hr, .refl _, by simp, fun _ hfit => hsame ?_⟩
    exact fun ts hts hp => insertCircuit_isSome (hfit ts hts hp)

theorem allocateCircuitDuplex_atCounts (m : CircuitMgr) (usages callIds : Nat) (dir : Direction)
    (commType : CommunicationType) (simplexDuplex : Bool) :
    ∃ r m', (m.atCounts usages callIds).allocateCircuitDuplex dir commType simplexDuplex = (r, m') ∧
      (r = none ∧ m' = m.atCounts usages callIds ∨
        Adds r (m.atCounts (usages + 1) (callIds + 1)) m' ∧
          ∀ c ∈ r, c.usage = 4 + usages % 60 ∧ c.callId = 1 + callIds % 16383) := by
  unfold allocateCircuitDuplex
  cases (m.atCounts usages callIds).getFreeTs dir with
  | none => exact ⟨_, _, rfl, .inl ⟨rfl, rfl⟩⟩
  | some ts =>
    simp only [getNextCallId_atCounts, getNextUsageNumber_atCounts]
    split
    · exact ⟨_, _, rfl, .inr ⟨.refl _, by simp⟩⟩
    · rename_i hi
      refine ⟨_, _, rfl, .inr ⟨insertCircuit_adds hi, fun c hc => ?_⟩⟩
      cases hc
      exact ⟨rfl, rfl⟩

end CircuitMgr

/-- The circuit manager and the timeslot allocator that it shares with other services. -/
structure CircuitSlots where
  circuits : CircuitMgr
  alloc : TimeslotAllocator

/-- What can happen to the two; `others` is any change that another owner makes. -/
inductive CircuitOp where
  | allocate (dir : Direction) (commType : CommunicationType) (simplexDuplex : Bool)
  | allocateWithAllocator (dir : Direction) (commType : CommunicationType) (simplexDuplex : Bool)
      (owner : TimeslotOwner) (occupiedCallIds : List Nat)
  | allocateForCall (callId : Nat) (dir : Direction) (commType : CommunicationType)
      (simplexDuplex : Bool) (owner : TimeslotOwner)
  | close (dir : Direction) (ts : Fin 4)
  | tick (dltime : TdmaTime)
  | others (alloc : TimeslotAllocator)

namespace CircuitOp

/-- Who asks the allocator for a slot, and for which direction. -/
def request : CircuitOp → Option (TimeslotOwner × Direction)
  | allocateWithAllocator dir _ _ owner _ | allocateForCall _ dir _ _ owner => some (owner, dir)
  | _ => none

/-- The existing call that a circuit is for. -/
def forCall : CircuitOp → Option Nat
  | allocateForCall callId .. => some callId
  | _ => none

def occupied : CircuitOp → List Nat
  | allocateWithAllocator _ _ _ _ occupiedCallIds => occupiedCallIds
  | _ => []

/-- How many usage numbers an operation uses up at most. -/
def usages : CircuitOp → Nat
  | allocate .. | allocateWithAllocator .. | allocateForCall .. => 1
  | _ => 0

/-- How many call identifiers an operation uses up at most: one, and those that it passes over. -/
def callIds : CircuitOp → Nat
  | allocate .. => 1
  | allocateWithAllocator _ _ _ _ occupiedCallIds => occupiedCallIds.length + 1
  | _ => 0

end CircuitOp

namespace CircuitSlots

/-- The circuit that an allocation returns, and the state after the operation. -/
def perform (s : CircuitSlots) : CircuitOp → Option CmceCircuit × CircuitSlots
  | .allocate dir commType simplexDuplex =>
    let r := s.circuits.allocateCircuitDuplex dir commType simplexDuplex
    (r.1, ⟨r.2, s.alloc⟩)
  | .allocateWithAllocator dir commType simplexDuplex owner occupiedCallIds =>
    let r := s.circuits.allocateCircuitWithAllocatorDuplexAvoiding dir commType simplexDuplex
      s.alloc owner occupiedCallIds.contains
    (r.1, ⟨r.2.1, r.2.2⟩)
  | .allocateForCall callId dir commType simplexDuplex owner =>
    let r := s.circuits.allocateCircuitForCallWithAllocator callId dir commType simplexDuplex
      s.alloc owner
    (r.1, ⟨r.2.1, r.2.2⟩)
  | .close dir ts => (none, ⟨(s.circuits.closeCircuit dir (ts + 1)).2, s.alloc⟩)
  | .tick dltime => (none, ⟨(s.circuits.tickStart dltime).2, s.alloc⟩)
  | .others alloc => (none, ⟨s.circuits, alloc⟩)

end CircuitSlots

/-- With the history of each place: how many usage numbers and, where its call identifier was drawn
for it, how many identifiers have been used up at most since its circuit was opened. -/
structure TrackedSlots extends CircuitSlots where
  since : Bool × Fin 4 → Nat × Option Nat

namespace TrackedSlots

def new : TrackedSlots := ⟨⟨.new, .empty⟩, fun _ => (0, none)⟩

def sinceAfter (s : TrackedSlots) (op : CircuitOp) (opened : Option CmceCircuit)
    (place : Bool × Fin 4) : Nat × Option Nat :=
  if ∃ c ∈ opened, c.isAt place then (0, if op.forCall.isSome then none else some 0)
  else ((s.since place).1 + op.usages, (s.since place).2.map (· + op.callIds))

def step (s : TrackedSlots) (op : CircuitOp) : Option TrackedSlots :=
  let r := s.perform op
  some { toCircuitSlots := r.2, since := s.sinceAfter op r.1 }

/-- Before an allocation: since a circuit that is active was opened, fewer than 60 usage numbers are
used up, and its call identifier is named as occupied or fewer than 16383 identifiers are, with what
the allocation takes; and no slot that could be pre-empted has a circuit in the way. -/
def Fresh (s : TrackedSlots) (op : CircuitOp) : Prop :=
  (0 < op.usages → ∀ p, ∀ c ∈ s.circuits.circuitAt p, (s.since p).1 + op.usages < 60 ∧
    (op.forCall = none → c.callId ∈ op.occupied ∨ ∃ n ∈ (s.since p).2, n + op.callIds < 16383)) ∧
  ∀ r ∈ op.request, ∀ ts ∈ TimeslotAllocator.traffic, s.alloc.owners ts = some .packetData →
    s.circuits.blocked r.2 ts = false

instance (s : TrackedSlots) (op : CircuitOp) : Decidable (s.Fresh op) :=
  inferInstanceAs (Decidable (_ ∧ _))

end TrackedSlots

/-- No two active circuits carry the same usage number. -/
def CircuitMgr.UsagesDiffer (m : CircuitMgr) : Prop :=
  ∀ p q, p ≠ q → ∀ c ∈ m.circuitAt p, ∀ d ∈ m.circuitAt q, c.usage ≠ d.usage

/-- What an operation did. It drew some numbers; the circuit opened has the first usage number of
them and, unless it is for an existing call, the last call identifier, which is not occupied. If the
allocator was asked the circuit has a slot of its requester; if none was opened the owners are as
before. -/
structure Performed (usages callIds : Nat) (s : CircuitSlots) (op : CircuitOp)
    (r : Option CmceCircuit) (s' : CircuitSlots) : Prop where
  drawn : ∃ u ≤ op.usages, ∃ k ≤ op.callIds,
    Adds r (s.circuits.atCounts (usages + u) (callIds + k)) s'.circuits ∧
      ∀ c ∈ r, u = 1 ∧ c.usage = 4 + usages % 60 ∧ (op.forCall = some c.callId ∨
        op.forCall = none ∧ c.callId ∉ op.occupied ∧
          ∃ j, k = j + 1 ∧ c.callId = 1 + (callIds + j) % 16383)
  owned : ∀ c ∈ r, ∀ req ∈ op.request, s'.alloc.owners c.ts = some req.1
  failed : (∀ req ∈ op.request, ∀ ts ∈ TimeslotAllocator.traffic,
      s.alloc.owners ts = some .packetData → s.circuits.blocked req.2 ts = false) →
    r = none → (∀ alloc, op ≠ .others alloc) → s'.alloc = s.alloc

variable {s s' : CircuitSlots} {op : CircuitOp} {usages callIds : Nat}

/-- An operation that opens nothing. -/
theorem Performed.of_none (hk : k ≤ op.callIds)
    (h : Adds none (s.circuits.atCounts usages (callIds + k)) s'.circuits)
    (ha : (∀ alloc, op ≠ .others alloc) → s'.alloc = s.alloc) :
    Performed usages callIds s op none s' :=
  ⟨⟨0, Nat.zero_le _, k, hk, h, by simp⟩, by simp, fun _ _ => ha⟩

theorem perform_spec (m : CircuitMgr) (alloc : TimeslotAllocator) (op : CircuitOp) :
    Performed usages callIds ⟨m.atCounts usages callIds, alloc⟩ op
      (CircuitSlots.perform ⟨m.atCounts usages callIds, alloc⟩ op).1
      (CircuitSlots.perform ⟨m.atCounts usages callIds, alloc⟩ op).2 := by
  cases op with
  | allocate dir commType simplexDuplex =>
    obtain ⟨r, m', hr, ⟨rfl, rfl⟩ | ⟨hadds, hid⟩⟩ :=
      m.allocateCircuitDuplex_atCounts usages callIds dir commType simplexDuplex
    · simp only [CircuitSlots.perform, hr]
      exact .of_none (Nat.zero_le _) (.refl _) (fun _ => rfl)
    · simp only [CircuitSlots.perform, hr]
      refine ⟨⟨1, Nat.le_refl _, 1, Nat.le_refl _, hadds, fun c hc => ?_⟩,
        by simp [CircuitOp.request], fun _ _ _ => rfl⟩
      exact ⟨rfl, (hid c hc).1, .inr ⟨rfl, List.not_mem_nil, 0, rfl, (hid c hc).2⟩⟩
  | allocateWithAllocator dir commType simplexDuplex owner occupied =>
    obtain ⟨passed, hle, hpassed, hn | ⟨hfree, hn⟩⟩ :=
      getNextCallIdAvoiding_atCounts occupied.contains maxCallIdentifier m usages callIds
    · simp only [CircuitSlots.perform, allocateCircuitWithAllocatorDuplexAvoiding, hn]
      exact .of_none (Nat.le_succ_of_le (passed_le occupied hle hpassed)) (.refl _) (fun _ => rfl)
    · obtain ⟨r, m', alloc', hr, hadds, hid, hsame⟩ :=
        (m.atCounts usages (callIds + passed + 1)).allocateCircuitForCallWithAllocator_spec
          (1 + (callIds + passed) % 16383) dir commType simplexDuplex alloc owner
      simp only [CircuitSlots.perform, allocateCircuitWithAllocatorDuplexAvoiding, hn, hr]
      rw [getNextUsageNumber_atCounts] at hadds
      refine ⟨⟨1, Nat.le_refl _, passed + 1, Nat.succ_le_succ (passed_le occupied hle hpassed),
        hadds, fun c hc => ?_⟩, fun c hc req hreq => ?_,
        fun hfit hnone _ => hsame hnone (hfit _ rfl)⟩
      · obtain ⟨husage, hcall, -⟩ := hid c hc
        have hfree : c.callId ∉ occupied := by simpa [hcall] using hfree
        exact ⟨rfl, husage, .inr ⟨rfl, hfree, passed, rfl, hcall⟩⟩
      · cases hreq
        exact (hid c hc).2.2
  | allocateForCall callId dir commType simplexDuplex owner =>
    obtain ⟨r, m', alloc', hr, hadds, hid, hsame⟩ :=
      (m.atCounts usages callIds).allocateCircuitForCallWithAllocator_spec callId dir commType
        simplexDuplex alloc owner
    simp only [CircuitSlots.perform, hr]
    rw [getNextUsageNumber_atCounts] at hadds
    refine ⟨⟨1, Nat.le_refl _, 0, Nat.le_refl _, hadds, fun c hc => ?_⟩, fun c hc req hreq => ?_,
      fun hfit hnone _ => hsame hnone (hfit _ rfl)⟩
    · obtain ⟨husage, hcall, -⟩ := hid c hc
      exact ⟨rfl, husage, .inl (congrArg some hcall.symm)⟩
    · cases hreq
      exact (hid c hc).2.2
  | close dir => exact .of_none (Nat.zero_le _) (.close (.refl _) dir _) (fun _ => rfl)
  | tick dltime => exact .of_none (Nat.zero_le _) (tickStart_adds _ dltime) (fun _ => rfl)
  | others alloc =>
    exact .of_none (Nat.zero_le _) (.refl _) (fun hne => absurd rfl (hne alloc))

namespace TrackedSlots

variable {s s' : TrackedSlots}

/-- The numbers that the active circuits carry are as far behind the counters as the history
says. -/
def Tracked (usages callIds : Nat) (s : TrackedSlots) : Prop :=
  s.circuits = s.circuits.atCounts usages callIds ∧ ∀ p, ∀ c ∈ s.circuits.circuitAt p,
    (∃ n < usages, c.usage = 4 + n % 60 ∧ usages ≤ n + 1 + (s.since p).1) ∧
      ∀ k ∈ (s.since p).2, ∃ n < callIds, c.callId = 1 + n % 16383 ∧ callIds ≤ n + 1 + k

theorem Tracked.performed (h : Tracked usages callIds s) (op : CircuitOp) :
    Performed usages callIds s.toCircuitSlots op (s.perform op).1 (s.perform op).2 := by
  have hs : s.toCircuitSlots = ⟨s.circuits.atCounts usages callIds, s.alloc⟩ :=
    congrArg (fun m => (⟨m, s.alloc⟩ : CircuitSlots)) h.1
  rw [hs]
  exact perform_spec ..

theorem Tracked.step (h : Tracked usages callIds s) (hs : s.step op = some s') :
    ∃ usages callIds, Tracked usages callIds s' := by
  cases hs
  obtain ⟨u, hu, k, hk, hadds, hopened⟩ := (h.performed op).drawn
  refine ⟨usages + u, callIds + k, hadds.counts, fun p c hc => ?_⟩
  rcases hadds.circuits p c hc with ⟨hc, hother⟩ | ⟨hr, hat⟩
  · have hsince : s.sinceAfter op (s.perform op).1 p =
        ((s.since p).1 + op.usages, (s.since p).2.map (· + op.callIds)) :=
      if_neg (fun ⟨c, hr, hat⟩ => hother c hr hat)
    obtain ⟨⟨n, hn, husage, hle⟩, hids⟩ := h.2 p c hc
    simp only [hsince]
    refine ⟨⟨n, by omega, husage, by omega⟩, fun i hi => ?_⟩
    obtain ⟨j, hj, rfl⟩ := Option.mem_map.mp hi
    obtain ⟨n, hn, hid, hle⟩ := hids j hj
    exact ⟨n, by omega, hid, by omega⟩
  · have hsince : s.sinceAfter op (s.perform op).1 p =
        (0, if op.forCall.isSome then none else some 0) := if_pos ⟨c, hr, hat⟩
    obtain ⟨rfl, husage, hcall⟩ := hopened c hr
    simp only [hsince]
    refine ⟨⟨usages, by omega, husage, by omega⟩, fun i hi => ?_⟩
    rcases hcall with hcall | ⟨hnone, -, j, rfl, hid⟩
    · simp [hcall] at hi
    · simp only [hnone, Option.isSome_none, Bool.false_eq_true, if_false, Option.mem_some_iff] at hi
      subst hi
      exact ⟨callIds + j, by omega, hid, by omega⟩

/-- A new circuit does not carry the usage number of an active one. -/
theorem Tracked.usage_ne (h : Tracked usages callIds s) (hf : s.Fresh op)
    (hc : c ∈ s.circuits.circuitAt p) (hd : d ∈ (s.perform op).1) : c.usage ≠ d.usage := by
  obtain ⟨u, hu, k, hk, -, hopened⟩ := (h.performed op).drawn
  obtain ⟨rfl, husage, -⟩ := hopened d hd
  obtain ⟨⟨n, hn, hcu, hle⟩, -⟩ := h.2 p c hc
  have hlt := (hf.1 hu p c hc).1
  omega

/-- Nor its call identifier, unless it is for that call. -/
theorem Tracked.forCall_of_eq (h : Tracked usages callIds s) (hf : s.Fresh op)
    (hc : c ∈ s.circuits.circuitAt p) (hd : d ∈ (s.perform op).1) (heq : c.callId = d.callId) :
    op.forCall = some d.callId := by
  obtain ⟨u, hu, k, hk, -, hopened⟩ := (h.performed op).drawn
  obtain ⟨rfl, -, hcall | ⟨hnone, hfree, j, rfl, hcall⟩⟩ := hopened d hd
  · exact hcall
  · obtain hocc | ⟨i, hi, hlt⟩ := (hf.1 hu p c hc).2 hnone
    · exact absurd (heq ▸ hocc) hfree
    · obtain ⟨n, hn, hid, hle⟩ := (h.2 p c hc).2 i hi
      omega

theorem Tracked.usagesDiffer (h : Tracked usages callIds s) (hf : s.Fresh op)
    (hu : UsagesDiffer s.circuits) : UsagesDiffer (s.perform op).2.circuits := by
  obtain ⟨_, -, _, -, hadds, -⟩ := (h.performed op).drawn
  intro p q hpq c hc d hd
  rcases hadds.pair hc hd hpq with ⟨hc, hd⟩ | ⟨hc, hd⟩ | ⟨hd, hc⟩
  · exact hu p q hpq c hc d hd
  · exact h.usage_ne hf hc hd
  · exact (h.usage_ne hf hd hc).symm

/-- A call identifier is shared anew only by a circuit for that call. -/
theorem Tracked.shared (h : Tracked usages callIds s) (hf : s.Fresh op) (hpq : p ≠ q)
    (hc : c ∈ (s.perform op).2.circuits.circuitAt p)
    (hd : d ∈ (s.perform op).2.circuits.circuitAt q) (heq : c.callId = d.callId) :
    c ∈ s.circuits.circuitAt p ∧ d ∈ s.circuits.circuitAt q ∨ op.forCall = some c.callId := by
  obtain ⟨_, -, _, -, hadds, -⟩ := (h.performed op).drawn
  rcases hadds.pair hc hd hpq with hold | ⟨hc, hd⟩ | ⟨hd, hc⟩
  · exact .inl hold
  · rw [heq]
    exact .inr (h.forCall_of_eq hf hc hd heq)
  · exact .inr (h.forCall_of_eq hf hd hc heq.symm)

theorem run_tracked (h : Along step Fresh new ops) (hr : run step new ops = some s) :
    UsagesDiffer s.circuits ∧ ∃ usages callIds, Tracked usages callIds s := by
  refine run_invariant
    (P := fun s => UsagesDiffer s.circuits ∧ ∃ usages callIds, Tracked usages callIds s) ?_ ?_ h hr
  · rintro s op s' ⟨hu, _, _, ht⟩ hf hs
    refine ⟨?_, ht.step hs⟩
    cases hs
    exact ht.usagesDiffer hf hu
  · refine ⟨?_, 0, 3, rfl, ?_⟩
    · rintro ⟨side, i⟩ q - c hc
      cases side <;> cases hc
    · rintro ⟨side, i⟩ c hc
      cases side <;> cases hc

/-- Where every step is fresh, active circuits carry different usage numbers, a call identifier is
shared anew only by a circuit opened for that call, a circuit from the allocator is on a slot of its
requester, and an allocation that fails leaves the owners of all slots alone. -/
theorem circuits_kept_apart (ops : List CircuitOp) (op : CircuitOp)
    (h : Along step Fresh new (ops ++ [op])) :
    ∃ s r s', run step new ops = some s ∧ s.perform op = (r, s') ∧ UsagesDiffer s'.circuits ∧
      (∀ p q, p ≠ q → ∀ c ∈ s'.circuits.circuitAt p, ∀ d ∈ s'.circuits.circuitAt q,
        c.callId = d.callId → c ∈ s.circuits.circuitAt p ∧ d ∈ s.circuits.circuitAt q ∨
          op.forCall = some c.callId) ∧
      (∀ c ∈ r, ∀ req ∈ op.request, s'.alloc.owners c.ts = some req.1) ∧
      (r = none → (∀ alloc, op ≠ .others alloc) → s'.alloc = s.alloc) := by
  obtain ⟨s, hr, -⟩ : ∃ s, run step new ops = some s ∧ True :=
    run_total (P := fun _ => True) (fun s op _ _ => ⟨_, rfl, trivial⟩) trivial
      (Along.of_forall (p := fun _ => True) fun _ _ => trivial)
  obtain ⟨hops, hop⟩ := h.append hr
  obtain ⟨hu, _, _, ht⟩ := run_tracked hops hr
  have hp := ht.performed op
  exact ⟨s, _, _, hr, rfl, ht.usagesDiffer hop.1 hu,
    fun p q hpq c hc d hd heq => ht.shared hop.1 hpq hc hd heq, hp.owned, hp.failed hop.1.2⟩

/-- A call with a leg for either party. -/
theorem duplexCall_kept_apart :
    ∃ s r s', run step new [.allocateWithAllocator .both .p2p true .cmce []] =
        some s ∧ s.perform (.allocateForCall 4 .both .p2p true .cmce) = (r, s') ∧
      UsagesDiffer s'.circuits := by
  obtain ⟨s, r, s', hr, hp, hu, -⟩ := circuits_kept_apart
    [.allocateWithAllocator .both .p2p true .cmce []]
    (.allocateForCall 4 .both .p2p true .cmce) (by decide +kernel)
  exact ⟨s, r, s', hr, hp, hu⟩

/-- An allocation that fails takes slot 2 from packet data. And a number comes round: after 59
allocations in vain the next circuit carries that of the one still open. -/
theorem circuits_collide :
    (∃ s, run step new [.allocate .both .p2p false,
        .others (((TimeslotAllocator.empty.reserve .packetData 2).reserve .brew 3).reserve .brew 4)] =
        some s ∧ s.alloc.owners 2 = some .packetData ∧
      (s.perform (.allocateForCall 5 .both .p2p false .cmce)).1 = none ∧
      (s.perform (.allocateForCall 5 .both .p2p false .cmce)).2.alloc.owners 2 = none) ∧
    ∃ s, run step new (
        [.allocate .both .p2p false, .others ⟨fun _ => some .brew⟩] ++
        List.replicate 59 (.allocateForCall 5 .both .p2p false .cmce) ++
        [.others .empty, .allocateForCall 5 .both .p2p false .cmce]) = some s ∧
      (s.circuits.circuitAt (true, 1)).map (·.usage) = some 4 ∧
      (s.circuits.circuitAt (true, 2)).map (·.usage) = some 4 := by
  exact ⟨⟨_, rfl, by decide +kernel, by decide +kernel, by decide +kernel⟩,
    ⟨_, rfl, by decide +kernel, by decide +kernel⟩⟩

end TrackedSlots
end NexusBs.Cc
