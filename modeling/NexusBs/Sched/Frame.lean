import NexusBs.Sched.Run

namespace NexusBs
open SchedQueue List Option

/-- Requests that touch nothing but the queues and what belongs to them. -/
def SchedOp.queuesOnly : SchedOp → Bool
  | .createCircuit .. | .closeCircuit .. | .clearDlMediaQueue _ | .clearDlMediaQueueExceptSource ..
  | .dlScheduleTmd .. | .setHangtime .. | .setSystemWideServicesState _ | .ulProcessCapReq ..
  | .nextSlot _ => false
  | _ => true

def releaseElem (a : PacketDataAssignment) : DlSchedElem :=
  .resource (packetDataRelease a) (BitBuffer.new 0) none none

/-- A property of elements for each queue, that of the next frame under `none`. -/
abbrev QueueProp := Option Nat → DlSchedElem → Prop

/-- Properties of queued elements and of assignments that the scheduler's own
queue handling keeps. -/
structure QueueLaws (P : QueueProp) (A : PacketDataAssignment → Prop) : Prop where
  merge : ∀ i e x y, P i e → P i x → coalesceInto e x = some y → P i y
  release : ∀ a, A a → P (some 0) (releaseElem a)

theorem QueueLaws.push (hl : QueueLaws P A) (hq : ∀ x ∈ q, P i x) (he : P i e) (cap : Nat) :
    ∀ x ∈ SchedQueue.push cap q e, P i x := by
  intro x hx
  rcases mem_push hx with hx | rfl | ⟨y, hy, hyx⟩
  · exact hq x hx
  · exact he
  · exact hl.merge i e y x he (hq y hy) hyx

theorem QueueLaws.any : QueueLaws (fun _ _ => True) (fun _ => True) :=
  ⟨fun _ _ _ _ _ _ _ => trivial, fun _ _ => trivial⟩

namespace BsChannelScheduler

/-- At most what is queued, acknowledged or given to packet data differs. -/
def SameButQueues (s s' : BsChannelScheduler) : Prop :=
  ∃ q n a r c l m, s' = { s with
    dltxQueues := q
    dltxNextSlotQueue := n
    packetDataAssignments := a
    pendingRaAcks := r
    packetDataDownlinkCursor := c
    packetDataAllocatorLossEvents := l
    mcchChanAllocSentThisFrame := m }

theorem SameButQueues.trans (h : SameButQueues s1 s2) (h' : SameButQueues s2 s3) :
    SameButQueues s1 s3 := by
  obtain ⟨q, n, a, r, c, l, m, rfl⟩ := h
  obtain ⟨q', n', a', r', c', l', m', rfl⟩ := h'
  exact ⟨q', n', a', r', c', l', m', rfl⟩

/-- Every queued element and every packet data assignment has its property. -/
structure Stocked (P : QueueProp) (A : PacketDataAssignment → Prop) (s : BsChannelScheduler) :
    Prop where
  slots : ∀ slot, ∀ e ∈ s.dltxQueues slot, P (some slot) e
  next : ∀ e ∈ s.dltxNextSlotQueue, P none e
  assigned : ∀ slot a, s.packetDataAssignments slot = some a → A a

variable {o : Prop} {P : QueueProp} {A : PacketDataAssignment → Prop}

theorem Stocked.new (scr : Nat) (p : PrecomputedUmacPdus) (t : TdmaTime) :
    Stocked P A (.new scr p t) where
  slots := fun _ _ h => nomatch h
  next := fun _ h => nomatch h
  assigned := fun _ _ h => nomatch h

theorem Stocked.of_same {s s' : BsChannelScheduler} (h : Stocked P A s)
    (hq : s'.dltxQueues = s.dltxQueues) (hn : s'.dltxNextSlotQueue = s.dltxNextSlotQueue)
    (ha : s'.packetDataAssignments = s.packetDataAssignments) : Stocked P A s' where
  slots := hq ▸ h.slots
  next := hn ▸ h.next
  assigned := ha ▸ h.assigned

/-- Queue handling: nothing but the queues and what belongs to them changes, the assignments only
where `o` allows it, and what is queued and assigned keeps its property. -/
structure Tidies (o : Prop) (P : QueueProp) (A : PacketDataAssignment → Prop)
    (s s' : BsChannelScheduler) : Prop where
  frame : SameButQueues s s'
  assigned : o ∨ s'.packetDataAssignments = s.packetDataAssignments
  stock : Stocked P A s → Stocked P A s'

theorem Tidies.refl (s : BsChannelScheduler) : Tidies o P A s s :=
  ⟨⟨_, _, _, _, _, _, _, rfl⟩, .inr rfl, fun h => h⟩

theorem Tidies.trans (h : Tidies o P A s1 s2) (h' : Tidies o P A s2 s3) : Tidies o P A s1 s3 where
  frame := h.frame.trans h'.frame
  assigned := by
    rcases h.assigned with ho | h1
    · exact .inl ho
    · exact h'.assigned.imp_right (fun h2 => h2.trans h1)
  stock hs := h'.stock (h.stock hs)

variable {s s' s1 : BsChannelScheduler}

theorem Tidies.setQueue (h : Tidies o P A s s1) (slot : Nat)
    (hq : Stocked P A s → Stocked P A s1 → ∀ e ∈ q, P (some slot) e) :
    Tidies o P A s (s1.setQueue slot q) := by
  refine ⟨h.frame.trans ⟨_, _, _, _, _, _, _, rfl⟩, h.assigned, fun hs => ?_⟩
  have h1 := h.stock hs
  refine ⟨?_, h1.next, h1.assigned⟩
  intro slot' e he
  by_cases heq : slot' = slot
  · subst heq
    rw [setQueue_self] at he
    exact hq hs h1 e he
  · rw [setQueue_of_ne s1 q heq] at he
    exact h1.slots slot' e he

theorem Tidies.push (hl : QueueLaws P A) (h : Tidies o P A s s1)
    (he : Stocked P A s → P (some slot) e) (cap : Nat) :
    Tidies o P A s (s1.pushSchedQueueWithCap slot e cap) :=
  h.setQueue slot (fun hs h1 => hl.push (h1.slots slot) (he hs) cap)

/-- An element is queued for a timeslot, if there is such a timeslot. -/
theorem Tidies.enqueue (hl : QueueLaws P A) (he : ∀ slot, P (some slot) e) :
    Tidies o P A s (match dlSlotIndex ts with
      | none => s
      | some slot => s.pushSchedQueueWithCap slot e cap) := by
  split
  · exact .refl s
  · exact (Tidies.refl s).push hl (fun _ => he _) cap

theorem Tidies.setNextSlotQueue (h : Tidies o P A s s1)
    (hq : Stocked P A s → Stocked P A s1 → ∀ e ∈ q, P none e) :
    Tidies o P A s (s1.setNextSlotQueue q) :=
  ⟨h.frame.trans ⟨_, _, _, _, _, _, _, rfl⟩, h.assigned, fun hs =>
    have h1 := h.stock hs
    ⟨h1.slots, hq hs h1, h1.assigned⟩⟩

theorem Tidies.pushNext (hl : QueueLaws P A) (h : Tidies o P A s s1) (he : Stocked P A s → P none e) :
    Tidies o P A s (s1.pushNextSlotQueueBounded e) :=
  h.setNextSlotQueue (fun hs h1 => hl.push h1.next (he hs) maxDlschedNextSlotElems)

theorem Tidies.purge (h : Tidies o P A s s1) (p : DlSchedElem → Bool) :
    Tidies o P A s (s1.purgeQueues p) :=
  ⟨h.frame.trans ⟨_, _, _, _, _, _, _, rfl⟩, h.assigned, fun hs =>
    have h1 := h.stock hs
    ⟨fun slot e he => h1.slots slot e (mem_filter.mp he).1,
      fun e he => h1.next e (mem_filter.mp he).1, h1.assigned⟩⟩

theorem Tidies.assign (ho : o) (h : Tidies o P A s s1) (slot : Nat) (ha : ∀ x, a = some x → A x) :
    Tidies o P A s (s1.setAssignment slot a) := by
  refine ⟨h.frame.trans ⟨_, _, _, _, _, _, _, rfl⟩, .inl ho, fun hs => ?_⟩
  have h1 := h.stock hs
  refine ⟨h1.slots, h1.next, ?_⟩
  intro slot' x hx
  rw [setAssignment] at hx
  dsimp only at hx
  by_cases heq : slot' = slot
  · rw [heq, Function.update_self] at hx
    exact ha x hx
  · rw [Function.update_of_ne heq] at hx
    exact h1.assigned slot' x hx

theorem Tidies.clear (ho : o) (h : Tidies o P A s s1) (slot : Nat) :
    Tidies o P A s (s1.setAssignment slot none) := h.assign ho slot (fun _ hx => nomatch hx)

theorem Tidies.notes (h : Tidies o P A s s1) (r : Nat → List TetraAddress) (c : Nat)
    (l : List TetraAddress) (m : Bool) :
    Tidies o P A s { s1 with
      pendingRaAcks := r
      packetDataDownlinkCursor := c
      packetDataAllocatorLossEvents := l
      mcchChanAllocSentThisFrame := m } :=
  ⟨h.frame.trans ⟨_, _, _, _, _, _, _, rfl⟩, h.assigned, fun hs =>
    (h.stock hs).of_same rfl rfl rfl⟩

variable (s)

theorem dropAssignments_tidies (ho : o) (p : PacketDataAssignment → Bool) (l : List Nat)
    (alloc : Option TimeslotAllocator) : Tidies o P A s (dropAssignments p l s alloc).1 := by
  induction l generalizing s alloc with
  | nil => exact .refl s
  | cons ts rest ih =>
    rw [dropAssignments]
    split
    · exact ((Tidies.refl s).clear ho _).trans (ih _ _)
    · exact ih s alloc

theorem assignPlanned_tidies (ho : o) (addr : TetraAddress) (planned : Timeslots) (ha : A a)
    (l : List Nat) (alloc : Option TimeslotAllocator) :
    Tidies o P A s (assignPlanned addr planned a l s alloc).1 := by
  induction l generalizing s alloc with
  | nil => exact .refl s
  | cons ts rest ih =>
    rw [assignPlanned]
    have hset : Tidies o P A s (s.setAssignment (ts - 1) (some a)) := by
      refine (Tidies.refl s).assign ho _ ?_
      intro x hx
      cases hx
      exact ha
    have hclear := (Tidies.refl (P := P) (A := A) s).clear ho (ts - 1)
    split
    · dsimp only
      split
      · split
        · exact hset.trans (ih _ _)
        · exact hclear.trans (ih _ _)
      · exact hclear.trans (ih _ _)
    · split
      · exact hclear.trans (ih _ _)
      · exact ih s alloc

/-- The assignments a sent channel allocation can make. -/
def PacketDataAssignmentUpdate.Makes (A : PacketDataAssignment → Prop) :
    PacketDataAssignmentUpdate → Prop
  | .replace addr _ ulDl carrier | .additional addr _ ulDl carrier =>
    ∀ t, A ⟨addr, ulDl, carrier, t⟩
  | .quitAndGo _ => True

theorem applyUpdate_tidies (ho : o) (hu : PacketDataAssignmentUpdate.Makes A u) (now : TdmaTime)
    (alloc : Option TimeslotAllocator) :
    Tidies o P A s (s.applyPacketDataAssignmentUpdate u now alloc).1 := by
  cases u with
  | replace addr | additional addr => exact assignPlanned_tidies s ho addr _ (hu _) _ alloc
  | quitAndGo => exact dropAssignments_tidies s ho _ _ alloc

theorem storePendingRaAck_tidies : Tidies o P A s (s.storePendingRaAck slot addr) := by
  unfold storePendingRaAck
  dsimp only
  split
  · exact .refl s
  · exact (Tidies.refl s).notes _ _ _ _

theorem dlDropAllExceptStolen_tidies (ts : Nat) : Tidies o P A s (s.dlDropAllExceptStolen ts) := by
  unfold dlDropAllExceptStolen
  split
  · exact .refl s
  rename_i slot _
  dsimp only
  generalize List.filterMap _ _ = acks
  have ht : ∀ acks : List TetraAddress,
      Tidies o P A s (acks.foldl (fun s addr => s.storePendingRaAck slot addr) s) := by
    intro acks
    induction acks generalizing s with
    | nil => exact .refl s
    | cons a acks ih => exact (storePendingRaAck_tidies s).trans (ih _)
  refine (ht acks).setQueue slot ?_
  intro h _ e he
  exact h.slots slot e (mem_filter.mp he).1

theorem setHangtime_tidies (ts : Nat) (active : Bool) :
    Tidies o P A
      { s with
        hangtime := if isTimeslot ts then Function.update s.hangtime (ts - 1) active else s.hangtime }
      (s.setHangtime ts active) := by
  unfold setHangtime
  split
  · dsimp only
    split
    · exact .refl _
    · exact dlDropAllExceptStolen_tidies _ ts
  · exact .refl s

theorem downlinkTimeslot_notes (pdu : MacResource) (sdu : BitBuffer)
    (ackGrant : Option (TetraAddress × ReservationRequirement)) :
    ∃ n, (s.downlinkTimeslot pdu sdu ackGrant).2 = { s with packetDataDownlinkCursor := n } := by
  unfold downlinkTimeslot packetDataDownlinkTimeslotForResource
  split
  · dsimp only
    split
    · split
      · exact ⟨_, rfl⟩
      split
      · exact ⟨_, rfl⟩
      split
      · exact ⟨_, rfl⟩
      · exact ⟨_, rfl⟩
    · exact ⟨_, rfl⟩
  · exact ⟨_, rfl⟩

theorem takePendingRaAckForStch_tidies (ts : Nat) (addr : TetraAddress) (alloc : Bool) :
    Tidies o P A s (s.takePendingRaAckForStch ts addr alloc).2 := by
  unfold takePendingRaAckForStch takePendingRaAck
  split
  · exact .refl s
  split
  · exact .refl s
  split
  · dsimp only
    split
    · exact (Tidies.refl s).notes _ _ _ _
    · exact .refl s
  · exact .refl s

theorem takePendingOrReadyRaAckForStch_tidies :
    Tidies o P A s (s.takePendingOrReadyRaAckForStch ts addr alloc).2 := by
  have h := takePendingRaAckForStch_tidies (o := o) (P := P) (A := A) s ts addr alloc
  unfold takePendingOrReadyRaAckForStch
  split
  · rename_i heq
    rw [heq] at h
    exact h
  rename_i heq
  rw [heq] at h
  split
  · exact h
  dsimp only
  split
  · split
    · exact h.setQueue _ (fun _ h e he => h.slots _ e (mem_of_mem_erase he))
    · exact h
  · exact h

theorem dlTakeAllReadyGrantsAndAcks_frame (ts : TdmaTime) (env : SlotEnv) :
    SameButQueues s (s.dlTakeAllReadyGrantsAndAcks ts env).2 := by
  unfold dlTakeAllReadyGrantsAndAcks
  split
  · exact ⟨_, _, _, _, _, _, _, rfl⟩
  · exact ⟨_, _, _, _, _, _, _, rfl⟩

/-- What the pruning of group repeats does not take away. -/
def PruneLaw (P : QueueProp) : Prop :=
  ∀ i subscribers es e e', P i e → pruneGroupState subscribers es e = some e' → P i e'

theorem prune_tidies (hp : PruneLaw P) (slot : Nat) (subscribers : SubscriberRegistry)
    (es : EnergySaving) :
    Tidies o P A s (s.pruneCompletedStaleGroupStatesForSlot slot subscribers es) := by
  refine (Tidies.refl s).setQueue slot (fun h _ e he => ?_)
  obtain ⟨x, hx, hxe⟩ := mem_filterMap.mp he
  exact hp _ subscribers es x e (h.slots slot x hx) hxe

theorem dlTakePrioritizedSchedItem_tidies (hp : PruneLaw P) (ts : TdmaTime)
    (subscribers : SubscriberRegistry) (es : EnergySaving) (cache : GroupReadinessCache) :
    Tidies o P A s (s.dlTakePrioritizedSchedItem ts subscribers es cache).2.1 ∧
      (Stocked P A s → ∀ x, (s.dlTakePrioritizedSchedItem ts subscribers es cache).1 = some x →
        P (some (ts.t - 1)) x) := by
  unfold dlTakePrioritizedSchedItem
  split
  · exact ⟨.refl s, fun _ _ hx => nomatch hx⟩
  have hs := prune_tidies (o := o) (A := A) s hp (ts.t - 1) subscribers es
  dsimp only
  split
  · refine ⟨hs.setQueue _ (fun _ h e he => h.slots _ e (mem_of_mem_eraseIdx he)), ?_⟩
    exact fun h x hx => (hs.stock h).slots _ x (List.mem_of_getElem? hx)
  · exact ⟨hs, fun _ _ hx => nomatch hx⟩

theorem mergeNextSlotQueue_tidies (hnext : ∀ e, P none e → P (some slot) e) :
    Tidies o P A s (s.mergeNextSlotQueue slot) := by
  unfold mergeNextSlotQueue
  split
  · exact .refl s
  have hempty : Tidies o P A s (s.setNextSlotQueue []) :=
    (Tidies.refl s).setNextSlotQueue (fun _ _ _ he => nomatch he)
  refine hempty.setQueue slot ?_
  intro h _ e he
  rcases mem_append.mp ((enforceSchedQueueCap_sublist _ _).subset he) with he | he
  · exact hnext e (h.next e he)
  · exact h.slots slot e he

section Laws

variable (hl : QueueLaws P A)
include hl

/-- What giving up an assignment does: purge, forget, announce. -/
theorem release_tidies (ho : o) (p p' : DlSchedElem → Bool)
    (ha : s.packetDataAssignments slot = some a) :
    Tidies o P A s ((((s.purgeQueues p).purgeQueues p').setAssignment slot
      none).queuePacketDataCommonControlRelease a) := by
  have hp : Tidies o P A s (((s.purgeQueues p).purgeQueues p').setAssignment slot none) :=
    (((Tidies.refl s).purge p).purge p').clear ho slot
  exact hp.push hl (fun h => hl.release a (h.assigned slot a ha)) _

theorem clearPacketDataAssignmentForSlot_tidies (ho : o) (ts : Nat)
    (alloc : Option TimeslotAllocator) :
    Tidies o P A s (s.clearPacketDataAssignmentForSlot ts alloc).2.1 := by
  unfold clearPacketDataAssignmentForSlot
  split
  · exact .refl s
  split
  · exact .refl s
  · rename_i ha
    exact release_tidies s hl ho _ _ ha

theorem syncPacketDataAssignments_tidies (ho : o) (l : List Nat) (alloc : Option TimeslotAllocator) :
    Tidies o P A s (syncPacketDataAssignmentsWithAllocator l s alloc).1 := by
  induction l generalizing s alloc with
  | nil => exact .refl s
  | cons ts rest ih =>
    rw [syncPacketDataAssignmentsWithAllocator]
    split
    · have hc := clearPacketDataAssignmentForSlot_tidies s hl ho ts alloc
      split
      · rename_i heq
        rw [heq] at hc
        refine hc.trans (.trans ?_ (ih _ _))
        exact (Tidies.refl _).notes _ _ _ _
      rename_i heq
      rw [heq] at hc
      exact hc.trans (ih _ _)
    · exact ih s alloc

/-- What preparing a slot changes: the queues, and the stamps of the broadcast PDUs. -/
theorem prepareSlot_tidies (ho : o) (ts : TdmaTime) (alloc : Option TimeslotAllocator) :
    Tidies o P A (s.stampPrecomps ts) (s.prepareSlot ts alloc).1 := by
  have h0 : Tidies o P A (s.stampPrecomps ts)
      ((if ts.t = 1 then { s with mcchChanAllocSentThisFrame := false } else s).stampPrecomps ts) := by
    split
    · exact (Tidies.refl _).notes _ _ _ _
    · exact .refl _
  unfold prepareSlot expirePacketDataAssignments
  dsimp only
  refine h0.trans (.trans ?_ (dropAssignments_tidies _ ho _ _ _))
  exact syncPacketDataAssignments_tidies _ hl ho _ alloc

theorem dropAfterWaitBudget_tidies (ho : o) :
    Tidies o P A s (s.dropAfterWaitBudget addr origin) := by
  unfold dropAfterWaitBudget
  split
  · exact .refl s
  split
  · exact .refl s
  rename_i ha
  split
  · exact release_tidies s hl ho _ _ ha
  · exact .refl s

theorem dlEnqueueTmaInner_tidies
    (hp : ∀ pdu' i, s.adaptPacketDataChannelAllocationForVoicePriority pdu sdu none = some pdu' →
      P i (.resource pdu' sdu tx none))
    (hg : ∀ addr r i, ackGrant = some (addr, r) → P i (.pendingGrant addr (.new r) .commonControl)) :
    Tidies o P A s (s.dlEnqueueTmaInner pdu sdu tx ackGrant) := by
  unfold dlEnqueueTmaInner
  split
  · exact .refl s
  rename_i pdu' hadapt
  obtain ⟨n, hn⟩ := downlinkTimeslot_notes s pdu' sdu ackGrant
  dsimp only
  rw [hn]
  split
  · have hnext : Tidies o P A s (pushNextSlotQueueBounded { s with packetDataDownlinkCursor := n }
        (.resource pdu' sdu tx none)) :=
      ((Tidies.refl s).notes _ _ _ _).pushNext hl (fun _ => hp pdu' _ hadapt)
    cases ackGrant with
    | none => exact hnext
    | some g => exact hnext.pushNext hl (fun _ => hg g.1 g.2 _ rfl)
  have hpush : ∀ m, Tidies o P A s (pushSchedQueueBounded
      { s with packetDataDownlinkCursor := n, mcchChanAllocSentThisFrame := m }
      ((s.downlinkTimeslot pdu' sdu ackGrant).1 - 1) (.resource pdu' sdu tx none)) :=
    fun m => ((Tidies.refl s).notes _ _ _ _).push hl (fun _ => hp pdu' _ hadapt) _
  cases ackGrant with
  | none => exact hpush _
  | some g => exact (hpush _).push hl (fun _ => hg g.1 g.2 _ rfl) _

end Laws

/-- What a stolen block may be queued as again. -/
def StealLaw (P : QueueProp) : Prop :=
  ∀ i block addr tx g tx' g', P i (.stealing block addr tx g) → P i (.stealing block addr tx' g')

/-- A stolen block is queued again for the same timeslot, or not at all. -/
theorem stealToGroup_cases (ts : TdmaTime) : (s.stealToGroup ts env block addr tx group).1 = s ∨
      ∃ tx' g', (s.stealToGroup ts env block addr tx group).1 =
        s.pushSchedQueueBounded (ts.t - 1) (.stealing block addr tx' g') := by
  have hreq : ∀ g, s.dlRequeueGroupStealing ts.t block addr g = s ∨
      s.dlRequeueGroupStealing ts.t block addr g =
        s.pushSchedQueueBounded (ts.t - 1) (.stealing block addr g.txReporter (some g)) := by
    intro g
    unfold dlRequeueGroupStealing dlSlotIndex
    split
    · exact .inl rfl
    rename_i slot hslot
    split at hslot
    · cases hslot
      exact .inr rfl
    · cases hslot
  unfold stealToGroup
  dsimp only
  repeat' split
  all_goals first
    | exact .inl rfl
    | exact (hreq _).imp_right (fun h => ⟨_, _, h⟩)

/-- What an operation puts into the queues has the property. -/
def Brings (P : DlSchedElem → Prop) (s : BsChannelScheduler) : SchedOp → Prop
  | .dlEnqueueGrant _ addr g m => P (.grant addr g m)
  | .dlEnqueueReservationGrant _ addr r => P (.pendingGrant addr (.new r) .commonControl)
  | .dlEnqueuePacketDataReservationGrant ts addr r => P (.pendingGrant addr (.new r) (.packetData ts))
  | .dlEnqueueRandomAccessAck _ addr => P (.randomAccessAck addr)
  | .dlEnqueueTma pdu sdu tx ackGrant =>
    (∀ pdu', s.adaptPacketDataChannelAllocationForVoicePriority pdu sdu none = some pdu' →
      P (.resource pdu' sdu tx none)) ∧
    ∀ addr r, ackGrant = some (addr, r) → P (.pendingGrant addr (.new r) .commonControl)
  | .dlEnqueueTmaNextFrame pdu sdu tx => P (.resource pdu sdu tx none)
  | .dlEnqueueStealing _ block addr tx => P (.stealing block addr tx none)
  | .nextSlot _ => False
  | _ => True

variable {s}

theorem step_tidies {P : DlSchedElem → Prop} (hl : QueueLaws (fun _ => P) A) {op : SchedOp}
    (ho : op.queuesOnly = true) (hb : Brings P s op) (hs : s.step op = some s') :
    Tidies o (fun _ => P) A s s' := by
  cases op with
  | dlEnqueueGrant | dlEnqueueReservationGrant | dlEnqueuePacketDataReservationGrant
  | dlEnqueueRandomAccessAck | dlEnqueueStealing =>
    cases hs
    exact .enqueue hl (fun _ => hb)
  | dlEnqueueTma =>
    cases hs
    exact dlEnqueueTmaInner_tidies s hl (fun pdu' _ => hb.1 pdu') (fun a r _ => hb.2 a r)
  | dlEnqueueTmaNextFrame =>
    cases hs
    exact (Tidies.refl s).pushNext hl (fun _ => hb)
  | takePendingRaAckForStch ts addr alloc =>
    cases hs
    exact takePendingRaAckForStch_tidies s ts addr alloc
  | takePendingOrReadyRaAckForStch ts addr alloc =>
    cases hs
    exact takePendingOrReadyRaAckForStch_tidies s
  | dlDiscardPendingStealing =>
    cases hs
    unfold dlDiscardPendingStealing
    split
    · exact .refl s
    · exact (Tidies.refl s).setQueue _ (fun h _ e he => h.slots _ e (mem_filter.mp he).1)
  | dlCancelByReporter =>
    cases hs
    exact (Tidies.refl s).purge _
  | dlDropQueuedGssiRepeats =>
    cases hs
    unfold dlDropQueuedGssiRepeats
    split
    · exact .refl s
    · exact (Tidies.refl s).purge _
  | drainPacketDataAllocatorLossEvents =>
    cases hs
    exact (Tidies.refl s).notes _ _ _ _
  | _ => cases ho

/-- A circuit takes its timeslot from packet data and from the uplink reservations. -/
theorem createCircuit_tidies (hl : QueueLaws P A) (ho : o) (dir : Direction) (c : Circuit) :
    s.createCircuit dir c = s ∨ (2 ≤ c.ts ∧ c.ts ≤ 4) ∧
      Tidies o P A
        { s.clearFutureUplink c.ts with
          hangtime := Function.update s.hangtime (c.ts - 1) false
          circuits := s.circuits.createCircuit dir c }
        (s.createCircuit dir c) := by
  unfold createCircuit
  split
  · exact .inl rfl
  rename_i hts
  have ht : 2 ≤ c.ts ∧ c.ts ≤ 4 := by
    simp only [isTimeslot, Bool.and_eq_false_iff, decide_eq_false_iff_not, not_or, not_not] at hts
    omega
  have hq := (dlDropAllExceptStolen_tidies (P := P) (A := A) s c.ts).trans
    (clearPacketDataAssignmentForSlot_tidies (s.dlDropAllExceptStolen c.ts) hl ho c.ts none)
  refine .inr ⟨ht, ?_, .inl ho, fun h => ?_⟩
  · obtain ⟨q, n, a, r, cu, l, m, he⟩ := hq.frame
    dsimp only
    rw [he]
    exact ⟨_, _, _, _, _, _, _, rfl⟩
  · exact (hq.stock (h.of_same rfl rfl rfl)).of_same rfl rfl rfl

/-- A request to the scheduler keeps the queues as they should be. -/
theorem Stocked.step {P : DlSchedElem → Prop} (hl : QueueLaws (fun _ => P) A)
    (h : Stocked (fun _ => P) A s) (hb : Brings P s op)
    (hu : ∀ ts addr r, op ≠ .ulProcessCapReq ts addr r) (hs : s.step op = some s') :
    Stocked (fun _ => P) A s' := by
  by_cases ho : op.queuesOnly = true
  · exact (step_tidies (o := True) hl ho hb hs).stock h
  cases op with
  | nextSlot => exact hb.elim
  | ulProcessCapReq ts addr r => exact absurd rfl (hu ts addr r)
  | setHangtime ts active =>
    cases hs
    exact (setHangtime_tidies (o := True) s ts active).stock (h.of_same rfl rfl rfl)
  | createCircuit dir c =>
    cases hs
    rcases createCircuit_tidies hl trivial dir c with he | ⟨-, ht⟩
    · rw [he]
      exact h
    · exact ht.stock (h.of_same rfl rfl rfl)
  | closeCircuit | clearDlMediaQueue | clearDlMediaQueueExceptSource | dlScheduleTmd
  | setSystemWideServicesState =>
    cases hs
    exact h.of_same rfl rfl rfl
  | _ => exact absurd rfl ho

variable {ts : TdmaTime} {env : SlotEnv} {tch : Option DlTchBlock} {stch : Option BitBuffer}
  {es : EnergySaving}

/-- A traffic slot takes its block out of the media queue, and a stolen block out of the other. -/
theorem dlBuildTrafficBlock_tidies (hl : QueueLaws P A) (hp : PruneLaw P) (hst : StealLaw P)
    (hr : s.dlBuildTrafficBlock ts env = some (tch, stch, s', es)) :
    Tidies o P A { s with circuits := (s.circuits.takeBlock ts.t).2 } s' ∧
      (Stocked P A s → ∀ block, stch = some block →
        ∃ addr tx g, P (some (ts.t - 1)) (.stealing block addr tx g)) := by
  unfold dlBuildTrafficBlock at hr
  generalize s.circuits.takeBlock ts.t = taken at hr ⊢
  obtain ⟨media, circuits⟩ := taken
  dsimp only at hr ⊢
  obtain ⟨tch', -, hr⟩ := map_eq_some_iff.mp hr
  have hprune : Tidies o P A { s with circuits := circuits } (if isTimeslot ts.t then
      pruneCompletedStaleGroupStatesForSlot { s with circuits := circuits } (ts.t - 1)
        env.subscribers env.energySaving
      else { s with circuits := circuits }) := by
    split
    · exact prune_tidies _ hp _ _ _
    · exact .refl _
  generalize (if isTimeslot ts.t = true then _ else _) = s1 at hr hprune
  split at hr
  · rename_i i block addr tx group hsel
    have hmem : Stocked P A s → P (some (ts.t - 1)) (.stealing block addr tx group) := by
      intro h
      obtain ⟨j, -, hj⟩ := bind_eq_some_iff.mp hsel
      obtain ⟨x, hx, hxe⟩ := map_eq_some_iff.mp hj
      cases hxe
      exact (hprune.stock (h.of_same rfl rfl rfl)).slots _ _ (List.mem_of_getElem? hx)
    have hfound : Stocked P A s → ∀ b, some block = some b →
        ∃ addr tx g, P (some (ts.t - 1)) (.stealing b addr tx g) := by
      intro h b hb
      cases hb
      exact ⟨addr, tx, group, hmem h⟩
    have hleft := hprune.setQueue (ts.t - 1)
      (fun _ h e he => h.slots _ e (mem_of_mem_eraseIdx (i := i) he))
    split at hr
    · cases hr
      rcases stealToGroup_cases _ ts with he | ⟨tx', g', he⟩
      · rw [he]
        exact ⟨hleft, hfound⟩
      · rw [he]
        exact ⟨hleft.push hl (fun h => hst _ _ _ _ _ _ _ (hmem (h.of_same rfl rfl rfl))) _, hfound⟩
    · cases hr
      exact ⟨hleft, hfound⟩
  · cases hr
    exact ⟨hprune, fun _ _ hb => nomatch hb⟩

/-! What queue handling leaves alone -/

theorem pushNextSlotQueueBounded_frame (s : BsChannelScheduler) (e : DlSchedElem) :
    SameButQueues s (s.pushNextSlotQueueBounded e) :=
  ((Tidies.refl (o := True) s).pushNext .any (fun _ => trivial)).frame

theorem prepareSlot_frame : SameButQueues (s.stampPrecomps ts) (s.prepareSlot ts alloc).1 :=
  (prepareSlot_tidies s .any trivial ts alloc).frame

theorem setHangtime_frame (s : BsChannelScheduler) (ts : Nat) (active : Bool) :
    SameButQueues
      { s with
        hangtime := if isTimeslot ts then Function.update s.hangtime (ts - 1) active else s.hangtime }
      (s.setHangtime ts active) :=
  (setHangtime_tidies (o := True) (P := fun _ _ => True) (A := fun _ => True) s ts active).frame

theorem dropAfterWaitBudget_frame (s : BsChannelScheduler) (addr : TetraAddress)
    (origin : PendingGrantOrigin) : SameButQueues s (s.dropAfterWaitBudget addr origin) :=
  (dropAfterWaitBudget_tidies s .any trivial).frame

theorem step_frame {op : SchedOp} (ho : op.queuesOnly = true) (hs : s.step op = some s') :
    SameButQueues s s' := by
  have hb : Brings (fun _ => True) s op := by
    cases op <;> first | trivial | exact ⟨fun _ _ => trivial, fun _ _ _ => trivial⟩
  exact (step_tidies (o := True) .any ho hb hs).frame

theorem dlBuildTrafficBlock_frame (h : s.dlBuildTrafficBlock ts env = some (tch, stch, s', es)) :
    SameButQueues { s with circuits := (s.circuits.takeBlock ts.t).2 } s' :=
  (dlBuildTrafficBlock_tidies (o := True) .any (fun _ _ _ _ _ _ _ => trivial)
    (fun _ _ _ _ _ _ _ _ => trivial) h).1.frame

theorem placeGrant_frame (hp : s.placeGrant slot idx e = some (idx', s')) : SameButQueues s s' := by
  unfold placeGrant at hp
  split at hp
  · cases hp
  split at hp
  · split at hp
    · cases hp
      exact ⟨_, _, _, _, _, _, _, rfl⟩
    · cases hp
  dsimp only at hp
  split at hp
  · cases hp
    exact ⟨_, _, _, _, _, _, _, rfl⟩
  · cases hp
    exact ⟨_, _, _, _, _, _, _, rfl⟩

theorem applyUpdate_frame (b : Building) (ts : TdmaTime) (u : Option PacketDataAssignmentUpdate) :
    SameButQueues b.sched (b.applyUpdate ts u).sched := by
  cases u with
  | none => exact ⟨_, _, _, _, _, _, _, rfl⟩
  | some u =>
    have hu : PacketDataAssignmentUpdate.Makes (fun _ => True) u := by
      cases u <;> first | trivial | exact fun _ => trivial
    exact (applyUpdate_tidies (P := fun _ _ => True) b.sched trivial hu ts b.alloc).frame

variable {b b' : Building} {e : DlSchedElem}

theorem sendChunk_frame (h : b.sendChunk ts env f tx group u = some b') :
    SameButQueues b.sched b'.sched := by
  obtain ⟨⟨f', buf', done⟩, -, rfl⟩ := map_eq_some_iff.mp h
  dsimp only
  split
  · split
    · split
      · exact pushNextSlotQueueBounded_frame _ _
      · exact applyUpdate_frame _ ts u
    · exact applyUpdate_frame _ ts u
  · exact pushNextSlotQueueBounded_frame _ _

theorem send_frame (h : b.send ts env e = some b') : SameButQueues b.sched b'.sched := by
  unfold Building.send at h
  split at h
  · unfold Building.sendResource at h
    split at h
    · cases h
      exact ⟨_, _, _, _, _, _, _, rfl⟩
    split at h
    · cases h
      exact ⟨_, _, _, _, _, _, _, rfl⟩
    · obtain ⟨f, -, h⟩ := bind_eq_some_iff.mp h
      exact sendChunk_frame h
  · unfold Building.sendFragBuf at h
    split at h
    · cases h
      exact ⟨_, _, _, _, _, _, _, rfl⟩
    · exact sendChunk_frame h
  · cases h
    exact ⟨_, _, _, _, _, _, _, rfl⟩

theorem loop_frame (h : Building.loop ts env fuel b = some b') :
    SameButQueues b.sched b'.sched := by
  induction fuel generalizing b with
  | zero =>
    cases h
    exact ⟨_, _, _, _, _, _, _, rfl⟩
  | succ fuel ih =>
    have ht := (dlTakePrioritizedSchedItem_tidies (o := True) (P := fun _ _ => True)
      (A := fun _ => True) b.sched (fun _ _ _ _ _ _ _ => trivial) ts env.subscribers b.energySaving
      b.cache).1.frame
    rw [Building.loop] at h
    split at h
    · rename_i heq
      rw [heq] at ht
      cases h
      exact ht
    rename_i heq
    rw [heq] at ht
    obtain ⟨b1, h1, h⟩ := bind_eq_some_iff.mp h
    exact ht.trans ((send_frame h1).trans (ih h))

theorem dlBuildBlock_frame
    (h : s.dlBuildBlockFromSignallingSchedule ts env = some (buf, s', es, alloc, headers)) :
    SameButQueues s s' := by
  obtain ⟨b, hb, h⟩ := map_eq_some_iff.mp h
  cases h
  have hl : SameButQueues s b.sched := loop_frame hb
  exact hl.trans (mergeNextSlotQueue_tidies (o := True) (P := fun _ _ => True) (A := fun _ => True)
    _ (fun _ _ => trivial)).frame

end BsChannelScheduler
end NexusBs
