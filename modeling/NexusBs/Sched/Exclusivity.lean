import NexusBs.Sched.Frame

namespace NexusBs
open UlSched Lib TdmaTime Option

structure Uplink where
  ulsched : UlSched
  booked : Calendar
  curDltime : TdmaTime
  (now oldest : Int)

namespace BsChannelScheduler

def uplink (s : BsChannelScheduler) : Uplink := ⟨s.ulsched, s.booked, s.curDltime, s.now, s.oldest⟩

variable (s : BsChannelScheduler)

theorem SameButQueues.uplink (h : SameButQueues s s') : s'.uplink = s.uplink := by
  obtain ⟨q, n, a, r, c, l, m, rfl⟩ := h
  rfl

theorem prepareSlot_uplink (ts : TdmaTime) (alloc : Option TimeslotAllocator) :
    (s.prepareSlot ts alloc).1.uplink = s.uplink := prepareSlot_frame.uplink

variable {s} {s' : BsChannelScheduler}

/-- The ring still follows the calendar, and no reservation was lost. -/
structure UlGrows (s s' : BsChannelScheduler) : Prop where
  clock : s'.curDltime = s.curDltime ∧ s'.now = s.now ∧ s'.oldest = s.oldest
  keeps : Keeps s'.ulsched s'.booked s'.oldest
  kept : Extends s.booked s'.booked

theorem UlInv.grows_of_uplink (h : UlInv s) (he : s'.uplink = s.uplink) : UlGrows s s' := by
  simp only [uplink, Uplink.mk.injEq] at he
  obtain ⟨h1, h2, h3, h4, h5⟩ := he
  refine ⟨⟨h3, h4, h5⟩, ?_, ?_⟩
  · rw [h1, h2, h5]
    exact h.keeps
  · rw [h2]
    exact Extends.rfl _

theorem UlInv.of_grows (h : UlInv s) (hg : UlGrows s s') : UlInv s' := by
  obtain ⟨h1, h2, h3⟩ := hg.clock
  refine ⟨?_, hg.keeps, ?_⟩
  · rw [h1, h2]
    exact h.time
  · rw [h2, h3]
    exact h.window

theorem UlGrows.trans (h : UlGrows s1 s2) (h' : UlGrows s2 s3) : UlGrows s1 s3 := by
  obtain ⟨h1, h2, h3⟩ := h.clock
  obtain ⟨h1', h2', h3'⟩ := h'.clock
  exact ⟨⟨h1'.trans h1, h2'.trans h2, h3'.trans h3⟩, h'.keeps, h.kept.trans h'.kept⟩

/-- Further changes outside the uplink. -/
theorem UlGrows.then_same (h : UlGrows s1 s2) (hi : UlInv s1) (he : s3.uplink = s2.uplink) :
    UlGrows s1 s3 :=
  h.trans ((hi.of_grows h).grows_of_uplink he)

variable {b : Int} {alloc : Option TimeslotAllocator}

theorem UlInv.grows_of_pending (h : UlInv s) (hb : s.oldest ≤ b) (hb' : b ≤ s.oldest + 4)
    (hr : s.ulProcessPendingGrantFrom (.fromInt b) ts addr debt alloc = some (r, s')) :
    UlGrows s s' := by
  rcases h.ulProcessPendingGrantFrom hb hb' ts addr debt alloc with he |
      ⟨g, m, cap, s1, owner, ns, sub, he, -, hs, hm⟩
  · rw [he] at hr
    cases hr
    exact h.grows_of_uplink rfl
  · rw [he] at hr
    cases hr
    obtain ⟨u, n, c, rfl⟩ := hs
    exact ⟨⟨rfl, rfl, rfl⟩, hm.reserved.keeps, hm.reserved.kept⟩

theorem UlInv.resolveGrant (h : UlInv s) (hb : s.oldest ≤ b) (hb' : b ≤ s.oldest + 4)
    (hr : s.resolveGrant (.fromInt b) alloc e = some (r, s')) : UlGrows s s' := by
  cases e with
  | pendingGrant addr debt origin =>
    simp only [BsChannelScheduler.resolveGrant] at hr
    split at hr
    · cases hr
      exact h.grows_of_uplink rfl
    obtain ⟨⟨r', s1⟩, hp, hr⟩ := map_eq_some_iff.mp hr
    have hg := h.grows_of_pending hb hb' hp
    cases r' with
    | some g =>
      obtain ⟨g, marker, cap⟩ := g
      cases hr
      refine hg.then_same h ?_
      dsimp only
      cases debt.remainingAfterGrant cap with
      | none => rfl
      | some => exact (pushNextSlotQueueBounded_frame _ _).uplink
    | none =>
      dsimp only at hr
      split at hr
      · cases hr
        exact hg.then_same h (dropAfterWaitBudget_frame s1 addr origin).uplink
      · cases hr
        exact hg.then_same h (pushNextSlotQueueBounded_frame _ _).uplink
  | _ =>
    cases hr
    exact h.grows_of_uplink rfl

theorem UlInv.integrateElem (h : UlInv st.2) (hb : st.2.oldest ≤ b) (hb' : b ≤ st.2.oldest + 4)
    (hr : BsChannelScheduler.integrateElem (.fromInt b) slot alloc st e = some st') :
    UlGrows st.2 st'.2 := by
  obtain ⟨⟨r, s1⟩, h1, h2⟩ := bind_eq_some_iff.mp hr
  have hg := h.resolveGrant hb hb' h1
  cases r with
  | none =>
    cases h2
    exact hg
  | some => exact hg.then_same h (placeGrant_frame h2).uplink

theorem UlInv.integrateAll {st st' : ResourceIndexes × BsChannelScheduler}
    {taken : List DlSchedElem} (h : UlInv st.2) (hb : st.2.oldest ≤ b) (hb' : b ≤ st.2.oldest + 4)
    (hr : taken.foldlM (BsChannelScheduler.integrateElem (.fromInt b) slot alloc) st = some st') :
    UlGrows st.2 st'.2 := by
  induction taken generalizing st with
  | nil =>
    cases hr
    exact h.grows_of_uplink rfl
  | cons e rest ih =>
    rw [List.foldlM_cons] at hr
    obtain ⟨st1, h1, hr⟩ := bind_eq_some_iff.mp hr
    have hg := h.integrateElem hb hb' h1
    obtain ⟨-, -, ho⟩ := hg.clock
    exact hg.trans (ih (h.of_grows hg) (by rw [ho]; exact hb) (by rw [ho]; exact hb') hr)

theorem UlInv.dlIntegrate (h : UlInv s) (hb : s.oldest ≤ b) (hb' : b ≤ s.oldest + 4)
    (hr : s.dlIntegrateSchedElemsForTimeslot (.fromInt b) env = some s') : UlGrows s s' := by
  unfold dlIntegrateSchedElemsForTimeslot at hr
  split at hr
  · cases hr
    exact h.grows_of_uplink rfl
  split at hr
  · cases hr
    exact h.grows_of_uplink rfl
  obtain ⟨st', hf, rfl⟩ := map_eq_some_iff.mp hr
  have hg := h.grows_of_uplink (dlTakeAllReadyGrantsAndAcks_frame s (.fromInt b) env).uplink
  obtain ⟨-, -, ho⟩ := hg.clock
  have hb1 : (s.dlTakeAllReadyGrantsAndAcks (.fromInt b) env).2.oldest ≤ b := by
    rw [ho]
    exact hb
  have hb1' : b ≤ (s.dlTakeAllReadyGrantsAndAcks (.fromInt b) env).2.oldest + 4 := by
    rw [ho]
    exact hb'
  exact hg.trans ((h.of_grows hg).integrateAll hb1 hb1' hf)

theorem UlInv.scheduledBlocks (h : UlInv s) (hb : s.oldest ≤ b) (hb' : b ≤ s.oldest + 4)
    (hr : s.scheduledBlocks (.fromInt b) env use = some (blks, s', es, alloc, headers)) :
    UlGrows s s' := by
  unfold BsChannelScheduler.scheduledBlocks at hr
  split at hr
  · obtain ⟨⟨tch, stch, s1, es1⟩, h1, hr⟩ := bind_eq_some_iff.mp hr
    obtain ⟨_, -, hr⟩ := map_eq_some_iff.mp hr
    cases hr
    exact h.grows_of_uplink (dlBuildTrafficBlock_frame h1).uplink
  · obtain ⟨s1, h1, hr⟩ := bind_eq_some_iff.mp hr
    obtain ⟨⟨buf, s2, es2, alloc2, headers2⟩, h2, hr⟩ := bind_eq_some_iff.mp hr
    have hg := (h.dlIntegrate hb hb' h1).then_same h (dlBuildBlock_frame h2).uplink
    dsimp only at hr
    split at hr
    · simp only [Option.some.injEq, Prod.mk.injEq] at hr
      obtain ⟨-, rfl, -⟩ := hr
      exact hg
    split at hr
    · obtain ⟨_, -, hr⟩ := map_eq_some_iff.mp hr
      cases hr
      exact hg
    simp only [Option.some.injEq, Prod.mk.injEq] at hr
    obtain ⟨-, rfl, -⟩ := hr
    exact hg

/-- Between slots the ring starts two slots back. -/
structure UlSettled (s : BsChannelScheduler) : Prop extends UlInv s where
  oldest : s.oldest = s.now - 2

theorem UlSettled.new (scr : Nat) (p : PrecomputedUmacPdus) (t : TdmaTime) :
    UlSettled (.new scr p t) where
  time := (fromInt_toInt t).symm
  keeps := Keeps.of_empty _
  window := ⟨by simp only [BsChannelScheduler.new]; omega, by simp only [BsChannelScheduler.new]; omega⟩
  oldest := rfl

theorem UlInv.clearUplinkSlot (h : UlInv s) (hn : n - 4 = s.oldest) :
    Keeps (s.clearUplinkSlot (.fromInt n)).ulsched (s.clearUplinkSlot (.fromInt n)).booked
      (s.oldest + 1) := by
  have hts : (fromInt n).addTimeslots (-4) = .fromInt s.oldest := by
    rw [fromInt_addTimeslots, ← hn]
    rfl
  simp only [BsChannelScheduler.clearUplinkSlot, hts]
  exact h.keeps.clearSlot

theorem assembleSlot_some (h : s.assembleSlot ts use alloc blks = some slot) :
    slot.ts = ts ∧ ∃ b blk, s.generateBbkBlock ts use.floorGrantPending alloc = some b ∧
      rewind b = some blk ∧ slot.bbk = some blk := by
  unfold assembleSlot at h
  split at h
  · cases h
  simp only [bind_eq_bind, bind_eq_some_iff] at h
  obtain ⟨b, hb, _, _, _, _, _, _, _, _, blk, hblk, h⟩ := h
  cases h
  exact ⟨rfl, b, blk, hb, hblk, rfl⟩

def nextUse (s : BsChannelScheduler) (env : SlotEnv) : SlotUse :=
  let ts := s.tickStart.curDltime.addTimeslots macschedTxAhead
  let (s, alloc) := s.tickStart.prepareSlot ts env.alloc
  s.slotUse ts alloc

/-- The scheduler in which the blocks of the next slot are put together: the uplink has only grown
until then, and the reservation of the slot a frame back goes after it. -/
theorem UlSettled.assembles (h : UlSettled s) (hr : s.nextSlot env = some r) :
    ∃ s1 blks, UlInv s1 ∧ UlGrows s.tickStart s1 ∧
      s1.assembleSlot (.fromInt (s.now + 2)) (s.nextUse env) r.alloc blks = some r.slot ∧
      r.sched = s1.clearUplinkSlot (.fromInt (s.now + 2)) := by
  have ht : UlInv s.tickStart := by
    refine ⟨?_, h.keeps, ?_⟩
    · show s.curDltime.addTimeslots 1 = .fromInt (s.now + 1)
      rw [h.time, fromInt_addTimeslots]
    · have ho := h.oldest
      simp only [tickStart]
      omega
  obtain ⟨⟨blks, s1, es, alloc, headers⟩, h1, hr⟩ := bind_eq_some_iff.mp hr
  obtain ⟨slot, hslot, rfl⟩ := map_eq_some_iff.mp hr
  have hts : s.tickStart.curDltime.addTimeslots (macschedTxAhead : Int) = .fromInt (s.now + 2) := by
    rw [ht.time, fromInt_addTimeslots]
    show fromInt (s.now + 1 + 1) = _
    rw [show s.now + 1 + 1 = s.now + 2 by omega]
  unfold nextUse
  rw [hts] at h1 hslot ⊢
  have hprep := prepareSlot_uplink s.tickStart (.fromInt (s.now + 2)) env.alloc
  have hg0 := ht.grows_of_uplink hprep
  obtain ⟨hc0, hn0, ho0⟩ := hg0.clock
  have hold : s.tickStart.oldest = s.now - 2 := h.oldest
  have hg := hg0.trans ((ht.of_grows hg0).scheduledBlocks (by rw [ho0]; omega) (by rw [ho0]; omega) h1)
  exact ⟨s1, blks, ht.of_grows hg, hg, hslot, rfl⟩

/-- Finalisation in TDMA order: the reservation of the slot a frame back goes, all
others stay. -/
theorem UlSettled.nextSlot (h : UlSettled s) (hr : s.nextSlot env = some r) :
    UlSettled r.sched ∧ r.sched.now = s.now + 1 ∧ r.slot.ts = .fromInt (s.now + 2) ∧
      ∃ cal, Extends s.booked cal ∧ r.sched.booked = Function.update cal s.oldest emptySchedElem := by
  obtain ⟨s1, blks, hi, hg, hslot, hsched⟩ := h.assembles hr
  obtain ⟨hc, hn, ho⟩ := hg.clock
  have hold : s.tickStart.oldest = s.now - 2 := h.oldest
  rw [hsched]
  refine ⟨⟨⟨hi.time, ?_, ?_⟩, ?_⟩, hn, (assembleSlot_some hslot).1, s1.booked, hg.kept, ?_⟩
  · exact hi.clearUplinkSlot (by rw [ho, hold]; omega)
  · show s1.now - 3 ≤ s1.oldest + 1 ∧ s1.oldest + 1 ≤ s1.now - 2
    rw [hn, ho, hold]
    simp only [tickStart]
    omega
  · show s1.oldest + 1 = s1.now - 2
    rw [hn, ho, hold]
    simp only [tickStart]
    omega
  · show Function.update s1.booked s1.oldest emptySchedElem = _
    rw [ho]
    rfl

theorem UlSettled.of_grows (h : UlSettled s) (hg : UlGrows s s') : UlSettled s' where
  toUlInv := h.toUlInv.of_grows hg
  oldest := by
    obtain ⟨-, hn, ho⟩ := hg.clock
    rw [hn, ho]
    exact h.oldest

theorem UlSettled.ulProcessCapReq (h : UlSettled s) (ts : Nat) (addr : TetraAddress)
    (resReq : ReservationRequirement) :
    ∃ r, s.ulProcessCapReq ts addr resReq = some r ∧ UlGrows s r.2 := by
  have ho := h.oldest
  rcases h.toUlInv.ulProcessPendingGrantFrom (b := s.now) (by omega) (by omega) ts addr
      (.new resReq) none with he | ⟨g, m, cap, s1, owner, ns, sub, he, -, hs, hm⟩
  · refine ⟨(none, s), ?_, h.grows_of_uplink rfl⟩
    rw [BsChannelScheduler.ulProcessCapReq, ulProcessCapReqFrom, h.time, he]
    rfl
  · refine ⟨(some (g, m), s1), ?_, ?_⟩
    · rw [BsChannelScheduler.ulProcessCapReq, ulProcessCapReqFrom, h.time, he]
      rfl
    · obtain ⟨u, n, c, rfl⟩ := hs
      exact ⟨⟨rfl, rfl, rfl⟩, hm.reserved.keeps, hm.reserved.kept⟩

/-- What a step does to the calendar of reservations. -/
inductive UlStep (s s' : BsChannelScheduler) : Prop where
  | grows (h : Extends s.booked s'.booked)
  | circuit (ts : Nat) (h : s'.booked = withoutTimeslot s.booked ts)
  | slot (cal : Calendar) (h : Extends s.booked cal)
      (h' : s'.booked = Function.update cal s.oldest emptySchedElem)

section

variable (h : UlSettled s)
include h

theorem UlStep.grown (hg : UlGrows s s') : UlSettled s' ∧ UlStep s s' :=
  ⟨h.of_grows hg, .grows hg.kept⟩

theorem UlStep.same (he : s'.uplink = s.uplink) : UlSettled s' ∧ UlStep s s' :=
  UlStep.grown h (h.grows_of_uplink he)

theorem UlSettled.createCircuit (dir : Direction) (c : Circuit) :
    UlSettled (s.createCircuit dir c) ∧ UlStep s (s.createCircuit dir c) := by
  rcases createCircuit_tidies .any trivial dir c with he | ⟨-, he⟩
  · rw [he]
    exact UlStep.same h rfl
  · have he := he.frame.uplink
    simp only [uplink, clearFutureUplink, Uplink.mk.injEq] at he
    obtain ⟨h1, h2, h3, h4, h5⟩ := he
    refine ⟨⟨⟨?_, ?_, ?_⟩, ?_⟩, .circuit c.ts h2⟩
    · rw [h3, h4]
      exact h.time
    · rw [h1, h2, h5]
      exact h.keeps.clearFuture c.ts
    · rw [h4, h5]
      exact h.window
    · rw [h4, h5]
      exact h.oldest

/-- A request that opens no circuit takes no reservation away. -/
theorem UlSettled.grows_of_request (hs : s.step op = some s') (hn : ∀ env, op ≠ .nextSlot env)
    (hc : ∀ dir c, op ≠ .createCircuit dir c) : UlGrows s s' := by
  cases ho : op.queuesOnly with
  | true => exact h.grows_of_uplink (step_frame ho hs).uplink
  | false =>
    cases op with
    | ulProcessCapReq ts addr resReq =>
      obtain ⟨r, hr, hg⟩ := h.ulProcessCapReq ts addr resReq
      simp only [BsChannelScheduler.step, hr, map_some, Option.some.injEq] at hs
      subst hs
      exact hg
    | nextSlot env => exact absurd rfl (hn env)
    | createCircuit dir c => exact absurd rfl (hc dir c)
    | closeCircuit | clearDlMediaQueue | clearDlMediaQueueExceptSource | dlScheduleTmd
    | setSystemWideServicesState =>
      cases hs
      exact h.grows_of_uplink rfl
    | setHangtime ts active =>
      cases hs
      exact h.grows_of_uplink (setHangtime_frame s ts active).uplink
    | _ => cases ho

theorem UlSettled.step (hs : s.step op = some s') : UlSettled s' ∧ UlStep s s' := by
  cases op with
  | nextSlot =>
    obtain ⟨r, hr, rfl⟩ := map_eq_some_iff.mp hs
    obtain ⟨hset, -, -, cal, hc, hb⟩ := h.nextSlot hr
    exact ⟨hset, .slot cal hc hb⟩
  | createCircuit dir c =>
    cases hs
    exact h.createCircuit dir c
  | _ => exact UlStep.grown h (h.grows_of_request hs (by simp) (by simp))

theorem UlSettled.run (hr : Lib.run BsChannelScheduler.step s ops = some s') : UlSettled s' := by
  have hok : Along BsChannelScheduler.step (fun _ _ => True) s ops :=
    Along.of_forall (fun _ _ => trivial)
  refine run_invariant ?_ h hok hr
  intro s1 op s2 h1 _ hst
  exact (h1.step hst).1

end

/-- One step never hands a subslot from one radio to another. -/
theorem UlStep.owner_unique (h : UlStep s s') (n : Int) :
    ((s.booked n).ul1 = some o → (s'.booked n).ul1 = some o' → o = o') ∧
      ((s.booked n).ul2 = some o → (s'.booked n).ul2 = some o' → o = o') := by
  cases h with
  | grows h =>
    constructor
    · intro h1 h2
      exact Option.some.inj ((h.ul1 n o h1).symm.trans h2)
    · intro h1 h2
      exact Option.some.inj ((h.ul2 n o h1).symm.trans h2)
  | circuit ts h =>
    rw [h, withoutTimeslot]
    split
    · exact ⟨fun _ h2 => (nomatch h2), fun _ h2 => (nomatch h2)⟩
    · exact ⟨fun h1 h2 => Option.some.inj (h1.symm.trans h2),
        fun h1 h2 => Option.some.inj (h1.symm.trans h2)⟩
  | slot cal h h' =>
    rw [h']
    by_cases hn : n = s.oldest
    · rw [hn, Function.update_self]
      exact ⟨fun _ h2 => (nomatch h2), fun _ h2 => (nomatch h2)⟩
    · rw [Function.update_of_ne hn]
      exact ⟨fun h1 h2 => Option.some.inj ((h.ul1 n o h1).symm.trans h2),
        fun h1 h2 => Option.some.inj ((h.ul2 n o h1).symm.trans h2)⟩

/-- A slot later nothing has changed but the time. -/
theorem UlSettled.ticked {s0 s : BsChannelScheduler} (h : UlSettled s0)
    (hs : s.uplink = s0.tickStart.uplink) : UlInv s ∧ s.oldest = s0.now - 2 := by
  simp only [uplink, tickStart, Uplink.mk.injEq] at hs
  obtain ⟨h1, h2, h3, h4, h5⟩ := hs
  have ho := h.oldest
  refine ⟨⟨?_, ?_, ?_⟩, h5.trans ho⟩
  · rw [h3, h4, h.time, TdmaTime.fromInt_addTimeslots]
  · rw [h1, h2, h5]
    exact h.keeps
  · omega

theorem UlInv.resolveGrant_some (h : UlInv s) (hb : s.oldest ≤ b) (hb' : b ≤ s.oldest + 4)
    (alloc : Option TimeslotAllocator) (e : DlSchedElem) :
    ∃ r, s.resolveGrant (.fromInt b) alloc e = some r := by
  cases e with
  | pendingGrant addr debt =>
    simp only [BsChannelScheduler.resolveGrant]
    split
    · exact ⟨_, rfl⟩
    rcases h.ulProcessPendingGrantFrom hb hb' (fromInt b).t addr debt alloc with he |
      ⟨g, m, cap, s1, owner, ns, sub, he, -⟩
    · rw [he]
      exact ⟨_, rfl⟩
    · rw [he]
      exact ⟨_, rfl⟩
  | _ => exact ⟨_, rfl⟩

/-- In every state of every run the ring holds, for each slot from two back to the
search horizon, exactly what was reserved for that slot; whatever the search finds
can be reserved, no reservation takes a subslot from its owner, none is on a
linearisation slot, and none has the second subslot alone. -/
theorem uplink_reservations_exclusive (scr : Nat) (p : PrecomputedUmacPdus) (t : TdmaTime)
    (ops : List SchedOp) (s : BsChannelScheduler) (hr : run step (.new scr p t) ops = some s) :
    s.curDltime = .fromInt s.now ∧
    (∀ n, s.now - 2 ≤ n → n < s.now - 2 + ringSlots → s.ulsched.get (.fromInt n) = s.booked n) ∧
    (∀ n, (s.booked n).ul1 = none → (s.booked n).ul2 = none) ∧
    (∀ n, (fromInt n).isMandatoryClch = true →
      (s.booked n).ul1 = none ∧ (s.booked n).ul2 = none) ∧
    (∀ (b : Int) (ts cap ssi skips : Nat) (half : Bool) (owner marker : Option Nat)
        (times : List TdmaTime), s.now ≤ b → b ≤ s.now + 2 → 1 ≤ cap →
      (owner = none ∨ owner = some ssi) →
      s.ulsched.ulFindGrantOpportunityOnChannelFrom (.fromInt b) ts [ts] cap half owner =
        some (some (skips, times)) →
      ∃ s' sub, s.reserve ssi times half marker = some (s', sub) ∧
        ∃ ns : List Int, times = ns.map .fromInt ∧ ∀ n ∈ ns, Holds (s'.booked n) ssi sub) ∧
    (∀ s0 : BsChannelScheduler, s0.uplink = s.tickStart.uplink → ∀ (slot : Nat)
        (alloc : Option TimeslotAllocator) (idx : ResourceIndexes) (taken : List DlSchedElem)
        (st : ResourceIndexes × BsChannelScheduler) (e : DlSchedElem),
      taken.foldlM (integrateElem (.fromInt (s.now + 2)) slot alloc) (idx, s0) = some st →
      ∃ r, st.2.resolveGrant (.fromInt (s.now + 2)) alloc e = some r) ∧
    (∀ op s', step s op = some s' → ∀ n o o',
      ((s.booked n).ul1 = some o → (s'.booked n).ul1 = some o' → o = o') ∧
        ((s.booked n).ul2 = some o → (s'.booked n).ul2 = some o' → o = o')) := by
  have h : UlSettled s := (UlSettled.new scr p t).run hr
  have ho := h.oldest
  refine ⟨h.time, ?_, h.keeps.ordered, ?_, ?_, ?_, ?_⟩
  · intro n hl hu
    exact h.keeps.get (by omega) (by omega)
  · intro n hn
    have h1 := h.keeps.clch n hn
    exact ⟨h1, h.keeps.ordered n h1⟩
  · intro b ts cap ssi skips half owner marker times hl hu hcap hown hfind
    obtain ⟨ns, u, c, sub, htimes, -, -, hres, hreserve⟩ :=
      h.toUlInv.reserve marker (by omega) (by omega) hcap (by
        rintro o rfl
        rcases hown with hown | hown
        · cases hown
        · exact Option.some.inj hown) hfind
    exact ⟨_, sub, hreserve, ns, htimes, hres.holds⟩
  · intro s0 hs0 slot alloc idx taken st e hf
    obtain ⟨h0, h₀o⟩ := h.ticked hs0
    have hl : s0.oldest ≤ s.now + 2 := by omega
    have hu : s.now + 2 ≤ s0.oldest + 4 := by omega
    have hg : UlGrows s0 st.2 := UlInv.integrateAll h0 hl hu hf
    obtain ⟨-, -, hgo⟩ := hg.clock
    exact (h0.of_grows hg).resolveGrant_some (by omega) (by omega) alloc e
  · intro op s' hst n o o'
    exact (h.step hst).2.owner_unique n

/-- Two radios ask for uplink slots, one of them across a slot in which another
grant goes out. -/
theorem uplink_reservations_exclusive_two_radios : ∃ s,
    run step (.new 3 sampleCell .default)
      [.ulProcessCapReq 1 (.issi 1001) .req2Slots, .dlEnqueueReservationGrant 3 (.issi 1002) .req1Slot,
        .nextSlot quietEnv, .ulProcessCapReq 1 (.issi 1002) .req1Subslot] = some s ∧
      ((s.booked 4).ul1 = some 1001 ∧ (s.booked 2).ul1 = some 1002 ∧ (s.booked 8).ul1 = some 1002) ∧
      s.ulsched.get (.fromInt 4) = s.booked 4 := by
  have h : (run step (.new 3 sampleCell .default)
      [.ulProcessCapReq 1 (.issi 1001) .req2Slots, .dlEnqueueReservationGrant 3 (.issi 1002) .req1Slot,
        .nextSlot quietEnv, .ulProcessCapReq 1 (.issi 1002) .req1Subslot]).map (fun s =>
      (s.now, (s.booked 4).ul1, (s.booked 2).ul1, (s.booked 8).ul1)) =
      some (1, some 1001, some 1002, some 1002) := by
    decide +kernel
  obtain ⟨s, hs, hv⟩ := map_eq_some_iff.mp h
  simp only [Prod.mk.injEq] at hv
  obtain ⟨hnow, h4, h2, h8⟩ := hv
  obtain ⟨-, hring, -⟩ := uplink_reservations_exclusive 3 sampleCell .default _ s hs
  exact ⟨s, hs, ⟨h4, h2, h8⟩, hring 4 (by omega) (by simp only [ringSlots]; omega)⟩

/-- The owners of a slot's halves still own them. -/
def KeptAt (n : Int) (s s' : BsChannelScheduler) : Prop :=
  ∀ o, ((s.booked n).ul1 = some o → (s'.booked n).ul1 = some o) ∧
    ((s.booked n).ul2 = some o → (s'.booked n).ul2 = some o)

/-- A slot keeps its owners while it is in the ring and no circuit takes its timeslot. -/
theorem UlSettled.step_keptAt (h : UlSettled s) (hs : s.step op = some s')
    (hc : ∀ dir c, op = .createCircuit dir c → (cell n).1 ≠ c.ts - 1) :
    s.now ≤ s'.now ∧ (s'.now - 2 ≤ n → KeptAt n s s') := by
  cases op with
  | nextSlot env =>
    obtain ⟨r, hr, rfl⟩ := map_eq_some_iff.mp hs
    obtain ⟨-, hnow, -, cal, hcal, hb⟩ := h.nextSlot hr
    refine ⟨by omega, fun hn o => ?_⟩
    have hne : n ≠ s.oldest := by
      have := h.oldest
      omega
    rw [hb, Function.update_of_ne hne]
    exact ⟨hcal.ul1 n o, hcal.ul2 n o⟩
  | createCircuit dir c =>
    cases hs
    rcases createCircuit_tidies .any trivial dir c with he | ⟨-, he⟩
    · rw [he]
      exact ⟨le_refl _, fun _ o => ⟨id, id⟩⟩
    · have he := he.frame.uplink
      simp only [uplink, clearFutureUplink, Uplink.mk.injEq] at he
      obtain ⟨-, hb, -, hnow, -⟩ := he
      refine ⟨hnow.ge, fun _ o => ?_⟩
      rw [hb, withoutTimeslot, if_neg (hc dir c rfl)]
      exact ⟨id, id⟩
  | _ =>
    have hg := h.grows_of_request hs (by simp) (by simp)
    exact ⟨hg.clock.2.1.ge, fun _ o => ⟨hg.kept.ul1 n o, hg.kept.ul2 n o⟩⟩

theorem UlSettled.run_keptAt (h : UlSettled s) (hr : Lib.run BsChannelScheduler.step s ops = some s')
    (hc : ∀ dir c, .createCircuit dir c ∈ ops → (cell n).1 ≠ c.ts - 1) :
    UlSettled s' ∧ s.now ≤ s'.now ∧ (s'.now - 2 ≤ n → KeptAt n s s') := by
  induction ops generalizing s with
  | nil =>
    cases hr
    exact ⟨h, le_refl _, fun _ o => ⟨id, id⟩⟩
  | cons op ops ih =>
    obtain ⟨t, hs, hr⟩ := bind_eq_some_iff.mp hr
    obtain ⟨hnow, hk⟩ := h.step_keptAt hs (fun dir c ho => hc dir c (ho ▸ List.mem_cons_self))
    obtain ⟨hset, hnow', hk'⟩ :=
      ih (h.step hs).1 hr (fun dir c hm => hc dir c (List.mem_cons_of_mem _ hm))
    refine ⟨hset, by omega, fun hn o => ?_⟩
    exact ⟨fun ho => (hk' hn o).1 ((hk (by omega) o).1 ho),
      fun ho => (hk' hn o).2 ((hk (by omega) o).2 ho)⟩

/-- What a radio was granted stays its own until two slots after the slot, whatever is asked of the
scheduler in between, as long as no circuit is opened on the timeslot: in the ring, each half of
slot `n` that has an owner keeps it. -/
theorem grants_kept_until_slot (scr : Nat) (p : PrecomputedUmacPdus) (t : TdmaTime)
    (before after : List SchedOp) (s s' : BsChannelScheduler) (n : Int) (o : Nat)
    (hb : run step (.new scr p t) before = some s) (ha : run step s after = some s')
    (hc : ∀ dir c, .createCircuit dir c ∈ after → (cell n).1 ≠ c.ts - 1)
    (hn : s'.now - 2 ≤ n) (hn' : n < s.now - 2 + ringSlots) :
    ((s.ulsched.get (.fromInt n)).ul1 = some o → (s'.ulsched.get (.fromInt n)).ul1 = some o) ∧
      ((s.ulsched.get (.fromInt n)).ul2 = some o → (s'.ulsched.get (.fromInt n)).ul2 = some o) := by
  have h : UlSettled s := (UlSettled.new scr p t).run hb
  obtain ⟨h', hnow, hk⟩ := h.run_keptAt ha hc
  have ho := h.oldest
  have ho' := h'.oldest
  rw [h.keeps.get (by omega) (by omega), h'.keeps.get (by omega) (by omega)]
  exact hk hn o

/-- The grant for slot 4 outlives a slot in which another radio is granted one. -/
theorem grant_kept_two_radios : ∃ s s',
    run step (.new 3 sampleCell .default) [.ulProcessCapReq 1 (.issi 1001) .req2Slots] = some s ∧
      run step s [.nextSlot quietEnv, .ulProcessCapReq 1 (.issi 1002) .req1Subslot] = some s' ∧
      (s'.ulsched.get (.fromInt 4)).ul1 = some 1001 := by
  have hrun : (run step (.new 3 sampleCell .default)
      [.ulProcessCapReq 1 (.issi 1001) .req2Slots]).bind (fun s =>
        (run step s [.nextSlot quietEnv, .ulProcessCapReq 1 (.issi 1002) .req1Subslot]).map (fun s' =>
          (s.now, s'.now, (s.ulsched.get (.fromInt 4)).ul1))) = some (0, 1, some 1001) := by
    decide +kernel
  obtain ⟨s, hs, hrun⟩ := bind_eq_some_iff.mp hrun
  obtain ⟨s', hs', hv⟩ := map_eq_some_iff.mp hrun
  simp only [Prod.mk.injEq] at hv
  obtain ⟨hnow, hnow', ho⟩ := hv
  have hk := grants_kept_until_slot 3 sampleCell .default _ _ s s' 4 1001 hs hs' (by simp)
    (by omega) (by simp only [ringSlots]; omega)
  exact ⟨s, s', hs, hs', hk.1 ho⟩

end BsChannelScheduler
end NexusBs
