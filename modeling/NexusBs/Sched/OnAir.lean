import NexusBs.Lmac.SpeechCoding
import NexusBs.Sched.Assemble

namespace NexusBs
open SchedQueue Lib Function BitBuffer List Option

/-- Media of the two accepted formats: speech of at least 35 packed bytes, or a half
slot, which is checked where it is taken. -/
def MediaOk : CircuitTxBlock → Prop
  | .acElp _ _ _ block => 35 ≤ block.length
  | .rawTchSHalfSlot .. => True

/-- Timeslot 1 carries no traffic, and what waits for the others can be sent. -/
structure CircuitMgr.Ok (c : CircuitMgr) : Prop where
  free : BsChannelScheduler.FreeMcch c
  media : ∀ slot, ∀ b ∈ c.txData slot, MediaOk b

namespace CircuitMgr

variable {c : CircuitMgr}

variable (h : Ok c)
include h

theorem Ok.setMedia (slot : Nat) (hq : ∀ b ∈ q, MediaOk b) :
    Ok { c with txData := update c.txData slot q } := by
  refine ⟨h.free, ?_⟩
  intro slot' b hb
  by_cases he : slot' = slot
  · subst he
    dsimp only at hb
    rw [update_self] at hb
    exact hq b hb
  · dsimp only at hb
    rw [update_of_ne he] at hb
    exact h.media slot' b hb

theorem Ok.setDl (hx : slot = 0 → x = none) : Ok { c with dl := update c.dl slot x } := by
  refine ⟨⟨?_, h.free.2⟩, h.media⟩
  by_cases hs : slot = 0
  · subst hs
    rw [hx rfl]
    show update c.dl 0 none 0 = none
    rw [update_self]
  · exact (update_of_ne (Ne.symm hs) x c.dl).trans h.free.1

theorem Ok.setUl (hx : slot = 0 → x = none) : Ok { c with ul := update c.ul slot x } := by
  refine ⟨⟨h.free.1, ?_⟩, h.media⟩
  by_cases hs : slot = 0
  · subst hs
    rw [hx rfl]
    show update c.ul 0 none 0 = none
    rw [update_self]
  · exact (update_of_ne (Ne.symm hs) x c.ul).trans h.free.2

theorem Ok.closeCircuit (dir : Direction) (ts : Nat) : Ok (c.closeCircuit dir ts) := by
  unfold CircuitMgr.closeCircuit
  split
  · cases dir with
    | dl => exact (h.setMedia (ts - 1) (q := []) (fun _ hb => nomatch hb)).setDl (fun _ => rfl)
    | ul => exact h.setUl (fun _ => rfl)
  · exact h

theorem Ok.createCircuit (dir : Direction) {circuit : Circuit} (hts : 2 ≤ circuit.ts) :
    Ok (c.createCircuit dir circuit) := by
  unfold CircuitMgr.createCircuit
  have hne : circuit.ts - 1 = 0 → some circuit = none := fun h0 => absurd h0 (by omega)
  split
  · obtain ⟨c', hc', he⟩ : ∃ c', Ok c' ∧ c' = (if c.isActive dir circuit.ts = true then
        c.closeCircuit dir circuit.ts else c) := by
      refine ⟨_, ?_, rfl⟩
      split
      · exact h.closeCircuit dir circuit.ts
      · exact h
    dsimp only
    rw [← he]
    cases dir with
    | dl => exact (hc'.setMedia (circuit.ts - 1) (q := []) (fun _ hb => nomatch hb)).setDl hne
    | ul => exact hc'.setUl hne
  · exact h

theorem Ok.putBlock (ts : Nat) (hb : MediaOk block) : Ok (c.putBlock ts block) := by
  unfold CircuitMgr.putBlock
  split
  · refine h.setMedia (ts - 1) ?_
    intro b hm
    rcases mem_append.mp hm with hm | hm
    · refine h.media (ts - 1) b ?_
      split at hm
      · exact mem_of_mem_drop hm
      · exact hm
    · rw [mem_singleton.mp hm]
      exact hb
  · exact h

theorem Ok.clearTxData (ts : Nat) : Ok (c.clearTxData ts) := by
  unfold CircuitMgr.clearTxData
  split
  · exact h.setMedia (ts - 1) (fun _ hb => nomatch hb)
  · exact h

theorem Ok.clearTxDataExceptSource (ts sourceUlTs : Nat) (sourceAddr : TetraAddress) :
    Ok (c.clearTxDataExceptSource ts sourceUlTs sourceAddr) := by
  unfold CircuitMgr.clearTxDataExceptSource
  split
  · exact h.setMedia (ts - 1) (fun b hb => h.media _ b (mem_filter.mp hb).1)
  · exact h

theorem Ok.takeBlock (ts : Nat) :
    Ok (c.takeBlock ts).2 ∧ ∀ b, (c.takeBlock ts).1 = some b → MediaOk b := by
  unfold CircuitMgr.takeBlock
  split
  · refine ⟨h.setMedia (ts - 1) (fun b hb => h.media _ b (mem_of_mem_drop hb)), ?_⟩
    intro b hb
    exact h.media _ b (List.mem_of_head? hb)
  · exact ⟨h, fun _ hb => nomatch hb⟩

end CircuitMgr

/-- Neither a slot nor a request that reserves uplink capacity. -/
def SchedOp.isRequest : SchedOp → Bool
  | .nextSlot _ | .ulProcessCapReq .. => false
  | _ => true

namespace BsChannelScheduler

variable {s s' : BsChannelScheduler} {ts : TdmaTime} {env : SlotEnv}

/-- Speech or a half slot as long as the lower layer wants it. -/
def TchOk : DlTchBlock → Prop
  | .acElp b => b.len = 274
  | .rawTchSHalfSlot b => b.len = 216

theorem tchBlockOf_some (h : MediaOk block) :
    ∃ tch, tchBlockOf block = some tch ∧ ∀ x, tch = some x → TchOk x := by
  cases block with
  | acElp src speaker arrival block =>
    have hlen : (block.flatMap (Lib.toBits 8)).length = 8 * block.length := by
      simp [length_flatMap, Nat.mul_comm]
    have h35 : 35 ≤ block.length := h
    obtain ⟨b, hb, hl⟩ : ∃ b, (fromBitarr (block.flatMap (Lib.toBits 8))).setRawEnd
        ((fromBitarr (block.flatMap (Lib.toBits 8))).rawStart + tchSCap) = some b ∧
        b.len = 274 := by
      have hcap : 274 ≤ (block.flatMap (Lib.toBits 8)).length := by omega
      refine ⟨_, if_pos ?_, ?_⟩
      · simp only [BitBuffer.capacity, rawStart, rawPos, fromBitarr,
          tchSCap, length_nil]
        omega
      · simp only [BitBuffer.len, rawStart, rawPos, fromBitarr, tchSCap,
          length_nil, length_take, length_append]
        omega
    refine ⟨some (.acElp b), ?_, ?_⟩
    · rw [tchBlockOf, hb, map_some]
    · intro x hx
      cases hx
      exact hl
  | rawTchSHalfSlot src speaker arrival blockNum bits =>
    rw [tchBlockOf]
    split
    · exact ⟨none, rfl, fun _ hx => by cases hx⟩
    rename_i hok
    refine ⟨_, rfl, ?_⟩
    intro x hx
    cases hx
    simp only [not_or, ne_eq, Decidable.not_not] at hok
    simpa [TchOk, fromBitarr, BitBuffer.len] using hok.2

theorem trafficBlocks_some (htch : ∀ x, tch = some x → TchOk x)
    (hst : ∀ b, stch = some b → b.len = schHdCap) :
    ∃ b1 b2, s.trafficBlocks tch stch = some (b1, b2) ∧ Shaped b1 b2 := by
  obtain ⟨n, hn, hl⟩ := nullBlock_some schHdCap (by decide)
  have hnull : (s.req .stch n).logicalChannel = .stch ∧ (s.req .stch n).macBlock.len = 124 :=
    ⟨rfl, hl⟩
  unfold trafficBlocks
  split
  · exact ⟨_, _, rfl, .stolen _ _ rfl (hst _ rfl) (.inr ⟨rfl, .inl (htch _ rfl)⟩)⟩
  · exact ⟨_, _, rfl, .stolen _ _ rfl (hst _ rfl) (.inr ⟨rfl, .inr (htch _ rfl)⟩)⟩
  · rw [hn, map_some]
    exact ⟨_, _, rfl, .stolen _ _ rfl (hst _ rfl) (.inl hnull)⟩
  · exact ⟨_, _, rfl, .speech _ rfl (htch _ rfl)⟩
  · rw [hn, map_some]
    exact ⟨_, _, rfl, .stolen _ _ rfl hl (.inr ⟨rfl, .inr (htch _ rfl)⟩)⟩
  · rw [hn, map_some]
    exact ⟨_, _, rfl, .stolen _ _ rfl hl (.inl hnull)⟩

theorem dlBuildTrafficBlock_some (h : s.circuits.Ok) : ∃ tch stch s' es,
    s.dlBuildTrafficBlock ts env = some (tch, stch, s', es) ∧ ∀ x, tch = some x → TchOk x := by
  obtain ⟨tch, htch, hok⟩ : ∃ tch,
      (((s.circuits.takeBlock ts.t).1.map tchBlockOf).getD (some none)) = some tch ∧
      ∀ x, tch = some x → TchOk x := by
    cases hb : (s.circuits.takeBlock ts.t).1 with
    | none => exact ⟨none, rfl, fun _ hx => nomatch hx⟩
    | some b => exact tchBlockOf_some ((h.takeBlock ts.t).2 b hb)
  unfold dlBuildTrafficBlock
  dsimp only
  rw [htch, map_some]
  split
  · split
    · exact ⟨_, _, _, _, rfl, hok⟩
    · exact ⟨_, _, _, _, rfl, hok⟩
  · exact ⟨_, _, _, _, rfl, hok⟩

def Markers (s : BsChannelScheduler) : Prop := ∀ i, s.nextUsageMarker i < 63

variable {alloc : Option TimeslotAllocator}

theorem Markers.pending (h : Markers s)
    (hr : s.ulProcessPendingGrantFrom base timeslot addr debt alloc = some (r, s')) :
    Markers s' ∧ ∀ g m cap, r = some (g, m, cap) → ∀ u, m = some u → u < 2 ^ 6 := by
  obtain ⟨op, -, hr⟩ := bind_eq_some_iff.mp hr
  cases op with
  | none =>
    cases hr
    exact ⟨h, fun _ _ _ hx => nomatch hx⟩
  | some op =>
    obtain ⟨cap, skips, times⟩ := op
    obtain ⟨marker, s1, hmark, hs1, hm⟩ : ∃ marker s1,
        (if debt.isHalfslot = false ∧ cap ≥ 2 then
          (some (s.allocUsageMarker timeslot).1, (s.allocUsageMarker timeslot).2)
          else (none, s)) = ((marker, s1) : Option Nat × BsChannelScheduler) ∧ Markers s1 ∧
        ∀ u, marker = some u → u < 2 ^ 6 := by
      by_cases hc : debt.isHalfslot = false ∧ cap ≥ 2
      · refine ⟨_, _, if_pos hc, ?_, ?_⟩
        · intro i
          have hi := h (min (timeslot - 1) 3)
          simp only [allocUsageMarker, update_apply]
          split
          · split <;> omega
          · exact h i
        · intro u hu
          cases hu
          have hi := h (min (timeslot - 1) 3)
          exact Nat.lt_trans hi (by decide)
      · exact ⟨_, _, if_neg hc, h, fun _ hu => nomatch hu⟩
    dsimp only at hr
    rw [hmark] at hr
    obtain ⟨⟨s2, sub⟩, h2, hr⟩ := bind_eq_some_iff.mp hr
    obtain ⟨ca, -, hr⟩ := map_eq_some_iff.mp hr
    obtain ⟨⟨ul, sub'⟩, -, h2⟩ := map_eq_some_iff.mp h2
    simp only [Prod.mk.injEq] at h2 hr
    obtain ⟨rfl, -⟩ := h2
    obtain ⟨rfl, rfl⟩ := hr
    refine ⟨hs1, ?_⟩
    intro g m cap' he
    cases he
    exact hm

/-- What no request for signalling touches. -/
def fixed (s : BsChannelScheduler) : CircuitMgr × PrecomputedUmacPdus := (s.circuits, s.precomps)

section

variable (h : SameButQueues s s')
include h

theorem SameButQueues.fixed : s'.fixed = s.fixed := by
  obtain ⟨_, _, _, _, _, _, _, rfl⟩ := h
  rfl

theorem SameButQueues.circuits : s'.circuits = s.circuits := congrArg Prod.fst h.fixed

theorem SameButQueues.precomps : s'.precomps = s.precomps := congrArg Prod.snd h.fixed

theorem SameButQueues.markers : s'.nextUsageMarker = s.nextUsageMarker := by
  obtain ⟨_, _, _, _, _, _, _, rfl⟩ := h
  rfl

end

theorem Markers.of_frame (h : Markers s) (hf : SameButQueues s s') : Markers s' := by
  intro i
  rw [hf.markers]
  exact h i

theorem SameButUplink.fixed (h : SameButUplink s s') : s'.fixed = s.fixed := by
  obtain ⟨_, _, _, rfl⟩ := h
  rfl

/-- What a taken element becomes can be put into a header. -/
theorem Resolved.elemOk (hr : Resolved s (.fromInt b) alloc e r s') (hu : UlInv s)
    (hb : s.oldest ≤ b) (hb' : b ≤ s.oldest + 4) (he : ElemOk e) (hm : Markers s) :
    s'.fixed = s.fixed ∧ Markers s' ∧ ∀ x, r = some x → ElemOk x := by
  cases hr with
  | ack | ready =>
    refine ⟨rfl, hm, fun x hx => ?_⟩
    cases hx
    exact he
  | stale => exact ⟨rfl, hm, fun _ hx => nomatch hx⟩
  | granted addr debt origin g m cap s1 s2 h hs h2 =>
    obtain ⟨hm1, hmark⟩ := hm.pending h
    have hvalid : g.grantingDelay.Valid := by
      rcases hu.ulProcessPendingGrantFrom hb hb' (TdmaTime.fromInt b).t addr debt alloc with
        hn | ⟨g', m', cap', s1', owner, ns, sub, hp, -, -, hmade⟩
      · rw [h] at hn
        cases hn
      · rw [h] at hp
        cases hp
        obtain ⟨skips, hle, hd, -⟩ := hmade.found
        rw [hd, grantingDelay]
        simp only [maxGrantingDelay] at hle
        split
        · trivial
        · show _ ∧ _
          omega
    have hlast : s'.fixed = s.fixed ∧ Markers s' := by
      rcases h2 with rfl | ⟨left, rfl⟩
      · exact ⟨hs.fixed, hm1⟩
      · have hf := pushNextSlotQueueBounded_frame s1 (.pendingGrant addr left origin)
        exact ⟨hf.fixed.trans hs.fixed, hm1.of_frame hf⟩
    refine ⟨hlast.1, hlast.2, fun x hx => ?_⟩
    cases hx
    exact ⟨he, hvalid, hmark g m cap rfl⟩
  | wait addr debt origin =>
    have hf := pushNextSlotQueueBounded_frame s (.pendingGrant addr debt.afterWaitGrant origin)
    refine ⟨hf.fixed, hm.of_frame hf, fun x hx => ?_⟩
    cases hx
    exact ⟨he, trivial, fun _ hu => nomatch hu⟩
  | exhausted addr debt origin h hx =>
    have hf := dropAfterWaitBudget_frame s addr origin
    exact ⟨hf.fixed, hm.of_frame hf, fun _ hx => nomatch hx⟩

theorem Turns.ready (h : Turns (.fromInt b) slot alloc l st st') (hu : UlInv st.2)
    (hb : st.2.oldest ≤ b) (hb' : b ≤ st.2.oldest + 4) (hi : Indexed st.1 (st.2.dltxQueues slot))
    (hs : Stocked (fun _ => ElemOk) AssignmentOk st.2) (hm : Markers st.2) (hl : ∀ e ∈ l, ElemOk e) :
    Stocked (fun _ => ElemOk) AssignmentOk st'.2 ∧ Markers st'.2 ∧ st'.2.fixed = st.2.fixed := by
  induction h with
  | nil => exact ⟨hs, hm, rfl⟩
  | @cons e rest st st1 st' r s1 hturn hr hres hp _ ih =>
    have hg := hu.integrateElem hb hb' hturn
    obtain ⟨-, -, ho⟩ := hg.clock
    obtain ⟨hfix, hm1, hr1⟩ := hres.elemOk hu hb hb' (hl e mem_cons_self) hm
    have hs1 := hs.turn elemOk_laws (elemOk_minimal slot) hi hturn hr hres (by
      intro addr debt origin left he
      have hok := hl e mem_cons_self
      rw [he] at hok
      exact hok) hr1
    have hplace : SameButQueues s1 st1.2 := by
      rw [integrateElem, hr, bind_some] at hturn
      cases r with
      | none =>
        cases hturn
        exact ⟨_, _, _, _, _, _, _, rfl⟩
      | some => exact placeGrant_frame hturn
    obtain ⟨hs', hm', hf'⟩ := ih (hu.of_grows hg) (by rw [ho]; exact hb) (by rw [ho]; exact hb')
      (hp.indexed hi) hs1 (hm1.of_frame hplace)
      (fun x hx => hl x (mem_cons_of_mem _ hx))
    exact ⟨hs', hm', hf'.trans (hplace.fixed.trans hfix)⟩

/-! The queue that finalisation finds -/

theorem push_release_sublist :
    (push maxDlschedElemsPerTimeslot q (releaseElem a)).Sublist (q ++ [releaseElem a]) := by
  have hnone : ∀ x, coalesceInto (releaseElem a) x = none := fun x => by cases x <;> rfl
  rw [push, coalesceReadyGrantOrAck, updateLast_none hnone]
  exact enforceSchedQueueCap_sublist _ _

theorem clearPacketDataAssignmentForSlot_queue (s : BsChannelScheduler) (t slot : Nat)
    (alloc : Option TimeslotAllocator) : ∃ rel : List PacketDataAssignment, rel.length ≤ 1 ∧
      ((s.clearPacketDataAssignmentForSlot t alloc).2.1.dltxQueues slot).Sublist
        (s.dltxQueues slot ++ rel.map releaseElem) := by
  unfold clearPacketDataAssignmentForSlot
  split
  · exact ⟨[], Nat.zero_le 1, by simp⟩
  split
  · exact ⟨[], Nat.zero_le 1, by simp⟩
  rename_i a _
  refine ⟨[a], Nat.le_refl 1, ?_⟩
  have hpurged : (((s.dltxQueues slot).filter (fun e => !isPacketDataPendingGrant a.addr t e)).filter
      (fun e => !schedElemIsPacketDataPayloadForAddr a.addr e)).Sublist (s.dltxQueues slot) :=
    filter_sublist.trans filter_sublist
  dsimp only [queuePacketDataCommonControlRelease, pushSchedQueueBounded, pushSchedQueueWithCap]
  by_cases hslot : slot = 0
  · subst hslot
    rw [setQueue_self]
    exact push_release_sublist.trans (hpurged.append (List.Sublist.refl _))
  · rw [setQueue_of_ne _ _ hslot]
    exact hpurged.trans (sublist_append_left _ _)

theorem sync_queue (slot : Nat) (l : List Nat) (s : BsChannelScheduler)
    (alloc : Option TimeslotAllocator) : ∃ rel : List PacketDataAssignment, rel.length ≤ l.length ∧
      ((syncPacketDataAssignmentsWithAllocator l s alloc).1.dltxQueues slot).Sublist
        (s.dltxQueues slot ++ rel.map releaseElem) := by
  induction l generalizing s alloc with
  | nil => exact ⟨[], Nat.le_refl 0, by simp [syncPacketDataAssignmentsWithAllocator]⟩
  | cons t rest ih =>
    have hskip : ∀ (s1 : BsChannelScheduler) (alloc1 : Option TimeslotAllocator)
        (rel1 : List PacketDataAssignment), rel1.length ≤ 1 →
        (s1.dltxQueues slot).Sublist (s.dltxQueues slot ++ rel1.map releaseElem) →
        ∃ rel : List PacketDataAssignment, rel.length ≤ (t :: rest).length ∧
          ((syncPacketDataAssignmentsWithAllocator rest s1 alloc1).1.dltxQueues slot).Sublist
            (s.dltxQueues slot ++ rel.map releaseElem) := by
      intro s1 alloc1 rel1 h1 hs1
      obtain ⟨rel, hrel, hsub⟩ := ih s1 alloc1
      refine ⟨rel1 ++ rel, ?_, ?_⟩
      · rw [length_append, length_cons]
        omega
      · rw [map_append, ← append_assoc]
        exact hsub.trans (hs1.append (List.Sublist.refl _))
    obtain ⟨rel1, h1, hs1⟩ := clearPacketDataAssignmentForSlot_queue s t slot alloc
    rw [syncPacketDataAssignmentsWithAllocator]
    split
    · split
      · rename_i heq
        rw [heq] at hs1
        exact hskip _ _ rel1 h1 hs1
      rename_i heq
      rw [heq] at hs1
      exact hskip _ _ rel1 h1 hs1
    · exact hskip s alloc [] (Nat.zero_le 1) (by simp)

theorem dropAssignments_queues (p : PacketDataAssignment → Bool) (l : List Nat)
    (s : BsChannelScheduler) (alloc : Option TimeslotAllocator) :
    (dropAssignments p l s alloc).1.dltxQueues = s.dltxQueues := by
  induction l generalizing s alloc with
  | nil => rfl
  | cons t rest ih =>
    rw [dropAssignments]
    split
    · exact ih _ _
    · exact ih _ _

theorem prepareSlot_queue : ∃ rel : List PacketDataAssignment, rel.length ≤ 3 ∧
      ((s.prepareSlot ts alloc).1.dltxQueues slot).Sublist
        (s.dltxQueues slot ++ rel.map releaseElem) := by
  have hstart : ((if ts.t = 1 then { s with mcchChanAllocSentThisFrame := false } else s).stampPrecomps
      ts).dltxQueues = s.dltxQueues := by
    split <;> rfl
  obtain ⟨rel, hrel, hsub⟩ := sync_queue slot [2, 3, 4]
    ((if ts.t = 1 then { s with mcchChanAllocSentThisFrame := false } else s).stampPrecomps ts) alloc
  refine ⟨rel, hrel, ?_⟩
  rw [hstart] at hsub
  unfold prepareSlot expirePacketDataAssignments
  dsimp only
  rw [dropAssignments_queues]
  exact hsub

/-- Queue contents that finalisation may start from: with the releases it may add
they fit the cap, and no packet data grant that has used up its waits shares the
queue with payload of its own address. -/
structure SlotSafe (q : List DlSchedElem) : Prop where
  room : q.length + 3 ≤ maxDlschedElemsPerTimeslot
  calm : ∀ addr debt assignedTs, .pendingGrant addr debt (.packetData assignedTs) ∈ q →
    debt.packetDataWaitBudgetExhausted = true →
    ∀ x ∈ q, schedElemIsPacketDataPayloadForAddr addr x = false

theorem SlotSafe.prepared (h : SlotSafe (s.dltxQueues slot)) (ts : TdmaTime)
    (alloc : Option TimeslotAllocator) :
    TableSafe ((s.prepareSlot ts alloc).1.dltxQueues slot) := by
  obtain ⟨rel, hrel, hsub⟩ := prepareSlot_queue
  have hroom := h.room
  have hmem : ∀ x ∈ (s.prepareSlot ts alloc).1.dltxQueues slot,
      x ∈ s.dltxQueues slot ∨ ∃ a, x = releaseElem a := by
    intro x hx
    rcases mem_append.mp (hsub.subset hx) with hx | hx
    · exact .inl hx
    · obtain ⟨a, -, rfl⟩ := List.mem_map.mp hx
      exact .inr ⟨a, rfl⟩
  refine ⟨?_, ?_⟩
  · have hlen := hsub.length_le
    rw [length_append, length_map] at hlen
    omega
  · intro addr debt t hp hx x hxq
    rcases hmem _ hp with hp | ⟨a, hp⟩
    · rcases hmem x hxq with hxq | ⟨a, rfl⟩
      · exact h.calm addr debt t hp hx x hxq
      · exact payload_empty
    · cases hp

/-! Whole runs -/

/-- What holds between slots. -/
structure Ready (s : BsChannelScheduler) : Prop where
  settled : UlSettled s
  stock : Stocked (fun _ => ElemOk) AssignmentOk s
  circuits : s.circuits.Ok
  markers : Markers s
  cell : CellOk s.precomps

/-- Requests whose contents fit their fields and blocks, for addresses that a header
can carry with what is asked for; slots whose queue is safe. -/
def Fit (s : BsChannelScheduler) : SchedOp → Prop
  | .dlEnqueueGrant _ addr g m => ElemOk (.grant addr g m)
  | .dlEnqueueReservationGrant _ addr _ => Grantable addr
  | .dlEnqueuePacketDataReservationGrant _ addr _ => Grantable addr
  | .dlEnqueueRandomAccessAck _ addr => Addressable addr
  | .dlEnqueueTma pdu sdu _ ackGrant =>
    Carriable pdu sdu ∧ ∀ addr r, ackGrant = some (addr, r) → Grantable addr
  | .dlEnqueueTmaNextFrame pdu sdu _ => Carriable pdu sdu
  | .dlEnqueueStealing _ block _ _ => block.len = schHdCap
  | .dlScheduleTmd _ block => MediaOk block
  | .nextSlot _ => SlotSafe (s.dltxQueues ((s.curDltime.addTimeslots 2).t - 1))
  | _ => True

theorem Ready.new (scr : Nat) (hp : CellOk p) (t : TdmaTime) : Ready (.new scr p t) where
  settled := .new scr p t
  stock := .new scr p t
  circuits := ⟨⟨rfl, rfl⟩, fun _ _ hb => nomatch hb⟩
  markers := fun _ => (by decide : 4 < 63)
  cell := hp

theorem canCarry_of_frame (h : ts.f ≠ 18) : canCarryScheduledSchf ts = true := by
  simp [canCarryScheduledSchf, h]

theorem slotUse_frame : ((s.slotUse ts alloc).dlIsTraffic = true → ts.f ≠ 18) ∧
      ((s.slotUse ts alloc).dlCircuitActive = true → ts.f ≠ 18) := by
  simp only [slotUse, Bool.and_eq_true, decide_eq_true_eq]
  exact ⟨fun h => h.1.2, fun h => h.2⟩

/-- Integration runs through and keeps what the rest of finalisation relies on. -/
theorem UlSettled.integrated (h : UlSettled s0) (hul : s.uplink = s0.tickStart.uplink)
    (hts : ts = .fromInt (s0.now + 2)) (hstock : Stocked (fun _ => ElemOk) AssignmentOk s)
    (hm : Markers s) (hq : TableSafe (s.dltxQueues (ts.t - 1))) :
    ∃ s1, s.dlIntegrateSchedElemsForTimeslot ts env = some s1 ∧
      Stocked (fun _ => ElemOk) AssignmentOk s1 ∧ Markers s1 ∧ s1.fixed = s.fixed := by
  unfold dlIntegrateSchedElemsForTimeslot
  rw [dlSlotIndex_t]
  dsimp only
  split
  · exact ⟨s, rfl, hstock, hm, rfl⟩
  obtain ⟨st', hturns⟩ := h.integration_turns hul hts env hq
  obtain ⟨hu, hold⟩ := h.starts hul ts env
  have hframe := dlTakeAllReadyGrantsAndAcks_frame s ts env
  obtain ⟨htaken, hleft⟩ := takeReady_mem (q := s.dltxQueues (ts.t - 1))
    (.default ts env.energySaving env.subscribers)
  have heq := dlTakeAllReadyGrantsAndAcks_eq s ts env
  have hstart : Stocked (fun _ => ElemOk) AssignmentOk (s.integrationStart ts env).2 := by
    rw [integrationStart, heq]
    exact ((Tidies.refl (o := True) s).setQueue _
      (fun _ _ e he => hstock.slots _ e (hleft e he).1)).stock hstock
  have hok : ∀ e ∈ (s.dlTakeAllReadyGrantsAndAcks ts env).1, ElemOk e := by
    intro e he
    rw [heq] at he
    exact hstock.slots _ e (htaken e he).1
  have hfold := hturns.fold
  rw [integrationStart] at hfold
  refine ⟨st'.2, by rw [hfold, map_some], ?_⟩
  have hm' : Markers (s.integrationStart ts env).2 := hm.of_frame hframe
  have hi := indexed_lastResource ((s.integrationStart ts env).2.dltxQueues (ts.t - 1))
  have hfix : (s.integrationStart ts env).2.fixed = s.fixed := hframe.fixed
  clear hfold hframe heq htaken hleft
  subst hts
  obtain ⟨hs1, hm1, hf1⟩ := hturns.ready hu (by rw [hold]; omega) (by rw [hold]; omega) hi hstart
    hm' hok
  exact ⟨hs1, hm1, hf1.trans hfix⟩

/-- The scheduled part of a slot is made without a panic, in one of the shapes. -/
theorem UlSettled.scheduledBlocks (h : UlSettled s0) (env : SlotEnv)
    (hul : s.uplink = s0.tickStart.uplink) (hts : ts = .fromInt (s0.now + 2))
    (hstock : Stocked (fun _ => ElemOk) AssignmentOk s) (hcirc : s.circuits.Ok) (hm : Markers s)
    (hq : TableSafe (s.dltxQueues (ts.t - 1))) (alloc : Option TimeslotAllocator) :
    ∃ blks s' es alloc' headers,
      s.scheduledBlocks ts env (s.slotUse ts alloc) = some (blks, s', es, alloc', headers) ∧
      Stocked (fun _ => ElemOk) AssignmentOk s' ∧ s'.circuits.Ok ∧ Markers s' ∧
      s'.precomps = s.precomps ∧ (∀ b1 b2, blks = some (b1, b2) → Shaped b1 b2) ∧
      (canCarryScheduledSchf ts = false → blks = none) := by
  obtain ⟨hf1, hf2⟩ := slotUse_frame
  unfold BsChannelScheduler.scheduledBlocks
  split
  · rename_i htraffic
    obtain ⟨tch, stch, s', es, hb, htch⟩ :=
      dlBuildTrafficBlock_some hcirc
    obtain ⟨htidies, hst⟩ := dlBuildTrafficBlock_tidies (o := True) elemOk_laws elemOk_prune
      elemOk_steal hb
    have hframe := htidies.frame
    have hs' := htidies.stock (hstock.of_same rfl rfl rfl)
    obtain ⟨b1, b2, hblk, hshape⟩ := trafficBlocks_some (s := s') htch (fun b hb => by
      obtain ⟨addr, tx, g, hok⟩ := hst hstock b hb
      exact hok)
    have hm' : Markers s' := fun i => hframe.markers ▸ hm i
    refine ⟨some (b1, b2), s', es, env.alloc, [], ?_, hs', ?_, hm', hframe.precomps, ?_, ?_⟩
    · rw [hb, bind_some]
      dsimp only
      rw [hblk, map_some]
    · rw [hframe.circuits]
      exact (hcirc.takeBlock ts.t).1
    · intro x y hxy
      cases hxy
      exact hshape
    · intro hc
      rw [canCarry_of_frame (hf1 htraffic)] at hc
      cases hc
  · obtain ⟨s1, hint, hs1, hm1, hfix1⟩ := h.integrated hul hts hstock hm hq
    obtain ⟨buf, s2, es, alloc2, headers, hbuild, hs2, hlen, hnone⟩ :=
      hs1.dlBuildBlock
    have hframe := dlBuildBlock_frame hbuild
    have hfix := hframe.fixed.trans hfix1
    simp only [fixed, Prod.mk.injEq] at hfix
    have hcirc2 : s2.circuits.Ok := by
      rw [hfix.1]
      exact hcirc
    rw [hint, bind_some, hbuild, bind_some]
    cases buf with
    | some b =>
      refine ⟨_, _, _, _, _, rfl, hs2, hcirc2, hm1.of_frame hframe, hfix.2, ?_, ?_⟩
      · intro x y hxy
        cases hxy
        exact .signalling _ rfl (hlen b rfl)
      · intro hc
        cases hnone hc
    | none =>
      dsimp only
      split
      · rename_i hactive
        obtain ⟨n, hn, hl⟩ := nullBlock_some BsFragger.schFCap (by decide)
        rw [hn, map_some]
        refine ⟨_, _, _, _, _, rfl, hs2, hcirc2, hm1.of_frame hframe, hfix.2, ?_, ?_⟩
        · intro x y hxy
          cases hxy
          exact .signalling _ rfl hl
        · intro hc
          rcases hactive with ⟨-, ha⟩ | ⟨-, ha⟩
          · rw [canCarry_of_frame (hf2 ha)] at hc
            cases hc
          · rw [ha] at hc
            cases hc
      · refine ⟨_, _, _, _, _, rfl, hs2, hcirc2, hm1.of_frame hframe, hfix.2, ?_, fun _ => rfl⟩
        intro x y hxy
        cases hxy

/-- One slot after another goes on the air. -/
theorem Ready.nextSlot (h : Ready s) (hfit : Fit s (.nextSlot env)) :
    ∃ r, s.nextSlot env = some r ∧ Ready r.sched ∧ WellFormedSlot r.slot := by
  have hts : s.tickStart.curDltime.addTimeslots (macschedTxAhead : Int) = .fromInt (s.now + 2) := by
    show (s.curDltime.addTimeslots 1).addTimeslots 1 = _
    rw [h.settled.time, TdmaTime.fromInt_addTimeslots, TdmaTime.fromInt_addTimeslots]
    exact congrArg _ (by omega)
  have hnext : s.curDltime.addTimeslots 2 = .fromInt (s.now + 2) := by
    rw [h.settled.time, TdmaTime.fromInt_addTimeslots]
  obtain ⟨ts, hts'⟩ : ∃ ts, ts = TdmaTime.fromInt (s.now + 2) := ⟨_, rfl⟩
  rw [← hts'] at hts hnext
  have hsafe : SlotSafe (s.tickStart.dltxQueues (ts.t - 1)) := by
    have hfit' : SlotSafe (s.dltxQueues ((s.curDltime.addTimeslots 2).t - 1)) := hfit
    rw [hnext] at hfit'
    exact hfit'
  have htidies := prepareSlot_tidies s.tickStart elemOk_laws trivial ts env.alloc
  have hprep := htidies.frame
  have hstock := htidies.stock (h.stock.of_same rfl rfl rfl)
  have hcirc : (s.tickStart.prepareSlot ts env.alloc).1.circuits.Ok := by
    rw [hprep.circuits]
    exact h.circuits
  have hm : Markers (s.tickStart.prepareSlot ts env.alloc).1 := fun i => hprep.markers ▸ h.markers i
  have hul := prepareSlot_uplink s.tickStart ts env.alloc
  obtain ⟨blks, s', es, alloc', headers, hblk, hs', hc', hm', hp', hshape, hcarry⟩ :=
    h.settled.scheduledBlocks { env with alloc := (s.tickStart.prepareSlot ts env.alloc).2 }
      hul hts' hstock hcirc hm (hsafe.prepared ts env.alloc) (s.tickStart.prepareSlot ts env.alloc).2
  have hti := h.settled.ticked hul
  have hg : UlGrows (s.tickStart.prepareSlot ts env.alloc).1 s' := by
    rw [hts'] at hblk hti ⊢
    exact hti.1.scheduledBlocks (by rw [hti.2]; omega) (by rw [hti.2]; omega) hblk
  have hinv := hti.1.of_grows hg
  obtain ⟨-, -, ho⟩ := hg.clock
  have hul' : (s'.ulsched.get ts).ul1 = none → (s'.ulsched.get ts).ul2 = none := by
    rw [hts', hinv.keeps.get (by rw [ho, hti.2]; omega) (by rw [ho, hti.2, UlSched.ringSlots]; omega)]
    exact hinv.keeps.ordered _
  have hstamp : Stamped s' ts := ⟨s.precomps, h.cell, hp'.trans hprep.precomps⟩
  obtain ⟨slot, hslot, hwell⟩ := assembleSlot_wellFormed hstamp hc'.free hul'
    ((s.tickStart.prepareSlot ts env.alloc).1.slotUse ts (s.tickStart.prepareSlot ts env.alloc).2)
    alloc' hshape hcarry
  have hr : s.nextSlot env = some ⟨slot, s'.clearUplinkSlot ts, es, alloc', headers⟩ := by
    unfold BsChannelScheduler.nextSlot finalizeTsForTick
    rw [hts]
    dsimp only
    rw [hblk, bind_some]
    dsimp only
    rw [hslot, map_some]
  refine ⟨_, hr, ⟨(h.settled.nextSlot hr).1, hs'.of_same rfl rfl rfl, hc', hm', ?_⟩, hwell⟩
  have hcell : CellOk s'.precomps := by
    rw [hp', hprep.precomps]
    exact h.cell.stamped ts
  exact hcell

theorem Ready.of_frame (h : Ready s) (hs : UlSettled s')
    (hq : Stocked (fun _ => ElemOk) AssignmentOk s') (hf : SameButQueues s s') : Ready s' := by
  exact ⟨hs, hq, hf.circuits ▸ h.circuits, h.markers.of_frame hf, hf.precomps ▸ h.cell⟩

theorem Fit.brings (h : Fit s op) (hn : ∀ env, op ≠ .nextSlot env) : Brings ElemOk s op := by
  cases op with
  | nextSlot env => exact absurd rfl (hn env)
  | dlEnqueueTma =>
    exact ⟨fun pdu' ha => ⟨h.1.adapted ha, .none⟩, fun addr r ha => h.2 addr r ha⟩
  | dlEnqueueTmaNextFrame => exact ⟨h, .none⟩
  | dlScheduleTmd => trivial
  | _ => exact h

/-- A request, or a slot, is carried out and leaves the scheduler ready. -/
theorem Ready.step (h : Ready s) (hfit : Fit s op) : ∃ s', s.step op = some s' ∧ Ready s' := by
  -- what is left to show of the requests, which all have a result
  have hstock : ∀ s', s.step op = some s' → op.isRequest = true →
      Stocked (fun _ => ElemOk) AssignmentOk s' := by
    intro s' hs ho
    refine h.stock.step elemOk_laws (hfit.brings ?_) ?_ hs
    · rintro env rfl
      cases ho
    · rintro ts addr r rfl
      cases ho
  have hrest : ∀ s', s.step op = some s' → op.isRequest = true →
      (s'.circuits.Ok ∧ Markers s' ∧ CellOk s'.precomps) → Ready s' :=
    fun s' hs ho ⟨hc, hm, hp⟩ => ⟨(h.settled.step hs).1, hstock s' hs ho, hc, hm, hp⟩
  by_cases hq : op.queuesOnly = true
  · obtain ⟨s', hs⟩ : ∃ s', s.step op = some s' := by
      cases op <;> first | exact ⟨_, rfl⟩ | cases hq
    have hf := step_frame hq hs
    refine ⟨s', hs, h.of_frame (h.settled.step hs).1 (hstock s' hs ?_) hf⟩
    cases op <;> first | rfl | cases hq
  · cases op with
    | nextSlot =>
      obtain ⟨r, hr, hready, -⟩ := h.nextSlot hfit
      exact ⟨r.sched, by rw [BsChannelScheduler.step, hr, map_some], hready⟩
    | ulProcessCapReq ts addr r =>
      obtain ⟨x, hx, hg⟩ := h.settled.ulProcessCapReq ts addr r
      refine ⟨x.2, by rw [BsChannelScheduler.step, hx, map_some], ?_⟩
      obtain ⟨⟨r', s'⟩, hp, rfl⟩ := map_eq_some_iff.mp hx
      have hsame : SameButUplink s s' := by
        have hw := h.settled.window
        rw [h.settled.time] at hp
        rcases h.settled.toUlInv.ulProcessPendingGrantFrom (b := s.now) (by omega) (by omega) ts addr
          (.new r) none with hn | ⟨g, m, cap, s1, owner, ns, sub, hp', -, hs1, -⟩
        · rw [hp] at hn
          cases hn
          exact .refl s
        · rw [hp] at hp'
          cases hp'
          exact hs1
      have hst : Stocked (fun _ => ElemOk) AssignmentOk s' := by
        obtain ⟨_, _, _, rfl⟩ := hsame
        exact h.stock.of_same rfl rfl rfl
      have hfix := hsame.fixed
      simp only [fixed, Prod.mk.injEq] at hfix
      exact ⟨h.settled.of_grows hg, hst, hfix.1 ▸ h.circuits, (h.markers.pending hp).1,
        hfix.2 ▸ h.cell⟩
    | createCircuit dir c =>
      refine ⟨_, rfl, hrest _ rfl rfl ?_⟩
      rcases createCircuit_tidies .any trivial dir c with he | ⟨hts, hf⟩
      · rw [he]
        exact ⟨h.circuits, h.markers, h.cell⟩
      · have hf := hf.frame
        refine ⟨?_, fun i => hf.markers ▸ h.markers i, hf.precomps ▸ h.cell⟩
        rw [hf.circuits]
        exact h.circuits.createCircuit dir hts.1
    | closeCircuit dir ts =>
      exact ⟨_, rfl, hrest _ rfl rfl
        ⟨h.circuits.closeCircuit dir ts, h.markers, h.cell⟩⟩
    | setHangtime ts active =>
      have hf := setHangtime_frame s ts active
      exact ⟨_, rfl, hrest _ rfl rfl
        ⟨hf.circuits ▸ h.circuits, fun i => hf.markers ▸ h.markers i, hf.precomps ▸ h.cell⟩⟩
    | clearDlMediaQueue ts =>
      exact ⟨_, rfl, hrest _ rfl rfl
        ⟨h.circuits.clearTxData ts, h.markers, h.cell⟩⟩
    | clearDlMediaQueueExceptSource ts src addr =>
      exact ⟨_, rfl, hrest _ rfl rfl
        ⟨h.circuits.clearTxDataExceptSource ts src addr, h.markers, h.cell⟩⟩
    | dlScheduleTmd ts =>
      exact ⟨_, rfl, hrest _ rfl rfl
        ⟨h.circuits.putBlock ts hfit, h.markers, h.cell⟩⟩
    | setSystemWideServicesState enabled =>
      exact ⟨_, rfl, hrest _ rfl rfl
        ⟨h.circuits, h.markers, h.cell.setSystemWideServices enabled⟩⟩
    | _ => exact absurd rfl hq

/-- Along every run of fitting requests and safe slots nothing panics, and the next
slot is of the agreed shape and becomes one burst. -/
theorem every_slot_on_air (coding : ChannelCoding) (scr : Nat) (p : PrecomputedUmacPdus)
    (t : TdmaTime) (ops : List SchedOp) (hp : CellOk p)
    (hfit : Along step Fit (.new scr p t) ops) :
    ∃ s, run step (.new scr p t) ops = some s ∧ ∀ env, Fit s (.nextSlot env) →
      ∃ r, s.nextSlot env = some r ∧ r.slot.ts = .fromInt (s.now + 2) ∧ WellFormedSlot r.slot ∧
        ∃ burst, onAir coding r.slot = some burst ∧ burst.length = Slotter.timeslotType4Bits := by
  have hstep : ∀ s op, Ready s → Fit s op → ∃ s', step s op = some s' ∧ Ready s' :=
    fun s op h hf => h.step hf
  obtain ⟨s, hr, hs⟩ := run_total hstep (Ready.new scr hp t) hfit
  refine ⟨s, hr, fun env hnext => ?_⟩
  obtain ⟨r, hslot, -, hwell⟩ := hs.nextSlot hnext
  exact ⟨r, hslot, (hs.settled.nextSlot hslot).2.2.1, hwell, hwell.onAir coding⟩

theorem sampleCell_ok : CellOk sampleCell := by
  refine ⟨by decide, by decide, ⟨rfl, ?_⟩, ⟨rfl, ?_⟩, by decide⟩
  · intro fs h
    cases h
    decide
  · intro fs h
    cases h
    decide

/-- The slot that acknowledges a random access goes on the air. -/
theorem acknowledgement_on_air : ∃ s,
    run step (.new 3 sampleCell .default) [.dlEnqueueRandomAccessAck 3 (.issi 1001)] = some s ∧
      ∃ r, s.nextSlot quietEnv = some r ∧
        ∃ burst, onAir Lmac.errorControl r.slot = some burst ∧ burst.length = 510 := by
  obtain ⟨s, hr, hs⟩ := every_slot_on_air Lmac.errorControl 3 sampleCell .default
    [.dlEnqueueRandomAccessAck 3 (.issi 1001)] sampleCell_ok
    ⟨⟨by decide, .inl (.inr (.inr rfl))⟩, fun _ _ => trivial⟩
  refine ⟨s, hr, ?_⟩
  cases hr
  obtain ⟨r, hslot, -, -, hair⟩ := hs quietEnv ⟨by decide, by
    intro addr debt t hm
    cases hm with
    | tail _ hm => cases hm⟩
  exact ⟨r, hslot, hair⟩

/-- A grant of two slots for a USSI comes with a usage marker, which no header can
carry beside a USSI: nothing but fill bits is written, and the next header in the
block trips over their number. -/
theorem ussi_grant_panics : ∃ s,
    run step (.new 3 sampleCell .default)
      [.dlEnqueueReservationGrant 3 ⟨1001, .ussi⟩ .req2Slots,
        .dlEnqueueRandomAccessAck 3 (.issi 1002)] = some s ∧
      s.nextSlot quietEnv = none := by
  refine ⟨_, rfl, ?_⟩
  decide +kernel

end BsChannelScheduler
end NexusBs
