import NexusBs.Sched.Frame

namespace NexusBs
open Option
namespace BsChannelScheduler

variable {s s' : BsChannelScheduler}

def media (s : BsChannelScheduler) : CircuitMgr × (Nat → Bool) := (s.circuits, s.hangtime)

theorem SameButQueues.media (h : SameButQueues s s') : s'.media = s.media := by
  obtain ⟨_, _, _, _, _, _, _, rfl⟩ := h
  rfl

theorem reserve_media (h : s.reserve ssi times half marker = some (s', sub)) :
    s'.media = s.media := by
  obtain ⟨⟨u, n⟩, _, he⟩ := map_eq_some_iff.mp h
  cases he
  rfl

variable {alloc : Option TimeslotAllocator} {ts : TdmaTime}

theorem ulProcessPendingGrantFrom_media
    (h : s.ulProcessPendingGrantFrom base timeslot addr debt alloc = some (r, s')) :
    s'.media = s.media := by
  obtain ⟨op, _, h⟩ := bind_eq_some_iff.mp h
  cases op with
  | none =>
    cases h
    rfl
  | some found =>
    obtain ⟨cap, skips, times⟩ := found
    dsimp only at h
    have hmarked : ∀ st : Option Nat × BsChannelScheduler, st.2.media = s.media →
        ((st.2.reserve addr.ssi times debt.isHalfslot st.1).bind (fun reserved =>
          (grantedCapacity debt.isHalfslot reserved.2 cap).map (fun capAlloc =>
            (some ((⟨capAlloc, grantingDelay skips⟩ : BasicSlotgrant), st.1, cap), reserved.1)))) =
          some (r, s') → s'.media = s.media := by
      intro st hst h
      obtain ⟨⟨s1, sub⟩, hreserve, h⟩ := bind_eq_some_iff.mp h
      obtain ⟨capAlloc, _, he⟩ := map_eq_some_iff.mp h
      cases he
      exact (reserve_media hreserve).trans hst
    exact hmarked _ (by split <;> rfl) h

theorem resolveGrant_media (h : s.resolveGrant ts alloc e = some (r, s')) : s'.media = s.media := by
  unfold resolveGrant at h
  split at h
  · split at h
    · cases h
      rfl
    obtain ⟨⟨g, s1⟩, hgrant, h⟩ := map_eq_some_iff.mp h
    have hmedia := ulProcessPendingGrantFrom_media hgrant
    dsimp only at h
    split at h
    · cases h
      refine Eq.trans ?_ hmedia
      split
      · exact (pushNextSlotQueueBounded_frame _ _).media
      · rfl
    · split at h
      · cases h
        exact (dropAfterWaitBudget_frame _ _ _).media.trans hmedia
      · cases h
        exact (pushNextSlotQueueBounded_frame _ _).media.trans hmedia
  · cases h
    rfl

theorem integrateElem_media (h : integrateElem ts slot alloc st e = some st') :
    st'.2.media = st.2.media := by
  obtain ⟨⟨r, s1⟩, h1, h2⟩ := bind_eq_some_iff.mp h
  have hmedia := resolveGrant_media h1
  cases r with
  | none =>
    cases h2
    exact hmedia
  | some => exact (placeGrant_frame h2).media.trans hmedia

theorem integrateAll_media {st st' : ResourceIndexes × BsChannelScheduler}
    {taken : List DlSchedElem} (h : taken.foldlM (integrateElem ts slot alloc) st = some st') :
    st'.2.media = st.2.media := by
  induction taken generalizing st with
  | nil =>
    cases h
    rfl
  | cons e rest ih =>
    rw [List.foldlM_cons] at h
    obtain ⟨st1, h1, h⟩ := bind_eq_some_iff.mp h
    exact (ih h).trans (integrateElem_media h1)

theorem dlIntegrate_media (h : s.dlIntegrateSchedElemsForTimeslot ts env = some s') :
    s'.media = s.media := by
  unfold dlIntegrateSchedElemsForTimeslot at h
  split at h
  · cases h
    rfl
  split at h
  · cases h
    rfl
  · obtain ⟨st', hf, rfl⟩ := map_eq_some_iff.mp h
    exact (integrateAll_media hf).trans (dlTakeAllReadyGrantsAndAcks_frame s ts env).media

/-- A traffic slot takes one block of its media queue, and any other slot none. -/
theorem scheduledBlocks_media
    (h : s.scheduledBlocks ts env use = some (blks, s', es, alloc, headers)) :
    s'.media = (if use.dlIsTraffic then (s.circuits.takeBlock ts.t).2 else s.circuits,
      s.hangtime) := by
  unfold scheduledBlocks at h
  split at h
  · rename_i htraffic
    obtain ⟨⟨tch, stch, s1, es1⟩, h1, h⟩ := bind_eq_some_iff.mp h
    obtain ⟨_, -, h⟩ := map_eq_some_iff.mp h
    cases h
    rw [if_pos htraffic]
    exact (dlBuildTrafficBlock_frame h1).media
  · rename_i htraffic
    rw [if_neg htraffic]
    obtain ⟨s1, h1, h⟩ := bind_eq_some_iff.mp h
    obtain ⟨⟨buf, s2, es2, alloc2, headers2⟩, h2, h⟩ := bind_eq_some_iff.mp h
    have hmedia : s2.media = s.media := (dlBuildBlock_frame h2).media.trans (dlIntegrate_media h1)
    refine Eq.trans ?_ hmedia
    dsimp only at h
    split at h
    · cases h
      rfl
    split at h
    · obtain ⟨_, -, he⟩ := map_eq_some_iff.mp h
      cases he
      rfl
    · cases h
      rfl

theorem createCircuit_media (s : BsChannelScheduler) (dir : Direction) (h : isTimeslot c.ts = true)
    (h1 : c.ts ≠ 1) :
    (s.createCircuit dir c).media =
      (s.circuits.createCircuit dir c, Function.update s.hangtime (c.ts - 1) false) := by
  have hm := ((dlDropAllExceptStolen_tidies s c.ts).trans
    (clearPacketDataAssignmentForSlot_tidies (s.dlDropAllExceptStolen c.ts) .any trivial c.ts
      none)).frame.media
  unfold createCircuit
  rw [if_neg (by simp [h, h1])]
  dsimp only
  change ((s.dlDropAllExceptStolen c.ts).clearPacketDataAssignmentForSlot c.ts none).2.1.media = _ at hm
  have hc := congrArg Prod.fst hm
  have hh := congrArg Prod.snd hm
  simp only [media] at hc hh ⊢
  simp only [clearFutureUplink, hc, hh]

/-- The block that finalising the slot ahead of the current time takes from its media queue. -/
def takenBlock (s : BsChannelScheduler) (env : SlotEnv) : Option (Nat × CircuitTxBlock) :=
  let ts := s.curDltime.addTimeslots macschedTxAhead
  let (s, alloc) := s.prepareSlot ts env.alloc
  if (s.slotUse ts alloc).dlIsTraffic then
    (s.circuits.takeBlock ts.t).1.map (fun block => (ts.t, block))
  else none

/-- Finalising a slot takes that block, or none, and does nothing else to circuits and media. -/
theorem finalizeTsForTick_media (h : s.finalizeTsForTick env = some r) :
    (r.sched.media = s.media ∧ s.takenBlock env = none) ∨
      ∃ t, r.sched.media = ((s.circuits.takeBlock t).2, s.hangtime) ∧
        s.takenBlock env = (s.circuits.takeBlock t).1.map (fun block => (t, block)) := by
  unfold finalizeTsForTick at h
  unfold takenBlock
  dsimp only at h ⊢
  generalize s.curDltime.addTimeslots macschedTxAhead = ts at h ⊢
  have hprep : (s.prepareSlot ts env.alloc).1.media = s.media :=
      prepareSlot_frame.media
  generalize s.prepareSlot ts env.alloc = prep at h hprep ⊢
  obtain ⟨s1, alloc⟩ := prep
  dsimp only at h hprep ⊢
  obtain ⟨⟨blks, s2, es, alloc2, headers⟩, h1, h⟩ := bind_eq_some_iff.mp h
  obtain ⟨slot, -, rfl⟩ := map_eq_some_iff.mp h
  have hclear : (s2.clearUplinkSlot ts).media = s2.media := rfl
  have hmedia := hclear.trans (scheduledBlocks_media h1)
  have hcirc : s1.circuits = s.circuits := congrArg Prod.fst hprep
  have hhang : s1.hangtime = s.hangtime := congrArg Prod.snd hprep
  by_cases htraffic : (s1.slotUse ts alloc).dlIsTraffic = true
  · rw [if_pos htraffic, hcirc, hhang] at hmedia
    rw [if_pos htraffic, hcirc]
    exact .inr ⟨ts.t, hmedia, rfl⟩
  · rw [if_neg htraffic] at hmedia
    rw [if_neg htraffic]
    exact .inl ⟨hmedia.trans hprep, rfl⟩

end BsChannelScheduler
end NexusBs
