import NexusBs.Umac.PlaneSteps

namespace NexusBs
namespace UmacBs
open MediaPlane Function

variable {o : Prop} {s s' : UmacBs}

/-- What holds of every state: isolation, the order of arrival where it is asked for, circuits that
belong together, and nothing waits without need. -/
structure Sound (o : Prop) (s : UmacBs) : Prop where
  kept : Kept o s.plane
  matched : s.plane.Matched
  flushed : s.plane.Flushed

/-! Floors that end -/

theorem discardInvolving_shrinks (s : UmacBs) (ts : Nat) :
    Shrinks s.plane (s.discardPendingPrivateUlMediaInvolving ts).plane := by
  unfold discardPendingPrivateUlMediaInvolving
  split
  · exact retainPending_shrinks s _
  · exact .refl _

variable {c : Circuit} {ts : Nat} {directions : Directions}

theorem discardInvolving_clear (s : UmacBs) (h : isTimeslot ts = true) :
    (s.discardPendingPrivateUlMediaInvolving ts).plane.Clear ts := by
  intro u m hm
  rw [discardPendingPrivateUlMediaInvolving, if_pos h, waiting_retainPending] at hm
  simpa using (List.mem_filter.mp hm).2

theorem plane_silence (s : UmacBs) (h : isTimeslot ts = true) (b : Bool) :
    (s.silence b ts).plane =
      (((s.discardPendingPrivateUlMediaInvolving ts).plane.clearTx ts).setHang ts b).setSpeaker ts none
      := by
  unfold silence
  dsimp only
  rw [plane_clearCurrentUlSpeaker _ h]
  refine congrArg (fun p => MediaPlane.setSpeaker p ts none) ?_
  change ((onScheduler (s.discardPendingPrivateUlMediaInvolving ts)
    (fun sched => sched.clearDlMediaQueue ts)).onScheduler
      (fun sched => sched.setHangtime ts b)).plane = _
  rw [plane_setHangtime _ h, plane_clearDlMediaQueue _ h]

theorem Sound.shrinks (h : Sound o s) (hs : Shrinks s.plane s'.plane) : Sound o s' :=
  ⟨h.kept.shrinks hs, hs.bearers ▸ h.matched, h.flushed.shrinks hs⟩

theorem Sound.silence (h : Sound o s) (ht : isTimeslot ts = true) (b : Bool) :
    Sound o (s.silence b ts) := by
  have hdis : Sound o (s.discardPendingPrivateUlMediaInvolving ts) :=
    h.shrinks (discardInvolving_shrinks s ts)
  have hclear := discardInvolving_clear s ht
  have hempty := hdis.kept.shrinks (clearTx_shrinks _ ts)
  have hflushed := hdis.flushed.shrinks (clearTx_shrinks _ ts)
  have hplane := plane_silence s ht b
  have hkept : Kept o (s.silence b ts).plane := by
    rw [hplane]
    refine (hempty.setHang (fun _ x hx => ?_)).setSpeaker (AllFrom.nobody _ ts)
    exact absurd rfl (mem_emptied hx).1
  refine ⟨hkept, ?_, ?_⟩
  · rw [hplane]
    exact hdis.matched
  · rw [hplane] at hkept ⊢
    exact hflushed.near ((near_setHang _ ts b).trans (near_setSpeaker _ ts none)) hclear hkept.isolated

theorem isTimeslot_of_mem_floor (h : floorTs ∈ s.floorMediaTimeslots ts) :
    isTimeslot floorTs = true := by
  unfold floorMediaTimeslots at h
  split at h
  · rcases List.mem_cons.mp h with rfl | h
    · assumption
    · rw [Option.mem_toList, Option.filter_eq_some_iff] at h
      exact (Bool.and_eq_true_iff.mp h.2).1
  · cases h

theorem Sound.silences (h : Sound o s) {l : List Nat} (hl : ∀ ts ∈ l, isTimeslot ts = true) :
    Sound o (l.foldl (fun s floorTs => s.silence b floorTs) s) := by
  induction l generalizing s with
  | nil => exact h
  | cons ts rest ih =>
    exact ih (h.silence (hl ts List.mem_cons_self) b) (fun t ht => hl t (List.mem_cons_of_mem _ ht))

theorem Sound.floorReleased (h : Sound o s) (ts : Nat) : Sound o (s.floorReleased ts) :=
  h.silences (fun _ => isTimeslot_of_mem_floor)

theorem Sound.callEnded (h : Sound o s) (ts : Nat) : Sound o (s.callEnded ts) :=
  h.silences (fun _ => isTimeslot_of_mem_floor)

/-! Circuits -/

theorem plane_closeIfActive_dl (s : UmacBs) (ts : Nat) : (s.closeIfActive .dl ts).plane =
    if (s.plane.dl ts).isSome then s.plane.closeDl ts else s.plane := by
  by_cases h : (s.plane.dl ts).isSome = true
  · obtain ⟨c, hc⟩ := Option.isSome_iff_exists.mp h
    have he : s.closeIfActive .dl ts = s.onScheduler (fun sched => sched.closeCircuit .dl ts) :=
        if_pos h
    rw [he, if_pos h, plane_closeCircuit_dl s (slots_timeslot hc)]
  · have he : s.closeIfActive .dl ts = s := if_neg h
    rw [he, if_neg h]

theorem plane_closeIfActive_ul (s : UmacBs) (ts : Nat) : (s.closeIfActive .ul ts).plane =
    if (s.plane.ul ts).isSome then s.plane.closeUl ts else s.plane := by
  by_cases h : (s.plane.ul ts).isSome = true
  · obtain ⟨c, hc⟩ := Option.isSome_iff_exists.mp h
    have he : s.closeIfActive .ul ts =
        { s.onScheduler (fun sched => sched.closeCircuit .ul ts) with
          history.ulClosedAt := update s.history.ulClosedAt ts s.history.clock } := if_pos h
    have hp := plane_closeCircuit_ul s (slots_timeslot hc)
    rw [he, if_pos h]
    exact congrArg (fun p : MediaPlane => { p with
      history.ulClosedAt := update s.history.ulClosedAt ts s.history.clock }) hp
  · have he : s.closeIfActive .ul ts = s := if_neg h
    rw [he, if_neg h]

/-- The circuits are among those of before. -/
def Fewer (p p' : MediaPlane) : Prop :=
  (∀ t c, p'.dl t = some c → p.dl t = some c) ∧ (∀ t c, p'.ul t = some c → p.ul t = some c)

theorem Fewer.matched (h : Fewer p p') (hm : p.Matched) : p'.Matched :=
  fun u hlt cu hu cd hd => hm u hlt cu (h.2 u cu hu) cd (h.1 _ cd hd)

theorem closeDirection_spec (h : Kept o s.plane) (ht : isTimeslot ts = true) (hc : s.plane.Clear ts) :
    Kept o (s.closeDirection ts dir).plane ∧ Near ts s.plane (s.closeDirection ts dir).plane ∧
      Fewer s.plane (s.closeDirection ts dir).plane := by
  cases dir with
  | dl =>
    have hp : (s.closeDirection ts .dl).plane = s.plane.closeDl ts := by
      by_cases hact : (s.plane.dl ts).isSome = true
      · have he : s.closeDirection ts .dl = (s.closeIfActive .dl ts).onScheduler
            (fun sched => sched.dlDiscardPendingStealing ts) := if_pos hact
        rw [he, plane_onScheduler_same, plane_closeIfActive_dl, if_pos hact]
        exact @BsChannelScheduler.step_frame _ _ (.dlDiscardPendingStealing ts) rfl rfl
      · have he : s.closeDirection ts .dl =
            s.onScheduler (fun sched => sched.closeCircuit .dl ts) := if_neg hact
        rw [he, plane_closeCircuit_dl s ht]
    rw [hp]
    exact ⟨h.closeDl ts, near_closeDl _ ts, fun _ _ => of_update_none, fun _ _ hu => hu⟩
  | ul =>
    by_cases hact : (s.plane.ul ts).isSome = true
    · have hp : (s.closeDirection ts .ul).plane = (s.plane.closeUl ts).setSpeaker ts none := by
        have he : s.closeDirection ts .ul = clearCurrentUlSpeaker { s.closeIfActive .ul ts with
            lastUlVoice := update (s.closeIfActive .ul ts).lastUlVoice (ts - 1) none } ts :=
          if_pos hact
        rw [he, plane_clearCurrentUlSpeaker _ ht, plane_lastUlVoice, plane_closeIfActive_ul,
          if_pos hact]
      rw [hp]
      refine ⟨(h.closeUl hc).setSpeaker (AllFrom.nobody _ ts), ?_, fun _ _ hd => hd, ?_⟩
      · exact (near_closeUl _ ts).trans (near_setSpeaker _ ts none)
      · exact fun _ _ => of_update_none
    · have hp : (s.closeDirection ts .ul).plane = s.plane.setHang ts false := by
        have he : s.closeDirection ts .ul =
            s.onScheduler (fun sched => sched.closeCircuit .ul ts) := if_neg hact
        have hnone : s.plane.ul ts = none := by simpa using hact
        rw [he, plane_closeCircuit_ul s ht]
        have hu : update s.plane.ul ts none = s.plane.ul := by
          rw [← hnone, update_eq_self]
        rw [hu]
        rfl
      rw [hp]
      exact ⟨h.setHang (fun hb => by cases hb), near_setHang _ ts false, fun _ _ hd => hd,
        fun _ _ hu => hu⟩

theorem closeDirections_spec (h : Kept o s.plane) (ht : isTimeslot ts = true)
    (hc : s.plane.Clear ts) (dirs : List Direction) :
    Kept o (dirs.foldl (fun s dir => s.closeDirection ts dir) s).plane ∧
      Near ts s.plane (dirs.foldl (fun s dir => s.closeDirection ts dir) s).plane ∧
      Fewer s.plane (dirs.foldl (fun s dir => s.closeDirection ts dir) s).plane := by
  induction dirs generalizing s with
  | nil => exact ⟨h, .refl _ _, fun _ _ hd => hd, fun _ _ hu => hu⟩
  | cons dir rest ih =>
    obtain ⟨hk, hn, hf⟩ := closeDirection_spec h ht hc
    obtain ⟨hk', hn', hf'⟩ := ih hk (hn.clear hc)
    exact ⟨hk', hn.trans hn', fun t c hd => hf.1 t c (hf'.1 t c hd),
      fun t c hu => hf.2 t c (hf'.2 t c hu)⟩

theorem closeDirection_invalid (ht : isTimeslot ts = false) :
    (s.closeDirection ts dir).plane = s.plane := by
  have hact : s.channelScheduler.circuits.isActive dir ts = false := by
    simp [CircuitMgr.isActive, CircuitMgr.circuit, ht]
  rw [closeDirection, hact, if_neg (by simp)]
  refine (plane_onScheduler s (f := fun sched => sched.closeCircuit dir ts) rfl).trans ?_
  simp only [BsChannelScheduler.closeCircuit, CircuitMgr.closeCircuit, ht, Bool.false_eq_true, if_false]
  rfl

theorem Sound.close (h : Sound o s) (directions : Directions) (ts : Nat) :
    Sound o (s.rxControlCircuitClose directions ts) := by
  have hdis : Sound o (s.discardPendingPrivateUlMediaInvolving ts) :=
    h.shrinks (discardInvolving_shrinks s ts)
  unfold rxControlCircuitClose
  cases ht : isTimeslot ts with
  | true =>
    have hclear := discardInvolving_clear s ht
    obtain ⟨hk, hn, hf⟩ := closeDirections_spec hdis.kept ht hclear directions.toList
    exact ⟨hk, hf.matched hdis.matched, hdis.flushed.near hn hclear hk.isolated⟩
  | false =>
    have hsame : ∀ (dirs : List Direction) (s : UmacBs),
        (dirs.foldl (fun s dir => s.closeDirection ts dir) s).plane = s.plane := by
      intro dirs
      induction dirs with
      | nil => exact fun _ => rfl
      | cons dir rest ih => exact fun s => (ih _).trans (closeDirection_invalid ht)
    refine hdis.shrinks ?_
    rw [hsame]
    exact .refl _

/-- No uplink circuit of a timeslot has fed the downlink circuit that is open on another. -/
def NeverFed (p : MediaPlane) (u d : Nat) : Prop :=
  match p.ul u with
  | some cu => cu.target u ≠ d
  | none => p.history.ulClosedAt u < p.history.dlOpenedAt d

instance (p : MediaPlane) (u d : Nat) : Decidable (NeverFed p u d) := by
  unfold NeverFed
  split <;> infer_instance

theorem queuedOk_fed {p : MediaPlane} {a : Arrival} (h : p.QueuedOk d b a) :
    ¬NeverFed p a.ulTs d := by
  unfold NeverFed
  split
  · rename_i cu hcu
    exact fun hne => hne (h.target cu hcu)
  rename_i hnone
  obtain ⟨_, _, _, hopen, _⟩ := h.deliverable
  have hclosed := h.closed hnone
  omega

theorem plane_openDirection_ul (ht : isTimeslot c.ts = true) (h1 : c.ts ≠ 1) :
    ∃ x, (s.openDirection c .ul).plane =
      (s.closeIfActive .ul c.ts).plane.openUl c.ts c x := by
  have hcreate := (plane_createCircuit (s.closeIfActive .ul c.ts) ht h1).2
  have hissi : ∀ addr, initialUlSpeakerForOpenCircuit c = some addr → addr.ssiType = .issi := by
    intro addr ha
    unfold initialUlSpeakerForOpenCircuit at ha
    split at ha
    · cases ha
    split at ha
    · split at ha
      · cases ha
        assumption
      split at ha
      · simpa using List.find?_some ha
      · cases ha
    · cases ha
  unfold openDirection
  simp only [if_pos ht]
  split
  · rename_i addr ha
    refine ⟨some addr, ?_⟩
    rw [plane_setCurrentUlSpeaker _ ht (hissi addr ha), plane_clearCurrentUlSpeaker _ ht,
      plane_lastUlVoice, hcreate]
    simp [MediaPlane.setSpeaker, MediaPlane.openUl]
  · refine ⟨none, ?_⟩
    rw [plane_clearCurrentUlSpeaker _ ht, plane_lastUlVoice, hcreate]
    simp [MediaPlane.setSpeaker, MediaPlane.openUl]

theorem plane_openDirection_dl (ht : isTimeslot c.ts = true) (h1 : c.ts ≠ 1) :
    (s.openDirection c .dl).plane =
      (s.closeIfActive .dl c.ts).plane.openDl c.ts c := by
  have hcreate := (plane_createCircuit (s.closeIfActive .dl c.ts) ht h1).1
  have he : s.openDirection c .dl =
      { (s.closeIfActive .dl c.ts).onScheduler (fun sched => sched.createCircuit .dl c) with
        history.dlOpenedAt := update (s.closeIfActive .dl c.ts).history.dlOpenedAt c.ts
          (s.closeIfActive .dl c.ts).history.clock } := if_pos ⟨ht, h1⟩
  rw [he]
  exact congrArg (fun p : MediaPlane => { p with
    history.dlOpenedAt := update (s.closeIfActive .dl c.ts).history.dlOpenedAt c.ts
      (s.closeIfActive .dl c.ts).history.clock }) hcreate

/-- Both legs of a call are closed before either timeslot is opened again: where the uplink of a
timeslot is opened, what it fed before is closed, or closed by this. -/
def LegsClosed (p : MediaPlane) (directions : Directions) (c : Circuit) : Prop :=
  .ul ∈ directions.toList → ∀ d < 5, ∀ cd ∈ p.dl d, cd.FedFrom d c.ts →
    d = c.ts ∧ .dl ∈ directions.toList ∨ NeverFed p c.ts d

instance (p : MediaPlane) (directions : Directions) (c : Circuit) :
    Decidable (LegsClosed p directions c) :=
  inferInstanceAs (Decidable (Direction.ul ∈ directions.toList →
    ∀ d < 5, ∀ cd ∈ p.dl d, cd.FedFrom d c.ts →
    d = c.ts ∧ .dl ∈ directions.toList ∨ NeverFed p c.ts d))

theorem LegsClosed.count (h : LegsClosed p directions c) : LegsClosed p.count directions c := h

section

variable (h : Kept o s.plane)
include h

theorem closeIfActive_spec (hc : s.plane.Clear ts) (dir : Direction) :
    Kept o (s.closeIfActive dir ts).plane ∧ Near ts s.plane (s.closeIfActive dir ts).plane ∧
      Fewer s.plane (s.closeIfActive dir ts).plane := by
  cases dir with
  | dl =>
    rw [plane_closeIfActive_dl]
    split
    · exact ⟨h.closeDl ts, near_closeDl _ ts, fun _ _ => of_update_none, fun _ _ hu => hu⟩
    · exact ⟨h, .refl _ _, fun _ _ hd => hd, fun _ _ hu => hu⟩
  | ul =>
    rw [plane_closeIfActive_ul]
    split
    · exact ⟨h.closeUl hc, near_closeUl _ ts, fun _ _ hd => hd, fun _ _ => of_update_none⟩
    · exact ⟨h, .refl _ _, fun _ _ hd => hd, fun _ _ hu => hu⟩

/-- A timeslot that gets no circuit loses at most what was open there. -/
theorem openDirection_rejected (hc : s.plane.Clear c.ts) (hr : isTimeslot c.ts = false ∨ c.ts = 1) :
    Kept o (s.openDirection c dir).plane ∧ Near c.ts s.plane (s.openDirection c dir).plane ∧
      Fewer s.plane (s.openDirection c dir).plane := by
  obtain ⟨hk, hn, hf⟩ := closeIfActive_spec h hc dir
  have hsame := plane_createCircuit_rejected (s.closeIfActive dir c.ts) dir hr
  unfold openDirection
  simp only [hsame]
  cases dir with
  | dl =>
    have hno : ¬(isTimeslot c.ts = true ∧ c.ts ≠ 1) := by
      rintro ⟨ht, hne⟩
      rcases hr with hr | hr
      · rw [ht] at hr
        cases hr
      · exact hne hr
    simp only [if_neg hno]
    exact ⟨hk, hn, hf⟩
  | ul =>
    dsimp only
    split
    · rename_i ht
      -- the speaker of a timeslot without an uplink circuit holds no floor
      have hnone : (s.closeIfActive .ul c.ts).plane.ul c.ts = none := by
        rw [plane_closeIfActive_ul]
        split
        · exact update_self ..
        · rename_i hnone
          simpa using hnone
      have hset : ∀ x, Kept o ((s.closeIfActive .ul c.ts).plane.setSpeaker c.ts x) ∧
          Near c.ts s.plane ((s.closeIfActive .ul c.ts).plane.setSpeaker c.ts x) :=
        fun x => ⟨hk.setSpeaker (fun hne => absurd hnone hne), hn.trans (near_setSpeaker _ c.ts x)⟩
      split
      · rename_i addr ha
        by_cases hissi : addr.ssiType = .issi
        · rw [plane_setCurrentUlSpeaker _ ht hissi, plane_clearCurrentUlSpeaker _ ht, plane_lastUlVoice]
          have heq : ((s.closeIfActive .ul c.ts).plane.setSpeaker c.ts none).setSpeaker c.ts (some addr) =
              (s.closeIfActive .ul c.ts).plane.setSpeaker c.ts (some addr) := by
            simp [MediaPlane.setSpeaker]
          rw [heq]
          exact ⟨(hset _).1, (hset _).2, hf⟩
        · rw [setCurrentUlSpeaker, if_neg (fun hx => hissi hx.2), plane_clearCurrentUlSpeaker _ ht,
            plane_lastUlVoice]
          exact ⟨(hset _).1, (hset _).2, hf⟩
      · rw [plane_clearCurrentUlSpeaker _ ht, plane_lastUlVoice]
        exact ⟨(hset _).1, (hset _).2, hf⟩
    · exact ⟨hk, hn, hf⟩

/-- Nothing is queued from a timeslot whose uplink may be opened. -/
theorem noneFrom_of_legsClosed {p : MediaPlane} (hu : .ul ∈ directions.toList)
    (hl : LegsClosed s.plane directions c)
    (hsub : ∀ d, ∀ b ∈ p.tx d, b ∈ s.plane.tx d ∧ (d = c.ts → .dl ∉ directions.toList)) :
    p.NoneFrom c.ts := by
  intro d b hb a ha heq
  obtain ⟨hb, hd⟩ := hsub d b hb
  have hq := h.isolated.queued d b hb a ha
  obtain ⟨cd, hcd, hfed, _⟩ := hq.deliverable
  rw [heq] at hfed
  rcases hl hu d (lt_of_isTimeslot (slots_timeslot hcd)) cd hcd hfed with ⟨he, hdl⟩ | hnever
  · exact hd he hdl
  · rw [← heq] at hnever
    exact queuedOk_fed hq hnever

section

variable (hc : s.plane.Clear c.ts)
include hc

theorem openDl_spec (ht : isTimeslot c.ts = true) (h1 : c.ts ≠ 1) :
    Kept o (s.openDirection c .dl).plane ∧ Near c.ts s.plane (s.openDirection c .dl).plane ∧
      ∀ d, ∀ b ∈ (s.openDirection c .dl).plane.tx d, b ∈ s.plane.tx d ∧ d ≠ c.ts := by
  obtain ⟨hk, hn, -⟩ := closeIfActive_spec h hc .dl
  rw [plane_openDirection_dl ht h1]
  refine ⟨hk.openDl c (hn.clear hc), hn.trans (near_openDl _ c.ts c), fun d b hb => ?_⟩
  obtain ⟨hne, hb⟩ := mem_emptied hb
  rw [plane_closeIfActive_dl] at hb
  split at hb
  · exact ⟨(mem_emptied hb).2, hne⟩
  · exact ⟨hb, hne⟩

theorem openUl_spec (ht : isTimeslot c.ts = true) (h1 : c.ts ≠ 1)
    (hn : s.plane.NoneFrom c.ts) :
    Kept o (s.openDirection c .ul).plane ∧ Near c.ts s.plane (s.openDirection c .ul).plane := by
  obtain ⟨hk, hnear, -⟩ := closeIfActive_spec h hc .ul
  have htx : (s.closeIfActive .ul c.ts).plane.tx = s.plane.tx := by
    rw [plane_closeIfActive_ul]
    split <;> rfl
  obtain ⟨x, hx⟩ := plane_openDirection_ul ht h1
  rw [hx]
  refine ⟨hk.openUl c x (hnear.clear hc) ?_, hnear.trans (near_openUl _ c.ts c x)⟩
  unfold NoneFrom
  rw [htx]
  exact hn

theorem openDirections_rejected (hr : isTimeslot c.ts = false ∨ c.ts = 1)
    (dirs : List Direction) : Kept o (dirs.foldl (fun s dir => s.openDirection c dir) s).plane ∧
      Near c.ts s.plane (dirs.foldl (fun s dir => s.openDirection c dir) s).plane := by
  induction dirs generalizing s with
  | nil => exact ⟨h, .refl _ _⟩
  | cons dir rest ih =>
    obtain ⟨hk, hn, -⟩ := openDirection_rejected h hc hr
    obtain ⟨hk', hn'⟩ := ih hk (hn.clear hc)
    exact ⟨hk', hn.trans hn'⟩

/-- Opening in any directions, where both legs are closed. -/
theorem openDirections_spec (ht : isTimeslot c.ts = true) (h1 : c.ts ≠ 1)
    (hl : LegsClosed s.plane directions c) :
    Kept o (directions.toList.foldl (fun s dir => s.openDirection c dir) s).plane ∧
      Near c.ts s.plane (directions.toList.foldl (fun s dir => s.openDirection c dir) s).plane := by
  cases directions with
  | none => exact ⟨h, .refl _ _⟩
  | dl =>
    obtain ⟨hk, hn, -⟩ := openDl_spec h hc ht h1
    exact ⟨hk, hn⟩
  | ul =>
    refine openUl_spec h hc ht h1 (noneFrom_of_legsClosed h (by decide) hl (fun d b hb => ⟨hb, ?_⟩))
    intro _
    decide
  | both =>
    obtain ⟨hk, hn, htx⟩ := openDl_spec h hc ht h1
    have hnone := noneFrom_of_legsClosed h (by decide) hl
      (fun d b hb => ⟨(htx d b hb).1, fun he => absurd he (htx d b hb).2⟩)
    obtain ⟨hk', hn'⟩ := openUl_spec hk (hn.clear hc) ht h1 hnone
    exact ⟨hk', hn.trans hn'⟩

end

end

theorem Sound.open (h : Sound o s) (hl : LegsClosed s.plane directions c)
    (hm : (s.rxControlCircuitOpen directions c).plane.Matched) :
    Sound o (s.rxControlCircuitOpen directions c) := by
  have hshrinks := discardInvolving_shrinks s c.ts
  have hdis : Sound o (s.discardPendingPrivateUlMediaInvolving c.ts) := h.shrinks hshrinks
  have hclear : (s.discardPendingPrivateUlMediaInvolving c.ts).plane.Clear c.ts := by
    cases ht : isTimeslot c.ts with
    | true => exact discardInvolving_clear s ht
    | false =>
      intro u m hm
      have hw := hdis.kept.isolated.pending u m hm
      have hu : m.ulTs ≠ c.ts := by
        rintro he
        rw [← he, hw.slot.1, slots_timeslot_of_mem hm] at ht
        cases ht
      have hd : m.dlTargetTs ≠ c.ts := by
        rintro he
        rw [← he, hw.timeslot] at ht
        cases ht
      simp [PendingPrivateUlMedia.involves, hu, hd]
  have hlegs : LegsClosed (s.discardPendingPrivateUlMediaInvolving c.ts).plane directions c := by
    unfold LegsClosed NeverFed at hl ⊢
    rw [hshrinks.bearers]
    exact hl
  obtain ⟨hk, hn⟩ : Kept o (s.rxControlCircuitOpen directions c).plane ∧
      Near c.ts (s.discardPendingPrivateUlMediaInvolving c.ts).plane
        (s.rxControlCircuitOpen directions c).plane := by
    by_cases hr : isTimeslot c.ts = false ∨ c.ts = 1
    · exact openDirections_rejected hdis.kept hclear hr _
    · simp only [not_or, Bool.not_eq_false] at hr
      exact openDirections_spec hdis.kept hclear hr.1 hr.2 hlegs
  exact ⟨hk, hm, hdis.flushed.near hn hclear hk.isolated⟩

end UmacBs
end NexusBs
