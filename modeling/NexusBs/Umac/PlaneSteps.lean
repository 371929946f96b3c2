import NexusBs.Umac.MediaPlane

namespace NexusBs
open Function BsChannelScheduler

/-- An array by timeslot number, with a default beyond it. -/
def slots {α : Type} (dflt : α) (f : Nat → α) (ts : Nat) : α :=
  if isTimeslot ts then f (ts - 1) else dflt

theorem slots_update {α : Type} (dflt : α) (f : Nat → α) (h : isTimeslot ts = true) (v : α) :
    slots dflt (update f (ts - 1) v) = update (slots dflt f) ts v := by
  funext t
  unfold slots
  by_cases he : t = ts
  · subst he
    rw [if_pos h, update_self, update_self]
  · rw [update_of_ne he]
    split
    · rename_i ht
      refine update_of_ne ?_ ..
      simp only [isTimeslot, Bool.and_eq_true, decide_eq_true_eq] at h ht
      omega
    · rfl

theorem slots_timeslot {α : Type} {f : Nat → Option α} {ts : Nat} {a : α}
    (h : slots none f ts = some a) : isTimeslot ts = true := by
  unfold slots at h
  split at h
  · assumption
  · cases h

namespace UmacBs

variable {ts : Nat}

theorem slots_timeslot_of_mem {α : Type} {f : Nat → List α} {a : α} (h : a ∈ slots [] f ts) :
    isTimeslot ts = true := by
  unfold slots at h
  split at h
  · assumption
  · cases h

theorem lt_of_isTimeslot (h : isTimeslot ts = true) : ts < 5 := by
  simp only [isTimeslot, Bool.and_eq_true, decide_eq_true_eq] at h
  omega

def plane (s : UmacBs) : MediaPlane where
  dl := slots none s.channelScheduler.circuits.dl
  ul := slots none s.channelScheduler.circuits.ul
  speaker := slots none s.currentUlSpeaker
  history := s.history
  tx := slots [] s.channelScheduler.circuits.txData
  hang := slots false s.channelScheduler.hangtime
  waiting := slots [] s.pendingPrivateUlMedia

variable (s : UmacBs)

theorem currentUlSignalAddr_eq : s.currentUlSignalAddr ts = s.plane.speaker ts := rfl

theorem isHangtime_eq : s.channelScheduler.isHangtime ts = s.plane.hang ts := by
  simp only [isHangtime, plane, slots]
  cases isTimeslot ts <;> rfl

theorem plane_lastUlVoice (f : Nat → Option TdmaTime) :
    ({ s with lastUlVoice := f } : UmacBs).plane = s.plane := rfl

theorem plane_onScheduler {f : BsChannelScheduler → BsChannelScheduler} {c : CircuitMgr}
    {hang : Nat → Bool} (h : (f s.channelScheduler).media = (c, hang)) :
    (s.onScheduler f).plane =
      { s.plane with
        dl := slots none c.dl
        ul := slots none c.ul
        tx := slots [] c.txData
        hang := slots false hang } := by
  have hc : (f s.channelScheduler).circuits = c := congrArg Prod.fst h
  have hh : (f s.channelScheduler).hangtime = hang := congrArg Prod.snd h
  subst hc hh
  rfl

theorem plane_onScheduler_same
    (h : BsChannelScheduler.SameButQueues s.channelScheduler (f s.channelScheduler)) :
    (s.onScheduler f).plane = s.plane := plane_onScheduler s h.media

theorem plane_setCurrentUlSpeaker (h : isTimeslot ts = true) (ha : addr.ssiType = .issi) :
    (s.setCurrentUlSpeaker ts addr).plane = s.plane.setSpeaker ts (some addr) := by
  rw [setCurrentUlSpeaker, if_pos ⟨h, ha⟩]
  simp [plane, slots_update _ _ h, MediaPlane.setSpeaker]

theorem plane_clearCurrentUlSpeaker (h : isTimeslot ts = true) :
    (s.clearCurrentUlSpeaker ts).plane = s.plane.setSpeaker ts none := by
  rw [clearCurrentUlSpeaker, if_pos h]
  simp [plane, slots_update _ _ h, MediaPlane.setSpeaker]

theorem waiting_retainPending (keep : PendingPrivateUlMedia → Bool) :
    (s.retainPending keep).plane.waiting ts = (s.plane.waiting ts).filter keep := by
  simp only [retainPending, plane, slots]
  split <;> rfl

theorem retainPending_shrinks (keep : PendingPrivateUlMedia → Bool) :
    MediaPlane.Shrinks s.plane (s.retainPending keep).plane :=
  ⟨fun _ => .refl _, fun _ => waiting_retainPending s keep ▸ List.filter_sublist, rfl, rfl⟩

section

variable (h : isTimeslot ts = true)
include h

theorem plane_setHangtime :
    (s.onScheduler (fun sched => sched.setHangtime ts b)).plane = s.plane.setHang ts b := by
  have hf := (setHangtime_frame s.channelScheduler ts b).media
  refine (plane_onScheduler s (f := fun sched => sched.setHangtime ts b) hf).trans ?_
  simp [if_pos h, plane, slots_update _ _ h, MediaPlane.setHang]

theorem plane_clearDlMediaQueue :
    (s.onScheduler (fun sched => sched.clearDlMediaQueue ts)).plane = s.plane.clearTx ts := by
  rw [plane_onScheduler s rfl]
  simp [BsChannelScheduler.clearDlMediaQueue, CircuitMgr.clearTxData, if_pos h, plane,
    slots_update _ _ h, MediaPlane.clearTx]

theorem plane_clearDlMediaQueueExceptSource (sourceUlTs : Nat) (sourceAddr : TetraAddress) :
    (s.onScheduler (fun sched =>
      sched.clearDlMediaQueueExceptSource ts sourceUlTs sourceAddr)).plane =
      { s.plane with
        tx := update s.plane.tx ts
          ((s.plane.tx ts).filter (CircuitMgr.matchesSource sourceUlTs sourceAddr)) } := by
  rw [plane_onScheduler s rfl]
  simp only [BsChannelScheduler.clearDlMediaQueueExceptSource, CircuitMgr.clearTxDataExceptSource,
    if_pos h, plane, slots_update _ _ h]
  simp [slots, if_pos h]

theorem plane_closeCircuit_dl :
    (s.onScheduler (fun sched => sched.closeCircuit .dl ts)).plane = s.plane.closeDl ts := by
  rw [plane_onScheduler s rfl]
  simp [BsChannelScheduler.closeCircuit, CircuitMgr.closeCircuit, if_pos h, plane,
    slots_update _ _ h, MediaPlane.closeDl]

theorem plane_closeCircuit_ul : (s.onScheduler (fun sched => sched.closeCircuit .ul ts)).plane =
      { s.plane with
        ul := update s.plane.ul ts none
        hang := update s.plane.hang ts false } := by
  rw [plane_onScheduler s rfl]
  simp [BsChannelScheduler.closeCircuit, CircuitMgr.closeCircuit, if_pos h, plane,
    slots_update _ _ h]

end

/-- A circuit starts without queued speech and without hangtime. -/
theorem plane_createCircuit (h : isTimeslot c.ts = true) (h1 : c.ts ≠ 1) :
    (s.onScheduler (fun sched => sched.createCircuit .dl c)).plane =
        { s.plane with
          dl := update s.plane.dl c.ts (some c)
          tx := update s.plane.tx c.ts []
          hang := update s.plane.hang c.ts false } ∧
      (s.onScheduler (fun sched => sched.createCircuit .ul c)).plane =
        { s.plane with
          ul := update s.plane.ul c.ts (some c)
          hang := update s.plane.hang c.ts false } := by
  have hp := fun dir => plane_onScheduler s (f := fun sched => sched.createCircuit dir c)
    (createCircuit_media s.channelScheduler dir h h1)
  constructor <;> refine (hp _).trans ?_ <;> simp only [CircuitMgr.createCircuit, if_pos h] <;> split
  all_goals simp [CircuitMgr.closeCircuit, if_pos h, plane, slots_update _ _ h]

/-- Timeslot 1 and numbers beyond 4 get no circuit. -/
theorem plane_createCircuit_rejected (dir : Direction) (h : isTimeslot c.ts = false ∨ c.ts = 1) :
    s.onScheduler (fun sched => sched.createCircuit dir c) = s := by
  have he : s.channelScheduler.createCircuit dir c = s.channelScheduler := if_pos h
  change { s with channelScheduler := s.channelScheduler.createCircuit dir c } = s
  rw [he]

theorem plane_scheduleTmd :
    (s.scheduleTmd ts b).plane = if (s.plane.dl ts).isSome then s.plane.push ts b else s.plane := by
  change (s.onScheduler (fun sched => sched.dlScheduleTmd ts b)).plane = _
  rw [plane_onScheduler s rfl]
  by_cases h : (s.plane.dl ts).isSome = true
  · obtain ⟨c, hc⟩ := Option.isSome_iff_exists.mp h
    have ht : isTimeslot ts = true := slots_timeslot hc
    have hput : s.channelScheduler.circuits.putBlock ts b =
        s.channelScheduler.circuits.pushTxDataBounded ts b := if_pos ⟨ht, h⟩
    rw [if_pos h]
    simp only [BsChannelScheduler.dlScheduleTmd, hput, CircuitMgr.pushTxDataBounded, plane,
      slots_update _ _ ht, MediaPlane.push, Lib.pushBounded]
    simp [slots, if_pos ht]
  · have hput : s.channelScheduler.circuits.putBlock ts b = s.channelScheduler.circuits :=
      if_neg (fun hx => h hx.2)
    rw [if_neg h]
    simp only [BsChannelScheduler.dlScheduleTmd, hput]
    rfl

theorem plane_pendingPrivateUlMedia (h : isTimeslot ts = true) (q : List PendingPrivateUlMedia) :
    ({ s with
      pendingPrivateUlMedia := update s.pendingPrivateUlMedia (ts - 1) q } : UmacBs).plane =
      { s.plane with waiting := update s.plane.waiting ts q } := by
  simp [plane, slots_update _ _ h]

theorem plane_noteUlVoice : (s.noteUlVoice ts at').plane = s.plane := by
  unfold noteUlVoice
  dsimp only
  split
  · split <;> rfl
  · rfl

theorem plane_noteDlVoice : (s.noteDlVoice ts).plane = s.plane := by
  have hset : ∀ (s : UmacBs) (t : Nat) (c : Prop) [Decidable c],
      (if c then { s with lastUlVoice := update s.lastUlVoice (t - 1) (some s.dltime) }
        else s).plane = s.plane := by
    intro s t c _
    split <;> rfl
  unfold noteDlVoice
  dsimp only
  split
  · rw [hset, hset]
  · rw [hset]

/-- What is remembered of speech that has to wait. -/
def pendingItem (ulTs dlTargetTs : Nat) (media : PendingPrivateUlMediaKind) : PendingPrivateUlMedia where
  ulTs := ulTs
  dlTargetTs := dlTargetTs
  receivedAt := s.dltime
  speakerAddr := s.ulMediaSpeakerTag ulTs
  peerTs := s.channelScheduler.ulCircuitPeerTs ulTs
  deferredDuringHangtime :=
    s.channelScheduler.isHangtime ulTs || s.channelScheduler.isHangtime dlTargetTs
  media := media
  arrival := s.arrivalOn ulTs

theorem plane_deferPrivateUlMedia (h : isTimeslot ulTs = true) (dlTargetTs : Nat)
    (media : PendingPrivateUlMediaKind) :
    (s.deferPrivateUlMedia ulTs dlTargetTs media).plane =
      s.plane.defer ulTs (s.pendingItem ulTs dlTargetTs media) := by
  rw [deferPrivateUlMedia, if_pos h]
  simp only [plane, slots_update _ _ h, MediaPlane.defer, Lib.pushBounded]
  simp only [slots, if_pos h]
  rfl

end UmacBs
end NexusBs
