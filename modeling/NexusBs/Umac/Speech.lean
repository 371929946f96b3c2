import NexusBs.Umac.Isolation

namespace NexusBs
namespace UmacBs
open MediaPlane Function List Option

variable {o : Prop} {s s' : UmacBs}

/-! Speech that waits -/

section Circuit

variable {u : Nat} {cu : Circuit}

variable (h : s.plane.ul u = some cu)
include h

theorem ulCircuitPeerTs_eq : s.channelScheduler.ulCircuitPeerTs u = cu.peerTs := by
  have hc : s.channelScheduler.circuits.circuit .ul u = some cu := h
  rw [BsChannelScheduler.ulCircuitPeerTs, hc, bind_some]

theorem ulCircuitDlMediaSource_eq :
    s.channelScheduler.ulCircuitDlMediaSource u = cu.dlMediaSource := by
  have hc : s.channelScheduler.circuits.circuit .ul u = some cu := h
  rw [BsChannelScheduler.ulCircuitDlMediaSource, hc, map_some, getD_some]

theorem ulCircuitIsPrivateParticipantScoped_eq :
    s.channelScheduler.ulCircuitIsPrivateParticipantScoped u = cu.isPrimaryIssiScoped := by
  have hc : s.channelScheduler.circuits.circuit .ul u = some cu := h
  rw [BsChannelScheduler.ulCircuitIsPrivateParticipantScoped, hc, any_some]

theorem privateSimplexWaiting_iff :
    s.privateSimplexWaitingForFloorGrant u = true ↔ cu.Shared ∧ s.plane.speaker u = none := by
  unfold privateSimplexWaitingForFloorGrant
  rw [ulCircuitIsPrivateParticipantScoped_eq h, ulCircuitPeerTs_eq h, currentUlSignalAddr_eq]
  simp only [Bool.and_eq_true, isNone_iff_eq_none, Circuit.Shared]
  tauto

end Circuit

/-- Waiting speech is kept only where it has to wait, and routed only where it may go. -/
def Justified (p : MediaPlane) (u : Nat) (speaker : Option TetraAddress) : FlushVerdict → Prop
  | .drop => True
  | .keep => p.Blocked u
  | .route d => p.Routable u d speaker

theorem flushVerdict_justified (hw : s.plane.WaitingOk u m) :
    Justified s.plane u m.speakerAddr (s.flushVerdict m) := by
  obtain ⟨cu, hcu, hpeer, htarget, -⟩ := hw.circuit
  have hslot := hw.slot.1
  have hwait := privateSimplexWaiting_iff hcu
  -- what is asked before the two cases of a peer and of none
  have hroute : s.plane.hang u ≠ true → s.plane.hang (cu.target u) ≠ true →
      s.privateSimplexWaitingForFloorGrant u ≠ true →
      ¬(m.speakerAddr.isSome && s.plane.speaker u != m.speakerAddr) = true →
      (cu.peerTs = none → cu.dlMediaSource = .localLoopback) →
      (s.plane.dl (cu.target u)).isSome = true → s.plane.Routable u (cu.target u) m.speakerAddr := by
    intro hu hd hfloor hspeaker hsource hdl
    obtain ⟨cd, hcd⟩ := isSome_iff_exists.mp hdl
    refine ⟨⟨cu, cd, hcu, rfl, hcd, hsource⟩, ?_, ?_⟩
    · cases hm : m.speakerAddr with
      | none => exact .inl rfl
      | some =>
        simp only [hm, isSome_some, Bool.true_and, bne_iff_ne, ne_eq, not_not] at hspeaker
        exact .inr hspeaker.symm
    · rintro ⟨cu', hcu', hb⟩
      obtain rfl : cu = cu' := Option.some.inj (hcu.symm.trans hcu')
      rcases hb with hb | hb | hb
      · exact hu hb
      · exact hd hb
      · exact hfloor (hwait.mpr hb)
  unfold flushVerdict
  dsimp only
  rw [isHangtime_eq, currentUlSignalAddr_eq, hslot, hpeer, ulCircuitPeerTs_eq hcu,
    ulCircuitDlMediaSource_eq hcu]
  by_cases hold : m.receivedAt.age s.dltime > pendingPrivateUlMediaTtlTimeslots
  · rw [if_pos hold]
    trivial
  rw [if_neg hold]
  by_cases hul : (!s.channelScheduler.circuits.isActive .ul u) = true
  · rw [if_pos hul]
    trivial
  rw [if_neg hul]
  by_cases hu : s.plane.hang u = true
  · rw [if_pos hu]
    exact ⟨cu, hcu, .inl hu⟩
  rw [if_neg hu]
  by_cases hfloor : s.privateSimplexWaitingForFloorGrant u = true
  · rw [if_pos hfloor]
    exact ⟨cu, hcu, .inr (.inr (hwait.mp hfloor))⟩
  rw [if_neg hfloor]
  by_cases hspeaker : (m.speakerAddr.isSome && s.plane.speaker u != m.speakerAddr) = true
  · rw [if_pos hspeaker]
    trivial
  rw [if_neg hspeaker, if_neg (fun hne => hne rfl)]
  cases hp : cu.peerTs with
  | none =>
    have ht : cu.target u = u := by rw [Circuit.target, hp, getD_none]
    rw [ht] at hroute
    dsimp only
    split
    · trivial
    rename_i hsource
    split
    · trivial
    split
    · trivial
    rename_i hdl
    rw [Bool.not_eq_true', Bool.not_eq_false] at hdl
    exact hroute hu hu hfloor hspeaker (fun _ => not_not.mp hsource) hdl
  | some peerTs =>
    have ht : cu.target u = peerTs := by rw [Circuit.target, hp, getD_some]
    rw [ht] at hroute
    dsimp only
    split
    · trivial
    rw [isHangtime_eq]
    split
    · rename_i hd
      exact ⟨cu, hcu, .inr (.inl (ht ▸ hd))⟩
    rename_i hd
    split
    · trivial
    rename_i hdl
    rw [Bool.not_eq_true', Bool.not_eq_false] at hdl
    exact hroute hu hd hfloor hspeaker (fun hnone => by rw [hp] at hnone; cases hnone) hdl

/-- The plane as if the rest of a queue still waited. -/
def withRest (p : MediaPlane) (u : Nat) (rest : List PendingPrivateUlMedia) : MediaPlane :=
  { p with waiting := update p.waiting u (p.waiting u ++ rest) }

/-- A queue on its way through a flush: what was put back has to wait. -/
structure Flushing (o : Prop) (p0 p : MediaPlane) (u : Nat) (rest : List PendingPrivateUlMedia) :
    Prop where
  kept : Kept o (withRest p u rest)
  bearers : p.toBearers = p0.toBearers
  hang : p.hang = p0.hang
  others : ∀ t, t ≠ u → p.waiting t = p0.waiting t
  blocked : p.waiting u ≠ [] → p.Blocked u

theorem withRest_waiting (p : MediaPlane) (u : Nat) (rest : List PendingPrivateUlMedia) :
    (withRest p u rest).waiting u = p.waiting u ++ rest := update_self ..

theorem withRest_drop : Shrinks (withRest p u (m :: rest)) (withRest p u rest) := by
  refine ⟨fun _ => .refl _, fun t => ?_, rfl, rfl⟩
  by_cases he : t = u
  · subst he
    rw [withRest_waiting, withRest_waiting]
    exact (List.Sublist.refl _).append (sublist_cons_self ..)
  · simp [withRest, update_of_ne he]

/-- One block of a queue on its way through a flush. -/
theorem Flushing.next (h : Flushing o p0 s.plane u (m :: rest)) (hu : isTimeslot u = true)
    (hm : p0.Matched) : Flushing o p0 (s.flushNext (u - 1) m).plane u rest := by
  have hmem : m ∈ (withRest s.plane u (m :: rest)).waiting u := by
    rw [withRest_waiting]
    exact mem_append_right _ mem_cons_self
  have hw : s.plane.WaitingOk u m := h.kept.isolated.pending u m hmem
  have hj := flushVerdict_justified hw
  cases hv : s.flushVerdict m with
  | drop =>
    have he : s.flushNext (u - 1) m = s := by
      simp [flushNext, flushPendingPrivateUlMediaItem, hv]
    rw [he]
    exact { h with kept := h.kept.shrinks withRest_drop }
  | keep =>
    rw [hv] at hj
    have he : (s.flushNext (u - 1) m).plane = withRest s.plane u [m] := by
      simp only [flushNext, flushPendingPrivateUlMediaItem, hv]
      rw [plane_pendingPrivateUlMedia s hu]
      simp [withRest, plane, slots, if_pos hu]
    rw [he]
    refine ⟨?_, h.bearers, h.hang, fun t ht => ?_, fun _ => hj⟩
    · have hsame : withRest (withRest s.plane u [m]) u rest = withRest s.plane u (m :: rest) := by
        simp [withRest]
      rw [hsame]
      exact h.kept
    · simp only [withRest, update_of_ne ht]
      exact h.others t ht
  | route d =>
    rw [hv] at hj
    have hr : s.plane.Routable u d m.speakerAddr := hj
    obtain ⟨cu, cd, hcu, htarget, hcd, -⟩ := hr.circuits
    -- nothing was put back, or the queue would have to wait
    have hempty : s.plane.waiting u = [] := by
      by_contra hne
      exact hr.free (h.blocked hne)
    have hok := queuedOk_of_waiting hw (lt_of_isTimeslot hu) (h.bearers ▸ hm) hr
    have he : (s.flushNext (u - 1) m).plane =
        s.plane.push d (m.media.block (some m.ulTs) m.speakerAddr (some m.arrival)) := by
      simp only [flushNext, flushPendingPrivateUlMediaItem, hv]
      rw [plane_noteUlVoice]
      refine (plane_scheduleTmd s).trans (if_pos ?_)
      rw [hcd, isSome_some]
    rw [he]
    refine ⟨?_, h.bearers, h.hang, h.others, fun hne => absurd hempty hne⟩
    have hq : (withRest s.plane u (m :: rest)).waiting u = m :: rest := by
      rw [withRest_waiting, hempty, nil_append]
    have hroute := h.kept.route hq (block_arrival ..) hok hr.not_hang
    have hsame : (withRest (s.plane.push d
        (m.media.block (some m.ulTs) m.speakerAddr (some m.arrival))) u rest) =
        ({ withRest s.plane u (m :: rest) with
          waiting := update (withRest s.plane u (m :: rest)).waiting u rest } :
            MediaPlane).push d (m.media.block (some m.ulTs) m.speakerAddr (some m.arrival)) := by
      simp [withRest, MediaPlane.push, hempty]
    rw [hsame]
    exact hroute

theorem Flushing.all (h : Flushing o p0 s.plane u rest) (hu : isTimeslot u = true) (hm : p0.Matched) :
    Flushing o p0 (rest.foldl (fun s media => s.flushNext (u - 1) media) s).plane u [] := by
  induction rest generalizing s with
  | nil => exact h
  | cons m rest ih => exact ih (h.next hu hm)

theorem Flushing.done (h : Flushing o p0 p u []) : Kept o p := by
  have hsame : withRest p u [] = p := by
    rw [withRest, append_nil, update_eq_self]
  exact hsame ▸ h.kept

/-- Queues that were gone through hold only what has to wait. -/
structure FlushDone (o : Prop) (p0 p : MediaPlane) (us : List Nat) : Prop where
  kept : Kept o p
  bearers : p.toBearers = p0.toBearers
  hang : p.hang = p0.hang
  blocked : ∀ u ∈ us, p.waiting u ≠ [] → p0.Blocked u

theorem blocked_congr {p p' : MediaPlane} (hb : p'.toBearers = p.toBearers) (hh : p'.hang = p.hang)
    (h : p'.Blocked u) : p.Blocked u := by
  obtain ⟨cu, hcu, hrest⟩ := h
  rw [hh, hb] at hrest
  exact ⟨cu, hb ▸ hcu, hrest⟩

theorem FlushDone.queue {p0 : MediaPlane} (h : FlushDone o p0 s.plane us) (hm : p0.Matched)
    (hu : isTimeslot u = true) : FlushDone o p0 (s.flushQueue (u - 1)).plane (u :: us) := by
  have hwait : s.plane.waiting u = s.pendingPrivateUlMedia (u - 1) := if_pos hu
  have hstart : Flushing o s.plane ({ s with
      pendingPrivateUlMedia := update s.pendingPrivateUlMedia (u - 1) [] } : UmacBs).plane u
      (s.pendingPrivateUlMedia (u - 1)) := by
    rw [plane_pendingPrivateUlMedia s hu, ← hwait]
    refine ⟨?_, rfl, rfl, fun t ht => update_of_ne ht .., fun hne => ?_⟩
    · have hsame : withRest { s.plane with waiting := update s.plane.waiting u [] } u
          (s.plane.waiting u) = s.plane := by
        simp [withRest]
      rw [hsame]
      exact h.kept
    · exact absurd (update_self ..) hne
  have hdone := hstart.all hu (h.bearers ▸ hm)
  refine ⟨hdone.done, hdone.bearers.trans h.bearers, hdone.hang.trans h.hang, fun t ht hne => ?_⟩
  by_cases he : t = u
  · subst he
    exact blocked_congr (hdone.bearers.trans h.bearers) (hdone.hang.trans h.hang) (hdone.blocked hne)
  · rcases mem_cons.mp ht with rfl | ht
    · exact absurd rfl he
    · exact h.blocked t ht (hdone.others t he ▸ hne)

/-- After a flush only what has to wait waits. -/
theorem flush_spec (hk : Kept o s.plane) (hm : s.plane.Matched) :
    FlushDone o s.plane s.flushPendingPrivateUlMedia.plane [4, 3, 2, 1] := by
  have h0 : FlushDone o s.plane s.plane [] := ⟨hk, rfl, rfl, fun _ hu => by cases hu⟩
  have h1 := h0.queue hm (u := 1) rfl
  have h2 := h1.queue hm (u := 2) rfl
  have h3 := h2.queue hm (u := 3) rfl
  exact h3.queue hm (u := 4) rfl

theorem FlushDone.all_blocked {p0 : MediaPlane} (h : FlushDone o p0 s.plane [4, 3, 2, 1]) (u : Nat)
    (hu : s.plane.waiting u ≠ []) : s.plane.Blocked u := by
  obtain ⟨m, hm⟩ := exists_mem_of_ne_nil _ hu
  have ht : isTimeslot u = true := slots_timeslot_of_mem hm
  have hmem : u ∈ [4, 3, 2, 1] := by
    simp only [isTimeslot, Bool.and_eq_true, decide_eq_true_eq] at ht
    simp only [mem_cons, not_mem_nil]
    omega
  exact blocked_congr h.bearers.symm h.hang.symm (h.blocked u hmem hu)

theorem FlushDone.sound {p0 : MediaPlane} (h : FlushDone o p0 s.plane [4, 3, 2, 1])
    (hm : p0.Matched) : Sound o s :=
  ⟨h.kept, h.bearers ▸ hm, fun u hu => .inl (h.all_blocked u hu)⟩

/-! Floors that are granted -/

theorem discardExceptSource_shrinks (s : UmacBs) (affectedTs sourceUlTs : Nat) (addr : TetraAddress) :
    Shrinks s.plane (s.discardPendingPrivateUlMediaExceptSource affectedTs sourceUlTs addr).plane := by
  unfold discardPendingPrivateUlMediaExceptSource
  split
  · exact retainPending_shrinks s _
  · exact .refl _

theorem discardGroup_shrinks : Shrinks s.plane
      (s.discardPendingGroupUlMediaExceptHangtimeSource affectedTs sourceUlTs addr).plane := by
  unfold discardPendingGroupUlMediaExceptHangtimeSource
  split
  · exact retainPending_shrinks s _
  · exact .refl _

/-- A grant takes speech away, of others than the new holder where that is on the radio, and ends
hangtime. -/
theorem plane_grantOn (h : isTimeslot floorTs = true) :
    ∃ q, Shrinks s.plane q ∧ (s.grantOn priv swmi ts addr floorTs).plane = q.setHang floorTs false ∧
      (swmi = false → ∀ b ∈ q.tx floorTs, CircuitMgr.matchesSource ts addr b = true) := by
  unfold grantOn
  dsimp only
  rw [plane_setHangtime _ h]
  cases priv with
  | true =>
    cases swmi with
    | true => exact ⟨_, discardInvolving_shrinks s floorTs, rfl, fun hx => by cases hx⟩
    | false =>
      refine ⟨_, ?_, rfl, fun _ b hb => ?_⟩
      · refine (discardExceptSource_shrinks s floorTs ts addr).trans ?_
        simp only [Bool.false_eq_true, if_false, if_true]
        rw [plane_clearDlMediaQueueExceptSource _ h]
        refine ⟨fun t => ?_, fun _ => .refl _, rfl, rfl⟩
        by_cases he : t = floorTs
        · subst he
          simp
        · simp [update_of_ne he]
      · simp only [Bool.false_eq_true, if_false, if_true] at hb
        rw [plane_clearDlMediaQueueExceptSource _ h] at hb
        simp only [update_self] at hb
        exact (mem_filter.mp hb).2
  | false =>
    refine ⟨_, ?_, rfl, fun _ b hb => ?_⟩
    · simp only [Bool.false_eq_true, if_false]
      rw [plane_clearDlMediaQueue _ h]
      exact discardGroup_shrinks.trans (clearTx_shrinks _ floorTs)
    · simp only [Bool.false_eq_true, if_false] at hb
      rw [plane_clearDlMediaQueue _ h] at hb
      exact absurd rfl (mem_emptied hb).1

/-- What the grant of a floor did to the timeslots it concerns. -/
structure Granted (o : Prop) (p0 p : MediaPlane) (swmi : Bool) (ts : Nat) (addr : TetraAddress)
    (slots : List Nat) : Prop where
  kept : Kept o p
  bearers : p.toBearers = p0.toBearers
  own : swmi = false → ∀ d ∈ slots, ∀ b ∈ p.tx d, CircuitMgr.matchesSource ts addr b = true

theorem Granted.next (h : Granted o p0 s.plane swmi ts addr done) (ht : isTimeslot floorTs = true) :
    Granted o p0 (s.grantOn priv swmi ts addr floorTs).plane swmi ts addr (floorTs :: done) := by
  obtain ⟨q, hs, hq, hown⟩ := plane_grantOn ht
  rw [hq]
  refine ⟨(h.kept.shrinks hs).setHang (fun hb => by cases hb), hs.bearers.trans h.bearers, ?_⟩
  intro hw d hd b hb
  by_cases he : d = floorTs
  · exact hown hw b (he ▸ hb)
  · rcases mem_cons.mp hd with hd | hd
    · exact absurd hd he
    · exact h.own hw d hd b ((hs.tx d).subset hb)

theorem Granted.all (priv : Bool) {l : List Nat} (h : Granted o p0 s.plane swmi ts addr done)
    (hl : ∀ t ∈ l, isTimeslot t = true) :
    Granted o p0 (l.foldl (fun s floorTs => s.grantOn priv swmi ts addr floorTs) s).plane swmi ts addr
      (l.reverse ++ done) := by
  induction l generalizing s done with
  | nil => exact h
  | cons t rest ih =>
    rw [foldl_cons, reverse_cons, append_assoc, singleton_append]
    exact ih (h.next (hl t mem_cons_self)) (fun t' ht => hl t' (mem_cons_of_mem _ ht))

/-- All that is queued from a timeslot is queued for timeslots of its floor. -/
theorem Granted.allFrom (h : Granted o p0 s.plane false ts addr done)
    (hd : ∀ cu cd, p0.ul ts = some cu → p0.dl (cu.target ts) = some cd → cu.target ts ∈ done) :
    s.plane.AllFrom ts (some addr) := by
  intro hul d cd hcd hns b hb a ha hts
  obtain ⟨cu, hcu⟩ := ne_none_iff_exists'.mp hul
  have hq := h.kept.isolated.queued d b hb a ha
  have htarget : cu.target ts = d := hts ▸ hq.target cu (hts ▸ hcu)
  have hmem : d ∈ done := by
    rw [h.bearers] at hcu hcd
    exact htarget ▸ hd cu cd hcu (htarget ▸ hcd)
  have hmatch := h.own rfl d hmem b hb
  simp only [CircuitMgr.matchesSource, Bool.and_eq_true] at hmatch
  rw [hq.tag cd hcd hns] at hmatch
  cases hs : a.speaker with
  | none => exact .inl rfl
  | some x =>
    rw [hs] at hmatch
    have hx : x = addr := by simpa using hmatch.2
    rw [hx]
    exact .inr (.inr rfl)

/-- Who holds the floor makes no difference to what the grant takes away. -/
theorem grantOn_currentUlSpeaker (f : Nat → Option TetraAddress) :
    ({ s with currentUlSpeaker := f } : UmacBs).grantOn priv swmi ts addr floorTs =
      { s.grantOn priv swmi ts addr floorTs with currentUlSpeaker := f } := by
  unfold grantOn discardPendingPrivateUlMediaInvolving discardPendingPrivateUlMediaExceptSource
    discardPendingGroupUlMediaExceptHangtimeSource
  cases priv <;> cases swmi <;> cases isTimeslot floorTs <;> rfl

theorem grants_currentUlSpeaker (f : Nat → Option TetraAddress) (l : List Nat) :
    l.foldl (fun s floorTs => s.grantOn priv swmi ts addr floorTs)
        ({ s with currentUlSpeaker := f } : UmacBs) =
      { l.foldl (fun s floorTs => s.grantOn priv swmi ts addr floorTs) s with
        currentUlSpeaker := f } := by
  induction l generalizing s with
  | nil => rfl
  | cons t rest ih => rw [foldl_cons, foldl_cons, grantOn_currentUlSpeaker, ih]

theorem target_mem_floor (ht : isTimeslot ts = true) (hcu : s.plane.ul ts = some cu)
    (hcd : s.plane.dl (cu.target ts) = some cd) : cu.target ts ∈ s.floorMediaTimeslots ts := by
  have htarget : isTimeslot (cu.target ts) = true := slots_timeslot hcd
  rw [floorMediaTimeslots, if_pos ht, ulCircuitPeerTs_eq hcu]
  by_cases he : cu.target ts = ts
  · rw [he]
    exact mem_cons_self
  · refine mem_cons_of_mem _ ?_
    cases hp : cu.peerTs with
    | none => exact absurd (by rw [Circuit.target, hp, getD_none]) he
    | some peer =>
      have hpeer : cu.target ts = peer := by rw [Circuit.target, hp, getD_some]
      rw [hpeer] at he htarget ⊢
      simp [htarget, he]

/-- The grants of a floor, and its new holder. -/
theorem grants_spec (h : Sound o s) {ts : Nat} (ht : isTimeslot ts = true) {addr : TetraAddress}
    (ha : addr.ssiType = .issi) (priv swmi : Bool) :
    let granted := (s.floorMediaTimeslots ts).foldl
      (fun s floorTs => s.grantOn priv swmi ts addr floorTs)
      (if swmi then s else s.setCurrentUlSpeaker ts addr)
    Kept o granted.plane ∧ granted.plane.Matched := by
  have hstart : Granted o s.plane s.plane swmi ts addr [] :=
    ⟨h.kept, rfl, fun _ _ hd => by cases hd⟩
  have hall := hstart.all priv (l := s.floorMediaTimeslots ts) (fun _ => isTimeslot_of_mem_floor)
  cases swmi with
  | true => exact ⟨hall.kept, hall.bearers ▸ h.matched⟩
  | false =>
    have hset : s.setCurrentUlSpeaker ts addr = { s with
        currentUlSpeaker := update s.currentUlSpeaker (ts - 1) (some addr) } := if_pos ⟨ht, ha⟩
    have hspeaker : ((s.floorMediaTimeslots ts).foldl
        (fun s floorTs => s.grantOn priv false ts addr floorTs) s).plane.speaker = s.plane.speaker := by
      rw [hall.bearers]
    have hplane : ((s.floorMediaTimeslots ts).foldl
        (fun s floorTs => s.grantOn priv false ts addr floorTs) (s.setCurrentUlSpeaker ts addr)).plane =
        ((s.floorMediaTimeslots ts).foldl
          (fun s floorTs => s.grantOn priv false ts addr floorTs) s).plane.setSpeaker ts (some addr) := by
      rw [hset, grants_currentUlSpeaker, MediaPlane.setSpeaker, hspeaker]
      simp [plane, slots_update _ _ ht]
    simp only [Bool.false_eq_true, if_false]
    rw [hplane]
    refine ⟨hall.kept.setSpeaker (hall.allFrom (fun cu cd hcu hcd => ?_)), ?_⟩
    · rw [append_nil, mem_reverse]
      exact target_mem_floor ht hcu hcd
    · have hm : ((s.floorMediaTimeslots ts).foldl
          (fun s floorTs => s.grantOn priv false ts addr floorTs) s).plane.Matched :=
        hall.bearers ▸ h.matched
      exact hm

theorem Sound.intro (hp : s.plane = p) (hk : Kept o p) (hm : p.Matched) (hf : p.Flushed) :
    Sound o s := by
  subst hp
  exact ⟨hk, hm, hf⟩

theorem Sound.of_plane (h : Sound o s) (hp : s'.plane = s.plane) : Sound o s' :=
  h.shrinks (hp ▸ .refl _)

theorem setCurrentUlSpeaker_channelScheduler :
    (s.setCurrentUlSpeaker ts addr).channelScheduler = s.channelScheduler := by
  unfold setCurrentUlSpeaker
  split <;> rfl

theorem Sound.floorGranted (h : Sound o s) (sourceIssi destGssi ts : Nat) :
    Sound o (s.floorGranted sourceIssi destGssi ts) := by
  unfold UmacBs.floorGranted
  split
  · rename_i ht
    dsimp only
    split
    · exact h
    generalize s.channelScheduler.ulCircuitIsPrivateParticipantScoped ts = priv
    generalize (priv && !s.channelScheduler.circuitIsActiveForAddr .ul ts (.issi sourceIssi) &&
      (s.channelScheduler.ulCircuitDlMediaSource ts == .swMI)) = swmi
    obtain ⟨hk, hm⟩ :=
      grants_spec h ht (show (TetraAddress.issi sourceIssi).ssiType = .issi from rfl) priv swmi
    have hslots : (if swmi then s else s.setCurrentUlSpeaker ts (.issi sourceIssi)).floorMediaTimeslots
        ts = s.floorMediaTimeslots ts := by
      cases swmi with
      | true => rfl
      | false =>
        simp [floorMediaTimeslots, setCurrentUlSpeaker_channelScheduler]
    rw [hslots]
    have hsound := (flush_spec hk hm).sound hm
    refine hsound.of_plane ?_
    rw [plane_lastUlVoice]
    split
    · rfl
    · exact plane_onScheduler_same _
        (@BsChannelScheduler.step_frame _ _ (.dlDropQueuedGssiRepeats ⟨destGssi, .gssi⟩) rfl rfl)
  · exact h

/-! Speech that arrives -/

theorem Sound.count (h : Sound o s) : Sound o s.count :=
  ⟨h.kept.count, h.matched, h.flushed⟩

theorem Sound.rxTmdCircuitDataReq (h : Sound o s) (ts : Nat) (data : TmdCircuitData) :
    Sound o (s.rxTmdCircuitDataReq ts data) := by
  have hnoted : Sound o (s.noteDlVoice ts) := h.of_plane (plane_noteDlVoice s)
  unfold UmacBs.rxTmdCircuitDataReq
  dsimp only
  split
  · rename_i hdl
    cases acceptUlMedia data with
    | none => exact hnoted
    | some media =>
      dsimp only
      generalize hb : media.kind.block _ none none = b
      have hsilent : b.arrival = none := by rw [← hb, block_arrival]
      have hplane : ((s.noteDlVoice ts).scheduleTmd ts b).plane =
          (s.noteDlVoice ts).plane.push ts b := by
        rw [plane_scheduleTmd]
        exact if_pos hdl
      exact .intro hplane (hnoted.kept.pushSilent ts hsilent) hnoted.matched hnoted.flushed
  · exact hnoted

/-- What becomes of accepted speech of a radio: nothing, or it waits, or it goes on. -/
inductive Heard (s : UmacBs) (ts : Nat) (media : AcceptedUlMedia) (cu : Circuit) : MediaPlane → Prop
  | lost : Heard s ts media cu s.plane
  | waits (hd : isTimeslot (cu.target ts) = true)
      (hb : s.plane.Blocked ts ∨ ∃ blockNum bits, media = .rawTchSHalfSlot blockNum bits) :
      Heard s ts media cu (s.plane.defer ts (s.pendingItem ts (cu.target ts) media.kind))
  | goesOn (hr : s.plane.Routable ts (cu.target ts) (s.ulMediaSpeakerTag ts))
      (hm : ∃ bits packed, media = .acElp bits packed) :
      Heard s ts media cu (s.plane.push (cu.target ts)
        (media.kind.block (some ts) (s.ulMediaSpeakerTag ts) (some (s.arrivalOn ts))))

theorem forwardToBrew_eq :
    ∃ q forwarded, s.forwardToBrew ts media = ({ s with queue := q }, forwarded) := by
  unfold forwardToBrew
  split
  · split
    · exact ⟨_, _, rfl⟩
    · exact ⟨s.queue, _, rfl⟩
  · exact ⟨s.queue, _, rfl⟩

theorem ulMediaSpeakerTag_or :
    s.ulMediaSpeakerTag ts = none ∨ s.ulMediaSpeakerTag ts = s.plane.speaker ts := by
  unfold ulMediaSpeakerTag
  split
  · split
    · exact .inl rfl
    · exact .inr rfl
  · exact .inl rfl

theorem dlTargetTs_eq {cu : Circuit} (hcu : s.plane.ul ts = some cu) (h : s.dlTargetTs ts = some d) :
    d = cu.target ts ∧ (cu.peerTs = none → cu.dlMediaSource = .localLoopback) := by
  unfold UmacBs.dlTargetTs at h
  rw [ulCircuitPeerTs_eq hcu, ulCircuitDlMediaSource_eq hcu] at h
  cases hp : cu.peerTs with
  | some =>
    rw [hp] at h
    cases h
    exact ⟨by rw [Circuit.target, hp, getD_some], fun hnone => by cases hnone⟩
  | none =>
    rw [hp] at h
    dsimp only at h
    split at h
    · rename_i hsource
      cases h
      exact ⟨by rw [Circuit.target, hp, getD_none], fun _ => hsource⟩
    · cases h

/-- Speech for a downlink timeslot with a circuit. -/
theorem routeUlMedia_heard {ts d : Nat} (ht : isTimeslot ts = true) {cu : Circuit}
    (hcu : s.plane.ul ts = some cu) {defer : Bool} (hd : s.dlTargetTs ts = some d)
    (hdl : (s.plane.dl d).isSome = true) (hfloor : s.privateSimplexWaitingForFloorGrant ts ≠ true)
    (hu : (s.plane.hang ts && !defer) ≠ true) (hh : (s.plane.hang d && !defer) ≠ true) :
    Heard s ts media cu (s.routeUlMedia ts d media defer).1.plane := by
  obtain ⟨rfl, hsource⟩ := dlTargetTs_eq hcu hd
  obtain ⟨cd, hcd⟩ := isSome_iff_exists.mp hdl
  have htarget : isTimeslot (cu.target ts) = true := slots_timeslot hcd
  unfold routeUlMedia
  cases media with
  | rawTchSHalfSlot =>
    rw [plane_deferPrivateUlMedia s ht]
    exact .waits htarget (.inr ⟨_, _, rfl⟩)
  | acElp bits packed =>
    simp only [isHangtime_eq]
    split
    · rename_i hb
      rw [plane_deferPrivateUlMedia s ht]
      simp only [Bool.and_eq_true, Bool.or_eq_true] at hb
      refine .waits htarget (.inl ⟨cu, hcu, ?_⟩)
      rcases hb.2 with hb | hb
      · exact .inl hb
      · exact .inr (.inl hb)
    · rename_i hb
      rw [plane_scheduleTmd, if_pos hdl]
      refine .goesOn ⟨⟨cu, cd, hcu, rfl, hcd, hsource⟩, ulMediaSpeakerTag_or, ?_⟩ ⟨_, _, rfl⟩
      rintro ⟨cu', hcu', hblocked⟩
      obtain rfl : cu = cu' := Option.some.inj (hcu.symm.trans hcu')
      rcases hblocked with hx | hx | hx
      · cases defer <;> simp [hx] at hu hb
      · cases defer <;> simp [hx] at hh hb
      · exact hfloor ((privateSimplexWaiting_iff hcu).mpr hx)

theorem deliverUlMedia_heard {ts : Nat} (ht : isTimeslot ts = true) {cu : Circuit}
    (hcu : s.plane.ul ts = some cu) {defer : Bool}
    (hfloor : s.privateSimplexWaitingForFloorGrant ts ≠ true)
    (hu : (s.plane.hang ts && !defer) ≠ true) :
    Heard s ts media cu (s.deliverUlMedia ts media defer forwarded).plane := by
  unfold deliverUlMedia
  cases hd : s.dlTargetTs ts with
  | none =>
    dsimp only
    split <;> exact .lost
  | some d =>
    dsimp only
    rw [isHangtime_eq]
    by_cases hh : (s.plane.hang d && !defer) = true
    · rw [if_pos hh]
      exact .lost
    rw [if_neg hh]
    generalize hr : (if s.channelScheduler.circuits.isActive .dl d then
      s.routeUlMedia ts d media defer else (s, false)) = r
    have hheard : Heard s ts media cu r.1.plane := by
      rw [← hr]
      split
      · rename_i hdl
        exact routeUlMedia_heard ht hcu hd hdl hfloor hu hh
      · exact .lost
    split
    · rw [plane_noteUlVoice]
      exact hheard
    · exact hheard

/-- What the network was told makes no difference to the radios. -/
theorem Heard.of_queue (h : Heard { s with queue := q } ts media cu p) : Heard s ts media cu p := by
  cases h with
  | lost => exact .lost
  | waits hd hb => exact .waits hd hb
  | goesOn hr hm => exact .goesOn hr hm

theorem rxUlMedia_heard (ht : isTimeslot ts = true) (hcu : s.plane.ul ts = some cu)
    (media : AcceptedUlMedia) : Heard s ts media cu (s.rxUlMedia ts media).plane := by
  unfold rxUlMedia
  dsimp only
  rw [isHangtime_eq]
  generalize s.canDeferUlMediaDuringHangtime ts = defer
  by_cases hu : (s.plane.hang ts && !defer) = true
  · rw [if_pos hu]
    exact .lost
  rw [if_neg hu]
  by_cases hfloor : s.privateSimplexWaitingForFloorGrant ts = true
  · rw [if_pos hfloor, plane_deferPrivateUlMedia s ht]
    have hshared := (privateSimplexWaiting_iff hcu).mp hfloor
    have htarget : cu.target ts = ts := by rw [Circuit.target, hshared.1.1, getD_none]
    have hwaits : Heard s ts media cu
        (s.plane.defer ts (s.pendingItem ts (cu.target ts) media.kind)) :=
      .waits (htarget.symm ▸ ht) (.inl ⟨cu, hcu, .inr (.inr hshared)⟩)
    rw [htarget] at hwaits
    exact hwaits
  rw [if_neg hfloor]
  by_cases hparrot : s.channelScheduler.ulCircuitDlMediaSource ts = .localParrot
  · rw [if_pos hparrot]
    exact .lost
  rw [if_neg hparrot]
  obtain ⟨q, forwarded, hf⟩ := forwardToBrew_eq
  rw [hf]
  exact (deliverUlMedia_heard (s := { s with queue := q }) ht hcu hfloor hu).of_queue

/-- Where speakers can be told apart the tag is the speaker. -/
theorem ulMediaSpeakerTag_eq (hcu : s.plane.ul ts = some cu) (hns : ¬cu.Shared) :
    s.ulMediaSpeakerTag ts = s.currentUlSignalAddr ts := by
  have ht : isTimeslot ts = true := slots_timeslot hcu
  rw [ulMediaSpeakerTag, if_pos ht, ulCircuitIsPrivateParticipantScoped_eq hcu, ulCircuitPeerTs_eq hcu]
  refine if_neg (fun hx => hns ?_)
  rw [Bool.and_eq_true, isNone_iff_eq_none] at hx
  exact ⟨hx.2, hx.1⟩

/-- A block that arrives now may wait on its timeslot. -/
theorem waitingOk_pendingItem (h : Sound o s) (hcu : s.plane.ul ts = some cu)
    (hd : isTimeslot (cu.target ts) = true) (kind : PendingPrivateUlMediaKind) :
    s.count.plane.WaitingOk ts (s.count.pendingItem ts (cu.target ts) kind) := by
  refine ⟨⟨rfl, rfl⟩, ⟨cu, hcu, ?_, rfl, fun hns => ?_⟩, hd, ?_, Nat.le_refl _⟩
  · exact ulCircuitPeerTs_eq (s := s.count) hcu
  · exact ulMediaSpeakerTag_eq (s := s.count) hcu hns
  · exact Nat.lt_succ_of_le (h.kept.isolated.opened _)

theorem count_line_lt (h : Sound o s) (ho : o) (u d : Nat) :
    ∀ n ∈ s.count.plane.line u d, n < s.count.history.clock :=
  fun n hn => Nat.lt_succ_of_le ((h.kept.ordered ho).past u d n hn)

/-- Accepted speech of a radio; a half slot may wait without need. -/
theorem rxUlMedia_spec (h : Sound o s) (ht : isTimeslot ts = true) (hcu : s.plane.ul ts = some cu)
    (media : AcceptedUlMedia)
    (hgap : o → ∀ bits packed, media = .acElp bits packed → s.history.halfSlots ts = false) :
    Kept o (s.count.rxUlMedia ts media).plane ∧ (s.count.rxUlMedia ts media).plane.Matched ∧
      ∀ u, (s.count.rxUlMedia ts media).plane.waiting u ≠ [] →
        (s.count.rxUlMedia ts media).plane.Blocked u ∨
          (s.count.rxUlMedia ts media).plane.history.halfSlots u = true ∨ u = ts ∧
            ∃ blockNum bits, media = .rawTchSHalfSlot blockNum bits := by
  have hcount := h.count
  have hflushed : ∀ u, s.count.plane.waiting u ≠ [] → s.count.plane.Blocked u ∨
      s.count.plane.history.halfSlots u = true ∨
        u = ts ∧ ∃ blockNum bits, media = .rawTchSHalfSlot blockNum bits := by
    intro u hu
    rcases hcount.flushed u hu with hb | hb
    · exact .inl hb
    · exact .inr (.inl hb)
  have hheard := rxUlMedia_heard (s := s.count) ht hcu media
  generalize (s.count.rxUlMedia ts media).plane = p at hheard ⊢
  cases hheard with
  | lost => exact ⟨hcount.kept, hcount.matched, hflushed⟩
  | waits hd hb =>
    have hw := waitingOk_pendingItem h hcu hd media.kind
    refine ⟨hcount.kept.defer hw (fun ho d => count_line_lt h ho ts d), hcount.matched, fun u hu => ?_⟩
    by_cases he : u = ts
    · subst he
      rcases hb with hb | hb
      · exact .inl hb
      · exact .inr (.inr ⟨rfl, hb⟩)
    · refine hflushed u ?_
      simpa only [MediaPlane.defer, update_of_ne he] using hu
  | goesOn hr hm =>
    obtain ⟨cu', cd, hcu', _, hcd, _⟩ := hr.circuits
    have hw := waitingOk_pendingItem h hcu (slots_timeslot hcd) media.kind
    have hok := queuedOk_of_waiting hw (lt_of_isTimeslot ht) hcount.matched hr
    refine ⟨hcount.kept.pushFresh (block_arrival ..) hok hr.not_hang hcu
      (fun ho => count_line_lt h ho ts) (fun ho => ?_), hcount.matched, hflushed⟩
    obtain ⟨bits, packed, rfl⟩ := hm
    by_contra hne
    rcases hcount.flushed ts hne with hb | hb
    · exact hr.free hb
    · have hgap := hgap ho bits packed rfl
      rw [show s.history.halfSlots ts = true from hb] at hgap
      cases hgap

/-- A full slot of speech comes with a tick since the last half slot of its timeslot. -/
def Spaced (s : UmacBs) (ts : Nat) (data : TmdCircuitData) : Prop :=
  match acceptUlMedia data with
  | some (.acElp _ _) => s.history.halfSlots ts = false
  | _ => True

theorem Sound.rxTmdCircuitDataInd (h : Sound o s) (hgap : o → Spaced s ts data) :
    Sound o (s.count.rxTmdCircuitDataInd ts data) := by
  unfold UmacBs.rxTmdCircuitDataInd
  split
  · rename_i hact
    obtain ⟨ht, hul⟩ := hact
    obtain ⟨cu, hcu⟩ := isSome_iff_exists.mp (show (s.plane.ul ts).isSome = true from hul)
    cases hd : acceptUlMedia data with
    | none => exact h.count
    | some media =>
      obtain ⟨hk, hm, hf⟩ := rxUlMedia_spec h ht hcu media
        (fun ho bits packed he => by simpa [Spaced, hd, he] using hgap ho)
      cases media with
      | rawTchSHalfSlot =>
        refine ⟨hk.setHalfSlots _, hm, fun u hu => ?_⟩
        by_cases he : u = ts
        · exact .inr (he ▸ update_self ..)
        · rcases hf u hu with hb | hb | hb
          · exact .inl hb
          · exact .inr ((update_of_ne he ..).trans hb)
          · exact absurd hb.1 he
      | acElp =>
        refine ⟨hk, hm, fun u hu => ?_⟩
        rcases hf u hu with hb | hb | ⟨_, _, _, hb⟩
        · exact .inl hb
        · exact .inr hb
        · cases hb
  · exact h.count

/-! Ticks -/

theorem plane_checkUlInactivity : s.checkUlInactivity.plane = s.plane := by
  have hone : ∀ (s : UmacBs) (ts : Nat), (s.checkUlInactivityOn ts).plane = s.plane := by
    intro s ts
    unfold checkUlInactivityOn
    split <;> rfl
  simp [checkUlInactivity, hone]

theorem prepareTick_spec (h : Sound o s) : FlushDone o s.plane s.prepareTick.plane [4, 3, 2, 1] := by
  unfold prepareTick
  dsimp only
  have hp : ({ s.onScheduler BsChannelScheduler.tickStart with
      dltime := (s.onScheduler BsChannelScheduler.tickStart).channelScheduler.curDltime } :
        UmacBs).checkUlInactivity.plane = s.plane := by
    rw [plane_checkUlInactivity]
    rfl
  have hf := flush_spec (hp.symm ▸ h.kept : Kept o _) (hp.symm ▸ h.matched)
  rw [hp] at hf
  exact hf

theorem plane_finishTick (h : s.channelScheduler.finalizeTsForTick env = some r) :
    (s.finishTick env r).plane = { s.plane with history.halfSlots := fun _ => false } ∨
      ∃ d cd, s.plane.dl d = some cd ∧
        (s.finishTick env r).plane = { s.plane.take d with history.halfSlots := fun _ => false } := by
  have hplane : ∀ c, r.sched.media = (c, s.channelScheduler.hangtime) →
      (s.finishTick env r).plane =
        { s.plane with
          dl := slots none c.dl
          ul := slots none c.ul
          tx := slots [] c.txData
          history.onAir := s.history.onAir ++ (s.channelScheduler.takenBlock env).toList
          history.halfSlots := fun _ => false } := by
    intro c hm
    have hc : r.sched.circuits = c := congrArg Prod.fst hm
    have hh : r.sched.hangtime = s.channelScheduler.hangtime := congrArg Prod.snd hm
    simp [plane, finishTick, hc, hh]
  have hsame : r.sched.media = s.channelScheduler.media →
      s.channelScheduler.takenBlock env = none →
      (s.finishTick env r).plane = { s.plane with history.halfSlots := fun _ => false } := by
    intro hm htaken
    rw [hplane _ hm, htaken, toList_none, append_nil]
    rfl
  rcases BsChannelScheduler.finalizeTsForTick_media h with ⟨hm, htaken⟩ | ⟨d, hm, htaken⟩
  · exact .inl (hsame hm htaken)
  · by_cases hact : s.channelScheduler.circuits.isActive .dl d = true
    · right
      obtain ⟨cd, hcd⟩ := isSome_iff_exists.mp (show (s.plane.dl d).isSome = true from hact)
      have hd : isTimeslot d = true := slots_timeslot hcd
      refine ⟨d, cd, hcd, ?_⟩
      rw [hplane _ hm, htaken]
      simp only [CircuitMgr.takeBlock, if_pos hact, MediaPlane.take, plane, slots_update _ _ hd]
      simp [slots, if_pos hd]
    · left
      have htake : s.channelScheduler.circuits.takeBlock d = (none, s.channelScheduler.circuits) :=
        if_neg hact
      rw [htake] at hm htaken
      exact hsame hm htaken

theorem Sound.finishTick (h : Sound o s) (hb : ∀ u, s.plane.waiting u ≠ [] → s.plane.Blocked u)
    (hr : s.channelScheduler.finalizeTsForTick env = some r) : Sound o (s.finishTick env r) := by
  rcases plane_finishTick hr with hp | ⟨d, cd, -, hp⟩
  · exact .intro hp (h.kept.setHalfSlots _) h.matched (fun u hu => .inl (hb u hu))
  · exact .intro hp ((h.kept.take d).setHalfSlots _) h.matched (fun u hu => .inl (hb u hu))

theorem Sound.tickStart (h : Sound o s) (hs : s.tickStart env = some s') : Sound o s' := by
  obtain ⟨r, hr, rfl⟩ := map_eq_some_iff.mp hs
  have hprep := prepareTick_spec h
  exact (hprep.sound h.matched).finishTick hprep.all_blocked hr

/-- What a tick plays of the radios may be played where it is. -/
theorem finishTick_played (h : Sound o s) (hr : s.channelScheduler.finalizeTsForTick env = some r)
    (hx : (d, b) ∈ (s.finishTick env r).history.onAir.drop s.history.onAir.length)
    (ha : b.arrival = some a) :
    (s.finishTick env r).plane.Deliverable d a ∧ (s.finishTick env r).plane.hang d = false := by
  change (d, b) ∈ (s.finishTick env r).plane.history.onAir.drop s.history.onAir.length at hx
  rcases plane_finishTick hr with hp | ⟨d', cd, -, hp⟩
  · rw [hp] at hx
    change (d, b) ∈ s.history.onAir.drop s.history.onAir.length at hx
    rw [drop_length] at hx
    cases hx
  · rw [hp] at hx ⊢
    change (d, b) ∈ (s.history.onAir ++
      ((s.plane.tx d').head?.map (fun b => (d', b))).toList).drop s.history.onAir.length at hx
    rw [drop_left, mem_toList, map_eq_some_iff] at hx
    obtain ⟨b', hhead, he⟩ := hx
    cases he
    have hmem : b ∈ s.plane.tx d := List.mem_of_mem_head? hhead
    refine ⟨(h.kept.isolated.queued d b hmem a ha).deliverable, ?_⟩
    refine Bool.eq_false_iff.mpr (fun hhang => ?_)
    rw [h.kept.isolated.quiet d hhang b hmem] at ha
    cases ha

end UmacBs
end NexusBs
