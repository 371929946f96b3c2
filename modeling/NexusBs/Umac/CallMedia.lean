import NexusBs.Umac.Speech

namespace NexusBs
namespace UmacBs
open MediaPlane Lib

variable {o : Prop} {s s' : UmacBs}

/-- Circuits are opened in pairs that belong together, and a timeslot's uplink not before what it
fed is closed; the source of an open circuit's media stays. -/
def Fits (s : UmacBs) : UmacEvent → Prop
  | .open directions circuit =>
    LegsClosed s.plane directions circuit ∧
      (s.count.rxControlCircuitOpen directions circuit).plane.Matched
  | .setDlMediaSource .. => False
  | _ => True

instance (s : UmacBs) (e : UmacEvent) : Decidable (Fits s e) := by
  cases e <;> unfold Fits <;> infer_instance

/-- A full slot of speech does not follow a half slot of the same timeslot within a tick. -/
def TickBetween (s : UmacBs) : UmacEvent → Prop
  | .tmdCircuitDataInd ts data => Spaced s ts data
  | _ => True

theorem Sound.step (h : Sound o s) (hf : Fits s e) (hgap : o → TickBetween s e)
    (hs : s.step e = some s') : Sound o s' := by
  have hcount := h.count
  cases e with
  | «open» directions circuit =>
    cases hs
    exact hcount.open hf.1.count hf.2
  | close directions ts =>
    cases hs
    exact hcount.close directions ts
  | setDlMediaSource => exact hf.elim
  | floorGranted sourceIssi destGssi ts =>
    cases hs
    exact hcount.floorGranted sourceIssi destGssi ts
  | floorReleased ts =>
    cases hs
    exact hcount.floorReleased ts
  | callEnded ts =>
    cases hs
    exact hcount.callEnded ts
  | tmdCircuitDataReq ts data =>
    cases hs
    exact hcount.rxTmdCircuitDataReq ts data
  | tmdCircuitDataInd =>
    cases hs
    exact h.rxTmdCircuitDataInd hgap
  | signalling op =>
    change (if op.queuesOnly then (s.count.channelScheduler.step op).map (fun sched =>
      { s.count with channelScheduler := sched }) else some s.count) = some s' at hs
    split at hs
    · rename_i hq
      obtain ⟨sched, hsched, rfl⟩ := Option.map_eq_some_iff.mp hs
      exact hcount.of_plane (plane_onScheduler_same s.count (f := fun _ => sched)
        (BsChannelScheduler.step_frame hq hsched))
    · cases hs
      exact hcount
  | tick env =>
    change s.count.tickStart env = some s' at hs
    exact hcount.tickStart hs

def start (config : UmacBsConfig) (scramblingCode : Nat) (precomps : PrecomputedUmacPdus)
    (dltime : TdmaTime) : UmacBs := .new config (.new scramblingCode precomps dltime)

theorem sound_start (config : UmacBsConfig) (scramblingCode : Nat) (precomps : PrecomputedUmacPdus)
    (dltime : TdmaTime) : Sound o (start config scramblingCode precomps dltime) := by
  have hempty : ∀ (α : Type) (ts : Nat), slots ([] : List α) (fun _ => []) ts = [] := by
    intro α ts
    unfold slots
    split <;> rfl
  have hnone : ∀ (α : Type) (ts : Nat), slots (none : Option α) (fun _ => none) ts = none := by
    intro α ts
    unfold slots
    split <;> rfl
  have htx : ∀ ts, (start config scramblingCode precomps dltime).plane.tx ts = [] := hempty _
  have hwaiting : ∀ ts, (start config scramblingCode precomps dltime).plane.waiting ts = [] := hempty _
  have hul : ∀ ts, (start config scramblingCode precomps dltime).plane.ul ts = none := hnone _
  refine ⟨⟨⟨?_, ?_, ?_, ?_, ?_, fun _ => Nat.le_refl _⟩, fun _ => ⟨?_, ?_, ?_⟩⟩, ?_, ?_⟩
  · intro ts
    rw [htx]
    exact Nat.zero_le _
  · intro ts
    rw [hwaiting]
    exact Nat.zero_le _
  · intro ts _ b hb
    rw [htx] at hb
    cases hb
  · intro d b hb
    rw [htx] at hb
    cases hb
  · intro u m hm
    rw [hwaiting] at hm
    cases hm
  · intro u d
    rw [line, htx, hwaiting]
    exact List.Pairwise.nil
  · intro u d _ hd
    rw [htx] at hd
    exact absurd rfl hd
  · intro u d n hn
    rw [line, htx, hwaiting] at hn
    cases hn
  · intro u _ cu hcu
    rw [hul] at hcu
    cases hcu
  · intro u hu
    exact absurd (hwaiting u) hu

/-- What a state of the upper MAC owes to the speech it carries: what the next tick plays may be
played there, hangtime is quiet, and queues are bounded. -/
structure KeepsApart (s : UmacBs) : Prop where
  played : ∀ env s', s.step (.tick env) = some s' → ∀ d b a,
    (d, b) ∈ s'.history.onAir.drop s.history.onAir.length → b.arrival = some a →
      s'.plane.Deliverable d a ∧ s'.channelScheduler.isHangtime d = false
  quiet : ∀ ts, s.channelScheduler.isHangtime ts = true →
    ∀ b ∈ s.channelScheduler.circuits.txData (ts - 1), b.arrival = none
  bounded : ∀ ts, isTimeslot ts = true →
    (s.pendingPrivateUlMedia (ts - 1)).length ≤ maxPendingPrivateUlMediaPerTs ∧
      (s.channelScheduler.circuits.txData (ts - 1)).length ≤ maxTxDataBlocksPerTimeslot

theorem prepareTick_onAir (h : Sound o s) : s.prepareTick.history.onAir = s.history.onAir :=
  congrArg (fun p : Bearers => p.history.onAir) (prepareTick_spec h).bearers

theorem Sound.keepsApart (h : Sound o s) : KeepsApart s where
  played env s' hs d b a hx ha := by
    change s.count.tickStart env = some s' at hs
    obtain ⟨r, hr, rfl⟩ := Option.map_eq_some_iff.mp hs
    have hprep := (prepareTick_spec h.count).sound h.count.matched
    have hair : s.history.onAir = s.count.prepareTick.history.onAir := (prepareTick_onAir h.count).symm
    rw [hair] at hx
    rw [isHangtime_eq]
    exact finishTick_played hprep hr hx ha
  quiet ts hh b hb := by
    rw [isHangtime_eq] at hh
    have ht : isTimeslot ts = true := by
      cases ht : isTimeslot ts with
      | true => rfl
      | false =>
        simp only [plane, slots, ht] at hh
        exact hh
    exact h.kept.isolated.quiet ts hh b (by simpa only [plane, slots, if_pos ht] using hb)
  bounded ts ht := by
    have hw := h.kept.isolated.waitingBound ts
    have htx := h.kept.isolated.txBound ts
    simp only [plane, slots, if_pos ht] at hw htx
    exact ⟨hw, htx⟩

/-- In every run whose circuits are opened in pairs that belong together and not before what they
fed is closed, radio speech is kept apart, and with a tick between the half slots and the full
slots of a timeslot it leaves in the order of arrival. -/
theorem radio_speech_kept_apart (config : UmacBsConfig) (scramblingCode : Nat)
    (precomps : PrecomputedUmacPdus) (dltime : TdmaTime) (events : List UmacEvent) (s : UmacBs)
    (hfit : Along step Fits (start config scramblingCode precomps dltime) events)
    (hrun : Lib.run step (start config scramblingCode precomps dltime) events = some s) :
    s.KeepsApart ∧
      (Along step TickBetween (start config scramblingCode precomps dltime) events →
        ∀ u, (numbersFrom u (s.history.onAir.map Prod.snd)).Pairwise (· < ·)) := by
  constructor
  · have hsound : Sound False s := run_invariant (P := Sound False)
      (fun _ e _ h hok hs => h.step (e := e) hok (fun hfalse => hfalse.elim) hs)
      (sound_start ..) hfit hrun
    exact hsound.keepsApart
  · intro hgap u
    have hsound : Sound True s := run_invariant (P := Sound True)
      (fun _ e _ h hok hs => h.step (e := e) hok.1 (fun _ => hok.2) hs)
      (sound_start ..) (hfit.and hgap) hrun
    have hsorted := (hsound.kept.ordered trivial).sorted u 0
    rw [line, List.pairwise_append] at hsorted
    exact hsorted.1

/-- Radio speech that was played, by downlink timeslot. -/
def radioSpeech (s : UmacBs) : List (Nat × Arrival) :=
  s.history.onAir.filterMap (fun (d, b) => b.arrival.map (fun a => (d, a)))

section Samples

def sampleStart : UmacBs := start ⟨false, 3⟩ 3 sampleCell .default

def groupCircuit (source : CircuitDlMediaSource) (speaker : Nat) : Circuit :=
  ⟨2, none, 4, source, some ⟨9, .gssi⟩, [.issi speaker]⟩

def fullSlot : UmacEvent := .tmdCircuitDataInd 2 (.acElp (List.replicate 35 0))

def halfSlot : UmacEvent := .tmdCircuitDataInd 2 (.rawTchS .block2 (List.replicate 216 false))

def ticks (n : Nat) : List UmacEvent := List.replicate n (.tick quietEnv)

def groupCall : List UmacEvent :=
  [.open .both (groupCircuit .localLoopback 1), halfSlot, .tick quietEnv, fullSlot] ++ ticks 7

theorem groupCall_kept_apart : ∃ s, Lib.run step sampleStart groupCall = some s ∧
    s.radioSpeech = [(2, ⟨2, 2, some (.issi 1)⟩), (2, ⟨4, 2, some (.issi 1)⟩)] ∧ s.KeepsApart := by
  have hrun : (Lib.run step sampleStart groupCall).map radioSpeech =
      some [(2, ⟨2, 2, some (.issi 1)⟩), (2, ⟨4, 2, some (.issi 1)⟩)] := by
    decide +kernel
  obtain ⟨s, hs, hplayed⟩ := Option.map_eq_some_iff.mp hrun
  have hapart := radio_speech_kept_apart ⟨false, 3⟩ 3 sampleCell .default groupCall s
    (by decide +kernel) hs
  exact ⟨s, hs, hplayed, hapart.1⟩

/-- The downlink of a timeslot is opened for the network and its uplink for the radios. -/
def mixedSources : List UmacEvent :=
  [.open .dl (groupCircuit .swMI 1), .open .ul (groupCircuit .localLoopback 1), fullSlot] ++ ticks 4

/-- The uplink of a timeslot is opened again for another speaker while its downlink stays open. -/
def reopenedUplink : List UmacEvent :=
  [.open .both (groupCircuit .localLoopback 1), fullSlot, .close .ul 2,
    .open .ul (groupCircuit .localLoopback 2)] ++ ticks 4

def halfThenFull : List UmacEvent :=
  [.open .both (groupCircuit .localLoopback 1), halfSlot, fullSlot] ++ ticks 8

/-- Radio speech is played on a circuit that the network feeds, or while another speaker has the
floor, or out of order. -/
theorem radio_speech_leaks :
    (∃ s, Lib.run step sampleStart mixedSources = some s ∧
      s.radioSpeech = [(2, ⟨3, 2, some (.issi 1)⟩)] ∧
      ¬s.plane.Deliverable 2 ⟨3, 2, some (.issi 1)⟩) ∧
    (∃ s, Lib.run step sampleStart reopenedUplink = some s ∧
      s.radioSpeech = [(2, ⟨2, 2, some (.issi 1)⟩)] ∧
      ¬s.plane.Deliverable 2 ⟨2, 2, some (.issi 1)⟩) ∧
    (∃ s, Lib.run step sampleStart halfThenFull = some s ∧
      s.radioSpeech = [(2, ⟨3, 2, some (.issi 1)⟩), (2, ⟨2, 2, some (.issi 1)⟩)]) := by
  have hcase : ∀ events a,
      ((Lib.run step sampleStart events).map
        (fun s => (s.radioSpeech, decide (s.plane.Deliverable 2 a))) =
        some ([(2, a)], false)) →
      ∃ s, Lib.run step sampleStart events = some s ∧ s.radioSpeech = [(2, a)] ∧
        ¬s.plane.Deliverable 2 a := by
    intro events a h
    obtain ⟨s, hs, hx⟩ := Option.map_eq_some_iff.mp h
    rw [Prod.mk.injEq, decide_eq_false_iff_not] at hx
    exact ⟨s, hs, hx⟩
  refine ⟨hcase _ _ ?_, hcase _ _ ?_, ?_⟩
  · decide +kernel
  · decide +kernel
  · have hrun : (Lib.run step sampleStart halfThenFull).map radioSpeech =
        some [(2, ⟨3, 2, some (.issi 1)⟩), (2, ⟨2, 2, some (.issi 1)⟩)] := by
      decide +kernel
    obtain ⟨s, hs, hplayed⟩ := Option.map_eq_some_iff.mp hrun
    exact ⟨s, hs, hplayed⟩

end Samples

end UmacBs
end NexusBs
