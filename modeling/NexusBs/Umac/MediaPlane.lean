import NexusBs.Lib.Lists
import NexusBs.Umac.UmacBs

namespace NexusBs
open Function List

namespace Circuit

/-- Private simplex on one channel: who of the two speaks is only known from the floor. -/
def Shared (c : Circuit) : Prop := c.peerTs = none ∧ c.isPrimaryIssiScoped = true

instance (c : Circuit) : Decidable c.Shared := inferInstanceAs (Decidable (_ ∧ _))

def target (c : Circuit) (ts : Nat) : Nat := c.peerTs.getD ts

/-- A downlink circuit plays its peer timeslot or, in local loopback without a peer, its own. -/
def FedFrom (c : Circuit) (ts ulTs : Nat) : Prop :=
  c.peerTs = some ulTs ∨ c.peerTs = none ∧ ulTs = ts ∧ c.dlMediaSource = .localLoopback

instance (c : Circuit) (ts ulTs : Nat) : Decidable (c.FedFrom ts ulTs) :=
  inferInstanceAs (Decidable (_ ∨ _))

/-- An uplink circuit and the downlink circuit that plays it were opened for each other. -/
def Belongs (cu cd : Circuit) (ulTs : Nat) : Prop :=
  (cu.peerTs ≠ none → cd.peerTs = some ulTs) ∧
    (cu.peerTs = none → cu.dlMediaSource = .localLoopback →
      cd.peerTs = none ∧ cd.dlMediaSource = .localLoopback ∧
        cd.isPrimaryIssiScoped = cu.isPrimaryIssiScoped)

instance (cu cd : Circuit) (ulTs : Nat) : Decidable (cu.Belongs cd ulTs) :=
  inferInstanceAs (Decidable (_ ∧ _))

/-- Where uplink speech goes at all, the circuit it goes to is fed from there. -/
theorem Belongs.fedFrom {cu cd : Circuit} (h : cu.Belongs cd u)
    (hs : cu.peerTs = none → cu.dlMediaSource = .localLoopback) : cd.FedFrom (cu.target u) u := by
  cases hp : cu.peerTs with
  | some => exact .inl (h.1 (by simp [hp]))
  | none =>
    obtain ⟨hpeer, hsource, -⟩ := h.2 hp (hs hp)
    exact .inr ⟨hpeer, by simp [target, hp], hsource⟩

theorem Belongs.shared {cu cd : Circuit} (h : cu.Belongs cd u)
    (hs : cu.peerTs = none → cu.dlMediaSource = .localLoopback) (hc : cu.Shared) : cd.Shared := by
  obtain ⟨hpeer, -, hscope⟩ := h.2 hc.1 (hs hc.1)
  exact ⟨hpeer, hscope.trans hc.2⟩

end Circuit

/-- The open circuits and the speakers by timeslot, and their history. -/
structure Bearers where
  dl : Nat → Option Circuit
  ul : Nat → Option Circuit
  speaker : Nat → Option TetraAddress
  history : UmacHistory

/-- What isolation is about: bearers, the speech queued and waiting, and hangtime. -/
structure MediaPlane extends Bearers where
  tx : Nat → List CircuitTxBlock
  hang : Nat → Bool
  waiting : Nat → List PendingPrivateUlMedia

/-- Two speakers are not known to be different. -/
def Compatible (x y : Option TetraAddress) : Prop := x = none ∨ y = none ∨ x = y

instance (x y : Option TetraAddress) : Decidable (Compatible x y) :=
  inferInstanceAs (Decidable (_ ∨ _))

namespace Bearers

/-- Who holds the floor of an uplink timeslot with an open circuit. -/
def holder (p : Bearers) (ulTs : Nat) : Option TetraAddress :=
  (p.ul ulTs).bind (fun _ => p.speaker ulTs)

/-- Radio speech may be played on a downlink timeslot: the circuit open there is fed from where it
arrived and was opened before, and where speakers can be told apart no other has the floor. -/
def Deliverable (p : Bearers) (d : Nat) (a : Arrival) : Prop :=
  ∃ cd, p.dl d = some cd ∧ cd.FedFrom d a.ulTs ∧ p.history.dlOpenedAt d < a.number ∧
    (¬cd.Shared → Compatible a.speaker (p.holder a.ulTs))

instance (p : Bearers) (d : Nat) (a : Arrival) : Decidable (p.Deliverable d a) :=
  decidable_of_iff (∃ cd ∈ p.dl d, cd.FedFrom d a.ulTs ∧ p.history.dlOpenedAt d < a.number ∧
    (¬cd.Shared → Compatible a.speaker (p.holder a.ulTs))) Iff.rfl

/-- A block of radio speech in the media queue of a timeslot. -/
structure QueuedOk (p : Bearers) (d : Nat) (b : CircuitTxBlock) (a : Arrival) : Prop where
  source : b.sourceUlTs = some a.ulTs
  deliverable : p.Deliverable d a
  tag : ∀ cd, p.dl d = some cd → ¬cd.Shared → b.speakerAddr = a.speaker
  target : ∀ cu, p.ul a.ulTs = some cu → cu.target a.ulTs = d
  closed : p.ul a.ulTs = none → a.number ≤ p.history.ulClosedAt a.ulTs
  past : a.number ≤ p.history.clock

/-- A block of radio speech that waits. -/
structure WaitingOk (p : Bearers) (u : Nat) (m : PendingPrivateUlMedia) : Prop where
  slot : m.ulTs = u ∧ m.arrival.ulTs = u
  circuit : ∃ cu, p.ul u = some cu ∧ m.peerTs = cu.peerTs ∧ m.dlTargetTs = cu.target u ∧
    (¬cu.Shared → m.speakerAddr = m.arrival.speaker)
  timeslot : isTimeslot m.dlTargetTs = true
  since : p.history.dlOpenedAt m.dlTargetTs < m.arrival.number
  past : m.arrival.number ≤ p.history.clock

/-- Every uplink circuit belongs to the downlink circuit on its target. -/
def Matched (p : Bearers) : Prop :=
  ∀ u < 5, ∀ cu ∈ p.ul u, ∀ cd ∈ p.dl (cu.target u), cu.Belongs cd u

instance (p : Bearers) : Decidable p.Matched :=
  inferInstanceAs (Decidable (∀ u < 5, ∀ cu ∈ p.ul u, ∀ cd ∈ p.dl (cu.target u), cu.Belongs cd u))

end Bearers

namespace MediaPlane

variable {p p' : MediaPlane}

/-- The invariant of isolation. -/
structure Isolated (p : MediaPlane) : Prop where
  txBound : ∀ ts, (p.tx ts).length ≤ maxTxDataBlocksPerTimeslot
  waitingBound : ∀ ts, (p.waiting ts).length ≤ maxPendingPrivateUlMediaPerTs
  quiet : ∀ ts, p.hang ts = true → ∀ b ∈ p.tx ts, b.arrival = none
  queued : ∀ d, ∀ b ∈ p.tx d, ∀ a, b.arrival = some a → p.QueuedOk d b a
  pending : ∀ u, ∀ m ∈ p.waiting u, p.WaitingOk u m
  opened : ∀ ts, p.history.dlOpenedAt ts ≤ p.history.clock

/-- Queues lose blocks, and nothing else happens. -/
structure Shrinks (p p' : MediaPlane) : Prop where
  tx : ∀ ts, (p'.tx ts).Sublist (p.tx ts)
  waiting : ∀ ts, (p'.waiting ts).Sublist (p.waiting ts)
  bearers : p'.toBearers = p.toBearers
  hang : p'.hang = p.hang

theorem Shrinks.refl (p : MediaPlane) : Shrinks p p :=
  ⟨fun _ => .refl _, fun _ => .refl _, rfl, rfl⟩

theorem Shrinks.trans (h : Shrinks p p') (h' : Shrinks p' q) : Shrinks p q :=
  ⟨fun ts => (h'.tx ts).trans (h.tx ts), fun ts => (h'.waiting ts).trans (h.waiting ts),
    h'.bearers.trans h.bearers, h'.hang.trans h.hang⟩

theorem Isolated.shrinks (h : p.Isolated) (hs : Shrinks p p') : p'.Isolated where
  txBound ts := (hs.tx ts).length_le.trans (h.txBound ts)
  waitingBound ts := (hs.waiting ts).length_le.trans (h.waitingBound ts)
  quiet ts ht b hb := h.quiet ts (hs.hang ▸ ht) b ((hs.tx ts).subset hb)
  queued d b hb a ha := hs.bearers ▸ h.queued d b ((hs.tx d).subset hb) a ha
  pending u m hm := hs.bearers ▸ h.pending u m ((hs.waiting u).subset hm)
  opened := hs.bearers ▸ h.opened

/-! Floors and hangtime -/

def setHang (p : MediaPlane) (ts : Nat) (b : Bool) : MediaPlane :=
  { p with hang := update p.hang ts b }

variable {ts u d : Nat} {b : CircuitTxBlock} {m : PendingPrivateUlMedia}

theorem Isolated.setHang (h : p.Isolated) {b : Bool}
    (hb : b = true → ∀ x ∈ p.tx ts, x.arrival = none) : (p.setHang ts b).Isolated :=
  { h with
    quiet := (forall_update_iff p.hang
      (fun t v => v = true → ∀ x ∈ p.tx t, x.arrival = none)).mpr
      ⟨hb, fun t _ => h.quiet t⟩ }

section

variable (p : MediaPlane) (ts : Nat)

def clearTx : MediaPlane :=
  { p with tx := update p.tx ts [] }

def setSpeaker (x : Option TetraAddress) : MediaPlane :=
  { p with speaker := update p.speaker ts x }

/-- What is queued from a timeslot, where speakers can be told apart, may be the speaker's. -/
def AllFrom (x : Option TetraAddress) : Prop :=
  p.ul ts ≠ none → ∀ d cd, p.dl d = some cd → ¬cd.Shared → ∀ b ∈ p.tx d, ∀ a, b.arrival = some a →
    a.ulTs = ts → Compatible a.speaker x

theorem AllFrom.nobody : p.AllFrom ts none :=
  fun _ _ _ _ _ _ _ _ _ _ => .inr (.inl rfl)

end

theorem Isolated.setSpeaker (h : p.Isolated) (hx : p.AllFrom ts x) :
    (p.setSpeaker ts x).Isolated where
  txBound := h.txBound
  waitingBound := h.waitingBound
  quiet := h.quiet
  queued d b hb a ha := by
    have hq := h.queued d b hb a ha
    obtain ⟨cd, hcd, hfed, hopen, hcomp⟩ := hq.deliverable
    refine { hq with deliverable := ⟨cd, hcd, hfed, hopen, fun hns => ?_⟩ }
    by_cases he : a.ulTs = ts
    · subst he
      cases hu : p.ul a.ulTs with
      | none => exact .inr (.inl (by simp [Bearers.holder, MediaPlane.setSpeaker, hu]))
      | some =>
        have := hx (by simp [hu]) d cd hcd hns b hb a ha rfl
        simpa [Bearers.holder, MediaPlane.setSpeaker, hu] using this
    · have hsame : (p.setSpeaker ts x).holder a.ulTs = p.holder a.ulTs := by
        simp [Bearers.holder, MediaPlane.setSpeaker, update_of_ne he]
      rw [hsame]
      exact hcomp hns
  pending u m hm := { h.pending u m hm with }
  opened := h.opened

/-! Circuits -/

/-- No speech waits that comes from a timeslot or goes there. -/
def Clear (p : MediaPlane) (ts : Nat) : Prop := ∀ u, ∀ m ∈ p.waiting u, m.involves ts = false

theorem Clear.ne (h : p.Clear ts) (hm : m ∈ p.waiting u) : m.ulTs ≠ ts ∧ m.dlTargetTs ≠ ts := by
  simpa [PendingPrivateUlMedia.involves] using h u m hm

section

variable (p : MediaPlane) (ts : Nat)

def closeDl : MediaPlane :=
  { p with
    dl := update p.dl ts none
    tx := update p.tx ts []
    hang := update p.hang ts false }

def closeUl : MediaPlane :=
  { p with
    ul := update p.ul ts none
    hang := update p.hang ts false
    history.ulClosedAt := update p.history.ulClosedAt ts p.history.clock }

def openDl (c : Circuit) : MediaPlane :=
  { p with
    dl := update p.dl ts (some c)
    tx := update p.tx ts []
    hang := update p.hang ts false
    history.dlOpenedAt := update p.history.dlOpenedAt ts p.history.clock }

def openUl (c : Circuit) (x : Option TetraAddress) : MediaPlane :=
  { p with
    ul := update p.ul ts (some c)
    hang := update p.hang ts false
    speaker := update p.speaker ts x }

end

/-- What the new value of an entry does not satisfy, another entry satisfied before. -/
theorem of_update {α : Type} {f : Nat → α} {t : Nat} {v : α} (q : α → Prop) (hv : ¬q v)
    (h : q (update f ts v t)) : t ≠ ts ∧ q (f t) := by
  by_cases he : t = ts
  · rw [he, update_self] at h
    exact absurd h hv
  · rw [update_of_ne he] at h
    exact ⟨he, h⟩

theorem of_update_none {α : Type} {f : Nat → Option α} {t : Nat} {c : α}
    (h : update f ts none t = some c) : f t = some c :=
  (of_update (· = some c) (by simp) h).2

theorem mem_emptied {α : Type} {q : Nat → List α} {t : Nat} {b : α}
    (h : b ∈ update q ts [] t) : t ≠ ts ∧ b ∈ q t := of_update (b ∈ ·) (by simp) h

/-- Emptying one queue and leaving its hangtime keeps the other timeslots quiet. -/
theorem quiet_update (h : p.Isolated) {tx : Nat → List CircuitTxBlock}
    (ht : ∀ t, t ≠ ts → tx t = p.tx t) :
    ∀ t, update p.hang ts false t = true → ∀ b ∈ tx t, b.arrival = none := by
  intro t htrue b hb
  obtain ⟨hne, hp⟩ := of_update (· = true) Bool.false_ne_true htrue
  rw [ht t hne] at hb
  exact h.quiet t hp b hb

theorem length_update {α : Type} {q : Nat → List α} {l : List α} (h : ∀ t, (q t).length ≤ n)
    (hl : l.length ≤ n) : ∀ t, (update q ts l t).length ≤ n :=
  (forall_update_iff q (fun _ l => l.length ≤ n)).mpr ⟨hl, fun t _ => h t⟩

theorem Isolated.closeDl (h : p.Isolated) (ts : Nat) : (p.closeDl ts).Isolated where
  txBound := length_update h.txBound (Nat.zero_le _)
  waitingBound := h.waitingBound
  quiet := quiet_update h (fun _ hne => update_of_ne hne ..)
  queued d b hb a ha := by
    obtain ⟨hne, hb⟩ := mem_emptied hb
    have hq := h.queued d b hb a ha
    have hd : (p.closeDl ts).dl d = p.dl d := update_of_ne hne ..
    obtain ⟨cd, hcd, hrest⟩ := hq.deliverable
    exact { hq with
      deliverable := ⟨cd, hd.trans hcd, hrest⟩
      tag := fun cd hcd => hq.tag cd (hd.symm.trans hcd) }
  pending u m hm := { h.pending u m hm with }
  opened := h.opened

theorem Isolated.closeUl (h : p.Isolated) (hc : p.Clear ts) : (p.closeUl ts).Isolated where
  txBound := h.txBound
  waitingBound := h.waitingBound
  quiet := quiet_update h (fun _ _ => rfl)
  queued d b hb a ha := by
    have hq := h.queued d b hb a ha
    obtain ⟨cd, hcd, hfed, hopen, hcomp⟩ := hq.deliverable
    have hul : ∀ cu, (p.closeUl ts).ul a.ulTs = some cu → p.ul a.ulTs = some cu :=
      fun _ => of_update_none
    refine ⟨hq.source, ⟨cd, hcd, hfed, hopen, fun hns => ?_⟩, hq.tag, ?_, fun hnone => ?_, hq.past⟩
    · by_cases he : a.ulTs = ts
      · exact .inr (.inl (by simp [Bearers.holder, MediaPlane.closeUl, he]))
      · have hsame : (p.closeUl ts).holder a.ulTs = p.holder a.ulTs := by
          simp [Bearers.holder, MediaPlane.closeUl, update_of_ne he]
        rw [hsame]
        exact hcomp hns
    · exact fun cu hcu => hq.target cu (hul cu hcu)
    · by_cases he : a.ulTs = ts
      · simp only [MediaPlane.closeUl, he, update_self]
        exact hq.past
      · simp only [MediaPlane.closeUl, update_of_ne he] at hnone ⊢
        exact hq.closed hnone
  pending u m hm := by
    have hw := h.pending u m hm
    obtain ⟨cu, hcu, hrest⟩ := hw.circuit
    have hne : u ≠ ts := hw.slot.1 ▸ (hc.ne hm).1
    exact { hw with circuit := ⟨cu, (update_of_ne hne ..).trans hcu, hrest⟩ }
  opened := h.opened

theorem Isolated.openDl (h : p.Isolated) (hc : p.Clear ts) :
    (p.openDl ts c).Isolated where
  txBound := length_update h.txBound (Nat.zero_le _)
  waitingBound := h.waitingBound
  quiet := quiet_update h (fun _ hne => update_of_ne hne ..)
  queued d b hb a ha := by
    obtain ⟨hne, hb⟩ := mem_emptied hb
    have hq := h.queued d b hb a ha
    have hd : (p.openDl ts c).dl d = p.dl d := update_of_ne hne ..
    have ho : (p.openDl ts c).history.dlOpenedAt d = p.history.dlOpenedAt d :=
      update_of_ne hne ..
    obtain ⟨cd, hcd, hfed, hopen, hcomp⟩ := hq.deliverable
    exact { hq with
      deliverable := ⟨cd, hd.trans hcd, hfed, ho ▸ hopen, hcomp⟩
      tag := fun cd hcd => hq.tag cd (hd.symm.trans hcd) }
  pending u m hm := by
    have hw := h.pending u m hm
    have ho : (p.openDl ts c).history.dlOpenedAt m.dlTargetTs = p.history.dlOpenedAt m.dlTargetTs :=
      update_of_ne (hc.ne hm).2 ..
    exact { hw with since := ho ▸ hw.since }
  opened := (forall_update_iff p.history.dlOpenedAt (fun _ n => n ≤ p.history.clock)).mpr
    ⟨Nat.le_refl _, fun t _ => h.opened t⟩

/-- Nothing that a timeslot sent before is queued anywhere. -/
def NoneFrom (p : MediaPlane) (ts : Nat) : Prop :=
  ∀ d, ∀ b ∈ p.tx d, ∀ a, b.arrival = some a → a.ulTs ≠ ts

theorem Isolated.openUl (h : p.Isolated) (hc : p.Clear ts) (hn : p.NoneFrom ts) :
    (p.openUl ts c x).Isolated where
  txBound := h.txBound
  waitingBound := h.waitingBound
  quiet := quiet_update h (fun _ _ => rfl)
  queued d b hb a ha := by
    have hne := hn d b hb a ha
    have hq := h.queued d b hb a ha
    have hu : (p.openUl ts c x).ul a.ulTs = p.ul a.ulTs := update_of_ne hne ..
    have hh : (p.openUl ts c x).holder a.ulTs = p.holder a.ulTs := by
      simp [Bearers.holder, MediaPlane.openUl, update_of_ne hne]
    obtain ⟨cd, hcd, hfed, hopen, hcomp⟩ := hq.deliverable
    exact { hq with
      deliverable := ⟨cd, hcd, hfed, hopen, fun hns => hh ▸ hcomp hns⟩
      target := fun cu hcu => hq.target cu (hu.symm.trans hcu)
      closed := fun hnone => hq.closed (hu.symm.trans hnone) }
  pending u m hm := by
    have hw := h.pending u m hm
    obtain ⟨cu, hcu, hrest⟩ := hw.circuit
    have hne : u ≠ ts := hw.slot.1 ▸ (hc.ne hm).1
    exact { hw with circuit := ⟨cu, (update_of_ne hne ..).trans hcu, hrest⟩ }
  opened := h.opened

/-! Speech -/

def push (p : MediaPlane) (d : Nat) (b : CircuitTxBlock) : MediaPlane :=
  { p with
    tx := update p.tx d (Lib.pushBounded maxTxDataBlocksPerTimeslot (p.tx d) b) }

def defer (p : MediaPlane) (u : Nat) (m : PendingPrivateUlMedia) : MediaPlane :=
  { p with
    waiting := update p.waiting u
      (Lib.pushBounded maxPendingPrivateUlMediaPerTs (p.waiting u) m) }

theorem Isolated.push (h : p.Isolated) {b : CircuitTxBlock}
    (hb : ∀ a, b.arrival = some a → p.QueuedOk d b a ∧ p.hang d = false) :
    (p.push d b).Isolated where
  txBound := length_update h.txBound (Lib.length_pushBounded (by decide) (h.txBound d))
  waitingBound := h.waitingBound
  quiet t ht x hx := by
    rcases Lib.mem_update_pushBounded hx with hx | ⟨rfl, rfl⟩
    · exact h.quiet t ht x hx
    · cases ha : b.arrival with
      | none => rfl
      | some a => exact absurd (show p.hang d = true from ht) (by simp [(hb a ha).2])
  queued t x hx a ha := by
    rcases Lib.mem_update_pushBounded hx with hx | ⟨rfl, rfl⟩
    · exact h.queued t x hx a ha
    · exact (hb a ha).1
  pending := h.pending
  opened := h.opened

theorem Isolated.defer (h : p.Isolated) (hm : p.WaitingOk u m) : (p.defer u m).Isolated where
  txBound := h.txBound
  waitingBound := length_update h.waitingBound (Lib.length_pushBounded (by decide) (h.waitingBound u))
  quiet := h.quiet
  queued := h.queued
  pending t x hx := by
    rcases Lib.mem_update_pushBounded hx with hx | ⟨rfl, rfl⟩
    · exact h.pending t x hx
    · exact hm
  opened := h.opened

/-! The order of arrival -/

/-- Places in the order of arrival of what an uplink timeslot sent. -/
def numbersFrom (u : Nat) (bs : List CircuitTxBlock) : List Nat :=
  bs.filterMap (fun b => b.arrival.bind (fun a => if a.ulTs = u then some a.number else none))

theorem numbersFrom_append (u : Nat) (bs bs' : List CircuitTxBlock) :
    numbersFrom u (bs ++ bs') = numbersFrom u bs ++ numbersFrom u bs' := filterMap_append ..

theorem numbersFrom_sublist (u : Nat) (h : bs.Sublist bs') :
    (numbersFrom u bs).Sublist (numbersFrom u bs') := h.filterMap _

theorem mem_numbersFrom (h : n ∈ numbersFrom u bs) :
    ∃ b ∈ bs, ∃ a, b.arrival = some a ∧ a.ulTs = u ∧ a.number = n := by
  obtain ⟨b, hb, h⟩ := mem_filterMap.mp h
  obtain ⟨a, ha, h⟩ := Option.bind_eq_some_iff.mp h
  split at h
  · rename_i hu
    cases h
    exact ⟨b, hb, a, ha, hu, rfl⟩
  · cases h

def aired (p : MediaPlane) (u : Nat) : List Nat := numbersFrom u (p.history.onAir.map Prod.snd)

/-- What an uplink timeslot sent: played, queued for a downlink timeslot, and waiting. -/
def line (p : MediaPlane) (u d : Nat) : List Nat :=
  p.aired u ++ (numbersFrom u (p.tx d) ++ (p.waiting u).map (fun m => m.arrival.number))

/-- What an uplink timeslot sent stands in line for one downlink timeslot, in the order of
arrival. -/
structure Ordered (p : MediaPlane) : Prop where
  sorted : ∀ u d, (p.line u d).Pairwise (· < ·)
  single : ∀ u d d', numbersFrom u (p.tx d) ≠ [] → numbersFrom u (p.tx d') ≠ [] → d = d'
  past : ∀ u d, ∀ n ∈ p.line u d, n ≤ p.history.clock

theorem line_sublist (ha : p'.aired u = p.aired u)
    (ht : (numbersFrom u (p'.tx d)).Sublist (numbersFrom u (p.tx d)))
    (hw : (p'.waiting u).Sublist (p.waiting u)) : (p'.line u d).Sublist (p.line u d) := by
  unfold line
  rw [ha]
  exact (List.Sublist.refl _).append (ht.append (hw.map _))

/-- A plane whose lines are parts of lines from before. -/
theorem Ordered.of_lines (h : p.Ordered) (hc : p.history.clock ≤ p'.history.clock)
    (hl : ∀ u d, ∃ d', (p'.line u d).Sublist (p.line u d'))
    (hs : ∀ u d, (numbersFrom u (p'.tx d)).Sublist (numbersFrom u (p.tx d))) : p'.Ordered where
  sorted u d := by
    obtain ⟨d', hd⟩ := hl u d
    exact (h.sorted u d').sublist hd
  single u d d' hd hd' := h.single u d d' (fun he => hd (sublist_nil.mp (he ▸ hs u d)))
    (fun he => hd' (sublist_nil.mp (he ▸ hs u d')))
  past u d n hn := by
    obtain ⟨d', hd⟩ := hl u d
    exact (h.past u d' n (hd.subset hn)).trans hc

/-- Circuits, floors and hangtime do not move speech, and a circuit may empty its queue. -/
theorem Ordered.of_emptied (h : p.Ordered) (hc : p'.history.clock = p.history.clock)
    (ho : p'.history.onAir = p.history.onAir) (hw : ∀ u, (p'.waiting u).Sublist (p.waiting u))
    (ht : ∀ d, (p'.tx d).Sublist (p.tx d)) : p'.Ordered := by
  refine h.of_lines (Nat.le_of_eq hc.symm) (fun u d => ⟨d, ?_⟩)
    (fun u d => numbersFrom_sublist u (ht d))
  exact line_sublist (by rw [aired, aired, ho]) (numbersFrom_sublist u (ht d)) (hw u)

theorem Ordered.shrinks (h : p.Ordered) (hs : Shrinks p p') : p'.Ordered :=
  h.of_emptied (by rw [hs.bearers]) (by rw [hs.bearers]) hs.waiting hs.tx

theorem update_sublist {α : Type} {q : Nat → List α} {l : List α} (h : l.Sublist (q ts)) :
    ∀ t, (update q ts l t).Sublist (q t) :=
  (forall_update_iff q (fun t l => l.Sublist (q t))).mpr ⟨h, fun _ _ => .refl _⟩

theorem clearTx_shrinks (p : MediaPlane) (ts : Nat) : Shrinks p (p.clearTx ts) :=
  ⟨update_sublist (nil_sublist _), fun _ => .refl _, rfl, rfl⟩

theorem numbersFrom_singleton (ha : b.arrival = some a) :
    numbersFrom u [b] = if a.ulTs = u then [a.number] else [] := by
  simp only [numbersFrom, filterMap_cons, ha, Option.bind_some, filterMap_nil]
  split <;> rename_i h <;> split at h <;> simp_all

theorem numbersFrom_silent (ha : b.arrival = none) : numbersFrom u [b] = [] := by
  simp [numbersFrom, ha]

/-- A queue that took a block: what it kept, and the block if it came from there. -/
theorem push_numbers : ∃ kept, kept.Sublist (numbersFrom u (p.tx t)) ∧
      numbersFrom u ((p.push d b).tx t) = kept ++ (if t = d then numbersFrom u [b] else []) := by
  by_cases he : t = d
  · subst he
    obtain ⟨kept, hk, hq⟩ := Lib.pushBounded_eq maxTxDataBlocksPerTimeslot (p.tx t) b
    refine ⟨_, numbersFrom_sublist u hk, ?_⟩
    simp [push, hq, numbersFrom_append]
  · refine ⟨_, .refl _, ?_⟩
    simp [push, update_of_ne he, if_neg he]

/-- A block of no radio stands in no line. -/
theorem Ordered.pushSilent (h : p.Ordered) (hb : b.arrival = none) : (p.push d b).Ordered := by
  have hsub : ∀ u t, (numbersFrom u ((p.push d b).tx t)).Sublist (numbersFrom u (p.tx t)) := by
    intro u t
    obtain ⟨kept, hk, hq⟩ := push_numbers
    rw [hq, numbersFrom_silent hb, ite_self, append_nil]
    exact hk
  exact h.of_lines (Nat.le_refl _) (fun u t => ⟨t, line_sublist rfl (hsub u t) (.refl _)⟩) hsub

/-- Lines of other timeslots, and lines to other timeslots, only lose blocks. -/
theorem push_line_of_ne (hb : b.arrival = some a) (hut : ¬(u = a.ulTs ∧ t = d)) :
    (numbersFrom u ((p.push d b).tx t)).Sublist (numbersFrom u (p.tx t)) := by
  obtain ⟨kept, hk, hq⟩ := push_numbers
  rw [hq, numbersFrom_singleton hb]
  by_cases ht : t = d
  · rw [if_pos ht, if_neg (fun hu => hut ⟨hu.symm, ht⟩), append_nil]
    exact hk
  · rw [if_neg ht, append_nil]
    exact hk

/-- A block goes from before what waits to behind what is queued. -/
theorem Ordered.pushRadio (h : p.Ordered) (hb : b.arrival = some a)
    (hn : a.number ≤ p.history.clock)
    (hl : ∀ t, ∀ n ∈ p.aired a.ulTs ++ numbersFrom a.ulTs (p.tx t), n < a.number)
    (hw : ∀ m ∈ p.waiting a.ulTs, a.number < m.arrival.number)
    (hd : ∀ t, numbersFrom a.ulTs (p.tx t) ≠ [] → t = d) : (p.push d b).Ordered := by
  have hother : ∀ u t, ¬(u = a.ulTs ∧ t = d) → ((p.push d b).line u t).Sublist (p.line u t) :=
    fun u t hut => line_sublist rfl (push_line_of_ne hb hut) (.refl _)
  -- in its own line the block stands between the two
  obtain ⟨kept, hk, hmine⟩ : ∃ kept, kept.Sublist (p.aired a.ulTs ++ numbersFrom a.ulTs (p.tx d)) ∧
      (p.push d b).line a.ulTs d =
        kept ++ a.number :: (p.waiting a.ulTs).map (fun m => m.arrival.number) := by
    obtain ⟨kept, hk, hq⟩ := push_numbers
    refine ⟨p.aired a.ulTs ++ kept, (List.Sublist.refl _).append hk, ?_⟩
    change p.aired a.ulTs ++ (numbersFrom a.ulTs ((p.push d b).tx d) ++ _) = _
    rw [hq, if_pos rfl, numbersFrom_singleton hb, if_pos rfl]
    simp only [append_assoc, singleton_append]
    rfl
  have hold : (kept ++ (p.waiting a.ulTs).map (fun m => m.arrival.number)).Sublist
      (p.line a.ulTs d) := by
    rw [line, ← append_assoc]
    exact hk.append (.refl _)
  have hsorted := (h.sorted a.ulTs d).sublist hold
  rw [pairwise_append] at hsorted
  constructor
  · intro u t
    by_cases hut : u = a.ulTs ∧ t = d
    · obtain ⟨rfl, rfl⟩ := hut
      rw [hmine, pairwise_append, pairwise_cons]
      refine ⟨hsorted.1, ⟨fun n hn => ?_, hsorted.2.1⟩, fun n hn m hm => ?_⟩
      · obtain ⟨m, hm, rfl⟩ := List.mem_map.mp hn
        exact hw m hm
      · rcases mem_cons.mp hm with rfl | hm
        · exact hl t n (hk.subset hn)
        · exact hsorted.2.2 n hn m hm
    · exact (h.sorted u t).sublist (hother u t hut)
  · have hdom : ∀ u t, numbersFrom u ((p.push d b).tx t) ≠ [] →
        numbersFrom u (p.tx t) ≠ [] ∨ u = a.ulTs ∧ t = d := by
      intro u t hne
      by_cases hut : u = a.ulTs ∧ t = d
      · exact .inr hut
      · exact .inl (fun he => hne (sublist_nil.mp (he ▸ push_line_of_ne hb hut)))
    intro u t t' ht ht'
    rcases hdom u t ht with h1 | ⟨rfl, rfl⟩
    · rcases hdom u t' ht' with h2 | ⟨rfl, rfl⟩
      · exact h.single u t t' h1 h2
      · exact hd t h1
    · rcases hdom _ t' ht' with h2 | ⟨_, rfl⟩
      · exact (hd t' h2).symm
      · rfl
  · intro u t n hmem
    by_cases hut : u = a.ulTs ∧ t = d
    · obtain ⟨rfl, rfl⟩ := hut
      rw [hmine] at hmem
      rcases mem_append.mp hmem with hmem | hmem
      · exact h.past _ _ n (hold.subset (mem_append_left _ hmem))
      · rcases mem_cons.mp hmem with rfl | hmem
        · exact hn
        · exact h.past _ _ n (hold.subset (mem_append_right _ hmem))
    · exact h.past u t n ((hother u t hut).subset hmem)

/-- A block joins the end of its line. -/
theorem Ordered.defer (h : p.Ordered) (hn : m.arrival.number ≤ p.history.clock)
    (hl : ∀ d, ∀ n ∈ p.line u d, n < m.arrival.number) : (p.defer u m).Ordered := by
  have hline : ∀ t d, ∃ kept, kept.Sublist (p.line t d) ∧
      (p.defer u m).line t d = kept ++ (if t = u then [m.arrival.number] else []) := by
    intro t d
    by_cases he : t = u
    · subst he
      obtain ⟨kept, hk, hq⟩ := Lib.pushBounded_eq maxPendingPrivateUlMediaPerTs (p.waiting t) m
      refine ⟨p.aired t ++ (numbersFrom t (p.tx d) ++ kept.map (fun m => m.arrival.number)), ?_, ?_⟩
      · exact (List.Sublist.refl _).append ((List.Sublist.refl _).append (hk.map _))
      · change p.aired t ++ (numbersFrom t (p.tx d) ++ ((p.defer t m).waiting t).map _) = _
        simp [MediaPlane.defer, hq]
    · refine ⟨_, .refl _, ?_⟩
      rw [if_neg he, append_nil]
      change p.aired t ++ (numbersFrom t (p.tx d) ++ ((p.defer u m).waiting t).map _) = _
      simp [MediaPlane.defer, update_of_ne he, line]
  refine ⟨fun t d => ?_, h.single, fun t d n hmem => ?_⟩
  · obtain ⟨kept, hk, hq⟩ := hline t d
    rw [hq, pairwise_append]
    refine ⟨(h.sorted t d).sublist hk, by split <;> simp, fun n hn x hx => ?_⟩
    split at hx
    · rename_i he
      subst he
      rw [mem_singleton.mp hx]
      exact hl d n (hk.subset hn)
    · cases hx
  · obtain ⟨kept, hk, hq⟩ := hline t d
    rw [hq] at hmem
    rcases mem_append.mp hmem with hmem | hmem
    · exact h.past t d n (hk.subset hmem)
    · split at hmem
      · rw [mem_singleton.mp hmem]
        exact hn
      · cases hmem

def take (p : MediaPlane) (d : Nat) : MediaPlane :=
  { p with
    tx := update p.tx d ((p.tx d).drop 1)
    history.onAir := p.history.onAir ++ ((p.tx d).head?.map (fun b => (d, b))).toList }

theorem take_sublist (p : MediaPlane) (d : Nat) : ∀ t, ((p.take d).tx t).Sublist (p.tx t) :=
  update_sublist (drop_sublist ..)

theorem Isolated.take (h : p.Isolated) (d : Nat) : (p.take d).Isolated where
  txBound t := (take_sublist p d t).length_le.trans (h.txBound t)
  waitingBound := h.waitingBound
  quiet t ht b hb := h.quiet t ht b ((take_sublist p d t).subset hb)
  queued t b hb a ha := { h.queued t b ((take_sublist p d t).subset hb) a ha with }
  pending u m hm := { h.pending u m hm with }
  opened := h.opened

theorem Ordered.take (h : p.Ordered) (d : Nat) : (p.take d).Ordered := by
  cases hq : p.tx d with
  | nil =>
    refine h.of_emptied rfl ?_ (fun _ => .refl _) (take_sublist p d)
    simp [MediaPlane.take, hq]
  | cons b rest =>
    have haired : ∀ u, (p.take d).aired u = p.aired u ++ numbersFrom u [b] := by
      intro u
      simp [aired, MediaPlane.take, hq, numbersFrom_append]
    have hsub : ∀ u t, (numbersFrom u ((p.take d).tx t)).Sublist (numbersFrom u (p.tx t)) :=
      fun u t => numbersFrom_sublist u (take_sublist p d t)
    refine h.of_lines (Nat.le_refl _) (fun u t => ?_) hsub
    have hown : numbersFrom u (p.tx d) = numbersFrom u [b] ++ numbersFrom u rest := by
      rw [hq, ← numbersFrom_append, singleton_append]
    by_cases he : t = d
    · subst he
      refine ⟨t, ?_⟩
      rw [line, line, haired, hown]
      simp [MediaPlane.take, hq]
    · by_cases hb : numbersFrom u [b] = []
      · refine ⟨t, ?_⟩
        rw [line, line, haired, hb, append_nil]
        exact (List.Sublist.refl _).append ((hsub u t).append (.refl _))
      · -- whoever sent the block has nothing in other queues
        refine ⟨d, ?_⟩
        have hnone : numbersFrom u ((p.take d).tx t) = [] := by
          refine Classical.byContradiction (fun hne => he (h.single u t d ?_ ?_))
          · exact fun h0 => hne (sublist_nil.mp (h0 ▸ hsub u t))
          · rw [hown]
            exact fun h0 => hb (append_eq_nil_iff.mp h0).1
        rw [line, line, haired, hnone, hown, nil_append]
        simp only [append_assoc]
        exact (List.Sublist.refl _).append ((List.Sublist.refl _).append (sublist_append_right ..))

/-! Both invariants -/

/-- Isolation, and where it is asked for the order of arrival. -/
structure Kept (o : Prop) (p : MediaPlane) : Prop where
  isolated : p.Isolated
  ordered : o → p.Ordered

section Kept

variable {o : Prop}

variable (h : Kept o p)
include h

theorem Kept.shrinks (hs : Shrinks p p') : Kept o p' :=
  ⟨h.isolated.shrinks hs, fun ho => (h.ordered ho).shrinks hs⟩

/-- Nothing comes to wait or to be sent. -/
theorem Kept.of_emptied (hi : p'.Isolated) (hc : p'.history.clock = p.history.clock)
    (ha : p'.history.onAir = p.history.onAir) (hw : p'.waiting = p.waiting)
    (ht : ∀ d, (p'.tx d).Sublist (p.tx d)) : Kept o p' :=
  ⟨hi, fun ho => (h.ordered ho).of_emptied hc ha (fun _ => by rw [hw]) ht⟩

theorem Kept.setHang {ts : Nat} {b : Bool} (hb : b = true → ∀ x ∈ p.tx ts, x.arrival = none) :
    Kept o (p.setHang ts b) := h.of_emptied (h.isolated.setHang hb) rfl rfl rfl (fun _ => .refl _)

theorem Kept.setSpeaker (hx : p.AllFrom ts x) : Kept o (p.setSpeaker ts x) :=
  h.of_emptied (h.isolated.setSpeaker hx) rfl rfl rfl (fun _ => .refl _)

theorem Kept.closeDl (ts : Nat) : Kept o (p.closeDl ts) :=
  h.of_emptied (h.isolated.closeDl ts) rfl rfl rfl (update_sublist (nil_sublist _))

theorem Kept.closeUl (hc : p.Clear ts) : Kept o (p.closeUl ts) :=
  h.of_emptied (h.isolated.closeUl hc) rfl rfl rfl (fun _ => .refl _)

theorem Kept.openDl (c : Circuit) (hc : p.Clear ts) : Kept o (p.openDl ts c) :=
  h.of_emptied (h.isolated.openDl hc) rfl rfl rfl (update_sublist (nil_sublist _))

theorem Kept.openUl (c : Circuit) (x : Option TetraAddress) (hc : p.Clear ts) (hn : p.NoneFrom ts) :
    Kept o (p.openUl ts c x) :=
  h.of_emptied (h.isolated.openUl hc hn) rfl rfl rfl (fun _ => .refl _)

theorem Kept.pushSilent (d : Nat) (hb : b.arrival = none) : Kept o (p.push d b) :=
  ⟨h.isolated.push (fun a ha => by rw [hb] at ha; cases ha), fun ho => (h.ordered ho).pushSilent hb⟩

theorem Kept.take (d : Nat) : Kept o (p.take d) :=
  ⟨h.isolated.take d, fun ho => (h.ordered ho).take d⟩

end Kept

/-- Speech of an uplink timeslot has to wait: for hangtime to end, or for a speaker. -/
def Blocked (p : MediaPlane) (u : Nat) : Prop :=
  ∃ cu, p.ul u = some cu ∧
    (p.hang u = true ∨ p.hang (cu.target u) = true ∨ cu.Shared ∧ p.speaker u = none)

/-- What waits has to, or came in a half slot since the last tick. -/
def Flushed (p : MediaPlane) : Prop :=
  ∀ u, p.waiting u ≠ [] → p.Blocked u ∨ p.history.halfSlots u = true

/-- Circuits, hangtime and speakers differ at most at one timeslot. -/
structure Near (ts : Nat) (p p' : MediaPlane) : Prop where
  waiting : p'.waiting = p.waiting
  same : ∀ t, t ≠ ts → p'.ul t = p.ul t ∧ p'.hang t = p.hang t ∧ p'.speaker t = p.speaker t
  half : p'.history.halfSlots = p.history.halfSlots

theorem Near.refl (ts : Nat) (p : MediaPlane) : Near ts p p := ⟨rfl, fun _ _ => ⟨rfl, rfl, rfl⟩, rfl⟩

theorem Near.trans (h : Near ts p p') (h' : Near ts p' q) : Near ts p q where
  waiting := h'.waiting.trans h.waiting
  same t ht :=
    have h1 := h.same t ht
    have h2 := h'.same t ht
    ⟨h2.1.trans h1.1, h2.2.1.trans h1.2.1, h2.2.2.trans h1.2.2⟩
  half := h'.half.trans h.half

theorem Near.clear (h : Near ts p p') (hc : p.Clear ts) : p'.Clear ts := by
  unfold Clear
  rw [h.waiting]
  exact hc

/-- Changes at one timeslot do not show where nothing waits that concerns it. -/
theorem Flushed.near (h : p.Flushed) (hn : Near ts p p') (hc : p.Clear ts) (hi : p'.Isolated) :
    p'.Flushed := by
  intro u hu
  obtain ⟨m, hm⟩ := exists_mem_of_ne_nil _ hu
  have hwait := hi.pending u m hm
  obtain ⟨cu, hcu, -, htarget, -⟩ := hwait.circuit
  obtain ⟨hul', hdl'⟩ := (hn.clear hc).ne hm
  have hne : u ≠ ts := hwait.slot.1 ▸ hul'
  have hne' : cu.target u ≠ ts := htarget ▸ hdl'
  obtain ⟨hul, hhang, hspk⟩ := hn.same u hne
  rw [hn.waiting] at hu
  rcases h u hu with ⟨cu', hcu', hb⟩ | hb
  · rw [← hul, hcu] at hcu'
    cases hcu'
    left
    exact ⟨cu, hcu, by rw [hhang, (hn.same _ hne').2.1, hspk]; exact hb⟩
  · right
    rw [hn.half]
    exact hb

theorem Flushed.shrinks (h : p.Flushed) (hs : Shrinks p p') : p'.Flushed := by
  intro u hu
  rcases h u (fun h0 => hu (sublist_nil.mp (h0 ▸ hs.waiting u))) with ⟨cu, hcu, hb⟩ | hb
  · left
    exact ⟨cu, by rw [hs.bearers]; exact hcu, by rw [hs.hang, hs.bearers]; exact hb⟩
  · right
    rw [hs.bearers]
    exact hb

/-! Speech on its way -/

/-- Speech of a speaker may leave an uplink timeslot for a downlink timeslot. -/
structure Routable (p : MediaPlane) (u d : Nat) (speaker : Option TetraAddress) : Prop where
  circuits : ∃ cu cd, p.ul u = some cu ∧ cu.target u = d ∧ p.dl d = some cd ∧
    (cu.peerTs = none → cu.dlMediaSource = .localLoopback)
  speaker : speaker = none ∨ speaker = p.speaker u
  free : ¬p.Blocked u

theorem Routable.not_hang (h : p.Routable u d x) : p.hang d = false := by
  obtain ⟨cu, _, hcu, rfl, _⟩ := h.circuits
  exact Bool.eq_false_iff.mpr (fun hd => h.free ⟨cu, hcu, .inr (.inl hd)⟩)

/-- Speech that waits may be queued where it may go, if its circuits belong together. -/
theorem queuedOk_of_waiting (hw : p.WaitingOk u m) (hu : u < 5) (hm : p.Matched)
    (hr : p.Routable u d m.speakerAddr) :
    p.QueuedOk d (m.media.block (some m.ulTs) m.speakerAddr (some m.arrival)) m.arrival := by
  obtain ⟨cu, cd, hcu, rfl, hcd, hsource⟩ := hr.circuits
  obtain ⟨cu', hcu', -, htarget, htag⟩ := hw.circuit
  obtain rfl : cu = cu' := Option.some.inj (hcu.symm.trans hcu')
  obtain ⟨hslot, harrival⟩ := hw.slot
  have hbelongs : cu.Belongs cd u := hm u hu cu hcu cd hcd
  have htag' : ¬cd.Shared → m.speakerAddr = m.arrival.speaker :=
    fun hns => htag (fun hs => hns (hbelongs.shared hsource hs))
  constructor
  · rw [block_sourceUlTs, hslot, harrival]
  · refine ⟨cd, hcd, ?_, htarget ▸ hw.since, fun hns => ?_⟩
    · rw [harrival]
      exact hbelongs.fedFrom hsource
    · rw [← htag' hns, harrival, Bearers.holder, hcu, Option.bind_some]
      rcases hr.speaker with hnone | heq
      · exact .inl hnone
      · exact .inr (.inr heq)
  · intro cd' hcd' hns
    obtain rfl : cd = cd' := Option.some.inj (hcd.symm.trans hcd')
    rw [block_speakerAddr]
    exact htag' hns
  · intro cu' hcu''
    rw [harrival] at hcu'' ⊢
    rw [← Option.some.inj (hcu.symm.trans hcu'')]
  · intro hnone
    rw [harrival, hcu] at hnone
    cases hnone
  · exact hw.past

/-- All that an uplink timeslot with a circuit sent is queued for one downlink timeslot. -/
theorem Isolated.one_target (h : p.Isolated) (hok : p.QueuedOk d b a) (hcu : p.ul a.ulTs = some cu)
    (t : Nat) (ht : numbersFrom a.ulTs (p.tx t) ≠ []) : t = d := by
  obtain ⟨n, hn⟩ := exists_mem_of_ne_nil _ ht
  obtain ⟨b', hb', a', ha', hu, -⟩ := mem_numbersFrom hn
  have hq := h.queued t b' hb' a' ha'
  rw [← hq.target cu (hu ▸ hcu), hu, hok.target cu hcu]

section Kept

variable {o : Prop}

/-- The first block that waits goes to its downlink timeslot. -/
theorem Kept.route (h : Kept o p) {m : PendingPrivateUlMedia} {b : CircuitTxBlock}
    (hq : p.waiting u = m :: rest) (hb : b.arrival = some m.arrival)
    (hok : p.QueuedOk d b m.arrival) (hd : p.hang d = false) :
    Kept o (({ p with waiting := update p.waiting u rest } : MediaPlane).push d b) := by
  have hw := h.isolated.pending u m (hq ▸ mem_cons_self)
  obtain ⟨cu, hcu, -⟩ := hw.circuit
  have hu : m.arrival.ulTs = u := hw.slot.2
  have hs : Shrinks p { p with waiting := update p.waiting u rest } :=
    ⟨fun _ => .refl _, update_sublist (hq ▸ sublist_cons_self ..), rfl, rfl⟩
  have hk := h.shrinks hs
  refine ⟨hk.isolated.push (fun a ha => ?_), fun ho => ?_⟩
  · rw [hb] at ha
    cases ha
    exact ⟨hok, hd⟩
  · have hline : ∀ t, p.line u t = (p.aired u ++ numbersFrom u (p.tx t)) ++
        m.arrival.number :: rest.map (fun m => m.arrival.number) := by
      intro t
      rw [line, hq, map_cons, append_assoc]
    refine (hk.ordered ho).pushRadio hb hok.past (fun t n hn => ?_) (fun m' hm' => ?_) (fun t ht => ?_)
    · have hsorted := (h.ordered ho).sorted u t
      rw [hline, pairwise_append] at hsorted
      exact hsorted.2.2 n (hu ▸ hn) _ mem_cons_self
    · have hsorted := (h.ordered ho).sorted u d
      rw [hline, pairwise_append, pairwise_cons] at hsorted
      simp only [hu, update_self] at hm'
      exact hsorted.2.1.1 _ (List.mem_map_of_mem hm')
    · exact h.isolated.one_target hok (hu ▸ hcu) t ht

/-- A block that just arrived is queued, where nothing waits. -/
theorem Kept.pushFresh (h : Kept o p) (hb : b.arrival = some a) (hok : p.QueuedOk d b a)
    (hd : p.hang d = false) (hcu : p.ul a.ulTs = some cu)
    (hnew : o → ∀ t, ∀ n ∈ p.line a.ulTs t, n < a.number) (hempty : o → p.waiting a.ulTs = []) :
    Kept o (p.push d b) := by
  refine ⟨h.isolated.push (fun a' ha => ?_), fun ho => ?_⟩
  · rw [hb] at ha
    cases ha
    exact ⟨hok, hd⟩
  · refine (h.ordered ho).pushRadio hb hok.past (fun t n hn => hnew ho t n ?_) (fun m hm => ?_)
      (h.isolated.one_target hok hcu)
    · rw [line, ← append_assoc]
      exact mem_append_left _ hn
    · rw [hempty ho] at hm
      cases hm

theorem Kept.defer (h : Kept o p) {m : PendingPrivateUlMedia} (hm : p.WaitingOk u m)
    (hnew : o → ∀ d, ∀ n ∈ p.line u d, n < m.arrival.number) : Kept o (p.defer u m) :=
  ⟨h.isolated.defer hm, fun ho => (h.ordered ho).defer hm.past (hnew ho)⟩

/-- Something more has happened. -/
def count (p : MediaPlane) : MediaPlane := { p with history.clock := p.history.clock + 1 }

theorem Kept.setHalfSlots (h : Kept o p) (f : Nat → Bool) :
    Kept o { p with history.halfSlots := f } where
  isolated :=
    { h.isolated with
      queued := fun d b hb a ha => { h.isolated.queued d b hb a ha with }
      pending := fun u m hm => { h.isolated.pending u m hm with } }
  ordered ho := (h.ordered ho).of_emptied rfl rfl (fun _ => .refl _) (fun _ => .refl _)

theorem Kept.count (h : Kept o p) : Kept o p.count where
  isolated :=
    { h.isolated with
      queued := fun d b hb a ha =>
        have hq := h.isolated.queued d b hb a ha
        { hq with past := Nat.le_succ_of_le hq.past }
      pending := fun u m hm =>
        { h.isolated.pending u m hm with past := Nat.le_succ_of_le (h.isolated.pending u m hm).past }
      opened := fun ts => Nat.le_succ_of_le (h.isolated.opened ts) }
  ordered ho := (h.ordered ho).of_lines (Nat.le_succ _) (fun _ d => ⟨d, .refl _⟩) (fun _ _ => .refl _)

end Kept

section

variable (p : MediaPlane) (ts : Nat)

theorem near_setHang (b : Bool) : Near ts p (p.setHang ts b) :=
  ⟨rfl, fun _ ht => ⟨rfl, update_of_ne ht .., rfl⟩, rfl⟩

theorem near_setSpeaker (x : Option TetraAddress) :
    Near ts p (p.setSpeaker ts x) := ⟨rfl, fun _ ht => ⟨rfl, rfl, update_of_ne ht ..⟩, rfl⟩

theorem near_closeDl : Near ts p (p.closeDl ts) :=
  ⟨rfl, fun _ ht => ⟨rfl, update_of_ne ht .., rfl⟩, rfl⟩

theorem near_closeUl : Near ts p (p.closeUl ts) :=
  ⟨rfl, fun _ ht => ⟨update_of_ne ht .., update_of_ne ht .., rfl⟩, rfl⟩

theorem near_openDl (c : Circuit) : Near ts p (p.openDl ts c) :=
  ⟨rfl, fun _ ht => ⟨rfl, update_of_ne ht .., rfl⟩, rfl⟩

theorem near_openUl (c : Circuit) (x : Option TetraAddress) :
    Near ts p (p.openUl ts c x) :=
  ⟨rfl, fun _ ht => ⟨update_of_ne ht .., update_of_ne ht ..,
    update_of_ne ht ..⟩, rfl⟩

end

end MediaPlane
end NexusBs
