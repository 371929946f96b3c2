import NexusBs.Llc.Steps
import Mathlib.Data.List.Pairwise

namespace NexusBs
open List Option

/-- Two transfers in the order of the queue: on one link at most one of them was started, and
it is the one that the selection by priority prefers. -/
def AlIdentity.Ordered (log : List AlEvent) (x y : AlIdentity) : Prop :=
  x.key = y.key →
    (StartedIn log x.ticket → ¬StartedIn log y.ticket ∧ y.pduPrio ≤ x.pduPrio) ∧
    (StartedIn log y.ticket → ¬StartedIn log x.ticket ∧ x.pduPrio < y.pduPrio)

/-- A new transfer does not outrank one that was started on its link. -/
def Outranked (b : AlBooks) (al : ExpectedAlAck) : Prop :=
  ∀ e ∈ b.queue, e.key = al.key → StartedIn b.log e.ticket → al.pduPrio ≤ e.pduPrio

structure AlBooks.Exclusive (b : AlBooks) : Prop extends b.Tracked where
  ordered : (b.queue.map ExpectedAlAck.identity).Pairwise (AlIdentity.Ordered b.log)

namespace AlBooks.Exclusive

variable {b b' : AlBooks}

/-- An untouched transfer that is selected leads all transfers of its link. -/
theorem selected_leads (hi : b.queue[i]? = some al) (hp : al.Pristine)
    (hselected : Llc.highestPriorityUnsubmittedAlIndex links b.queue blocked = some i)
    (hblocked : ∀ e ∈ b.queue, e.tSubmittedToUmac.isSome = true → e.key ∈ blocked)
    (hj : b.queue[j]? = some e) (hkey : e.key = al.key) :
    e.pduPrio ≤ al.pduPrio ∧ (j < i → e.pduPrio < al.pduPrio) := by
  obtain ⟨al', hi', helig, hall⟩ := Llc.highestPriorityIndex_spec hselected
  rw [hi] at hi'
  cases hi'
  simp only [Llc.alTransferIsRnrAllowed_pristine hp, Bool.or_false, Bool.and_eq_true,
    Bool.not_eq_true'] at helig
  obtain ⟨⟨_, hfree⟩, hready⟩ := helig
  refine hall j e hj ?_
  have hunsubmitted : e.tSubmittedToUmac.isNone = true := by
    by_contra hsub
    have hmem := hblocked e (List.mem_of_getElem? hj) (by
      rwa [isSome_iff_ne_none, ne_eq, ← isNone_iff_eq_none])
    rw [hkey, ← contains_iff_mem, hfree] at hmem
    cases hmem
  rw [hunsubmitted, hkey, hfree, hready]
  rfl

theorem submit (h : b.Exclusive) {i : Nat} {al : ExpectedAlAck} {reqs : List TmaUnitdataReq}
    {links : AdvancedLinkKey → Option AdvancedLinkSession} {blocked : List AdvancedLinkKey}
    (hi : b.queue[i]? = some al)
    (hselected : Llc.highestPriorityUnsubmittedAlIndex links b.queue blocked = some i)
    (hblocked : ∀ e ∈ b.queue, e.tSubmittedToUmac.isSome = true → e.key ∈ blocked)
    (hreqs : ∀ req ∈ reqs, ∃ g ∈ al.segments, g.Attempted al.ticket req) :
    (b.queue.map ExpectedAlAck.identity).Pairwise
      (AlIdentity.Ordered (b.log ++ reqs.map .sent)) := by
  have hlater : ∀ {ticket : Ticket}, StartedIn (b.log ++ reqs.map .sent) ticket →
      StartedIn b.log ticket ∨ ticket = al.ticket := fun hs =>
    (startedIn_append.mp hs).imp_right (startedIn_attempts hreqs)
  have hother : ∀ {ticket : Ticket}, ticket ≠ al.ticket →
      StartedIn (b.log ++ reqs.map .sent) ticket → StartedIn b.log ticket := fun hne hs =>
    (hlater hs).resolve_right hne
  have hmem := List.mem_of_getElem? hi
  rw [pairwise_iff_getElem]
  intro j k hj hk hjk
  rw [length_map] at hj hk
  have hjq : b.queue[j]? = some b.queue[j] := List.getElem?_eq_getElem hj
  have hkq : b.queue[k]? = some b.queue[k] := List.getElem?_eq_getElem hk
  have hold := pairwise_iff_getElem.mp h.ordered j k (by simpa) (by simpa) hjk
  have hne := pairwise_iff_getElem.mp h.distinct j k (by simpa) (by simpa) hjk
  rw [getElem_map, getElem_map] at hold hne ⊢
  generalize b.queue[j] = x at *
  generalize b.queue[k] = y at *
  intro hkey
  have hkey : x.key = y.key := hkey
  have hne : x.ticket ≠ y.ticket := hne
  obtain ⟨hx, hy⟩ := hold hkey
  -- who was started before
  by_cases hal : StartedIn b.log al.ticket
  · have hsame : ∀ ticket, StartedIn (b.log ++ reqs.map .sent) ticket ↔ StartedIn b.log ticket :=
      fun ticket => ⟨fun hs => (hlater hs).elim id (fun heq => heq ▸ hal), fun hs => hs.append _⟩
    simp only [hsame]
    exact ⟨hx, hy⟩
  have hp := h.untouched al hmem hal
  have hxj : x.ticket = al.ticket → j = i ∧ x = al := fun ht => h.place hjq hi ht
  have hyk : y.ticket = al.ticket → k = i ∧ y = al := fun ht => h.place hkq hi ht
  constructor
  · intro hs
    rcases hlater hs with hs | ht
    · obtain ⟨hny, hprio⟩ := hx hs
      refine ⟨fun hsy => ?_, hprio⟩
      rcases hlater hsy with hsy | ht
      · exact hny hsy
      · obtain ⟨rfl, rfl⟩ := hyk ht
        have hlead := (selected_leads hi hp hselected hblocked hjq hkey).2 hjk
        exact absurd hprio (Int.not_le.mpr hlead)
    · obtain ⟨rfl, rfl⟩ := hxj ht
      have hlead := (selected_leads hi hp hselected hblocked hkq hkey.symm).1
      refine ⟨fun hsy => ?_, hlead⟩
      exact absurd (hy (hother (fun heq => hne heq.symm) hsy)).2 (Int.not_lt.mpr hlead)
  · intro hs
    rcases hlater hs with hs | ht
    · obtain ⟨hnx, hprio⟩ := hy hs
      refine ⟨fun hsx => ?_, hprio⟩
      rcases hlater hsx with hsx | ht
      · exact hnx hsx
      · obtain ⟨rfl, rfl⟩ := hxj ht
        have hlead := (selected_leads hi hp hselected hblocked hkq hkey.symm).1
        exact absurd hprio (Int.not_lt.mpr hlead)
    · obtain ⟨rfl, rfl⟩ := hyk ht
      have hlead := (selected_leads hi hp hselected hblocked hjq hkey).2 hjk
      refine ⟨fun hsx => ?_, hlead⟩
      exact absurd (hx (hother hne hsx)).2 (Int.not_le.mpr hlead)

theorem move (h : b.Exclusive) (hm : AlMove True Outranked b b') : b'.Exclusive := by
  refine ⟨h.toTracked.move trivial hm, ?_⟩
  cases hm with
  | leave hq => exact h.ordered.sublist (hq.map _)
  | touch hi hid =>
    dsimp only
    rw [Lib.map_set hi hid]
    exact h.ordered
  | @complete i =>
    refine (h.ordered.sublist ((eraseIdx_sublist b.queue i).map _)).imp (fun hxy hkey => ?_)
    simp only [startedIn_succeeded]
    exact hxy hkey
  | @enter al ht hp ha =>
    have hnew : ¬StartedIn b.log al.ticket := fun hs =>
      absurd (h.logged _ hs) (by rw [ht]; exact Nat.lt_irrefl _)
    dsimp only
    rw [map_append, pairwise_append]
    refine ⟨h.ordered, pairwise_singleton _ _, fun x hx y hy hkey => ?_⟩
    obtain ⟨e, he, rfl⟩ := List.mem_map.mp hx
    cases mem_singleton.mp hy
    exact ⟨fun hs => ⟨hnew, ha e he hkey hs⟩, fun hs => absurd hs hnew⟩
  | number => exact h.ordered
  | submit hi hid hselected hblocked hreqs =>
    dsimp only
    rw [Lib.map_set hi hid]
    exact h.submit hi hselected hblocked hreqs

/-- Of the transfers on one link at most one was started. -/
theorem one_started (h : b.Exclusive) {x y : ExpectedAlAck} (hx : x ∈ b.queue) (hy : y ∈ b.queue)
    (hkey : x.key = y.key) (hsx : StartedIn b.log x.ticket) (hsy : StartedIn b.log y.ticket) :
    x.ticket = y.ticket := by
  let R := fun x y : AlIdentity =>
    x.key = y.key → StartedIn b.log x.ticket → StartedIn b.log y.ticket → x.ticket = y.ticket
  have hsymm : Std.Symm R := ⟨fun _ _ hr hk h1 h2 => (hr hk.symm h2 h1).symm⟩
  have hpair : (b.queue.map ExpectedAlAck.identity).Pairwise R :=
    h.ordered.imp (fun hxy hk h1 h2 => absurd h2 ((hxy hk).1 h1).1)
  exact hpair.forall_of_forall (fun _ _ _ _ _ => rfl) (List.mem_map_of_mem hx) (List.mem_map_of_mem hy)
    hkey hsx hsy

end AlBooks.Exclusive

namespace Llc
open Lib

/-- Of the transfers queued on one advanced link at most one has had segments submitted. -/
def OneInProgress (s : Llc) : Prop :=
  ∀ a ∈ s.outboundAlMessages, ∀ b ∈ s.outboundAlMessages, a.key = b.key →
    StartedIn s.port.alLog a.ticket → StartedIn s.port.alLog b.ticket → a.ticket = b.ticket

instance (s : Llc) : Decidable s.OneInProgress :=
  inferInstanceAs (Decidable (∀ _ ∈ _, ∀ _ ∈ _, _ = _ → StartedIn _ _ → StartedIn _ _ → _ = _))

/-- A step without a request that outranks a transfer already started on its link, and without an
AL-ACK that singles out a transfer of which nothing was sent. -/
def Yields (s : Llc) (op : Op) : Prop :=
  s.AcksStartedAt op ∧ ∀ prim ∈ op.request, ∀ al ∈ s.outboundAlMessages,
    al.key = ⟨prim.mainAddress, prim.endpointId, prim.linkId⟩ →
      StartedIn s.port.alLog al.ticket → prim.pduPrio ≤ al.pduPrio

instance (s : Llc) (op : Op) : Decidable (s.Yields op) :=
  inferInstanceAs (Decidable (_ ∧ ∀ _ ∈ _, ∀ _ ∈ _, _ = _ → StartedIn _ _ → _ ≤ _))

theorem exclusive_new (mainCarrier : Nat) : (new mainCarrier).alBooks.Exclusive where
  numbered al hal := by cases hal
  logged ticket hs := by
    obtain ⟨ss, req, hmem, _⟩ := hs
    cases hmem
  distinct := List.Pairwise.nil
  untouched al hal := by cases hal
  whole al hal := by cases hal
  ordered := List.Pairwise.nil

theorem exclusive_step {s s' : Llc} (h : s.alBooks.Exclusive) (hy : s.Yields op)
    (hs : s.step op = some s') : s'.alBooks.Exclusive := by
  refine (alMoves_step (fun _ => hy.1) (fun req hreq al hadm => ?_) hs).keeps
    (fun _ _ hb hm => hb.move hm) h
  obtain ⟨session, x, payloads, segments, s1, s2, _, _, _, _, rfl⟩ := hadm
  exact fun e he hkey hstarted => hy.2 req hreq e he hkey hstarted

/-- In a run whose requests do not outrank what was started on their link, one TL-SDU is in
progress on each advanced link. -/
theorem one_tl_sdu_in_progress (mainCarrier : Nat) (ops : List Op) (s : Llc)
    (hy : Along Llc.step Yields (new mainCarrier) ops)
    (hr : Lib.run Llc.step (new mainCarrier) ops = some s) : s.OneInProgress := by
  have hinv : s.alBooks.Exclusive := run_invariant (P := fun s => s.alBooks.Exclusive)
    (fun s op s' h hok hs => exclusive_step h hok hs) (exclusive_new mainCarrier) hy hr
  exact fun a ha b hb hkey hsa hsb => hinv.one_started ha hb hkey hsa hsb

/-- A TL-SDU that the peer asks for once more, and a request of higher priority before it is sent
again. -/
def preempted (addr : TetraAddress) : List Op :=
  [setUpLink addr 1, .tlaTlDataReq (plainTlDataReq addr 1 7 0 (List.replicate 8 true)), .tickEnd,
    .tmaReportInd 7 .successReservedOrStealing, alAckFrom addr (.repeatEntire 0),
    .tlaTlDataReq (plainTlDataReq addr 1 8 7 (List.replicate 8 false)), .tickEnd]

/-- The later request goes out while the first transfer is still queued. -/
theorem started_transfer_is_preempted : ∃ s,
    Lib.run Llc.step (new 1) (preempted (TetraAddress.issi 1)) = some s ∧ ¬s.OneInProgress := by
  have hrun : (Lib.run Llc.step (new 1) (preempted (TetraAddress.issi 1))).map
      (fun s => decide s.OneInProgress) = some false := by
    decide +kernel
  obtain ⟨s, hr, hs⟩ := map_eq_some_iff.mp hrun
  exact ⟨s, hr, of_decide_eq_false hs⟩

/-- The same with two requests of one priority: the second waits. -/
def notPreempted (addr : TetraAddress) : List Op :=
  [setUpLink addr 1, .tlaTlDataReq (plainTlDataReq addr 1 7 3 (List.replicate 8 true)), .tickEnd,
    .tmaReportInd 7 .successReservedOrStealing, alAckFrom addr (.repeatEntire 0),
    .tlaTlDataReq (plainTlDataReq addr 1 8 3 (List.replicate 8 false)), .tickEnd]

theorem notPreempted_in_progress : ∃ s,
    Lib.run Llc.step (new 1) (notPreempted (TetraAddress.issi 1)) = some s ∧
      s.outboundAlMessages.map (fun al => decide (StartedIn s.port.alLog al.ticket)) = [true, false] ∧
      s.OneInProgress := by
  have hrun : (Lib.run Llc.step (new 1) (notPreempted (TetraAddress.issi 1))).map (fun s =>
      s.outboundAlMessages.map (fun al => decide (StartedIn s.port.alLog al.ticket))) =
        some [true, false] := by
    decide +kernel
  obtain ⟨s, hr, hs⟩ := map_eq_some_iff.mp hrun
  exact ⟨s, hr, hs, one_tl_sdu_in_progress 1 _ s (by decide +kernel) hr⟩

end Llc

end NexusBs
