import NexusBs.Llc.Steps

namespace NexusBs.Llc
open Lib Ledger

/-- What the service promises about the reports on one TL-DATA request. -/
structure OneOutcome (s : Llc) (ticket : Ticket) : Prop where
  firstOnce : (s.port.history ticket).count .firstCompleteTransmission ≤ 1
  finalOnce : (s.port.history ticket).countP TlaReport.isFinal ≤ 1
  finalLast : ∀ before report after, s.port.history ticket = before ++ report :: after →
    report.isFinal = true → after = []
  settled : .noSpecificReport ∈ s.port.history ticket → (∀ e ∈ s.transfers, e.1 ≠ ticket) →
    (∃ report ∈ s.port.history ticket, report.isFinal = true) ∧
      (s.port.receipts ticket).isFinal = true

theorem openHistory_not_final : ∀ r ∈ openHistory flag, r.isFinal = false := by
  cases flag <;> decide

/-- A history that is open, or open and then final, has a final report at most once, and last. -/
theorem final_last {r : TlaReport} (hopen : ∀ r ∈ h, r.isFinal = false)
    (heq : h ++ [f] = before ++ r :: after) (hr : r.isFinal = true) : after = [] := by
  rcases List.append_eq_append_iff.mp heq with ⟨mid, h1, h2⟩ | ⟨mid, h1, h2⟩
  · cases mid with
    | nil =>
      simp only [List.nil_append, List.cons.injEq] at h2
      exact h2.2.symm
    | cons => simp at h2
  · cases mid with
    | nil =>
      simp only [List.nil_append, List.cons.injEq] at h2
      exact h2.2
    | cons x =>
      simp only [List.cons_append, List.cons.injEq] at h2
      have := hopen x (by rw [h1]; simp)
      rw [← h2.1, hr] at this
      cases this

theorem Recorded.oneOutcome {s : Llc} (h : Recorded s.ledger) : s.OneOutcome ticket := by
  by_cases ho : ∃ e ∈ s.transfers, e.1 = ticket
  · obtain ⟨e, he, rfl⟩ := ho
    have hh : s.port.history e.1 = openHistory e.2 := h.opened e he
    refine ⟨?_, ?_, ?_, fun _ hne => absurd rfl (hne e he)⟩
    · rw [hh]
      cases e.2 <;> decide
    · rw [hh]
      cases e.2 <;> decide
    · intro before r after heq hr
      rw [hh] at heq
      have := openHistory_not_final r (by rw [heq]; simp)
      rw [hr] at this
      cases this
  · have hne : ∀ e ∈ s.transfers, e.1 ≠ ticket := fun e he heq => ho ⟨e, he, heq⟩
    obtain ⟨hs, hfin⟩ := h.settled ticket hne
    change Settled (s.port.history ticket) at hs
    change .noSpecificReport ∈ s.port.history ticket →
      (s.port.receipts ticket).isFinal = true at hfin
    generalize hh : s.port.history ticket = hist at hs hfin
    refine ⟨?_, ?_, ?_, ?_⟩ <;> rw [hh]
    · cases hs with
      | failed flag => cases flag <;> decide
      | _ => decide
    · cases hs with
      | failed flag => cases flag <;> decide
      | _ => decide
    · intro before r after heq hr
      cases hs with
      | silent => simp at heq
      | rejected => exact final_last (h := []) (fun _ h => by cases h) heq hr
      | failed flag => exact final_last openHistory_not_final heq hr
      | succeeded => exact final_last openHistory_not_final heq hr
    · intro hmem _
      refine ⟨?_, hfin hmem⟩
      cases hs with
      | silent => cases hmem
      | rejected | failed => exact ⟨.failedTransfer, by simp, rfl⟩
      | succeeded => exact ⟨.successfulTransfer, by simp, rfl⟩

/-- In a run without the two kinds of steps excluded, every request has at most one outcome, and
one that left the queues has it. -/
theorem one_outcome_per_request (mainCarrier : Nat) (ops : List Op) (s : Llc)
    (hk : Along Llc.step Keeps (new mainCarrier) ops)
    (hr : Lib.run Llc.step (new mainCarrier) ops = some s) (ticket : Ticket) :
    s.OneOutcome ticket := by
  have hinv : Recorded s.ledger := run_invariant (P := fun s => Recorded s.ledger)
    (fun s op s' h hok hs => h.moves (moves_step (fun _ => hok) hs)) (recorded_new mainCarrier) hk hr
  exact Recorded.oneOutcome hinv

/-- A request on link 1, which the peer replaces by link 2 before anything was sent. -/
def linkReplaced (addr : TetraAddress) : List Op :=
  [setUpLink addr 1, .tlaTlDataReq (plainTlDataReq addr 1 7 0 (List.replicate 8 true)),
    setUpLink addr 2]

/-- A request whose TL-SDU the peer asks for once more; the MAC reports both attempts. -/
def sentTwice (addr : TetraAddress) : List Op :=
  [setUpLink addr 1, .tlaTlDataReq (plainTlDataReq addr 1 7 0 (List.replicate 8 true)), .tickEnd,
    .tmaReportInd 7 .successReservedOrStealing, alAckFrom addr (.repeatEntire 0), .tickEnd,
    .tmaReportInd 7 .successReservedOrStealing]

theorem linkReplaced_outcome :
    (Lib.run Llc.step (new 1) (linkReplaced (TetraAddress.issi 1))).map (fun s =>
      (s.transfers, s.port.history 0)) = some ([], [.noSpecificReport]) := by
  decide +kernel

theorem sentTwice_outcome :
    (Lib.run Llc.step (new 1) (sentTwice (TetraAddress.issi 1))).map (fun s => s.port.history 0) =
      some [.noSpecificReport, .firstCompleteTransmission, .firstCompleteTransmission] := by
  decide +kernel

/-- The request of a replaced link is gone without an outcome; a TL-SDU that is sent twice is
reported as completely transmitted twice. -/
theorem outcome_lost_or_repeated :
    (∃ s, Lib.run Llc.step (new 1) (linkReplaced (TetraAddress.issi 1)) = some s ∧
      ¬s.OneOutcome 0) ∧
    ∃ s, Lib.run Llc.step (new 1) (sentTwice (TetraAddress.issi 1)) = some s ∧
      ¬s.OneOutcome 0 := by
  constructor
  · obtain ⟨s, hr, hs⟩ := Option.map_eq_some_iff.mp linkReplaced_outcome
    simp only [Prod.mk.injEq] at hs
    refine ⟨s, hr, fun h => ?_⟩
    obtain ⟨⟨report, hmem, hfinal⟩, -⟩ := h.settled (by simp [hs.2]) (by simp [hs.1])
    rw [hs.2, List.mem_singleton] at hmem
    subst hmem
    cases hfinal
  · obtain ⟨s, hr, hs⟩ := Option.map_eq_some_iff.mp sentTwice_outcome
    refine ⟨s, hr, fun h => ?_⟩
    have := h.firstOnce
    rw [hs] at this
    exact absurd this (by decide)

def acknowledgedOnce (addr : TetraAddress) : List Op :=
  [setUpLink addr 1, .tlaTlDataReq (plainTlDataReq addr 1 7 0 (List.replicate 8 true)), .tickEnd,
    .tmaReportInd 7 .successReservedOrStealing, alAckFrom addr (.complete 0)]

theorem acknowledgedOnce_outcome : ∃ s,
    Lib.run Llc.step (new 1) (acknowledgedOnce (TetraAddress.issi 1)) = some s ∧
      s.port.history 0 = [.noSpecificReport, .firstCompleteTransmission, .successfulTransfer] ∧
      s.OneOutcome 0 := by
  have hrun : (Lib.run Llc.step (new 1) (acknowledgedOnce (TetraAddress.issi 1))).map
      (fun s => s.port.history 0) =
        some [.noSpecificReport, .firstCompleteTransmission, .successfulTransfer] := by
    decide +kernel
  obtain ⟨s, hr, hs⟩ := Option.map_eq_some_iff.mp hrun
  exact ⟨s, hr, hs, one_outcome_per_request 1 _ s (by decide +kernel) hr 0⟩

/-- The books of the link layer: requests that wait are told apart by their receipts, which say of
each whether it was sent; numbers fit their fields, and handles that the layer gives out are below
zero. -/
structure InOrder (s : Llc) : Prop where
  distinct : (s.transfers.map Prod.fst).Nodup
  receipts : ∀ e ∈ s.transfers, e.1 < s.nextTicket ∧
    s.port.receipts e.1 = if e.2 then .transmitted else .pending
  sendSeq : ∀ key, s.linkSendSeq key < 2
  acks : ∀ ack ∈ s.scheduledOutAcks, ack.nr < 2 ∧ ack.indReqHandle < 0
  nextHandle : s.nextTlDataIndReqHandle < 0
  assemblies : AssembliesFit s.advancedLinkRx

theorem inOrder_of_sound (h : Sound s) (hb : BelowZero s) : s.InOrder where
  distinct := h.receipted.nodup
  receipts := fun e he => ⟨h.receipted.issued e he, h.receipted.state e he⟩
  sendSeq := h.basicLinks.sendSeq
  acks := fun ack ha => ⟨h.basicLinks.numbers ack ha, hb.acks ack ha⟩
  nextHandle := hb.next
  assemblies := h.assemblies

/-- Whatever happens to the link layer, its books are in order, and it refines the service: the
requests and reports of a run are moves of the service, without the two that the service does not
define where the run avoids the steps that make them. -/
theorem run_refines_service (mainCarrier : Nat) (ops : List Op) (s : Llc)
    (hr : Lib.run Llc.step (new mainCarrier) ops = some s) :
    s.InOrder ∧ ∀ strict : Prop, (strict → Along Llc.step Keeps (new mainCarrier) ops) →
      Moves strict (new mainCarrier).ledger s.ledger := by
  have hall : Along Llc.step (fun _ _ => True) (new mainCarrier) ops :=
    Along.of_forall (fun _ _ => trivial)
  constructor
  · have hs : Sound s := run_invariant (fun _ _ _ hs _ hstep => hs.step hstep)
      (sound_new mainCarrier) hall hr
    exact inOrder_of_sound hs (run_belowZero hr)
  · intro strict hk
    have hok : Along Llc.step (fun t op => strict → t.Keeps op) (new mainCarrier) ops := by
      by_cases hs : strict
      · simpa only [hs, true_imp_iff] using hk hs
      · simpa only [hs, false_imp_iff] using hall
    exact run_invariant (P := fun t => Moves strict (new mainCarrier).ledger t.ledger)
      (fun _ _ _ hm hk hstep => hm.trans (moves_step hk hstep)) (.refl _) hok hr

theorem acknowledgedOnce_refines : ∃ s,
    Lib.run Llc.step (new 1) (acknowledgedOnce (TetraAddress.issi 1)) = some s ∧ s.InOrder ∧
      Moves True (new 1).ledger s.ledger := by
  have hrun : (Lib.run Llc.step (new 1) (acknowledgedOnce (TetraAddress.issi 1))).isSome = true := by
    decide +kernel
  obtain ⟨s, hr⟩ := Option.isSome_iff_exists.mp hrun
  obtain ⟨ho, hm⟩ := run_refines_service 1 _ s hr
  exact ⟨s, hr, ho, hm True (fun _ => by decide +kernel)⟩

end NexusBs.Llc
