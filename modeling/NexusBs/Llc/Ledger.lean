import NexusBs.Llc.Run
import Mathlib.Data.List.Perm.Basic
import Mathlib.Logic.Relation

namespace NexusBs
open Port List

/-- The outcome a message reports, and for which TL-DATA request. -/
def SapMsg.outcome : SapMsg → Option (Ticket × TlaReport)
  | .tlaTlReportInd (some ticket) _ report _ => some (ticket, report)
  | .tlDataConfBl ticket _ _ => some (ticket, .successfulTransfer)
  | _ => none

def Port.history (p : Port) (ticket : Ticket) : List TlaReport :=
  p.queue.filterMap (fun m => m.outcome.bind (fun o => if o.1 = ticket then some o.2 else none))

def TlaReport.isFinal : TlaReport → Bool
  | .successfulTransfer | .failedTransfer => true
  | .noSpecificReport | .firstCompleteTransmission => false

namespace Port

@[simp] theorem receipts_push (p : Port) : (p.push m).receipts = p.receipts := rfl

@[simp] theorem receipts_pushTlaReport (p : Port) (h : Todo) :
    (p.pushTlaReport t h r ep).receipts = p.receipts := rfl

variable {ticket : Ticket}

section

variable (p : Port)

theorem receipts_tryMark_of_ne (curr new : TxState) (h : t ≠ ticket) :
    (p.tryMark ticket curr new).receipts t = p.receipts t := by
  simp [tryMark, h]

theorem receipts_tryMark_self (h : p.receipts ticket = curr) :
    (p.tryMark ticket curr new).receipts ticket = new := by
  simp [tryMark, h]

theorem receipts_markServiceFailed_of_ne (h : t ≠ ticket) :
    (p.markServiceFailed ticket).receipts t = p.receipts t := by
  unfold markServiceFailed
  split <;> simp [receipts_tryMark_of_ne, h]

theorem isFinal_markServiceFailed :
    ((p.markServiceFailed ticket).receipts ticket).isFinal = true := by
  unfold markServiceFailed
  split <;> rename_i h <;> simp [receipts_tryMark_self, h, TxState.isFinal]

theorem markAcknowledged_eq_some {p : Port} (h : p.markAcknowledged ticket = some q) :
    p.receipts ticket = .transmitted ∧ q = p.tryMark ticket .transmitted .acknowledged := by
  unfold markAcknowledged mark at h
  split at h
  · exact ⟨‹_›, (Option.some.inj h).symm⟩
  · cases h

@[simp] theorem history_markServiceFailed :
    (p.markServiceFailed ticket).history t = p.history t := by
  unfold markServiceFailed
  split <;> rfl

theorem history_push_of_none {m : SapMsg} (h : m.outcome = none) :
    (p.push m).history t = p.history t := by
  simp [history, push, h]

theorem history_push_self {m : SapMsg} (h : m.outcome = some (t, r)) :
    (p.push m).history t = p.history t ++ [r] := by
  simp [history, push, h]

theorem history_push_of_ne {m : SapMsg} (h : m.outcome = some (ticket, r))
    (hne : t ≠ ticket) : (p.push m).history t = p.history t := by
  simp [history, push, h, Ne.symm hne]

end

end Port

/-- The books of a service: the admitted requests that are not settled, each with whether its first
complete transmission was reported, the messages and receipts, and the next request's number. -/
structure Ledger where
  transfers : List (Ticket × Bool)
  port : Port
  next : Ticket

namespace Ledger

/-- What can happen to a request. The two entries under `¬strict` are not in the service
definition: an admitted request is forgotten, or its first transmission is reported again. -/
inductive Move (strict : Prop) : Ledger → Ledger → Prop
  | say {l : Ledger} (m : SapMsg) (h : m.outcome = none) :
      Move strict l { l with port := l.port.push m }
  | perm {l : Ledger} {ts : List (Ticket × Bool)} (h : l.transfers.Perm ts) :
      Move strict l { l with transfers := ts }
  | enter {l : Ledger} (handle : Todo) (ep : EndpointId) :
      Move strict l ⟨(l.next, false) :: l.transfers,
        l.port.pushTlaReport (some l.next) handle .noSpecificReport ep, l.next + 1⟩
  | ignore {l : Ledger} : Move strict l { l with next := l.next + 1 }
  | reject {l : Ledger} (discard : Bool) (handle : Todo) (ep : EndpointId) :
      Move strict l ⟨l.transfers,
        (if discard then l.port.tryMark l.next .pending .discarded else l.port).pushTlaReport
          (some l.next) handle .failedTransfer ep, l.next + 1⟩
  | first {ticket : Ticket} {ts : List (Ticket × Bool)} {p : Port} {n : Ticket} (handle : Todo)
      (ep : EndpointId) :
      Move strict ⟨(ticket, false) :: ts, p, n⟩ ⟨(ticket, true) :: ts,
        (p.markServiceFirstComplete ticket).pushTlaReport (some ticket) handle
          .firstCompleteTransmission ep, n⟩
  | again (h : ¬strict) {ticket : Ticket} {ts : List (Ticket × Bool)} {p : Port} {n : Ticket}
      (handle : Todo) (ep : EndpointId) :
      Move strict ⟨(ticket, true) :: ts, p, n⟩ ⟨(ticket, true) :: ts,
        (p.markServiceFirstComplete ticket).pushTlaReport (some ticket) handle
          .firstCompleteTransmission ep, n⟩
  | fail {ticket : Ticket} {flag : Bool} {ts : List (Ticket × Bool)} {p : Port} {n : Ticket}
      (handle : Todo) (ep : EndpointId) :
      Move strict ⟨(ticket, flag) :: ts, p, n⟩ ⟨ts,
        (p.markServiceFailed ticket).pushTlaReport (some ticket) handle .failedTransfer ep, n⟩
  | succeed {ticket : Ticket} {ts : List (Ticket × Bool)} {p q : Port} {n : Ticket} (m : SapMsg)
      (hm : m.outcome = some (ticket, .successfulTransfer)) (hq : p.markAcknowledged ticket = some q) :
      Move strict ⟨(ticket, true) :: ts, p, n⟩ ⟨ts, q.push m, n⟩
  | drop (h : ¬strict) {ticket : Ticket} {flag : Bool} {ts : List (Ticket × Bool)} {p : Port}
      {n : Ticket} : Move strict ⟨(ticket, flag) :: ts, p, n⟩ ⟨ts, p, n⟩

def Moves (strict : Prop) : Ledger → Ledger → Prop := Relation.ReflTransGen (Move strict)

variable {strict : Prop} {l l' l'' : Ledger}

theorem Moves.refl (l : Ledger) : Moves strict l l := Relation.ReflTransGen.refl

theorem Moves.trans (h : Moves strict l l') (h' : Moves strict l' l'') : Moves strict l l'' :=
  Relation.ReflTransGen.trans h h'

theorem Move.moves (h : Move strict l l') : Moves strict l l' := Relation.ReflTransGen.single h

/-- The receipts agree with what was reported; this survives every move. -/
structure Receipted (l : Ledger) : Prop where
  nodup : (l.transfers.map Prod.fst).Nodup
  issued : ∀ e ∈ l.transfers, e.1 < l.next
  state : ∀ e ∈ l.transfers, l.port.receipts e.1 = if e.2 then .transmitted else .pending
  fresh : ∀ t, l.next ≤ t → l.port.receipts t = .pending

variable {ts : List (Ticket × Bool)}

theorem Receipted.of_mem_cons (h : Receipted ⟨e :: ts, p, n⟩) : ∀ d ∈ ts, d.1 ≠ e.1 := by
  have hn := h.nodup
  simp only [map_cons, nodup_cons, List.mem_map, not_exists, not_and] at hn
  exact fun d hd he => hn.1 d hd he

theorem Receipted.tail {e : Ticket × Bool} {p q : Port} (h : Receipted ⟨e :: ts, p, n⟩)
    (hq : ∀ t, t ≠ e.1 → q.receipts t = p.receipts t) :
    Receipted ⟨ts, q, n⟩ where
  nodup := (nodup_cons.mp h.nodup).2
  issued d hd := h.issued d (mem_cons_of_mem _ hd)
  state d hd := by
    rw [hq _ (h.of_mem_cons d hd)]
    exact h.state d (mem_cons_of_mem _ hd)
  fresh t ht := by
    have := h.issued e mem_cons_self
    rw [hq t (Nat.ne_of_gt (Nat.lt_of_lt_of_le this ht))]
    exact h.fresh t ht

/-- A request that is replaced by itself, with its receipt in step with its flag. -/
theorem Receipted.set {p q : Port} (h : Receipted ⟨(ticket, f) :: ts, p, n⟩)
    (hq : ∀ t, t ≠ ticket → q.receipts t = p.receipts t)
    (ht : q.receipts ticket = if g then .transmitted else .pending) :
    Receipted ⟨(ticket, g) :: ts, q, n⟩ := by
  have tl := h.tail hq
  refine ⟨h.nodup, ?_, ?_, tl.fresh⟩
  · intro d hd
    rcases mem_cons.mp hd with rfl | hd
    · exact h.issued (ticket, f) mem_cons_self
    · exact tl.issued d hd
  · intro d hd
    rcases mem_cons.mp hd with rfl | hd
    · exact ht
    · exact tl.state d hd

theorem receipts_rejected (l : Ledger) (d : Bool) : ∀ t, t ≠ l.next →
    (if d then l.port.tryMark l.next .pending .discarded else l.port).receipts t =
      l.port.receipts t := by
  intro t ht
  split
  · exact receipts_tryMark_of_ne _ _ _ ht
  · rfl

theorem Receipted.move (h : Receipted l) (hm : Move strict l l') : Receipted l' := by
  cases hm with
  | say => exact ⟨h.nodup, h.issued, h.state, h.fresh⟩
  | perm hp =>
    exact ⟨(hp.map _).nodup_iff.mp h.nodup, fun e he => h.issued e (hp.mem_iff.mpr he),
      fun e he => h.state e (hp.mem_iff.mpr he), h.fresh⟩
  | enter =>
    refine ⟨?_, ?_, ?_, fun t ht => h.fresh t (Nat.le_of_succ_le ht)⟩
    · rw [map_cons, nodup_cons]
      refine ⟨fun hmem => ?_, h.nodup⟩
      obtain ⟨e, he, heq⟩ := List.mem_map.mp hmem
      exact absurd (h.issued e he) (by rw [heq]; exact Nat.lt_irrefl _)
    · intro e he
      rcases mem_cons.mp he with rfl | he
      · exact Nat.lt_succ_self _
      · exact Nat.lt_succ_of_lt (h.issued e he)
    · intro e he
      rcases mem_cons.mp he with rfl | he
      · exact h.fresh _ (Nat.le_refl _)
      · exact h.state e he
  | ignore =>
    exact ⟨h.nodup, fun e he => Nat.lt_succ_of_lt (h.issued e he), h.state,
      fun t ht => h.fresh t (Nat.le_of_succ_le ht)⟩
  | reject discard =>
    have hr := receipts_rejected l discard
    refine ⟨h.nodup, fun e he => Nat.lt_succ_of_lt (h.issued e he), ?_, ?_⟩
    · intro e he
      rw [receipts_pushTlaReport, hr _ (Nat.ne_of_lt (h.issued e he))]
      exact h.state e he
    · intro t ht
      rw [receipts_pushTlaReport, hr _ (Nat.ne_of_gt ht)]
      exact h.fresh t (Nat.le_of_succ_le ht)
  | first =>
    refine h.set (fun t ht => receipts_tryMark_of_ne _ _ _ ht) ?_
    exact receipts_tryMark_self _ (h.state _ mem_cons_self)
  | @again _ ticket ts p =>
    have ht : p.receipts ticket = .transmitted := h.state _ mem_cons_self
    refine h.set (fun t ht => receipts_tryMark_of_ne _ _ _ ht) ?_
    simp [markServiceFirstComplete, Port.tryMark, ht]
  | fail => exact h.tail (fun t ht => receipts_markServiceFailed_of_ne _ ht)
  | succeed m hm hq =>
    obtain ⟨_, rfl⟩ := markAcknowledged_eq_some hq
    exact h.tail (fun t ht => receipts_tryMark_of_ne _ _ _ ht)
  | drop => exact h.tail (fun _ _ => rfl)

theorem Receipted.moves (h : Receipted l) (hm : Moves strict l l') : Receipted l' := by
  induction hm with
  | refl => exact h
  | tail _ hm ih => exact ih.move hm

/-- The reports on an admitted request that is not settled. -/
def openHistory (flag : Bool) : List TlaReport :=
  .noSpecificReport :: if flag then [.firstCompleteTransmission] else []

/-- The reports on a request that is settled or was never admitted. -/
inductive Settled : List TlaReport → Prop
  | silent : Settled []
  | rejected : Settled [.failedTransfer]
  | failed (flag : Bool) : Settled (openHistory flag ++ [.failedTransfer])
  | succeeded : Settled (openHistory true ++ [.successfulTransfer])

/-- Every request has been reported on as the service defines. -/
structure Recorded (l : Ledger) : Prop extends Receipted l where
  opened : ∀ e ∈ l.transfers, l.port.history e.1 = openHistory e.2
  settled : ∀ t, (∀ e ∈ l.transfers, e.1 ≠ t) → Settled (l.port.history t) ∧
    (.noSpecificReport ∈ l.port.history t → (l.port.receipts t).isFinal = true)
  unused : ∀ t, l.next ≤ t → l.port.history t = []

/-- The moves that report `r` on the first request and change its receipt only. -/
theorem Recorded.others {p q : Port} {m : SapMsg} (h : Recorded ⟨(ticket, f) :: ts, p, n⟩)
    (hm : m.outcome = some (ticket, r)) (hh : ∀ t, q.history t = p.history t)
    (hq : ∀ t, t ≠ ticket → q.receipts t = p.receipts t) :
    (∀ e ∈ ts, (q.push m).history e.1 = openHistory e.2) ∧
    (∀ t, t ≠ ticket → (∀ e ∈ ts, e.1 ≠ t) → Settled ((q.push m).history t) ∧
      (.noSpecificReport ∈ (q.push m).history t → ((q.push m).receipts t).isFinal = true)) ∧
    (∀ t, n ≤ t → (q.push m).history t = []) := by
  have hne : ∀ t, t ≠ ticket → (q.push m).history t = p.history t := by
    intro t ht
    rw [history_push_of_ne _ hm ht, hh]
  refine ⟨fun e he => ?_, fun t ht hts => ?_, fun t ht => ?_⟩
  · rw [hne _ (h.toReceipted.of_mem_cons e he)]
    exact h.opened e (mem_cons_of_mem _ he)
  · rw [hne t ht, receipts_push, hq t ht]
    refine h.settled t (fun e he => ?_)
    rcases mem_cons.mp he with rfl | he
    · exact Ne.symm ht
    · exact hts e he
  · have := h.issued (ticket, f) mem_cons_self
    rw [hne t (Nat.ne_of_gt (Nat.lt_of_lt_of_le this ht))]
    exact h.unused t ht

/-- A request leaves the books with a last report and a final receipt. -/
theorem Recorded.close {p q : Port} {m : SapMsg} (h : Recorded ⟨(ticket, f) :: ts, p, n⟩)
    (hm : m.outcome = some (ticket, r)) (hh : ∀ t, q.history t = p.history t)
    (hq : ∀ t, t ≠ ticket → q.receipts t = p.receipts t) (hs : Settled (openHistory f ++ [r]))
    (hf : (q.receipts ticket).isFinal = true) : Recorded ⟨ts, q.push m, n⟩ := by
  obtain ⟨ho, hset, hun⟩ := h.others hm hh hq
  refine ⟨h.toReceipted.tail hq, ho, fun t hts => ?_, hun⟩
  by_cases ht : t = ticket
  · subst ht
    rw [history_push_self _ hm, hh, h.opened _ mem_cons_self]
    exact ⟨hs, fun _ => hf⟩
  · exact hset t ht hts

theorem Recorded.move (h : Recorded l) (hm : Move True l l') : Recorded l' := by
  have hr := h.toReceipted.move hm
  cases hm with
  | say m hm =>
    refine ⟨hr, fun e he => ?_, fun t ht => ?_, fun t ht => ?_⟩
    · exact (history_push_of_none _ hm).trans (h.opened e he)
    · simp only [history_push_of_none _ hm]
      exact h.settled t ht
    · exact (history_push_of_none _ hm).trans (h.unused t ht)
  | perm hp =>
    exact ⟨hr, fun e he => h.opened e (hp.mem_iff.mpr he),
      fun t ht => h.settled t (fun e he => ht e (hp.mem_iff.mp he)), h.unused⟩
  | enter handle ep =>
    have hne : ∀ t, t ≠ l.next → (l.port.pushTlaReport (some l.next) handle .noSpecificReport
        ep).history t = l.port.history t := fun t ht => history_push_of_ne _ rfl ht
    refine ⟨hr, fun e he => ?_, fun t ht => ?_, fun t ht => ?_⟩
    · rcases mem_cons.mp he with rfl | he
      · exact (history_push_self _ rfl).trans
          (by rw [h.unused _ (Nat.le_refl _)]; rfl)
      · rw [hne _ (Nat.ne_of_lt (h.issued e he))]
        exact h.opened e he
    · rw [hne t (Ne.symm (ht _ mem_cons_self))]
      exact h.settled t (fun e he => ht e (mem_cons_of_mem _ he))
    · rw [hne t (Nat.ne_of_gt ht)]
      exact h.unused t (Nat.le_of_succ_le ht)
  | ignore => exact ⟨hr, h.opened, h.settled, fun t ht => h.unused t (Nat.le_of_succ_le ht)⟩
  | reject discard handle ep =>
    have hrec := receipts_rejected l discard
    have hh : ∀ t, (if discard then l.port.tryMark l.next .pending .discarded
        else l.port).history t = l.port.history t := by
      intro t
      split <;> rfl
    generalize (if discard then l.port.tryMark l.next .pending .discarded else l.port) = q at *
    have hne : ∀ t, t ≠ l.next → (q.pushTlaReport (some l.next) handle .failedTransfer ep).history t =
        l.port.history t := fun t ht => (history_push_of_ne _ rfl ht).trans (hh t)
    refine ⟨hr, fun e he => ?_, fun t ht => ?_, fun t ht => ?_⟩
    · rw [hne _ (Nat.ne_of_lt (h.issued e he))]
      exact h.opened e he
    · by_cases hn : t = l.next
      · have hself : (q.pushTlaReport (some l.next) handle .failedTransfer ep).history l.next =
            [.failedTransfer] :=
          (history_push_self _ rfl).trans (by rw [hh, h.unused _ (Nat.le_refl _)]; rfl)
        rw [hn, hself]
        exact ⟨.rejected, fun hmem => by simp at hmem⟩
      · rw [hne t hn, receipts_pushTlaReport, hrec t hn]
        exact h.settled t ht
    · rw [hne t (Nat.ne_of_gt ht)]
      exact h.unused t (Nat.le_of_succ_le ht)
  | @first ticket ts p n handle ep =>
    obtain ⟨ho, hset, hun⟩ := h.others (q := p.markServiceFirstComplete ticket)
      (m := .tlaTlReportInd (some ticket) handle .firstCompleteTransmission ep) rfl (fun _ => rfl)
      (fun t ht => receipts_tryMark_of_ne _ _ _ ht)
    refine ⟨hr, fun e he => ?_, fun t ht => ?_, hun⟩
    · rcases mem_cons.mp he with rfl | he
      · exact (history_push_self _ rfl).trans
          (congrArg (· ++ [_]) (h.opened (ticket, false) mem_cons_self))
      · exact ho e he
    · exact hset t (Ne.symm (ht _ mem_cons_self))
        (fun e he => ht e (mem_cons_of_mem _ he))
  | again hs | drop hs => exact absurd trivial hs
  | @fail ticket flag ts p n handle ep =>
    exact h.close (m := .tlaTlReportInd (some ticket) handle .failedTransfer ep) rfl
      (fun t => history_markServiceFailed _)
      (fun t ht => receipts_markServiceFailed_of_ne _ ht) (.failed flag)
      (isFinal_markServiceFailed _)
  | succeed m hm hq =>
    obtain ⟨ht, rfl⟩ := markAcknowledged_eq_some hq
    refine h.close hm (fun _ => rfl) (fun t ht => receipts_tryMark_of_ne _ _ _ ht) .succeeded ?_
    rw [receipts_tryMark_self _ ht]
    rfl

theorem Recorded.moves (h : Recorded l) (hm : Moves True l l') : Recorded l' := by
  induction hm with
  | refl => exact h
  | tail _ hm ih => exact ih.move hm

end Ledger
end NexusBs
