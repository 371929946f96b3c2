import NexusBs.Llc.Run
import Mathlib.Logic.Relation

namespace NexusBs
open List

/-- What the LLC says about advanced link transfers: a segment for the MAC, and a success. -/
inductive AlEvent where
  | sent (req : TmaUnitdataReq)
  | succeeded (ticket : Ticket)
deriving DecidableEq

def SapMsg.alEvent : SapMsg → Option AlEvent
  | .tmaUnitdataReq req =>
    match req.txReporter with
    | some (.al _ _) => some (.sent req)
    | _ => none
  | .tlaTlReportInd (some ticket) _ .successfulTransfer _ => some (.succeeded ticket)
  | _ => none

/-- Everything that was said so far, in order. -/
def Port.alLog (p : Port) : List AlEvent := p.queue.filterMap SapMsg.alEvent

namespace Port

section

variable (p : Port)

theorem alLog_push (m : SapMsg) : (p.push m).alLog = p.alLog ++ m.alEvent.toList := by
  cases h : m.alEvent <;> simp [alLog, push, h]

theorem alLog_pushTlaReport (h : Todo) (hr : t = none ∨ r ≠ .successfulTransfer) :
    (p.pushTlaReport t h r ep).alLog = p.alLog := by
  rw [pushTlaReport, alLog_push]
  rcases hr with rfl | hr
  · cases r <;> simp [SapMsg.alEvent]
  · cases t <;> cases r <;> simp_all [SapMsg.alEvent]

@[simp] theorem alLog_pushTlaReport_first (h : Todo) :
    (p.pushTlaReport t h .firstCompleteTransmission ep).alLog = p.alLog :=
  alLog_pushTlaReport _ _ (.inr (by decide))

@[simp] theorem alLog_pushTlaReport_failed (h : Todo) :
    (p.pushTlaReport t h .failedTransfer ep).alLog = p.alLog :=
  alLog_pushTlaReport _ _ (.inr (by decide))

@[simp] theorem alLog_pushTlaReport_admitted (h : Todo) :
    (p.pushTlaReport t h .noSpecificReport ep).alLog = p.alLog :=
  alLog_pushTlaReport _ _ (.inr (by decide))

@[simp] theorem alLog_tryMark : (p.tryMark ticket curr new).alLog = p.alLog := rfl

@[simp] theorem alLog_markServiceFailed :
    (p.markServiceFailed ticket).alLog = p.alLog := by
  unfold markServiceFailed
  split <;> rfl

end

theorem alLog_mark {p q : Port} (h : p.mark ticket curr new = some q) : q.alLog = p.alLog := by
  unfold mark at h
  split at h
  · cases h
    rfl
  · cases h

end Port

/-- What of a segment never changes: its number and the request that carries it. -/
def ExpectedAlSegment.part (g : ExpectedAlSegment) : Nat × TmaUnitdataReq := (g.ss, g.retransmissionBuf)

/-- What of a transfer never changes. -/
structure AlIdentity where
  ticket : Ticket
  key : AdvancedLinkKey
  ns : Nat
  pduPrio : Todo
  parts : List (Nat × TmaUnitdataReq)

def ExpectedAlAck.identity (al : ExpectedAlAck) : AlIdentity :=
  ⟨al.ticket, al.key, al.ns, al.pduPrio, al.segments.map ExpectedAlSegment.part⟩

structure ExpectedAlSegment.Untouched (g : ExpectedAlSegment) : Prop where
  notSubmitted : g.tSubmittedToUmac = none
  notDone : g.tUmacDone = none
  noReporter : g.currentMacReporter = none
  notAcknowledged : g.acknowledged = false
  notRequested : g.retransmissionRequested = false
  noProbe : g.ackRequestProbePending = false

structure ExpectedAlAck.Pristine (al : ExpectedAlAck) : Prop where
  nonempty : al.segments ≠ []
  segments : ∀ g ∈ al.segments, g.Untouched
  notSubmitted : al.tSubmittedToUmac = none
  notDone : al.tUmacDone = none
  notReported : al.firstCompleteReportSent = false
  notExhausted : al.tRetransmissionsExhausted = none
  notSelective : al.selectiveSegmentRetryPending = false

def SentIn (log : List AlEvent) (ticket : Ticket) (ss : Nat) : Prop :=
  ∃ req, .sent req ∈ log ∧ req.txReporter = some (.al ticket ss)

def StartedIn (log : List AlEvent) (ticket : Ticket) : Prop := ∃ ss, SentIn log ticket ss

def AlEvent.starts (ticket : Ticket) : AlEvent → Bool
  | .sent req =>
    match req.txReporter with
    | some (.al t _) => t == ticket
    | _ => false
  | .succeeded _ => false

variable {ticket : Ticket} {log : List AlEvent}

theorem startedIn_iff : StartedIn log ticket ↔ log.any (AlEvent.starts ticket) = true := by
  rw [List.any_eq_true]
  constructor
  · rintro ⟨ss, req, hmem, hreq⟩
    exact ⟨.sent req, hmem, by simp [AlEvent.starts, hreq]⟩
  · rintro ⟨event, hmem, hstarts⟩
    unfold AlEvent.starts at hstarts
    split at hstarts
    · split at hstarts
      · rename_i req _ t ss hreq
        rw [beq_iff_eq] at hstarts
        exact ⟨ss, req, hmem, hstarts ▸ hreq⟩
      · cases hstarts
    · cases hstarts

instance (log : List AlEvent) (ticket : Ticket) : Decidable (StartedIn log ticket) :=
  decidable_of_iff _ startedIn_iff.symm

theorem SentIn.append (h : SentIn log ticket ss) (more : List AlEvent) :
    SentIn (log ++ more) ticket ss := by
  obtain ⟨req, hmem, hreq⟩ := h
  exact ⟨req, mem_append_left _ hmem, hreq⟩

theorem StartedIn.append (h : StartedIn log ticket) (more : List AlEvent) :
    StartedIn (log ++ more) ticket := by
  obtain ⟨ss, h⟩ := h
  exact ⟨ss, h.append more⟩

/-- The request that an attempt on a segment makes. -/
def ExpectedAlSegment.Attempted (g : ExpectedAlSegment) (ticket : Ticket) (req : TmaUnitdataReq) :
    Prop :=
  ∃ pdu, Llc.attemptPdu g = some pdu ∧
    req = { g.retransmissionBuf with pdu := pdu, txReporter := some (.al ticket g.ss) }

/-- The transfers on advanced links, what was said about them, and the next request's number. -/
structure AlBooks where
  queue : List ExpectedAlAck
  log : List AlEvent
  next : Ticket

/-- What can happen to the transfers. With `strict`, a transfer none of whose segments was sent
is left alone until it is submitted; `admits` says what a new one has to meet. -/
inductive AlMove (strict : Prop) (admits : AlBooks → ExpectedAlAck → Prop) : AlBooks → AlBooks → Prop
  | leave {b : AlBooks} {queue : List ExpectedAlAck} (h : queue.Sublist b.queue) :
      AlMove strict admits b { b with queue := queue }
  | touch {b : AlBooks} {i : Nat} {al al' : ExpectedAlAck} (hi : b.queue[i]? = some al)
      (hid : al'.identity = al.identity)
      (hs : strict → al.Pristine → ¬StartedIn b.log al.ticket → al' = al) :
      AlMove strict admits b { b with queue := b.queue.set i al' }
  | complete {b : AlBooks} {i : Nat} {al : ExpectedAlAck} (hi : b.queue[i]? = some al)
      (hs : strict → StartedIn b.log al.ticket) :
      AlMove strict admits b
        { b with queue := b.queue.eraseIdx i, log := b.log ++ [.succeeded al.ticket] }
  | enter {b : AlBooks} {al : ExpectedAlAck} (ht : al.ticket = b.next) (hp : al.Pristine)
      (ha : admits b al) :
      AlMove strict admits b { b with queue := b.queue ++ [al], next := b.next + 1 }
  | number {b : AlBooks} : AlMove strict admits b { b with next := b.next + 1 }
  | submit {b : AlBooks} {i : Nat} {al al' : ExpectedAlAck} {reqs : List TmaUnitdataReq}
      {links : AdvancedLinkKey → Option AdvancedLinkSession} {blocked : List AdvancedLinkKey}
      (hi : b.queue[i]? = some al) (hid : al'.identity = al.identity)
      (hselected : Llc.highestPriorityUnsubmittedAlIndex links b.queue blocked = some i)
      (hblocked : ∀ e ∈ b.queue, e.tSubmittedToUmac.isSome = true → e.key ∈ blocked)
      (hreqs : ∀ req ∈ reqs, ∃ g ∈ al.segments, g.Attempted al.ticket req)
      (hall : al.Pristine → ∀ g ∈ al.segments, ∃ req ∈ reqs,
        req.txReporter = some (.al al.ticket g.ss)) :
      AlMove strict admits b
        { b with queue := b.queue.set i al', log := b.log ++ reqs.map .sent }

def AlMoves (strict : Prop) (admits : AlBooks → ExpectedAlAck → Prop) : AlBooks → AlBooks → Prop :=
  Relation.ReflTransGen (AlMove strict admits)

variable {c : Prop} {admits : AlBooks → ExpectedAlAck → Prop} {b b' b'' : AlBooks}

theorem AlMoves.refl (b : AlBooks) : AlMoves c admits b b := Relation.ReflTransGen.refl

theorem AlMoves.trans (h : AlMoves c admits b b') (h' : AlMoves c admits b' b'') :
    AlMoves c admits b b'' := Relation.ReflTransGen.trans h h'

theorem AlMove.moves (h : AlMove c admits b b') : AlMoves c admits b b' :=
  Relation.ReflTransGen.single h

theorem AlMoves.keeps {P : AlBooks → Prop} (h : AlMoves c admits b b')
    (hmove : ∀ b b', P b → AlMove c admits b b' → P b') (hb : P b) : P b' := by
  induction h with
  | refl => exact hb
  | tail _ hm ih => exact hmove _ _ ih hm

theorem AlMoves.log_prefix (h : AlMoves c admits b b') : b.log <+: b'.log := by
  refine h.keeps (P := fun d => b.log <+: d.log) (fun d d' hd hm => ?_) (prefix_refl _)
  cases hm with
  | leave | touch | enter | number => exact hd
  | complete | submit => exact hd.trans (prefix_append _ _)

/-! What was sent -/

theorem sentIn_append :
    SentIn (log ++ more) ticket ss ↔ SentIn log ticket ss ∨ SentIn more ticket ss := by
  simp [SentIn, or_and_right, exists_or]

theorem startedIn_append :
    StartedIn (log ++ more) ticket ↔ StartedIn log ticket ∨ StartedIn more ticket := by
  simp [StartedIn, sentIn_append, exists_or]

theorem startedIn_succeeded : StartedIn (log ++ [.succeeded t]) ticket ↔ StartedIn log ticket := by
  simp [StartedIn, SentIn]

/-- Attempts on the segments of one transfer start that transfer and no other. -/
theorem startedIn_attempts {al : ExpectedAlAck} {reqs : List TmaUnitdataReq}
    (hreqs : ∀ req ∈ reqs, ∃ g ∈ al.segments, g.Attempted al.ticket req)
    (h : StartedIn (reqs.map .sent) ticket) : ticket = al.ticket := by
  obtain ⟨ss, req, hmem, hreq⟩ := h
  obtain ⟨req', hmem', heq⟩ := List.mem_map.mp hmem
  cases heq
  obtain ⟨g, _, pdu, _, rfl⟩ := hreqs req hmem'
  cases hreq
  rfl

/-- Transfers have numbers of their own, below those to come; one that was not started is
untouched, and one that was started was sent with all its segments. -/
structure AlBooks.Tracked (b : AlBooks) : Prop where
  numbered : ∀ al ∈ b.queue, al.ticket < b.next
  logged : ∀ ticket, StartedIn b.log ticket → ticket < b.next
  distinct : (b.queue.map ExpectedAlAck.identity).Pairwise (fun x y => x.ticket ≠ y.ticket)
  untouched : ∀ al ∈ b.queue, ¬StartedIn b.log al.ticket → al.Pristine
  whole : ∀ al ∈ b.queue, StartedIn b.log al.ticket →
    ∀ part ∈ al.identity.parts, SentIn b.log al.ticket part.1

namespace AlBooks.Tracked

variable {al : ExpectedAlAck}

section

variable (h : b.Tracked)
include h

/-- A number stands for one transfer. -/
theorem place {i j : Nat} {e : ExpectedAlAck} (hj : b.queue[j]? = some e)
    (hi : b.queue[i]? = some al) (ht : e.ticket = al.ticket) : j = i ∧ e = al := by
  obtain ⟨hjlt, rfl⟩ := List.getElem?_eq_some_iff.mp hj
  obtain ⟨hilt, rfl⟩ := List.getElem?_eq_some_iff.mp hi
  have hpair := pairwise_iff_getElem.mp h.distinct
  rcases Nat.lt_trichotomy j i with hlt | rfl | hlt
  · have hne := hpair j i (by simpa) (by simpa) hlt
    rw [getElem_map, getElem_map] at hne
    exact absurd ht hne
  · exact ⟨rfl, rfl⟩
  · have hne := hpair i j (by simpa) (by simpa) hlt
    rw [getElem_map, getElem_map] at hne
    exact absurd ht.symm hne

theorem eq_of_ticket {e : ExpectedAlAck} (hal : al ∈ b.queue) (he : e ∈ b.queue)
    (ht : e.ticket = al.ticket) : e = al := by
  obtain ⟨i, hi⟩ := List.getElem?_of_mem hal
  obtain ⟨j, hj⟩ := List.getElem?_of_mem he
  exact (h.place hj hi ht).2

theorem leave {queue : List ExpectedAlAck} (hq : queue.Sublist b.queue) :
    ({ b with queue := queue } : AlBooks).Tracked where
  numbered al hal := h.numbered al (hq.subset hal)
  logged := h.logged
  distinct := h.distinct.sublist (hq.map _)
  untouched al hal := h.untouched al (hq.subset hal)
  whole al hal := h.whole al (hq.subset hal)

theorem log_congr (hlog : ∀ ticket ss, SentIn log ticket ss ↔ SentIn b.log ticket ss) :
    ({ b with log := log } : AlBooks).Tracked where
  numbered := h.numbered
  logged ticket hs := h.logged ticket ((exists_congr (hlog ticket)).mp hs)
  distinct := h.distinct
  untouched al hal hs := h.untouched al hal (fun hs' => hs ((exists_congr (hlog al.ticket)).mpr hs'))
  whole al hal hs part hp :=
    (hlog _ _).mpr (h.whole al hal ((exists_congr (hlog al.ticket)).mp hs) part hp)

/-- A transfer is changed, and attempts on it are logged. -/
theorem set {al al' : ExpectedAlAck} (hi : b.queue[i]? = some al) (hid : al'.identity = al.identity)
    (honly : ∀ ticket, StartedIn more ticket → ticket = al.ticket)
    (huntouched : ¬StartedIn (b.log ++ more) al.ticket → al'.Pristine)
    (hwhole : al.Pristine → StartedIn more al.ticket →
      ∀ part ∈ al.identity.parts, SentIn more al.ticket part.1) :
    ({ b with queue := b.queue.set i al', log := b.log ++ more } : AlBooks).Tracked := by
  have hmem := List.mem_of_getElem? hi
  have hticket : al'.ticket = al.ticket := congrArg AlIdentity.ticket hid
  have hold : ∀ e ∈ b.queue.set i al', ∃ e0 ∈ b.queue, e.identity = e0.identity := by
    intro e he
    rcases mem_or_eq_of_mem_set he with he | rfl
    · exact ⟨e, he, rfl⟩
    · exact ⟨al, hmem, hid⟩
  constructor
  · intro e he
    obtain ⟨e0, he0, heq⟩ := hold e he
    exact (congrArg AlIdentity.ticket heq).trans_lt (h.numbered e0 he0)
  · intro ticket hs
    rcases startedIn_append.mp hs with hs | hs
    · exact h.logged ticket hs
    · exact honly ticket hs ▸ h.numbered al hmem
  · dsimp only
    rw [Lib.map_set hi hid]
    exact h.distinct
  · intro e he hs
    rcases mem_or_eq_of_mem_set he with he | rfl
    · exact h.untouched e he (fun hs' => hs (hs'.append _))
    · exact huntouched (hticket ▸ hs)
  · intro e he hs part hp
    obtain ⟨e0, he0, heq⟩ := hold e he
    have ht : e.ticket = e0.ticket := congrArg AlIdentity.ticket heq
    rw [heq] at hp
    rw [ht] at hs ⊢
    by_cases hbefore : StartedIn b.log e0.ticket
    · exact (h.whole e0 he0 hbefore part hp).append _
    · have hnow := (startedIn_append.mp hs).resolve_left hbefore
      cases h.eq_of_ticket hmem he0 (honly _ hnow)
      exact sentIn_append.mpr (.inr (hwhole (h.untouched al hmem hbefore) hnow part hp))

theorem number : ({ b with next := b.next + 1 } : AlBooks).Tracked where
  numbered al hal := Nat.lt_succ_of_lt (h.numbered al hal)
  logged ticket hs := Nat.lt_succ_of_lt (h.logged ticket hs)
  distinct := h.distinct
  untouched := h.untouched
  whole := h.whole

theorem enter (ht : al.ticket = b.next) (hp : al.Pristine) :
    ({ b with queue := b.queue ++ [al], next := b.next + 1 } : AlBooks).Tracked := by
  have hnew : ¬StartedIn b.log al.ticket := fun hs =>
    absurd (h.logged _ hs) (by rw [ht]; exact Nat.lt_irrefl _)
  have hcases : ∀ e ∈ b.queue ++ [al], e ∈ b.queue ∨ e = al := by simp
  constructor
  · intro e he
    rcases hcases e he with he | rfl
    · exact Nat.lt_succ_of_lt (h.numbered e he)
    · rw [ht]
      exact Nat.lt_succ_self _
  · exact fun ticket hs => Nat.lt_succ_of_lt (h.logged ticket hs)
  · dsimp only
    rw [map_append, pairwise_append]
    refine ⟨h.distinct, pairwise_singleton _ _, fun x hx y hy => ?_⟩
    obtain ⟨e, he, rfl⟩ := List.mem_map.mp hx
    cases mem_singleton.mp hy
    exact ne_of_lt (lt_of_lt_of_eq (h.numbered e he) ht.symm)
  · intro e he hs
    rcases hcases e he with he | rfl
    · exact h.untouched e he hs
    · exact hp
  · intro e he hs
    rcases hcases e he with he | rfl
    · exact h.whole e he hs
    · exact absurd hs hnew

end

/-- Books stay in order where what was not started is left alone. -/
theorem move (hc : c) (h : b.Tracked) (hm : AlMove c admits b b') : b'.Tracked := by
  cases hm with
  | leave hq => exact h.leave hq
  | @touch i al al' hi hid hs =>
    have hnone : ∀ ticket, ¬StartedIn [] ticket := by simp [StartedIn, SentIn]
    have hset := h.set hi hid (fun _ hs => absurd hs (hnone _)) (fun hn => ?_)
      (fun _ hs => absurd hs (hnone _))
    · simpa using hset
    · rw [append_nil] at hn
      have hp := h.untouched al (List.mem_of_getElem? hi) hn
      rwa [hs hc hp hn]
  | @complete i =>
    exact (h.leave (eraseIdx_sublist b.queue i)).log_congr
      (fun ticket ss => by simp [SentIn])
  | enter ht hp => exact h.enter ht hp
  | number => exact h.number
  | @submit i al al' reqs links blocked hi hid hselected hblocked hreqs hall =>
    have hpart : al.Pristine → ∀ part ∈ al.identity.parts,
        SentIn (reqs.map .sent) al.ticket part.1 := by
      intro hp part hpart
      obtain ⟨g, hg, rfl⟩ := List.mem_map.mp hpart
      obtain ⟨req, hreq, hrep⟩ := hall hp g hg
      exact ⟨req, List.mem_map_of_mem hreq, hrep⟩
    refine h.set hi hid (fun _ hs => startedIn_attempts hreqs hs) (fun hn => ?_)
      (fun hp _ => hpart hp)
    -- an untouched transfer has segments, and all of them are sent
    have hp := h.untouched al (List.mem_of_getElem? hi) (fun hs => hn (hs.append _))
    obtain ⟨g, hg⟩ := exists_mem_of_ne_nil _ hp.nonempty
    exact absurd (startedIn_append.mpr (.inr ⟨_, hpart hp _ (List.mem_map_of_mem hg)⟩)) hn

end AlBooks.Tracked

end NexusBs
