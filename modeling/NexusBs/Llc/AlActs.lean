import NexusBs.Llc.BlActs

namespace NexusBs.Llc
open List hiding any count
open Option hiding any
open Lib BitBuffer ExpectedAlSegment Function

variable {k : Terms} {s s' : Llc}

/-- What stays of a transfer that is changed: its identity, and whether its first transmission was
reported. -/
def Same (al al' : ExpectedAlAck) : Prop :=
  al'.identity = al.identity ∧ al'.firstCompleteReportSent = al.firstCompleteReportSent

theorem Same.trans (h : Same al al') (h' : Same al' al'') :
    Same al al'' := ⟨h'.1.trans h.1, h'.2.trans h.2⟩

/-! What keeps a transfer the same -/

theorem part_scanSelective (block : AlAckBlock) (after : Option Nat) (n : Nat) (whole : Bool)
    (l : List ExpectedAlSegment) :
    (scanSelective block after n whole l).segments.map part =
      l.map part := by
  induction l with
  | nil => rfl
  | cons g l ih =>
    unfold scanSelective
    dsimp only
    repeat' split
    all_goals first
      | (simp only [SelectiveScan.cons, map_cons, ih]; done)
      | (simp only [SelectiveScan.cons, map_cons, ih]; rfl)

theorem same_applyScan (al : ExpectedAlAck) (block : AlAckBlock) (after : Option Nat) (n : Nat)
    (whole : Bool) : Same al (applyScan al (scanSelective block after n whole al.segments)) := by
  have h := part_scanSelective block after n whole al.segments
  unfold applyScan
  dsimp only
  split <;> exact ⟨by simp only [ExpectedAlAck.identity, clearAlTimes, h], rfl⟩

theorem same_reset (al : ExpectedAlAck) : Same al (resetAlTransmissionAttempt al) := by
  refine ⟨?_, rfl⟩
  simp only [ExpectedAlAck.identity, resetAlTransmissionAttempt, List.map_map]
  rfl

variable {al : ExpectedAlAck} {idx : Nat} {peer : BasicLinkKey} {block : AlAckBlock}
  {after : Option Nat} {prim : TmaUnitdataInd} {pdu : BitBuffer} {key : AdvancedLinkKey} {q : Port}

theorem same_markSegmentDone (t : TdmaTime) (hi : al.segments[i]? = some g) :
    Same al (markSegmentDone al i g t) := by
  have h := Lib.map_set (f := part) (b := { g with
    currentMacReporter := g.currentMacReporter.map (·.tryMark .transmitted), tUmacDone := some t })
    hi rfl
  exact ⟨by simp only [ExpectedAlAck.identity, markSegmentDone, h], rfl⟩

theorem part_scheduleRequestedLoop (n : Nat) (l : List ExpectedAlSegment) :
    (scheduleRequestedLoop n l).1.map part = l.map part := by
  induction l with
  | nil => rfl
  | cons g l ih =>
    unfold scheduleRequestedLoop
    split
    · simp [ih]
    split
    · rfl
    · simp only [map_cons, ih]
      rfl

theorem same_scheduleRequested : Same al (scheduleRequestedAlSegmentRetries al n).1 := by
  have h := part_scheduleRequestedLoop n al.segments
  unfold scheduleRequestedAlSegmentRetries
  revert h
  generalize scheduleRequestedLoop n al.segments = r
  intro h
  obtain ⟨l, m, o⟩ := r
  cases o with
  | some => exact ⟨by simp only [ExpectedAlAck.identity, h], rfl⟩
  | none =>
    dsimp only
    split <;> exact ⟨by simp only [ExpectedAlAck.identity, clearAlTimes, h], rfl⟩

theorem same_scheduleProbe : Same al (scheduleAlAckRequestProbe al n).1 := by
  unfold scheduleAlAckRequestProbe
  split
  · exact ⟨rfl, rfl⟩
  dsimp only
  split
  · exact ⟨rfl, rfl⟩
  rename_i g hi
  split
  · exact ⟨rfl, rfl⟩
  have h := Lib.map_set (f := part)
    (b := { unsubmit g with ackRequestProbePending := true }) hi rfl
  exact ⟨by simp only [ExpectedAlAck.identity, clearAlTimes, h], rfl⟩

theorem same_scheduleAlSegments (al : ExpectedAlAck) (n : Nat) :
    Same al (scheduleAlSegments al n).1 := by
  unfold scheduleAlSegments
  split
  · exact same_scheduleRequested
  split
  · exact ⟨rfl, rfl⟩
  · exact same_scheduleProbe

theorem same_retryAlTlSdu (al : ExpectedAlAck) (t : TdmaTime) (n : Nat) :
    Same al (retryAlTlSdu al t n).1 := by
  unfold retryAlTlSdu
  repeat' split
  · exact (same_reset { al with retransmitCount := al.retransmitCount + 1 } :)
  all_goals exact ⟨rfl, rfl⟩

/-! Retry pass -/

theorem alCurrentMacState_pristine (h : al.Pristine) : alCurrentMacState al = none := by
  unfold alCurrentMacState
  rw [if_neg h.nonempty]
  have hs := h.segments
  have hne := h.nonempty
  cases hl : al.segments with
  | nil => exact absurd hl hne
  | cons g =>
    have hg := hs g (by rw [hl]; exact mem_cons_self)
    simp [alCurrentMacStateOf, hg.notAcknowledged, hg.noReporter]

theorem alTransferIsRnrAllowed_pristine (h : al.Pristine) : alTransferIsRnrAllowed al = false := by
  simp only [alTransferIsRnrAllowed, h.notReported, h.notSelective, Bool.or_self, Bool.false_or]
  exact List.any_eq_false.mpr (fun g hg => by simp [(h.segments g hg).notRequested])

section

variable (hi : s.outboundAlMessages[idx]? = some al)
include hi

theorem acts_alTouch (h : Same al al')
    (hs : k.started → al.Pristine → ¬StartedIn s.port.alLog al.ticket → al' = al) :
    Acts k s { s with outboundAlMessages := s.outboundAlMessages.set idx al' } :=
  (Act.alTouch hi h.1 h.2 hs).acts

theorem acts_alFirst (hid : al'.identity = al.identity)
    (hf : k.strict → al.firstCompleteReportSent = false) (hf' : al'.firstCompleteReportSent = true)
    (hs : k.started → al.Pristine → ¬StartedIn s.port.alLog al.ticket → al' = al) :
    Acts k s { s with
      outboundAlMessages := s.outboundAlMessages.set idx al'
      port := reportAlFirstComplete s.port al } :=
  (Act.alFirst hi hid hf hf' hs).acts

theorem acts_alComplete (hs : k.started → StartedIn s.port.alLog al.ticket)
    (hf : al.firstCompleteReportSent = true) (hq : s.port.markAcknowledged al.ticket = some q) :
    Acts k s { s with
      outboundAlMessages := s.outboundAlMessages.eraseIdx idx
      port := q.pushTlaReport (some al.ticket) al.reqHandle .successfulTransfer al.key.endpointId } :=
  (Act.alComplete hi hs hf hq).acts

theorem getElem?_set_self : (s.outboundAlMessages.set idx al')[idx]? = some al' := by
  obtain ⟨hlt, _⟩ := List.getElem?_eq_some_iff.mp hi
  simp [hlt]

theorem set_same : s.outboundAlMessages.set idx al = s.outboundAlMessages := by
  obtain ⟨hlt, rfl⟩ := List.getElem?_eq_some_iff.mp hi
  exact set_getElem_self hlt

end

theorem acts_noteAlUmacDone (t : TdmaTime) (hi : s.outboundAlMessages[idx]? = some al) :
    Acts k s { s with
      outboundAlMessages := s.outboundAlMessages.set idx (noteAlUmacDone s.port al t).2
      port := (noteAlUmacDone s.port al t).1 } := by
  unfold noteAlUmacDone
  dsimp only
  split
  · rename_i hstate
    -- nothing was heard of an untouched transfer
    have hnot : ∀ {al' : ExpectedAlAck}, al.Pristine → al' = al := fun hp => by
      simp [alCurrentMacState_pristine hp] at hstate
    split
    · rename_i hfirst
      simp only [Bool.and_eq_true, Bool.not_eq_true'] at hfirst
      have hact := acts_alFirst (k := k) hi (show ExpectedAlAck.identity { al with
        tUmacDone := some t, firstCompleteReportSent := true } = al.identity from rfl)
        (fun _ => hfirst.2) rfl (fun _ hp _ => hnot hp)
      exact hact
    · exact acts_alTouch hi ⟨rfl, rfl⟩ (fun _ hp _ => hnot hp)
  · rw [set_same hi]
    exact Acts.refl

theorem acts_retryAlOne (links : AdvancedLinkKey → Option AdvancedLinkSession) (t : TdmaTime)
    (hi : s.outboundAlMessages[idx]? = some al) :
    Acts k s { s with
      outboundAlMessages := s.outboundAlMessages.set idx (retryAlOne links t s.port al).2.1
      port := (retryAlOne links t s.port al).1 } := by
  have hnote := acts_noteAlUmacDone (k := k) t hi
  unfold retryAlOne
  split
  · rw [set_same hi]
    exact Acts.refl
  revert hnote
  generalize noteAlUmacDone s.port al t = r
  intro hnote
  obtain ⟨p, al1⟩ := r
  have hagain : ∀ {al2 : ExpectedAlAck}, al1.tUmacDone ≠ none → Same al1 al2 →
      Acts k s { s with outboundAlMessages := s.outboundAlMessages.set idx al2, port := p } := by
    intro al2 hdone hsame
    have htouch := acts_alTouch (k := k) (s := { s with
      outboundAlMessages := s.outboundAlMessages.set idx al1, port := p })
      (getElem?_set_self hi) hsame (fun _ hp _ => absurd hp.notDone hdone)
    rw [List.set_set] at htouch
    exact hnote.trans htouch
  dsimp only at hagain ⊢
  split
  · exact hnote
  rename_i done hdone
  have hne : al1.tUmacDone ≠ none := by rw [hdone]; exact some_ne_none _
  split
  · exact hnote
  have hsched := same_scheduleAlSegments al1 (maxSegmentRetransmissions links al1.key)
  split
  · rename_i al2 heq
    rw [heq] at hsched
    exact hagain hne hsched
  · rename_i al2 o _ heq
    rw [heq] at hsched
    exact hagain hne (hsched.trans (same_retryAlTlSdu _ _ _))

theorem acts_retryAlAll (links : AdvancedLinkKey → Option AdvancedLinkSession) (t : TdmaTime)
    (A l : List ExpectedAlAck) (hs : s.outboundAlMessages = A ++ l) :
    Acts k s { s with
      outboundAlMessages := A ++ (retryAlAll links t s.port l).2.map (·.1)
      port := (retryAlAll links t s.port l).1 } := by
  induction l generalizing s A with
  | nil =>
    rw [retryAlAll, map_nil, ← hs]
    exact Acts.refl
  | cons al l ih =>
    have hone := acts_retryAlOne (k := k) links t
      (show s.outboundAlMessages[A.length]? = some al by simp [hs])
    unfold retryAlAll
    revert hone
    generalize retryAlOne links t s.port al = r
    intro hone
    obtain ⟨p, al', up⟩ := r
    have hset : s.outboundAlMessages.set A.length al' = A ++ al' :: l := by simp [hs]
    rw [hset] at hone
    have hrest := ih (s := { s with outboundAlMessages := A ++ al' :: l, port := p }) (A ++ [al'])
      (by simp)
    rw [append_assoc, singleton_append] at hrest
    exact hone.trans hrest

theorem acts_submitAlRetransmissionsToUmac : Acts k s s.submitAlRetransmissionsToUmac := by
  have hall := acts_retryAlAll (k := k) s.advancedLinks s.dltime [] s.outboundAlMessages rfl
  unfold submitAlRetransmissionsToUmac
  revert hall
  generalize retryAlAll s.advancedLinks s.dltime s.port s.outboundAlMessages = r
  intro hall
  obtain ⟨p, messages⟩ := r
  refine hall.trans (Act.alFail ?_ (filter_sublist.map _)).acts
  dsimp only
  rw [nil_append, ← map_append]
  exact ((filter_append_perm (·.2) messages).symm.trans
    ((reverse_perm _).symm.append_right _)).map _

/-! Submission -/

theorem skipsSubmission_untouched (h : g.Untouched) : skipsSubmission n g = false := by
  simp [skipsSubmission, h.notAcknowledged, h.notSubmitted, h.notRequested]

theorem submitSegments_spec (h : submitSegments ticket t n p l = some (q, l', any)) :
    ∃ reqs : List TmaUnitdataReq,
      q = { p with queue := p.queue ++ reqs.map .tmaUnitdataReq } ∧
      l'.map part = l.map part ∧
      (∀ req ∈ reqs, ∃ g ∈ l, g.Attempted ticket req) ∧
      ∀ g ∈ l, skipsSubmission n g = false → ∃ req ∈ reqs, req.txReporter = some (.al ticket g.ss) := by
  induction l generalizing p l' any with
  | nil =>
    cases h
    exact ⟨[], by simp, rfl, (fun _ hr => by cases hr), (fun _ hg => by cases hg)⟩
  | cons g l ih =>
    unfold submitSegments at h
    split at h
    · rename_i hskip
      obtain ⟨⟨q1, l1, any1⟩, hrec, heq⟩ := map_eq_some_iff.mp h
      cases heq
      obtain ⟨reqs, hport, hpart, hreq, hall⟩ := ih hrec
      refine ⟨reqs, hport, by simp [hpart], fun req hr => ?_, fun g' hg' hskip' => ?_⟩
      · obtain ⟨g', hg', ha⟩ := hreq req hr
        exact ⟨g', mem_cons_of_mem _ hg', ha⟩
      · rcases mem_cons.mp hg' with rfl | hg'
        · rw [hskip] at hskip'
          cases hskip'
        · exact hall g' hg' hskip'
    · simp only [bind_eq_bind, bind_eq_some_iff] at h
      obtain ⟨pdu, hpdu, ⟨q1, l1, any1⟩, hrec, heq⟩ := h
      cases heq
      obtain ⟨reqs, hport, hpart, hreq, hall⟩ := ih hrec
      refine ⟨{ g.retransmissionBuf with pdu := pdu, txReporter := some (.al ticket g.ss) } :: reqs,
        ?_, ?_, ?_, ?_⟩
      · rw [hport]
        simp [Port.push]
      · simp only [map_cons, hpart]
        rfl
      · intro req hr
        rcases mem_cons.mp hr with rfl | hr
        · exact ⟨g, mem_cons_self, pdu, hpdu, rfl⟩
        · obtain ⟨g', hg', ha⟩ := hreq req hr
          exact ⟨g', mem_cons_of_mem _ hg', ha⟩
      · intro g' hg' hskip'
        rcases mem_cons.mp hg' with rfl | hg'
        · exact ⟨_, mem_cons_self, rfl⟩
        · obtain ⟨req, hr, hrep⟩ := hall g' hg' hskip'
          exact ⟨req, mem_cons_of_mem _ hr, hrep⟩

theorem acts_submitFreeAlLoop
    (hb : ∀ e ∈ s.outboundAlMessages, e.tSubmittedToUmac.isSome = true → e.key ∈ blocked)
    (h : submitFreeAlLoop links t fuel s.port s.outboundAlMessages blocked = some (q, queue')) :
    Acts k s { s with outboundAlMessages := queue', port := q } := by
  induction fuel generalizing s blocked with
  | zero =>
    cases h
    exact Acts.refl
  | succ fuel ih =>
    unfold submitFreeAlLoop at h
    split at h
    · cases h
      exact Acts.refl
    rename_i idx hsel
    split at h
    · cases h
    rename_i al hi
    simp only [submitForAlTransmission, bind_eq_bind, bind_eq_some_iff] at h
    obtain ⟨r, ⟨⟨p1, segments, any⟩, hsub, heq⟩, h⟩ := h
    cases heq
    obtain ⟨reqs, rfl, hpart, hreq, hall⟩ := submitSegments_spec hsub
    have hact := Act.acts (k := k) (.alSubmit hi (show ExpectedAlAck.identity { al with
        segments := segments
        tSubmittedToUmac := if any then some (t.forwardToTimeslot al.tFirst.t) else al.tSubmittedToUmac
        tUmacDone := none } = al.identity by simp [ExpectedAlAck.identity, hpart]) rfl hsel hb hreq
      (fun hp g hg => hall g hg (skipsSubmission_untouched (hp.segments g hg))))
    refine hact.trans (ih (fun e he hsome => ?_) h)
    rcases mem_or_eq_of_mem_set he with he | rfl
    · exact mem_cons_of_mem _ (hb e he hsome)
    · exact mem_cons_self

theorem acts_submitFreeAlMessagesToUmac (h : s.submitFreeAlMessagesToUmac = some s') :
    Acts k s s' := by
  simp only [submitFreeAlMessagesToUmac, bind_eq_bind, bind_eq_some_iff] at h
  obtain ⟨⟨p, queue⟩, hloop, h⟩ := h
  cases h
  have hclear : Acts k s s.clearExpiredAlReceiverNotReady := (Act.aside id id).acts
  refine hclear.trans (acts_submitFreeAlLoop (fun e he hsome => ?_) hloop)
  exact List.mem_map_of_mem (mem_filter.mpr ⟨he, hsome⟩)

/-! Acknowledgements from the peer -/

theorem alLog_completeOutboundAl (hi : s.outboundAlMessages[idx]? = some al)
    (h : s.completeOutboundAlTransferAtIndex idx = some s') :
    s'.port.alLog = s.port.alLog ++ [.succeeded al.ticket] := by
  unfold completeOutboundAlTransferAtIndex at h
  rw [hi] at h
  obtain ⟨p, hp, rfl⟩ := map_eq_some_iff.mp h
  change Port.alLog (Port.pushTlaReport _ _ _ _ _) = _
  rw [Port.pushTlaReport, Port.alLog_push, Port.alLog_mark hp]
  split
  · rfl
  · simp [reportAlFirstComplete, Port.markServiceFirstComplete, SapMsg.alEvent]

theorem outboundAl_complete (h : s.completeOutboundAlTransferAtIndex idx = some s') :
    s'.outboundAlMessages = s.outboundAlMessages.eraseIdx idx := by
  unfold completeOutboundAlTransferAtIndex at h
  split at h
  · rename_i hnone
    cases h
    rw [eraseIdx_of_length_le (List.getElem?_eq_none_iff.mp hnone)]
  · obtain ⟨p, _, rfl⟩ := map_eq_some_iff.mp h
    rfl

theorem outboundAl_fail :
    (s.failOutboundAlTransferAtIndex idx).outboundAlMessages = s.outboundAlMessages.eraseIdx idx := by
  unfold failOutboundAlTransferAtIndex
  split
  · rename_i hnone
    rw [eraseIdx_of_length_le (List.getElem?_eq_none_iff.mp hnone)]
  · rfl

theorem acts_completeOutboundAl (hi : s.outboundAlMessages[idx]? = some al)
    (hs : k.started → StartedIn s.port.alLog al.ticket)
    (h : s.completeOutboundAlTransferAtIndex idx = some s') : Acts k s s' := by
  unfold completeOutboundAlTransferAtIndex at h
  rw [hi] at h
  obtain ⟨p, hp, rfl⟩ := map_eq_some_iff.mp h
  split at hp
  · rename_i hf
    exact acts_alComplete hi hs hf hp
  · rename_i hf
    have hfirst := acts_alFirst (k := k) hi (show ExpectedAlAck.identity { al with
      firstCompleteReportSent := true } = al.identity from rfl)
      (fun _ => Bool.eq_false_of_not_eq_true hf) rfl (fun hc _ hn => absurd (hs hc) hn)
    have hlog : (reportAlFirstComplete s.port al).alLog = s.port.alLog := by
      simp [reportAlFirstComplete, Port.markServiceFirstComplete]
    refine hfirst.trans ?_
    have hdone := acts_alComplete (k := k)
      (s := { s with
        outboundAlMessages := s.outboundAlMessages.set idx { al with firstCompleteReportSent := true }
        port := reportAlFirstComplete s.port al })
      (getElem?_set_self hi)
      (fun hc => by rw [hlog]; exact hs hc) rfl hp
    rwa [eraseIdx_set_eq] at hdone

theorem acts_failOutboundAl (s : Llc) (idx : Nat) : Acts k s (s.failOutboundAlTransferAtIndex idx) := by
  unfold failOutboundAlTransferAtIndex
  split
  · exact Acts.refl
  rename_i al hi
  obtain ⟨A, B, hl, _, _, herase, _⟩ := split_at hi
  refine (@Act.alFail k s [al] _ ?_ (eraseIdx_sublist _ _)).acts
  rw [herase, hl]
  exact perm_middle

/-- What a block does to the transfer that its N(R) singles out. -/
inductive Answered (s : Llc) (idx : Nat) (al : ExpectedAlAck) : Llc → Prop
  | same : Answered s idx al s
  | kept {al' : ExpectedAlAck} (h : Same al al') :
      Answered s idx al { s with outboundAlMessages := s.outboundAlMessages.set idx al' }
  | failed {al' : ExpectedAlAck} (h : Same al al') :
      Answered s idx al (({ s with outboundAlMessages := s.outboundAlMessages.set idx al' } :
        Llc).failOutboundAlTransferAtIndex idx)
  | completed {al' : ExpectedAlAck} {s' : Llc} (h : Same al al')
      (hs : ({ s with outboundAlMessages := s.outboundAlMessages.set idx al' } :
        Llc).completeOutboundAlTransferAtIndex idx = some s') : Answered s idx al s'

theorem answered_rxAlSelectiveBlock (h : s.rxAlSelectiveBlock idx al block after = some s') :
    Answered s idx al s' := by
  unfold rxAlSelectiveBlock at h
  dsimp only at h
  have hsame := same_applyScan al block after (maxSegmentRetransmissions s.advancedLinks al.key)
    (decide (al.retransmitCount < maxTlSduRetransmissions s.advancedLinks al.key))
  revert h hsame
  generalize applyScan al _ = scanned
  intro h hsame
  split at h
  · split at h
    · cases h
      exact .kept (hsame.trans (same_reset { scanned with
        retransmitCount := scanned.retransmitCount + 1 } :))
    split at h
    · cases h
      exact .kept hsame
    · cases h
      exact .failed hsame
  split at h
  · exact .completed hsame h
  · cases h
    exact .kept hsame

theorem mem_indicesWhere {α : Type} {p : α → Bool} {l : List α} {i : Nat} :
    i ∈ indicesWhere p l ↔ ∃ a, l[i]? = some a ∧ p a = true := by
  rw [indicesWhere, mem_filter, mem_range, Option.any_eq_true]
  refine ⟨And.right, fun h => ⟨?_, h⟩⟩
  obtain ⟨a, ha, _⟩ := h
  exact (List.getElem?_eq_some_iff.mp ha).1

theorem indicesWhere_eq_singleton {α : Type} {p : α → Bool} {l : List α} {i : Nat} :
    indicesWhere p l = [i] ↔ (∃ a, l[i]? = some a ∧ p a = true) ∧
      ∀ j a, l[j]? = some a → p a = true → j = i := by
  have hnodup : (indicesWhere p l).Nodup := nodup_range.filter _
  rw [← perm_singleton, perm_ext_iff_of_nodup hnodup (nodup_singleton _)]
  simp only [mem_indicesWhere, mem_singleton]
  constructor
  · exact fun h => ⟨(h i).mpr rfl, fun j a hj hp => (h j).mp ⟨a, hj, hp⟩⟩
  · rintro ⟨hi, honly⟩ j
    refine ⟨fun ⟨a, hj, hp⟩ => honly j a hj hp, ?_⟩
    rintro rfl
    exact hi

/-- N(R) singles out a transfer when that transfer has it as its N(S) and no other of the peer does. -/
theorem findOutboundAlAckBlockMatch_iff : findOutboundAlAckBlockMatch messages peer nr = some idx ↔
      (∃ al, messages[idx]? = some al ∧ al.key.peer = peer ∧ al.ns = nr) ∧
        ∀ j al, messages[j]? = some al → al.key.peer = peer → al.ns = nr → j = idx := by
  have hmatch : findOutboundAlAckBlockMatch messages peer nr = some idx ↔
      indicesWhere (fun al : ExpectedAlAck => decide (al.key.peer = peer) && al.ns == nr) messages =
        [idx] := by
    unfold findOutboundAlAckBlockMatch indicesWhere
    split <;> simp_all
  rw [hmatch, indicesWhere_eq_singleton]
  simp only [Bool.and_eq_true, decide_eq_true_eq, beq_iff_eq, and_imp]

theorem answered_rxAlAckBlock (h : s.rxAlAckBlock peer block after = some s') :
    s' = s ∨ ∃ idx al, findOutboundAlAckBlockMatch s.outboundAlMessages peer block.nr = some idx ∧
      s.outboundAlMessages[idx]? = some al ∧ Answered s idx al s' := by
  unfold rxAlAckBlock at h
  split at h
  · cases h
    exact .inl rfl
  rename_i idx hmatch
  obtain ⟨⟨al, hi, _, _⟩, _⟩ := findOutboundAlAckBlockMatch_iff.mp hmatch
  refine .inr ⟨idx, al, hmatch, hi, ?_⟩
  have hsame : ({ s with outboundAlMessages := s.outboundAlMessages.set idx al } : Llc) = s := by
    rw [set_same hi]
  rw [hi] at h
  dsimp only at h
  split at h
  · exact .completed ⟨rfl, rfl⟩ (by rw [hsame]; exact h)
  split at h
  · cases h
    exact .same
  split at h
  · split at h
    · cases h
      exact .kept (same_reset { al with retransmitCount := al.retransmitCount + 1 } :)
    · cases h
      have hfailed := @Answered.failed s idx al al ⟨rfl, rfl⟩
      rwa [hsame] at hfailed
  split at h
  · exact answered_rxAlSelectiveBlock h
  · cases h
    exact .same

/-- The transfer that an N(R) singles out, if any, was started. -/
def SinglesOutStarted (s : Llc) (peer : BasicLinkKey) (nr : Nat) : Prop :=
  ∀ idx ∈ findOutboundAlAckBlockMatch s.outboundAlMessages peer nr,
    ∀ al ∈ s.outboundAlMessages[idx]?, StartedIn s.port.alLog al.ticket

theorem acts_rxAlAckBlock (hs : k.started → s.SinglesOutStarted peer block.nr)
    (h : s.rxAlAckBlock peer block after = some s') : Acts k s s' := by
  rcases answered_rxAlAckBlock h with rfl | ⟨idx, al, hmatch, hi, hanswer⟩
  · exact Acts.refl
  have hstarted : k.started → StartedIn s.port.alLog al.ticket := fun hc => hs hc idx hmatch al hi
  have htouch : ∀ {al' : ExpectedAlAck}, Same al al' →
      Acts k s { s with outboundAlMessages := s.outboundAlMessages.set idx al' } :=
    fun hsame => acts_alTouch hi hsame (fun hc _ hn => absurd (hstarted hc) hn)
  cases hanswer with
  | same => exact Acts.refl
  | kept hsame => exact htouch hsame
  | failed hsame => exact (htouch hsame).trans (acts_failOutboundAl _ _)
  | @completed al' _ hsame hdone =>
    have hticket : al'.ticket = al.ticket := congrArg AlIdentity.ticket hsame.1
    exact (htouch hsame).trans (acts_completeOutboundAl (getElem?_set_self hi)
      (fun hc => by rw [hticket]; exact hstarted hc) hdone)

/-- At most one transfer changes or leaves, the one that the N(R) singles out. -/
theorem identities_rxAlAckBlock (h : s.rxAlAckBlock peer block after = some s') :
    s'.outboundAlMessages.map ExpectedAlAck.identity =
      s.outboundAlMessages.map ExpectedAlAck.identity ∨
    ∃ idx, findOutboundAlAckBlockMatch s.outboundAlMessages peer block.nr = some idx ∧
      s'.outboundAlMessages.map ExpectedAlAck.identity =
        (s.outboundAlMessages.eraseIdx idx).map ExpectedAlAck.identity := by
  rcases answered_rxAlAckBlock h with rfl | ⟨idx, al, hmatch, hi, hanswer⟩
  · exact .inl rfl
  cases hanswer with
  | same => exact .inl rfl
  | kept hsame => exact .inl (Lib.map_set hi hsame.1)
  | failed =>
    refine .inr ⟨idx, hmatch, ?_⟩
    rw [outboundAl_fail, eraseIdx_set_eq]
  | completed hsame hdone =>
    refine .inr ⟨idx, hmatch, ?_⟩
    rw [outboundAl_complete hdone, eraseIdx_set_eq]

theorem findOutboundAlAckBlockMatch_congr
    (h : l'.map ExpectedAlAck.identity = l.map ExpectedAlAck.identity) :
    findOutboundAlAckBlockMatch l' peer nr = findOutboundAlAckBlockMatch l peer nr := by
  have hlen : l'.length = l.length := by simpa using congrArg List.length h
  have hany : ∀ i : Nat, (l'[i]?).any (fun al => decide (al.key.peer = peer) && al.ns == nr) =
      (l[i]?).any (fun al => decide (al.key.peer = peer) && al.ns == nr) := by
    intro i
    have hi := congrArg (fun ids => (ids[i]?).any
      (fun id : AlIdentity => decide (id.key.peer = peer) && id.ns == nr)) h
    simp only [List.getElem?_map, Option.any_map] at hi
    exact hi
  simp [findOutboundAlAckBlockMatch, hlen, hany]

/-- What an N(R) singles out once another transfer has left, it singled out before. -/
theorem findOutboundAlAckBlockMatch_erase
    (hmatch : findOutboundAlAckBlockMatch l peer nr = some idx)
    (h : findOutboundAlAckBlockMatch (l.eraseIdx idx) peer nr' = some idx')
    (hal : (l.eraseIdx idx)[idx']? = some al) :
    ∃ j, findOutboundAlAckBlockMatch l peer nr' = some j ∧ l[j]? = some al := by
  obtain ⟨⟨gone, hgone, _, hns⟩, honly⟩ := findOutboundAlAckBlockMatch_iff.mp hmatch
  obtain ⟨⟨al', hal', hpeer', hns'⟩, honly'⟩ := findOutboundAlAckBlockMatch_iff.mp h
  rw [hal] at hal'
  cases hal'
  -- the place before the removal
  obtain ⟨j, hj, hji⟩ : ∃ j, l[j]? = some al ∧ j ≠ idx := by
    rw [List.getElem?_eraseIdx] at hal
    split at hal
    · exact ⟨idx', hal, by omega⟩
    · exact ⟨idx' + 1, hal, by omega⟩
  refine ⟨j, findOutboundAlAckBlockMatch_iff.mpr ⟨⟨al, hj, hpeer', hns'⟩, fun k a hk hpa hna => ?_⟩, hj⟩
  have hplace : ∀ {k : Nat} {a : ExpectedAlAck}, l[k]? = some a → k ≠ idx → a.key.peer = peer →
      a.ns = nr' → (if k < idx then k else k - 1) = idx' := by
    intro k a hk hki hpa hna
    refine honly' _ a ?_ hpa hna
    rcases Nat.lt_or_gt_of_ne hki with hlt | hgt
    · rw [if_pos hlt, List.getElem?_eraseIdx, if_pos hlt]
      exact hk
    · rw [if_neg (by omega), List.getElem?_eraseIdx, if_neg (by omega), Nat.sub_add_cancel (by omega)]
      exact hk
  have hki : k ≠ idx := by
    rintro rfl
    rw [hgone] at hk
    cases hk
    exact hji (honly j al hj hpeer' (hns'.trans (hna.symm.trans hns)))
  have h1 := hplace hk hki hpa hna
  have h2 := hplace hj hji hpeer' hns'
  rw [← h2] at h1
  split at h1 <;> split at h1 <;> omega

theorem SinglesOutStarted.rxAlAckBlock (h : s.rxAlAckBlock peer block after = some s')
    (hlog : s.port.alLog <+: s'.port.alLog) (hs : s.SinglesOutStarted peer nr) :
    s'.SinglesOutStarted peer nr := by
  intro idx hmatch al hal
  obtain ⟨j, hj, e, he, hid⟩ : ∃ j, findOutboundAlAckBlockMatch s.outboundAlMessages peer nr = some j ∧
      ∃ e, s.outboundAlMessages[j]? = some e ∧ e.identity = al.identity := by
    rcases identities_rxAlAckBlock h with heq | ⟨i, hi, heq⟩
    · rw [mem_def, findOutboundAlAckBlockMatch_congr heq] at hmatch
      obtain ⟨e, he, hid⟩ := Lib.getElem?_of_map_eq heq hal
      exact ⟨idx, hmatch, e, he, hid⟩
    · rw [mem_def, findOutboundAlAckBlockMatch_congr heq] at hmatch
      obtain ⟨e, he, hid⟩ := Lib.getElem?_of_map_eq heq hal
      obtain ⟨j, hj, hje⟩ := findOutboundAlAckBlockMatch_erase hi hmatch he
      exact ⟨j, hj, e, hje, hid⟩
  have hticket : e.ticket = al.ticket := congrArg AlIdentity.ticket hid
  obtain ⟨more, hmore⟩ := hlog
  rw [← hmore, ← hticket]
  exact (hs j hj e he).append more

theorem acts_rxAlAckBlocks (hs : k.started → ∀ block ∈ blocks, s.SinglesOutStarted peer block.nr)
    (h : s.rxAlAckBlocks peer blocks nr covered = some s') : Acts k s s' := by
  induction blocks generalizing s nr covered with
  | nil =>
    cases h
    exact Acts.refl
  | cons block blocks ih =>
    obtain ⟨t, ht, h⟩ := bind_eq_some_iff.mp h
    have hone : Acts k s t := acts_rxAlAckBlock (fun hc => hs hc block mem_cons_self) ht
    refine hone.trans (ih (fun hc block' hb => ?_) h)
    exact (hs hc block' (mem_cons_of_mem _ hb)).rxAlAckBlock ht hone.alMoves.log_prefix

theorem acts_applyAlReceiverFlowControl (s : Llc) (peer : BasicLinkKey) (ready : Bool) :
    Acts k s (s.applyAlReceiverFlowControl peer ready) := by
  unfold applyAlReceiverFlowControl
  split
  · exact Acts.refl
  · exact (Act.aside id id).acts

theorem alBooks_applyAlReceiverFlowControl (s : Llc) (peer : BasicLinkKey) (ready : Bool) :
    (s.applyAlReceiverFlowControl peer ready).alBooks = s.alBooks := by
  unfold applyAlReceiverFlowControl
  split <;> rfl

/-- An AL-ACK that singles out only transfers that were started. -/
def AcksStarted (s : Llc) (prim : TmaUnitdataInd) : Prop :=
  ∀ pdu ∈ prim.pdu, ∀ ack ∈ (AlAck.fromBitbuf pdu).toOption.map Prod.fst,
    ∀ block ∈ ack.acknowledgementBlocks,
      s.SinglesOutStarted ⟨prim.mainAddress, prim.endpointId⟩ block.nr

theorem acts_rxAlAck (hp : prim.pdu = some pdu) (hs : k.started → s.AcksStarted prim)
    (h : s.rxAlAck prim pdu = some s') : Acts k s s' := by
  unfold rxAlAck at h
  split at h
  · cases h
    exact Acts.refl
  rename_i ack rest hparse
  have hbooks := alBooks_applyAlReceiverFlowControl s ⟨prim.mainAddress, prim.endpointId⟩
    ack.receiverReady
  refine (acts_applyAlReceiverFlowControl s _ ack.receiverReady).trans
    (acts_rxAlAckBlocks (fun hc block hb => ?_) h)
  have hqueue := congrArg AlBooks.queue hbooks
  have hlog := congrArg AlBooks.log hbooks
  dsimp only [alBooks] at hqueue hlog
  unfold SinglesOutStarted
  rw [hqueue, hlog]
  exact hs hc pdu hp ack (by simp [hparse, Except.toOption]) block hb

/-! Assemblies -/

theorem fits_insertAlSegment (h : ∀ assembly ∈ existing, assembly.Fits)
    (hh : header.ns < 8 ∧ header.ss < 256) : (insertAlSegment existing header g).Fits := by
  have hbase : ∀ base : AdvancedLinkReceiveAssembly, base.Fits →
      AdvancedLinkReceiveAssembly.Fits { base with
        segments := fun ss => if ss = header.ss then some ((base.segments ss).getD g)
          else base.segments ss
        finalSs := if header.finalSegment then some header.ss else base.finalSs } := by
    intro base hb
    refine ⟨hb.1, fun f hf => ?_⟩
    dsimp only at hf
    split at hf
    · cases hf
      exact hh.2
    · exact hb.2 f hf
  unfold insertAlSegment
  dsimp only
  split
  · rename_i a ha
    exact hbase a (h a (filter_eq_some_iff.mp ha).1)
  · exact hbase ⟨header.ns, fun _ => none, none⟩ ⟨hh.1, fun f hf => by cases hf⟩

theorem assembliesFit_update {rx : AdvancedLinkKey → Option AdvancedLinkReceiveAssembly}
    {key : AdvancedLinkKey} {new : Option AdvancedLinkReceiveAssembly} (h : AssembliesFit rx)
    (hn : ∀ assembly ∈ new, assembly.Fits) : AssembliesFit (update rx key new) := by
  intro k assembly ha
  rw [update_apply] at ha
  split at ha
  · exact hn assembly ha
  · exact h k assembly ha

theorem acts_forgetAssembly (key : AdvancedLinkKey) :
    Acts k s { s with advancedLinkRx := update s.advancedLinkRx key none } :=
  (Act.aside id (fun hf => assembliesFit_update hf (fun _ ha => by cases ha))).acts

theorem acts_pushAlAck (h : pushAlAckToUmac s.port key a handle aie = some q) :
    Acts k s { s with port := q } := by
  simp only [pushAlAckToUmac, bind_eq_bind, bind_eq_some_iff] at h
  obtain ⟨_, _, _, _, h⟩ := h
  cases h
  exact (Act.say rfl rfl).acts

theorem acts_sendAlAck (h : s.sendAlAck key a aie = some s') : Acts k s s' := by
  obtain ⟨p, hp, rfl⟩ := map_eq_some_iff.mp h
  exact (acts_takeTlDataIndReqHandle s).trans (acts_pushAlAck hp)

theorem acts_indicateAlTlSdu (h : s.indicateAlTlSdu prim key ns complete = some s') :
    Acts k s s' := by
  simp only [indicateAlTlSdu, bind_eq_bind, bind_eq_some_iff] at h
  obtain ⟨_, _, _, _, p, hp, h⟩ := h
  cases h
  have hmark : Acts k s { s with
      advancedLinks := update s.advancedLinks key ((s.advancedLinks key).map
        (fun session : AdvancedLinkSession => { session with lastDeliveredNs := some ns })) } :=
    (Act.aside id id).acts
  have hsay : ∀ (t : Llc) (handle : Todo) (ind : TlaInd),
      Acts k t { t with port := t.port.push (.tlaTlDataIndBl handle ind) } :=
    fun _ _ _ => (Act.say rfl rfl).acts
  exact hmark.trans ((acts_takeTlDataIndReqHandle _).trans
    ((hsay _ _ _).trans (acts_pushAlAck hp)))

theorem acts_deliverAlTlSdu (h : s.deliverAlTlSdu prim key ns complete = some s') :
    Acts k s s' := by
  simp only [deliverAlTlSdu, bind_eq_bind, bind_eq_some_iff] at h
  obtain ⟨ok, _, h⟩ := h
  refine (acts_forgetAssembly key).trans ?_
  split at h
  · exact acts_indicateAlTlSdu h
  · exact acts_sendAlAck h

theorem acts_rxAlDataFinal (h : s.rxAlDataFinal prim pdu = some s') : Acts k s s' := by
  unfold rxAlDataFinal at h
  split at h
  · cases h
    exact Acts.refl
  rename_i header rest hparse
  split at h
  · cases h
    exact Acts.refl
  rename_i key _
  split at h
  · exact acts_sendAlAck h
  have hnew : Acts k s { s with
      advancedLinkRx := update s.advancedLinkRx key (some
        (insertAlSegment (s.advancedLinkRx key) header (fromBitbufferPos rest))) } :=
    (Act.aside id (fun hf => assembliesFit_update hf (fun a ha => by
      cases ha
      exact fits_insertAlSegment (hf key) (AlData.fromBitbuf_lt hparse)))).acts
  simp only [bind_eq_bind, bind_eq_some_iff] at h
  obtain ⟨complete, _, h⟩ := h
  split at h
  · exact hnew.trans (acts_deliverAlTlSdu h)
  split at h
  · exact hnew.trans (acts_sendAlAck h)
  · cases h
    exact hnew

/-! Setup -/

/-- The transfers on the other links of a peer are forgotten without a report. -/
theorem acts_clearOther (s : Llc) (key : AdvancedLinkKey)
    (h : k.strict → ∀ al ∈ s.outboundAlMessages, isOtherLink key al.key = false) :
    Acts k s (s.clearOtherOriginalAdvancedLinks key) := by
  have hrx : AssembliesFit s.advancedLinkRx →
      AssembliesFit (s.clearOtherOriginalAdvancedLinks key).advancedLinkRx := by
    intro hf other assembly ha
    change assembly ∈ (if isOtherLink key other then none else s.advancedLinkRx other) at ha
    split at ha
    · cases ha
    · exact hf other assembly ha
  have hqueue : Acts k s { s with
      outboundAlMessages := s.outboundAlMessages.filter (fun al => !isOtherLink key al.key) } := by
    by_cases hc : k.strict
    · rw [filter_eq_self.mpr (fun al hal => by simp [h hc al hal])]
      exact Acts.refl
    · exact (Act.alDrop filter_sublist hc).acts
  refine hqueue.trans (Act.acts (.aside id ?_))
  exact hrx

theorem acts_clearTransferState (s : Llc) (key : AdvancedLinkKey) :
    Acts k s (s.clearAdvancedLinkTransferState key) := by
  refine (acts_forgetAssembly key).trans (Act.alFail ?_ filter_sublist).acts
  exact (filter_append_perm (fun al : ExpectedAlAck => decide (al.key = key)) _).symm

theorem acts_rxAlSetup (hp : prim.pdu = some pdu) (hd : k.strict → ¬s.DropsTransfers prim)
    (h : s.rxAlSetup prim pdu = some s') : Acts k s s' := by
  unfold rxAlSetup at h
  split at h
  · cases h
    exact Acts.refl
  rename_i setup rest hparse
  split at h
  · cases h
    exact Acts.refl
  rename_i horiginal
  have hclear : Acts k s ((s.clearOtherOriginalAdvancedLinks ⟨prim.mainAddress, prim.endpointId,
      setup.linkId⟩).clearAdvancedLinkTransferState ⟨prim.mainAddress, prim.endpointId,
        setup.linkId⟩) := by
    refine (acts_clearOther s _ (fun hc al hal => ?_)).trans (acts_clearTransferState _ _)
    by_contra hne
    have hsetup : setup ∈ prim.alSetup := by
      simp [TmaUnitdataInd.alSetup, hp, hparse, Except.toOption]
    exact hd hc ⟨setup, hsetup, by simpa using horiginal, al, hal, by simpa using hne⟩
  have hestablish : Acts k s (s.establishAdvancedLink ⟨prim.mainAddress, prim.endpointId,
      setup.linkId⟩ setup) := hclear.trans (Act.aside id id).acts
  dsimp only at h
  split at h
  · cases h
    exact hestablish
  obtain ⟨p, hp, h⟩ := map_eq_some_iff.mp h
  cases h
  simp only [pushAlSetupResponseToUmac, bind_eq_bind, bind_eq_some_iff] at hp
  obtain ⟨_, _, _, _, hp⟩ := hp
  cases hp
  refine Acts.trans ?_ ((acts_takeTlDataIndReqHandle _).trans (Act.say rfl rfl).acts)
  split
  · refine hclear.trans (Act.acts (.aside id ?_))
    exact fun hf => assembliesFit_update hf (fun _ ha => by cases ha)
  · exact hestablish

/-! Requests -/

def AdmittedAs (s : Llc) (prim : TlaTlDataReqBl) (al : ExpectedAlAck) : Prop :=
  ∃ session tlSduWithFcs payloads segments s1 s2,
    s.advancedLinks ⟨prim.mainAddress, prim.endpointId, prim.linkId⟩ = some session ∧
    alTlSduWithFcs prim.tlSdu = some tlSduWithFcs ∧
    splitAlTlSduSegments tlSduWithFcs (alOriginalSegmentPayloadBits s.mainCarrier prim.mainAddress
      prim.chanAlloc) = some (some payloads) ∧
    buildAlSegments prim session.txNextNs payloads.length 0 payloads s1 = some (segments, s2) ∧
    al = newExpectedAlAck prim s.nextTicket session.txNextNs segments s.dltime

/-- One fresh segment for each payload; of the state, only the next handle changes. -/
theorem buildAlSegments_spec {prim : TlaTlDataReqBl} {ns count : Nat} {payloads : List BitBuffer}
    {segments : List ExpectedAlSegment}
    (h : buildAlSegments prim ns count idx payloads s = some (segments, s')) :
    segments.length = payloads.length ∧ (∀ g ∈ segments, g.Untouched) ∧
      ∃ handle, s' = { s with nextTlDataIndReqHandle := handle } ∧
        (s.nextTlDataIndReqHandle < 0 → handle < 0) := by
  induction payloads generalizing idx s segments with
  | nil =>
    cases h
    exact ⟨rfl, fun _ hg => absurd hg List.not_mem_nil, _, rfl, id⟩
  | cons payload payloads ih =>
    simp only [buildAlSegments, bind_eq_bind, bind_eq_some_iff] at h
    obtain ⟨pdu, _, ⟨rest, t⟩, hrest, heq⟩ := h
    cases heq
    obtain ⟨hlen, hall, handle, hs', hn⟩ := ih hrest
    refine ⟨by simp [hlen], fun g hg => ?_, handle, ?_⟩
    · rcases mem_cons.mp hg with rfl | hg
      · exact ⟨rfl, rfl, rfl, rfl, rfl, rfl⟩
      · exact hall g hg
    · subst hs'
      revert hn
      split
      · exact fun hn => ⟨rfl, hn⟩
      · exact fun hn => ⟨rfl, fun h0 => hn (takeTlDataIndReqHandle_below h0)⟩

theorem splitLoop_length (h : splitLoop w count b = some l) : l.length = count := by
  induction count generalizing b l with
  | zero =>
    cases h
    rfl
  | succ count ih =>
    simp only [splitLoop, bind_eq_bind, bind_eq_some_iff] at h
    obtain ⟨_, _, _, _, rest, hrest, heq⟩ := h
    cases heq
    simp [ih hrest]

theorem splitAlTlSduSegments_ne_nil (hw : 0 < w) (h : splitAlTlSduSegments b w = some (some l)) :
    l ≠ [] := by
  unfold splitAlTlSduSegments at h
  dsimp only at h
  split at h
  · cases h
  rename_i hc
  obtain ⟨l', hl, heq⟩ := map_eq_some_iff.mp h
  cases heq
  have hlen := splitLoop_length hl
  intro hnil
  rw [hnil, length_nil] at hlen
  have hpos : 0 < (b.lenRemaining + w - 1) / w := Nat.div_pos (by omega) hw
  omega

theorem AdmittedAs.pristine {prim : TlaTlDataReqBl} (h : s.AdmittedAs prim al) : al.Pristine := by
  obtain ⟨session, x, payloads, segments, s1, s2, _, _, hsplit, hbuild, rfl⟩ := h
  obtain ⟨hlen, hall, _⟩ := buildAlSegments_spec hbuild
  refine ⟨fun hnil => ?_, hall, rfl, rfl, rfl, rfl, rfl⟩
  have hnil : segments = [] := hnil
  rw [hnil, length_nil] at hlen
  exact splitAlTlSduSegments_ne_nil (by unfold alOriginalSegmentPayloadBits; omega) hsplit
    (length_eq_zero_iff.mp hlen.symm)

theorem acts_rxTlaTldataReqAl {prim : TlaTlDataReqBl}
    (ha : ∀ al, s.AdmittedAs prim al → k.admits s.alBooks al)
    (h : ({ s with nextTicket := s.nextTicket + 1 } : Llc).rxTlaTldataReqAl prim s.nextTicket =
      some s') : Acts k s s' := by
  have hreject : Acts k s { s with
      nextTicket := s.nextTicket + 1
      port := rejectTldataBacklogFull s.port prim s.nextTicket } := Act.reject.acts
  unfold rxTlaTldataReqAl at h
  dsimp only at h
  split at h
  · cases h
    exact hreject
  split at h
  · cases h
    exact hreject
  split at h
  · cases h
    exact hreject
  rename_i session hsession
  split at h
  · cases h
    exact hreject
  simp only [admitAl, bind_eq_bind, bind_eq_some_iff] at h
  obtain ⟨x, hx, split, hsplit, h⟩ := h
  cases split with
  | none =>
    cases h
    exact hreject.trans (Act.aside id id).acts
  | some payloads =>
    simp only [bind_eq_some_iff] at h
    obtain ⟨⟨segments, t⟩, hbuild, h⟩ := h
    cases h
    have hadm : s.AdmittedAs prim
        (newExpectedAlAck prim s.nextTicket session.txNextNs segments s.dltime) :=
      ⟨session, x, payloads, segments, _, t, hsession, hx, hsplit, hbuild, rfl⟩
    obtain ⟨-, -, handle, rfl, hn⟩ := buildAlSegments_spec hbuild
    refine Acts.trans (Act.acts (.alEnter rfl hadm.pristine (ha _ hadm))) (Act.acts (.aside ?_ id))
    exact hn

/-! Reports and marks -/

/-- A report is for something that waits, and of a segment for one that was handed to the MAC. -/
theorem tmaReportOwners_mem {owner : TmaReportOwner} {handle : Todo}
    (h : owner ∈ s.tmaReportOwners handle) :
    match owner with
    | .blData idx => ∃ ack, s.outboundMessages[idx]? = some ack
    | .blUdata idx => ∃ udata, s.outboundUdataMessages[idx]? = some udata
    | .alData idx segmentIdx => ∃ al g, s.outboundAlMessages[idx]? = some al ∧
        al.segments[segmentIdx]? = some g ∧ g.tSubmittedToUmac.isSome = true := by
  simp only [tmaReportOwners, mem_append, List.mem_map, mem_flatMap, mem_indicesWhere] at h
  rcases h with (⟨i, ⟨a, ha, _⟩, rfl⟩ | ⟨i, ⟨u, hu, _⟩, rfl⟩) | ⟨i, hi, j, ⟨g, hg, hp⟩, rfl⟩
  · exact ⟨a, ha⟩
  · exact ⟨u, hu⟩
  · have hget := List.getElem?_eq_getElem (mem_range.mp hi)
    rw [hget, map_some, getD_some] at hg
    exact ⟨_, g, hget, hg, (Bool.and_eq_true_iff.mp hp).2⟩

theorem acts_handleAlTmaReport (hi : s.outboundAlMessages[idx]? = some al)
    (hg : al.segments[segmentIdx]? = some g) (hsome : g.tSubmittedToUmac.isSome = true)
    (hf : report = .successRandomAccess ∨ report = .successReservedOrStealing → k.strict →
      al.tUmacDone = none → al.firstCompleteReportSent = false)
    (h : s.handleAlTmaReportAtIndex report idx segmentIdx = some s') : Acts k s s' := by
  have hnot : ∀ al' : ExpectedAlAck, al.Pristine → al' = al := fun al' hp => by
    have := (hp.segments g (List.mem_of_getElem? hg)).notSubmitted
    rw [this] at hsome
    cases hsome
  have hmark := same_markSegmentDone s.dltime hg
  unfold handleAlTmaReportAtIndex at h
  rw [hi] at h
  cases report with
  | confirmHandle =>
    cases h
    exact Acts.refl
  | failedTransfer | fragmentationFailure | randomAccessFailure =>
    cases h
    exact acts_failOutboundAl _ _
  | successRandomAccess | successReservedOrStealing =>
    have hf := hf (by simp)
    dsimp only at h
    rw [hg] at h
    dsimp only at h
    split at h
    · rename_i hdone
      simp only [Bool.and_eq_true, isNone_iff_eq_none] at hdone
      cases h
      have hact := acts_alFirst (k := k) hi (show ExpectedAlAck.identity
        { markSegmentDone al segmentIdx g s.dltime with
          tUmacDone := some s.dltime, firstCompleteReportSent := true } = al.identity from hmark.1)
        (fun hc => hf hc hdone.1) rfl (fun _ hp _ => hnot _ hp)
      exact hact
    · cases h
      exact acts_alTouch hi hmark (fun _ hp _ => hnot _ hp)

theorem acts_macMarks : Acts k s (s.macMarks attempt outcome) := by
  cases attempt with
  | bl =>
    refine Act.acts (.revise ?_ (fun hl e he => ?_))
    · rw [map_modify]
      exact fun _ => rfl
    obtain ⟨i, hi⟩ := List.mem_iff_getElem?.mp he
    rw [List.getElem?_modify] at hi
    obtain ⟨a, ha, rfl⟩ := map_eq_some_iff.mp hi
    have hload := hl.transfers a (List.mem_of_getElem? ha)
    split <;> exact hload
  | udata => exact (Act.aside id id).acts
  | al idx segmentIdx =>
    have hmark : ∀ g : ExpectedAlSegment, g.Untouched →
        ({ g with currentMacReporter := g.currentMacReporter.map (·.tryMark outcome) } :
          ExpectedAlSegment) = g := by
      intro g hg
      obtain ⟨ss, h, ts, td, r, a, q, pr, pc, rc, buf⟩ := g
      have hr : r = none := hg.noReporter
      subst hr
      rfl
    unfold macMarks
    dsimp only
    cases hi : s.outboundAlMessages[idx]? with
    | none =>
      rw [modify_eq_self (List.getElem?_eq_none_iff.mp hi)]
      exact Acts.refl
    | some al =>
      rw [List.modify_eq_set_getElem?, hi]
      refine acts_alTouch hi ⟨?_, rfl⟩ (fun _ hp _ => ?_)
      · simp only [ExpectedAlAck.identity]
        rw [map_modify]
        exact fun _ => rfl
      · have hsame : al.segments.modify segmentIdx (fun g =>
            { g with currentMacReporter := g.currentMacReporter.map (·.tryMark outcome) }) =
            al.segments := by
          apply List.ext_getElem?
          intro j
          rw [List.getElem?_modify]
          cases hj : al.segments[j]? with
          | none => rfl
          | some g =>
            have := hmark g (hp.segments g (List.mem_of_getElem? hj))
            simp [this]
        rw [hsame]

end NexusBs.Llc
