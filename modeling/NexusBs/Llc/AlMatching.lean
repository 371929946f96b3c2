import NexusBs.Llc.Robust

namespace NexusBs
open List Option

/-- The N(S) of a new transfer is none that a queued transfer of its peer has. -/
def FreshNs (b : AlBooks) (al : ExpectedAlAck) : Prop :=
  ∀ e ∈ b.queue, e.key.peer = al.key.peer → e.ns ≠ al.ns

/-- Transfers to one peer have N(S) of their own. -/
def AlBooks.DistinctNs (b : AlBooks) : Prop :=
  (b.queue.map ExpectedAlAck.identity).Pairwise (fun x y => x.key.peer = y.key.peer → x.ns ≠ y.ns)

/-- A transfer that is reported successful has left the queue. -/
structure AlBooks.Reported (b : AlBooks) : Prop extends b.Tracked where
  pending : ∀ al ∈ b.queue, .succeeded al.ticket ∉ b.log
  past : ∀ ticket, .succeeded ticket ∈ b.log → ticket < b.next

/-- Every report of success on the transfer stands behind all its segments. -/
def AlIdentity.SentBefore (log : List AlEvent) (id : AlIdentity) : Prop :=
  ∀ before after, log = before ++ .succeeded id.ticket :: after →
    ∀ part ∈ id.parts, SentIn before id.ticket part.1

namespace AlBooks

variable {c : Prop} {admits : AlBooks → ExpectedAlAck → Prop} {b b' : AlBooks}

theorem DistinctNs.move (h : b.DistinctNs) (hm : AlMove c FreshNs b b') : b'.DistinctNs := by
  cases hm with
  | leave hq => exact h.sublist (hq.map _)
  | touch hi hid | submit hi hid =>
    unfold DistinctNs
    rw [Lib.map_set hi hid]
    exact h
  | @complete i => exact h.sublist ((eraseIdx_sublist b.queue i).map _)
  | enter _ _ ha =>
    unfold DistinctNs
    rw [map_append, pairwise_append]
    refine ⟨h, pairwise_singleton _ _, fun x hx y hy hpeer => ?_⟩
    obtain ⟨e, he, rfl⟩ := List.mem_map.mp hx
    cases mem_singleton.mp hy
    exact ha e he hpeer
  | number => exact h

/-- An N(R) that a queued transfer has as N(S) singles out that transfer. -/
theorem DistinctNs.match_eq (h : b.DistinctNs) (hi : b.queue[i]? = some al) :
    Llc.findOutboundAlAckBlockMatch b.queue al.key.peer al.ns = some i := by
  refine Llc.findOutboundAlAckBlockMatch_iff.mpr ⟨⟨al, hi, rfl, rfl⟩, fun j e hj hpeer hns => ?_⟩
  obtain ⟨hilt, rfl⟩ := List.getElem?_eq_some_iff.mp hi
  obtain ⟨hjlt, rfl⟩ := List.getElem?_eq_some_iff.mp hj
  have hpair := pairwise_iff_getElem.mp h
  rcases Nat.lt_trichotomy j i with hlt | heq | hlt
  · have hne := hpair j i (by simpa) (by simpa) hlt
    rw [getElem_map, getElem_map] at hne
    exact absurd hns (hne hpeer)
  · exact heq
  · have hne := hpair i j (by simpa) (by simpa) hlt
    rw [getElem_map, getElem_map] at hne
    exact absurd hns.symm (hne hpeer.symm)

theorem succeeded_mem_append_sent {log : List AlEvent} {reqs : List TmaUnitdataReq} {ticket : Ticket}
    (h : .succeeded ticket ∈ log ++ reqs.map .sent) : .succeeded ticket ∈ log := by
  rcases mem_append.mp h with h | h
  · exact h
  · obtain ⟨_, _, heq⟩ := List.mem_map.mp h
    cases heq

theorem Reported.set (h : b.Reported) (reqs : List TmaUnitdataReq) {i : Nat}
    {al al' : ExpectedAlAck} (hi : b.queue[i]? = some al) (hid : al'.identity = al.identity) :
    ∀ e ∈ b.queue.set i al', .succeeded e.ticket ∉ b.log ++ reqs.map .sent := by
  intro e he hsucc
  have hsucc := succeeded_mem_append_sent hsucc
  rcases mem_or_eq_of_mem_set he with he | rfl
  · exact h.pending e he hsucc
  · have ht : e.ticket = al.ticket := congrArg AlIdentity.ticket hid
    exact h.pending al (List.mem_of_getElem? hi) (ht ▸ hsucc)

theorem Reported.move (h : b.Reported) (hm : AlMove True admits b b') : b'.Reported := by
  refine ⟨h.toTracked.move trivial hm, ?_, ?_⟩
  · cases hm with
    | leave hq => exact fun e he => h.pending e (hq.subset he)
    | touch hi hid => simpa using h.set [] hi hid
    | @complete i al hi =>
      intro e he hsucc
      have hmem := mem_of_mem_eraseIdx he
      rcases mem_append.mp hsucc with hsucc | hsucc
      · exact h.pending e hmem hsucc
      · -- the number of the transfer that leaves is that of no other
        have ht : e.ticket = al.ticket := by simpa using hsucc
        obtain ⟨j, hj⟩ := List.getElem?_of_mem he
        rw [List.getElem?_eraseIdx] at hj
        split at hj
        · have := (h.place hj hi ht).1
          omega
        · have := (h.place hj hi ht).1
          omega
    | @enter al ht =>
      intro e he hsucc
      rcases mem_append.mp he with he | he
      · exact h.pending e he hsucc
      · cases mem_singleton.mp he
        exact absurd (h.past _ hsucc) (by rw [ht]; exact Nat.lt_irrefl _)
    | number => exact h.pending
    | submit hi hid => exact h.set _ hi hid
  · cases hm with
    | leave | touch => exact h.past
    | @complete i al hi =>
      intro ticket hsucc
      rcases mem_append.mp hsucc with hsucc | hsucc
      · exact h.past ticket hsucc
      · cases mem_singleton.mp hsucc
        exact h.numbered al (List.mem_of_getElem? hi)
    | enter | number => exact fun ticket hsucc => Nat.lt_succ_of_lt (h.past ticket hsucc)
    | submit => exact fun ticket hsucc => h.past ticket (succeeded_mem_append_sent hsucc)

end AlBooks

theorem AlIdentity.SentBefore.concat {id : AlIdentity} (h : id.SentBefore log)
    (he : event = .succeeded id.ticket → ∀ part ∈ id.parts, SentIn log id.ticket part.1) :
    id.SentBefore (log ++ [event]) := by
  intro before after heq
  rcases eq_nil_or_concat after with rfl | ⟨after, last, rfl⟩
  · obtain ⟨rfl, hlast⟩ := append_inj' heq rfl
    exact he (singleton_inj.mp hlast)
  · rw [concat_eq_append, ← cons_append, ← append_assoc] at heq
    exact h before after (append_inj' heq rfl).1

theorem AlIdentity.SentBefore.sent {id : AlIdentity} (h : id.SentBefore log)
    (reqs : List TmaUnitdataReq) : id.SentBefore (log ++ reqs.map .sent) := by
  induction reqs generalizing log with
  | nil => simpa using h
  | cons req reqs ih =>
    have hone : id.SentBefore (log ++ [.sent req]) := h.concat (fun heq => by cases heq)
    have hrest := ih hone
    rwa [append_assoc, singleton_append] at hrest

/-- What stays known about a transfer that was queued once. -/
structure AlBooks.Follows (id : AlIdentity) (b : AlBooks) : Prop extends b.Reported where
  same : ∀ e ∈ b.queue, e.ticket = id.ticket → e.identity = id
  used : id.ticket < b.next
  sentBefore : id.SentBefore b.log

namespace AlBooks

variable {admits : AlBooks → ExpectedAlAck → Prop} {b b' : AlBooks} {id : AlIdentity}

theorem Reported.follows (h : b.Reported) (hal : al ∈ b.queue) : b.Follows al.identity := by
  refine ⟨h, fun e he ht => ?_, h.numbered al hal, fun before after heq => ?_⟩
  · rw [h.eq_of_ticket hal he ht]
  · exact absurd (by simp [heq, ExpectedAlAck.identity]) (h.pending al hal)

theorem Follows.set (h : b.Follows id) {al al' : ExpectedAlAck} (hi : b.queue[i]? = some al)
    (hid : al'.identity = al.identity) :
    ∀ e ∈ b.queue.set i al', e.ticket = id.ticket → e.identity = id := by
  intro e he ht
  rcases mem_or_eq_of_mem_set he with he | rfl
  · exact h.same e he ht
  · have hold : e.ticket = al.ticket := congrArg AlIdentity.ticket hid
    exact hid.trans (h.same al (List.mem_of_getElem? hi) (hold.symm.trans ht))

theorem Follows.move (h : b.Follows id) (hm : AlMove True admits b b') : b'.Follows id := by
  refine ⟨h.toReported.move hm, ?_, ?_, ?_⟩
  · cases hm with
    | leave hq => exact fun e he => h.same e (hq.subset he)
    | touch hi hid | submit hi hid => exact h.set hi hid
    | complete => exact fun e he => h.same e (mem_of_mem_eraseIdx he)
    | @enter al hticket =>
      intro e he ht
      rcases mem_append.mp he with he | he
      · exact h.same e he ht
      · cases mem_singleton.mp he
        exact absurd h.used (by rw [← ht, hticket]; exact Nat.lt_irrefl _)
    | number => exact h.same
  · cases hm with
    | leave | touch | complete | submit => exact h.used
    | enter | number => exact Nat.lt_succ_of_lt h.used
  · cases hm with
    | leave | touch | enter | number => exact h.sentBefore
    | @complete i al hi hs =>
      have hmem := List.mem_of_getElem? hi
      refine h.sentBefore.concat (fun heq => ?_)
      have ht : al.ticket = id.ticket := AlEvent.succeeded.inj heq
      rw [← h.same al hmem ht]
      exact h.whole al hmem (hs trivial)
    | submit => exact h.sentBefore.sent _

end AlBooks

namespace Llc
open Lib BitBuffer Ledger

variable {s s' : Llc}

/-- A step whose request, if it goes to an advanced link, gets an N(S) that no queued transfer of
its peer has, and whose AL-ACK singles out only transfers that were started. -/
def KeepsNsApart (s : Llc) (op : Op) : Prop :=
  s.AcksStartedAt op ∧ ∀ prim ∈ op.request,
    ∀ session ∈ s.advancedLinks ⟨prim.mainAddress, prim.endpointId, prim.linkId⟩,
      ∀ e ∈ s.outboundAlMessages, e.key.peer = ⟨prim.mainAddress, prim.endpointId⟩ →
        e.ns ≠ session.txNextNs

instance (s : Llc) (op : Op) : Decidable (s.KeepsNsApart op) :=
  inferInstanceAs (Decidable (_ ∧ ∀ _ ∈ _, ∀ _ ∈ _, ∀ _ ∈ _, _ = _ → _ ≠ _))

theorem alMoves_freshNs (hk : s.KeepsNsApart op) (hs : s.step op = some s') :
    AlMoves True FreshNs s.alBooks s'.alBooks := by
  refine alMoves_step (fun _ => hk.1) (fun req hreq al hadm => ?_) hs
  obtain ⟨session, x, payloads, segments, s1, s2, hsession, _, _, _, rfl⟩ := hadm
  exact fun e he hpeer => hk.2 req hreq session hsession e he hpeer

/-- What holds of the transfers in every state of such a run. -/
structure Matched (s : Llc) : Prop extends Sound s where
  reported : s.alBooks.Reported
  distinctNs : s.alBooks.DistinctNs

theorem matched_new (mainCarrier : Nat) : Matched (new mainCarrier) where
  toSound := sound_new mainCarrier
  reported := {
    numbered := fun al hal => by cases hal
    logged := fun ticket hs => by
      obtain ⟨ss, req, hmem, _⟩ := hs
      cases hmem
    distinct := List.Pairwise.nil
    untouched := fun al hal => by cases hal
    whole := fun al hal => by cases hal
    pending := fun al hal => by cases hal
    past := fun ticket hsucc => by cases hsucc }
  distinctNs := List.Pairwise.nil

theorem Matched.step (h : Matched s) (hk : s.KeepsNsApart op) (hs : s.step op = some s') :
    Matched s' where
  toSound := h.toSound.step hs
  reported := (alMoves_freshNs hk hs).keeps (fun _ _ hb hm => hb.move hm) h.reported
  distinctNs := (alMoves_freshNs hk hs).keeps (fun _ _ hb hm => hb.move hm) h.distinctNs

/-- The blocks of an AL-ACK one by one. -/
theorem rxAlAckBlocks_split (s : Llc) (peer : BasicLinkKey) (pre : List AlAckBlock)
    (block : AlAckBlock) (post : List AlAckBlock) (nr covered : Option Nat) :
    ∃ after, s.rxAlAckBlocks peer (pre ++ block :: post) nr covered =
      (s.rxAlAckBlocks peer pre nr covered).bind (fun s1 => (s1.rxAlAckBlock peer block after).bind
        (fun s2 => s2.rxAlAckBlocks peer post (some block.nr) (alAckBlockCoveredEnd block))) := by
  induction pre generalizing s nr covered with
  | nil => exact ⟨_, rfl⟩
  | cons first pre ih =>
    cases hfirst : s.rxAlAckBlock peer first (if nr = some first.nr then covered else none) with
    | none => exact ⟨none, by simp [rxAlAckBlocks, hfirst]⟩
    | some t =>
      obtain ⟨after, heq⟩ := ih t (some first.nr) (alAckBlockCoveredEnd first)
      exact ⟨after, by simp [rxAlAckBlocks, hfirst, heq]⟩

theorem llcPduTypeOf_alAck {pdu rest : BitBuffer} {ack : AlAck}
    (h : AlAck.fromBitbuf pdu = .ok (ack, rest)) : llcPduTypeOf pdu = some .alAckAlRnr := by
  unfold AlAck.fromBitbuf at h
  obtain ⟨_, _, htype, _⟩ := PduParser.bind_ok h
  unfold expectValue at htype
  obtain ⟨hlen, hv⟩ := PduParser.field_bind_ok htype
  split at hv
  · rename_i heq
    simp only [llcPduTypeOf, BitBuffer.peekBits, hlen, and_true, Nat.reduceLeDiff, if_true, heq,
      bind_some]
    rfl
  · cases hv

theorem step_alAck {prim : TmaUnitdataInd} {pdu rest : BitBuffer} {ack : AlAck}
    (hp : prim.pdu = some pdu) (h : AlAck.fromBitbuf pdu = .ok (ack, rest)) :
    s.step (.tmaUnitdataInd prim) =
      (s.applyAlReceiverFlowControl ⟨prim.mainAddress, prim.endpointId⟩
        ack.receiverReady).rxAlAckBlocks ⟨prim.mainAddress, prim.endpointId⟩
          ack.acknowledgementBlocks none none := by
  simp [step, rxTmaUnitdataInd, hp, llcPduTypeOf_alAck h, rxAlAck, h]

/-- A block that acknowledges a complete TL-SDU completes the transfer with its N(S). -/
theorem rxAlAckBlock_complete (hr : Receipted s.ledger) (hd : s.alBooks.DistinctNs)
    (hi : s.outboundAlMessages[idx]? = some al) (hns : al.ns = block.nr)
    (hb : block.acknowledgesCompleteTlSdu = true) (after : Option Nat) :
    ∃ s', s.rxAlAckBlock al.key.peer block after = some s' ∧
      s'.outboundAlMessages = s.outboundAlMessages.eraseIdx idx ∧
      s'.port.alLog = s.port.alLog ++ [.succeeded al.ticket] := by
  have hmatch : findOutboundAlAckBlockMatch s.outboundAlMessages al.key.peer al.ns = some idx :=
    AlBooks.DistinctNs.match_eq hd hi
  obtain ⟨s', hs'⟩ := isSome_iff_exists.mp
    (completeOutboundAl_isSome (Receipted.inStepAl hr) : (s.completeOutboundAlTransferAtIndex
      idx).isSome = true)
  refine ⟨s', ?_, outboundAl_complete hs', alLog_completeOutboundAl hi hs'⟩
  rw [rxAlAckBlock, ← hns, hmatch]
  dsimp only
  rw [hi]
  dsimp only
  rw [if_pos hb]
  exact hs'

/-- The AL-ACK carries the block: what the blocks before it lead to, and that the block, if it
acknowledges the complete TL-SDU of a transfer in progress, takes that transfer out of the queue
with a report of success and does nothing else. -/
def CompletesAt (s : Llc) (prim : TmaUnitdataInd) (ready : Bool) (pre : List AlAckBlock)
    (block : AlAckBlock) (post : List AlAckBlock) : Prop :=
  ∃ s1, (s.applyAlReceiverFlowControl ⟨prim.mainAddress, prim.endpointId⟩ ready).rxAlAckBlocks
      ⟨prim.mainAddress, prim.endpointId⟩ pre none none = some s1 ∧
    ∀ idx al, s1.outboundAlMessages[idx]? = some al →
      al.key.peer = ⟨prim.mainAddress, prim.endpointId⟩ → al.ns = block.nr →
      StartedIn s1.port.alLog al.ticket → block.acknowledgesCompleteTlSdu = true →
      ∃ s2 : Llc, s2.outboundAlMessages = s1.outboundAlMessages.eraseIdx idx ∧
        s2.port.alLog = s1.port.alLog ++ [.succeeded al.ticket] ∧
        s.step (.tmaUnitdataInd prim) = s2.rxAlAckBlocks ⟨prim.mainAddress, prim.endpointId⟩ post
          (some block.nr) (alAckBlockCoveredEnd block)

theorem Matched.completesAt (h : Matched s) {prim : TmaUnitdataInd} {pdu rest : BitBuffer}
    {ack : AlAck} (hp : prim.pdu = some pdu) (hparse : AlAck.fromBitbuf pdu = .ok (ack, rest))
    {pre post : List AlAckBlock} {block : AlAckBlock}
    (hblocks : ack.acknowledgementBlocks = pre ++ block :: post) :
    s.CompletesAt prim ack.receiverReady pre block post := by
  have hstep : s.step (.tmaUnitdataInd prim) = _ := step_alAck hp hparse
  obtain ⟨after, hsplit⟩ := rxAlAckBlocks_split
    (s.applyAlReceiverFlowControl ⟨prim.mainAddress, prim.endpointId⟩ ack.receiverReady)
    ⟨prim.mainAddress, prim.endpointId⟩ pre block post none none
  rw [hblocks, hsplit] at hstep
  have hreceipted : Receipted (s.applyAlReceiverFlowControl ⟨prim.mainAddress, prim.endpointId⟩
      ack.receiverReady).ledger :=
    (acts_applyAlReceiverFlowControl (k := .keeping False) s _ _).receipted h.receipted
  obtain ⟨s1, hs1⟩ := isSome_iff_exists.mp (rxAlAckBlocks_isSome hreceipted :
    ((s.applyAlReceiverFlowControl ⟨prim.mainAddress, prim.endpointId⟩
      ack.receiverReady).rxAlAckBlocks ⟨prim.mainAddress, prim.endpointId⟩ pre none none).isSome = true)
  refine ⟨s1, hs1, fun idx al hi hpeer hns _ hb => ?_⟩
  have hreceipted1 := (acts_rxAlAckBlocks (k := .keeping False) False.elim hs1).receipted hreceipted
  have hdistinct1 : s1.alBooks.DistinctNs := by
    refine (acts_rxAlAckBlocks (k := ⟨False, False, FreshNs, fun _ _ => True⟩) False.elim
      hs1).alMoves.keeps (fun _ _ hd hm => AlBooks.DistinctNs.move hd hm) ?_
    rw [alBooks_applyAlReceiverFlowControl]
    exact h.distinctNs
  obtain ⟨s2, hs2, hqueue, hlog⟩ := rxAlAckBlock_complete hreceipted1 hdistinct1 hi hns hb after
  refine ⟨s2, hqueue, hlog, ?_⟩
  rw [hpeer] at hs2
  rw [hstep, hs1, bind_some, hs2, bind_some]

/-- In a run that keeps the N(S) apart, an AL-ACK completes the transfers it names, and success is
reported only behind the last segment. -/
theorem al_ack_completes_its_transfer (mainCarrier : Nat) (ops : List Op) (s : Llc)
    (hk : Along Llc.step KeepsNsApart (new mainCarrier) ops)
    (hr : Lib.run Llc.step (new mainCarrier) ops = some s) :
    (∀ prim pdu ack rest pre block post, prim.pdu = some pdu →
      AlAck.fromBitbuf pdu = .ok (ack, rest) → ack.acknowledgementBlocks = pre ++ block :: post →
      s.CompletesAt prim ack.receiverReady pre block post) ∧
    ∀ al ∈ s.outboundAlMessages, ∀ ops' s', Along Llc.step KeepsNsApart s ops' →
      Lib.run Llc.step s ops' = some s' → al.identity.SentBefore s'.port.alLog := by
  have hs : Matched s := run_invariant (fun s op s' h hok hs => Matched.step h hok hs)
    (matched_new mainCarrier) hk hr
  refine ⟨fun prim pdu ack rest pre block post hp hparse hblocks =>
    hs.completesAt hp hparse hblocks, fun al hal ops' s' hk' hr' => ?_⟩
  have hfollows : s'.alBooks.Follows al.identity :=
    run_invariant (P := fun s => s.alBooks.Follows al.identity)
      (fun s op s' h hok hs => (alMoves_freshNs hok hs).keeps (fun _ _ hb hm => hb.move hm) h)
      (hs.reported.follows hal) hk' hr'
  exact hfollows.sentBefore

def requestsQueued (addr : TetraAddress) (n : Nat) : List Op :=
  setUpLink addr 1 :: (List.replicate n
    (.tlaTlDataReq (plainTlDataReq addr 1 7 0 (List.replicate 8 true))) ++
      [.tickEnd, .tmaReportInd 7 .successReservedOrStealing])

def completeAck (nr : Nat) : TmaUnitdataInd :=
  .plain (TetraAddress.issi 1)
    (fieldBits [(11, 4), (1, 1), (nr, 3), ((AlAckBlock.complete nr).acknowledgementLength, 6)])

theorem nineQueued_ignored :
    (Lib.run Llc.step (new 1) (requestsQueued (TetraAddress.issi 1) 9)).map (fun s =>
      ((s.outboundAlMessages[0]?).map (fun al => (al.key.peer, al.ns,
        decide (StartedIn s.port.alLog al.ticket))), s.outboundAlMessages.length,
        (s.step (.tmaUnitdataInd (completeAck 0))).map (·.outboundAlMessages.length))) =
      some (some (⟨TetraAddress.issi 1, 0⟩, 0, true), 9, some 9) := by
  decide +kernel

theorem twoQueued_success :
    (Lib.run Llc.step (new 1) (requestsQueued (TetraAddress.issi 1) 2)).bind (fun s =>
      (Lib.run Llc.step s [.tmaUnitdataInd (completeAck 1)]).map (fun s' =>
        ((s.outboundAlMessages[1]?).map (fun al => (al.ticket, al.identity.parts.isEmpty)),
          decide (.succeeded 1 ∈ s'.port.alLog), decide (StartedIn s'.port.alLog 1)))) =
      some (some (1, false), true, false) := by
  decide +kernel

/-- With nine requests queued the acknowledgement of the first is ignored; with two, the second
can be acknowledged before anything of it was sent. -/
theorem ack_ignored_or_early :
    (∃ s, Lib.run Llc.step (new 1) (requestsQueued (TetraAddress.issi 1) 9) = some s ∧
      ¬s.CompletesAt (completeAck 0) true [] (.complete 0) []) ∧
    ∃ s s' al, Lib.run Llc.step (new 1) (requestsQueued (TetraAddress.issi 1) 2) = some s ∧
      Lib.run Llc.step s [.tmaUnitdataInd (completeAck 1)] = some s' ∧ al ∈ s.outboundAlMessages ∧
      ¬al.identity.SentBefore s'.port.alLog := by
  constructor
  · obtain ⟨s, hr, hs⟩ := map_eq_some_iff.mp nineQueued_ignored
    simp only [Prod.mk.injEq, map_eq_some_iff] at hs
    obtain ⟨⟨al, hal, hpeer, hns, hstarted⟩, hlen, s', hs', hlen'⟩ := hs
    refine ⟨s, hr, fun ⟨s1, hs1, hcomplete⟩ => ?_⟩
    have hbooks := alBooks_applyAlReceiverFlowControl s
      ⟨(completeAck 0).mainAddress, (completeAck 0).endpointId⟩ true
    cases hs1
    have hqueue := congrArg AlBooks.queue hbooks
    have hlog := congrArg AlBooks.log hbooks
    dsimp only [alBooks] at hqueue hlog
    obtain ⟨s2, hqueue2, _, hstep⟩ := hcomplete 0 al (by rw [hqueue, hal]) hpeer hns
      (by rw [hlog]; exact of_decide_eq_true hstarted) rfl
    rw [hs'] at hstep
    cases hstep
    rw [hqueue2, hqueue, length_eraseIdx, hlen] at hlen'
    exact absurd hlen' (by decide)
  · obtain ⟨s, hr, hs⟩ := bind_eq_some_iff.mp twoQueued_success
    obtain ⟨s', hr', hs⟩ := map_eq_some_iff.mp hs
    simp only [Prod.mk.injEq, map_eq_some_iff] at hs
    obtain ⟨⟨al, hal, hticket, hparts⟩, hsucc, hstarted⟩ := hs
    refine ⟨s, s', al, hr, hr', List.mem_of_getElem? hal, fun hsent => ?_⟩
    have hid : al.identity.ticket = 1 := hticket
    obtain ⟨before, after, hlog⟩ := append_of_mem (of_decide_eq_true hsucc)
    obtain ⟨part, hpart⟩ := exists_mem_of_ne_nil al.identity.parts (by
      intro hnil
      rw [hnil] at hparts
      cases hparts)
    have hpartSent := hsent before after (hid ▸ hlog) part hpart
    rw [hid] at hpartSent
    have hbefore : StartedIn before 1 := ⟨_, hpartSent⟩
    exact of_decide_eq_false hstarted (hlog ▸ hbefore.append _)

/-- One request that was sent: its acknowledgement completes it. -/
theorem acknowledged_completes : ∃ s s',
    Lib.run Llc.step (new 1) (requestsQueued (TetraAddress.issi 1) 1) = some s ∧
      s.CompletesAt (completeAck 0) true [] (.complete 0) [] ∧
      Lib.run Llc.step s [.tmaUnitdataInd (completeAck 0)] = some s' ∧
      .succeeded 0 ∈ s'.port.alLog ∧
      ∀ al ∈ s.outboundAlMessages, al.identity.SentBefore s'.port.alLog := by
  have hrun : (Lib.run Llc.step (new 1) (requestsQueued (TetraAddress.issi 1) 1)).bind (fun s =>
      (Lib.run Llc.step s [.tmaUnitdataInd (completeAck 0)]).map (fun s' =>
        (decide (Along Llc.step KeepsNsApart s [.tmaUnitdataInd (completeAck 0)]),
          decide (.succeeded 0 ∈ s'.port.alLog)))) = some (true, true) := by
    decide +kernel
  obtain ⟨s, hr, hs⟩ := bind_eq_some_iff.mp hrun
  obtain ⟨s', hr', hs⟩ := map_eq_some_iff.mp hs
  simp only [Prod.mk.injEq, decide_eq_true_eq] at hs
  obtain ⟨hcompletes, hsent⟩ := al_ack_completes_its_transfer 1 _ s (by decide +kernel) hr
  have hparse : ∃ rest, AlAck.fromBitbuf (BitBuffer.fromBitarr (fieldBits [(11, 4), (1, 1), (0, 3),
      ((AlAckBlock.complete 0).acknowledgementLength, 6)])) = .ok (⟨true, [.complete 0]⟩, rest) :=
    ⟨_, rfl⟩
  obtain ⟨rest, hparse⟩ := hparse
  exact ⟨s, s', hr, hcompletes (completeAck 0) _ _ rest [] (.complete 0) [] rfl hparse rfl, hr', hs.2,
    fun al hal => hsent al hal _ s' hs.1 hr'⟩

end Llc

end NexusBs
