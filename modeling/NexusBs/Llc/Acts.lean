import NexusBs.Llc.AlBooks
import NexusBs.Llc.Assembly
import NexusBs.Llc.Books
import NexusBs.Llc.Loaded

namespace NexusBs.Llc
open Lib Ledger Relation Port List

def alBooks (s : Llc) : AlBooks := ⟨s.outboundAlMessages, s.port.alLog, s.nextTicket⟩

def AssembliesFit (rx : AdvancedLinkKey → Option AdvancedLinkReceiveAssembly) : Prop :=
  ∀ key, ∀ assembly ∈ rx key, assembly.Fits

/-- Handles that the link layer gives out are below zero, those of the waiting acknowledgements and
the next one. -/
structure BelowZero (s : Llc) : Prop where
  acks : ∀ ack ∈ s.scheduledOutAcks, ack.indReqHandle < 0
  next : s.nextTlDataIndReqHandle < 0

/-- The terms on which the LLC works: whether the books are kept as the service defines them,
whether only transfers that were started are acknowledged, what a new transfer on an advanced link
has to meet, and which TL-SDU belongs to which request. -/
structure Terms where
  (strict started : Prop)
  admits : AlBooks → ExpectedAlAck → Prop
  belongs : Ticket → List Bool → Prop

/-- What can happen in the LLC. Every operation is a number of these, and every invariant is
checked against each of them once. -/
inductive Act (k : Terms) (s : Llc) : Llc → Prop
  | say {m : SapMsg} (ho : m.outcome = none) (ha : m.alEvent = none) :
      Act k s { s with port := s.port.push m }
  | aside {t : TdmaTime} {links : AdvancedLinkKey → Option AdvancedLinkSession}
      {setups : AdvancedLinkKey → Option AlSetup} {udata : List QueuedUdata}
      {seq : BasicLinkKey → Option ReceiveSeqState} {handle : Todo}
      {rx : AdvancedLinkKey → Option AdvancedLinkReceiveAssembly}
      (hn : s.nextTlDataIndReqHandle < 0 → handle < 0)
      (hr : AssembliesFit s.advancedLinkRx → AssembliesFit rx) :
      Act k s { s with
        dltime := t, advancedLinks := links, pendingAdvancedLinkSetups := setups
        outboundUdataMessages := udata, inboundReceiveSeq := seq, nextTlDataIndReqHandle := handle
        advancedLinkRx := rx }
  | schedule {acks : List ScheduledOutAck} (h : ∀ e ∈ acks, e ∈ s.scheduledOutAcks ∨
        e.nr < 2 ∧ (BelowZero s → e.indReqHandle < 0)) : Act k s { s with scheduledOutAcks := acks }
  -- transfers on basic links
  | revise {l : List ExpectedInAck} (he : (s.outboundMessages.map blEntry).Perm (l.map blEntry))
      (hl : Loaded k.belongs s.outboundMessages s.scheduledOutAcks →
        ∀ ack ∈ l, ack.LoadedBy k.belongs) : Act k s { s with outboundMessages := l }
  | first {A B : List ExpectedInAck} {ack : ExpectedInAck} (hs : s.outboundMessages = A ++ ack :: B)
      (hf : ack.firstCompleteReportSent = false) :
      Act k s { s with
        outboundMessages := A ++ { ack with firstCompleteReportSent := true } :: B
        port := reportBlFirstComplete s.port ack }
  | fail {A B : List ExpectedInAck} {ack : ExpectedInAck} (hs : s.outboundMessages = A ++ ack :: B) :
      Act k s { s with outboundMessages := A ++ B, port := reportBlFailed s.port ack }
  | confirm {l : List ExpectedInAck} {ack : ExpectedInAck} {q : Port} {ind : TlaInd}
      (hs : s.outboundMessages = ack :: l) (hf : ack.firstCompleteReportSent = true)
      (hq : s.port.markAcknowledged ack.ticket = some q) :
      Act k s { s with
        outboundMessages := l, port := q.push (.tlDataConfBl ack.ticket ack.reqHandle ind) }
  | enter {ack : ExpectedInAck} {seq : BasicLinkKey → Nat} {handle : Todo} {ep : EndpointId}
      (ht : blEntry ack = (s.nextTicket, false))
      (hl : (∀ key, s.linkSendSeq key < 2) → ack.LoadedBy k.belongs ∧ ∀ key, seq key < 2) :
      Act k s { s with
        outboundMessages := s.outboundMessages ++ [ack], linkSendSeq := seq
        nextTicket := s.nextTicket + 1
        port := s.port.pushTlaReport (some s.nextTicket) handle .noSpecificReport ep }
  -- requests that are not admitted
  | ignore : Act k s { s with nextTicket := s.nextTicket + 1 }
  | reject {discard : Bool} {handle : Todo} {ep : EndpointId} :
      Act k s { s with
        nextTicket := s.nextTicket + 1
        port := (if discard then s.port.tryMark s.nextTicket .pending .discarded
          else s.port).pushTlaReport (some s.nextTicket) handle .failedTransfer ep }
  -- transfers on advanced links
  | alTouch {i : Nat} {al al' : ExpectedAlAck} (hi : s.outboundAlMessages[i]? = some al)
      (hid : al'.identity = al.identity)
      (hf : al'.firstCompleteReportSent = al.firstCompleteReportSent)
      (hs : k.started → al.Pristine → ¬StartedIn s.port.alLog al.ticket → al' = al) :
      Act k s { s with outboundAlMessages := s.outboundAlMessages.set i al' }
  | alFirst {i : Nat} {al al' : ExpectedAlAck} {handle : Todo} {ep : EndpointId}
      (hi : s.outboundAlMessages[i]? = some al) (hid : al'.identity = al.identity)
      (hf : k.strict → al.firstCompleteReportSent = false)
      (hf' : al'.firstCompleteReportSent = true)
      (hs : k.started → al.Pristine → ¬StartedIn s.port.alLog al.ticket → al' = al) :
      Act k s { s with
        outboundAlMessages := s.outboundAlMessages.set i al'
        port := (s.port.markServiceFirstComplete al.ticket).pushTlaReport (some al.ticket) handle
          .firstCompleteTransmission ep }
  | alFail {fails kept : List ExpectedAlAck} (hp : s.outboundAlMessages.Perm (fails ++ kept))
      (hk : kept.Sublist s.outboundAlMessages) :
      Act k s { s with outboundAlMessages := kept, port := fails.foldl reportAlFailed s.port }
  | alDrop {kept : List ExpectedAlAck} (hk : kept.Sublist s.outboundAlMessages) (h : ¬k.strict) :
      Act k s { s with outboundAlMessages := kept }
  | alComplete {i : Nat} {al : ExpectedAlAck} {q : Port} {handle : Todo} {ep : EndpointId}
      (hi : s.outboundAlMessages[i]? = some al)
      (hs : k.started → StartedIn s.port.alLog al.ticket) (hf : al.firstCompleteReportSent = true)
      (hq : s.port.markAcknowledged al.ticket = some q) :
      Act k s { s with
        outboundAlMessages := s.outboundAlMessages.eraseIdx i
        port := q.pushTlaReport (some al.ticket) handle .successfulTransfer ep }
  | alEnter {al : ExpectedAlAck} {handle : Todo} {ep : EndpointId} (ht : al.ticket = s.nextTicket)
      (hp : al.Pristine) (ha : k.admits s.alBooks al) :
      Act k s { s with
        outboundAlMessages := s.outboundAlMessages ++ [al], nextTicket := s.nextTicket + 1
        port := s.port.pushTlaReport (some s.nextTicket) handle .noSpecificReport ep }
  | alSubmit {i : Nat} {al al' : ExpectedAlAck} {reqs : List TmaUnitdataReq}
      {links : AdvancedLinkKey → Option AdvancedLinkSession} {blocked : List AdvancedLinkKey}
      (hi : s.outboundAlMessages[i]? = some al) (hid : al'.identity = al.identity)
      (hf : al'.firstCompleteReportSent = al.firstCompleteReportSent)
      (hselected : highestPriorityUnsubmittedAlIndex links s.outboundAlMessages blocked = some i)
      (hblocked : ∀ e ∈ s.outboundAlMessages, e.tSubmittedToUmac.isSome = true → e.key ∈ blocked)
      (hreqs : ∀ req ∈ reqs, ∃ g ∈ al.segments, g.Attempted al.ticket req)
      (hall : al.Pristine → ∀ g ∈ al.segments, ∃ req ∈ reqs,
        req.txReporter = some (.al al.ticket g.ss)) :
      Act k s { s with
        outboundAlMessages := s.outboundAlMessages.set i al'
        port := { s.port with queue := s.port.queue ++ reqs.map .tmaUnitdataReq } }

def Acts (k : Terms) : Llc → Llc → Prop := ReflTransGen (Act k)

variable {k : Terms} {s s' : Llc}

theorem Acts.refl : Acts k s s := ReflTransGen.refl

theorem Acts.trans (h : Acts k s s') (h' : Acts k s' s'') : Acts k s s'' :=
  ReflTransGen.trans h h'

theorem Act.acts (h : Act k s s') : Acts k s s' := ReflTransGen.single h

theorem Acts.keeps {P : Llc → Prop} (h : Acts k s s') (hact : ∀ s s', P s → Act k s s' → P s')
    (hs : P s) : P s' := by
  induction h with
  | refl => exact hs
  | tail _ ha ih => exact hact _ _ ih ha

/-! The books of the service -/

theorem moves_alMiddle (hi : s.outboundAlMessages[i]? = some al)
    (h : ∀ L, Moves c ⟨alEntry al :: L, s.port, s.nextTicket⟩ ⟨alEntry al' :: L, q, s.nextTicket⟩) :
    Moves c s.ledger ({ s with
      outboundAlMessages := s.outboundAlMessages.set i al', port := q } : Llc).ledger := by
  obtain ⟨A, B, hl, _, hset, _⟩ := split_at hi
  have hmid := moves_middle (s.outboundMessages.map blEntry ++ A.map alEntry) (B.map alEntry) h
  simp only [ledger, transfers, hset]
  simpa [hl] using hmid

/-- Whatever the LLC does is a move of its books. -/
theorem Act.moves (h : Act k s s') : Moves k.strict s.ledger s'.ledger := by
  cases h with
  | say ho _ => exact moves_say _ ho
  | aside | schedule => exact Moves.refl _
  | revise he _ => exact moves_perm (he.append_right _)
  | @first A B ack hs hf =>
    have hone : ∀ L, Moves k.strict ⟨blEntry ack :: L, s.port, s.nextTicket⟩
        ⟨(ack.ticket, true) :: L, reportBlFirstComplete s.port ack, s.nextTicket⟩ := fun L => by
      rw [blEntry, hf]
      exact (Move.first ack.reqHandle ack.endpointId).moves
    have hmid := moves_middle (A.map blEntry) (B.map blEntry ++ s.outboundAlMessages.map alEntry) hone
    simpa [ledger, transfers, hs, blEntry] using hmid
  | @fail A B ack hs =>
    have hone : ∀ L, Moves k.strict ⟨blEntry ack :: L, s.port, s.nextTicket⟩
        ⟨L, reportBlFailed s.port ack, s.nextTicket⟩ :=
      fun L => (Move.fail ack.reqHandle ack.endpointId).moves
    have hmid := moves_remove (A.map blEntry) (B.map blEntry ++ s.outboundAlMessages.map alEntry) hone
    simpa [ledger, transfers, hs] using hmid
  | @confirm l ack q ind hs hf hq =>
    have hmove : Moves k.strict ⟨(ack.ticket, true) :: (l.map blEntry ++
        s.outboundAlMessages.map alEntry), s.port, s.nextTicket⟩ _ :=
      (Move.succeed (.tlDataConfBl ack.ticket ack.reqHandle ind) rfl hq).moves
    simpa [ledger, transfers, hs, blEntry, hf] using hmove
  | @enter ack seq handle ep ht _ =>
    refine (Move.enter (l := s.ledger) handle ep).moves.trans ?_
    simp only [ledger, transfers, map_append, map_cons, map_nil, ht]
    refine moves_perm ?_
    rw [append_assoc, singleton_append]
    exact perm_middle.symm
  | ignore => exact (Move.ignore (l := s.ledger)).moves
  | @reject discard handle ep => exact (Move.reject (l := s.ledger) discard handle ep).moves
  | @alTouch i al al' hi hid hf _ =>
    have he : alEntry al' = alEntry al := by
      rw [alEntry, hf, show al'.ticket = al.ticket from congrArg AlIdentity.ticket hid]
      rfl
    exact moves_alMiddle hi (fun L => he ▸ Moves.refl _)
  | @alFirst i al al' handle ep hi hid hf hf' _ =>
    refine moves_alMiddle hi (fun L => ?_)
    rw [show alEntry al' = (al.ticket, true) by
      rw [alEntry, hf', show al'.ticket = al.ticket from congrArg AlIdentity.ticket hid], alEntry]
    cases hb : al.firstCompleteReportSent with
    | false => exact (Move.first handle ep).moves
    | true =>
      have hc : ¬k.strict := fun hc => by rw [hf hc] at hb; cases hb
      exact (Move.again hc handle ep).moves
  | @alFail fails kept hp _ =>
    refine Moves.trans (moves_perm ?_) (moves_reportAlFailed fails s.port)
    refine ((hp.map alEntry).append_left (s.outboundMessages.map blEntry)).trans ?_
    rw [map_append, transfers, ← append_assoc, ← append_assoc]
    exact perm_append_comm.append_right _
  | alDrop hk h => exact moves_drop h (hk.map _) _
  | @alComplete i al q handle ep hi _ hf hq =>
    obtain ⟨A, B, hl, _, _, herase, _⟩ := split_at hi
    have hone : ∀ L, Moves k.strict ⟨alEntry al :: L, s.port, s.nextTicket⟩ ⟨L,
        q.pushTlaReport (some al.ticket) handle .successfulTransfer ep, s.nextTicket⟩ := fun L => by
      rw [alEntry, hf]
      exact (Move.succeed (.tlaTlReportInd (some al.ticket) handle .successfulTransfer ep) rfl
        hq).moves
    have hmid := moves_remove (s.outboundMessages.map blEntry ++ A.map alEntry) (B.map alEntry) hone
    simp only [ledger, transfers, herase]
    simpa [hl] using hmid
  | @alEnter al handle ep ht hp _ =>
    refine (Move.enter (l := s.ledger) handle ep).moves.trans ?_
    have he : alEntry al = (s.nextTicket, false) := by rw [alEntry, ht, hp.notReported]
    simp only [ledger, transfers, map_append, map_cons, map_nil, he]
    refine moves_perm ?_
    rw [← append_assoc]
    exact (perm_append_singleton _ _).symm
  | @alSubmit i al al' reqs links blocked hi hid hf _ _ _ _ =>
    have he : alEntry al' = alEntry al := by
      rw [alEntry, hf, show al'.ticket = al.ticket from congrArg AlIdentity.ticket hid]
      rfl
    refine moves_alMiddle hi (fun L => he ▸ moves_says (fun m hm => ?_))
    obtain ⟨req, _, rfl⟩ := List.mem_map.mp hm
    rfl

theorem Acts.moves (h : Acts k s s') : Moves k.strict s.ledger s'.ledger :=
  h.keeps (P := fun t => Moves k.strict s.ledger t.ledger) (fun _ _ hm ha => hm.trans ha.moves)
    (Moves.refl _)

theorem Acts.receipted (h : Acts k s s') (hr : Receipted s.ledger) : Receipted s'.ledger :=
  hr.moves h.moves

/-! The books of the advanced links -/

theorem alLog_foldl_reportAlFailed (p : Port) (als : List ExpectedAlAck) :
    (als.foldl reportAlFailed p).alLog = p.alLog := by
  induction als generalizing p with
  | nil => rfl
  | cons al als ih => exact (ih _).trans (by simp [reportAlFailed])

theorem alLog_attempts {al : ExpectedAlAck} {reqs : List TmaUnitdataReq} (p : Port)
    (hreqs : ∀ req ∈ reqs, ∃ g ∈ al.segments, g.Attempted al.ticket req) :
    ({ p with queue := p.queue ++ reqs.map .tmaUnitdataReq } : Port).alLog =
      p.alLog ++ reqs.map .sent := by
  simp only [alLog, filterMap_append, append_cancel_left_eq]
  induction reqs with
  | nil => rfl
  | cons req reqs ih =>
    obtain ⟨g, _, pdu, _, rfl⟩ := hreqs req mem_cons_self
    rw [map_cons, map_cons, ← ih (fun r hr => hreqs r (mem_cons_of_mem _ hr))]
    rfl

theorem Act.alMoves (h : Act k s s') : AlMoves k.started k.admits s.alBooks s'.alBooks := by
  cases h with
  | say _ ha =>
    simp only [alBooks, alLog_push, ha, Option.toList_none, append_nil]
    exact AlMoves.refl _
  | aside | schedule | revise => exact AlMoves.refl _
  | first =>
    simp only [alBooks, reportBlFirstComplete, markServiceFirstComplete,
      alLog_pushTlaReport_first, alLog_tryMark]
    exact AlMoves.refl _
  | fail =>
    simp only [alBooks, reportBlFailed, alLog_pushTlaReport_failed, alLog_markServiceFailed]
    exact AlMoves.refl _
  | confirm _ _ hq =>
    simp only [alBooks, alLog_push, SapMsg.alEvent, Option.toList_none, append_nil,
      alLog_mark hq]
    exact AlMoves.refl _
  | enter =>
    simp only [alBooks, alLog_pushTlaReport_admitted]
    exact (AlMove.number (b := s.alBooks)).moves
  | ignore => exact (AlMove.number (b := s.alBooks)).moves
  | @reject discard handle ep =>
    have hlog : ((if discard then s.port.tryMark s.nextTicket .pending .discarded
        else s.port).pushTlaReport (some s.nextTicket) handle .failedTransfer ep).alLog =
        s.port.alLog := by
      cases discard <;> simp
    simp only [alBooks, hlog]
    exact (AlMove.number (b := s.alBooks)).moves
  | alTouch hi hid _ hs => exact (AlMove.touch (b := s.alBooks) hi hid hs).moves
  | alFirst hi hid _ _ hs =>
    simp only [alBooks, markServiceFirstComplete, alLog_pushTlaReport_first,
      alLog_tryMark]
    exact (AlMove.touch (b := s.alBooks) hi hid hs).moves
  | alFail _ hk =>
    simp only [alBooks, alLog_foldl_reportAlFailed]
    exact (AlMove.leave (b := s.alBooks) hk).moves
  | alDrop hk => exact (AlMove.leave (b := s.alBooks) hk).moves
  | @alComplete i al q handle ep hi hs _ hq =>
    have hlog : (q.pushTlaReport (some al.ticket) handle .successfulTransfer ep).alLog =
        s.port.alLog ++ [.succeeded al.ticket] := by
      rw [pushTlaReport, alLog_push, alLog_mark hq]
      rfl
    simp only [alBooks, hlog]
    exact (AlMove.complete (b := s.alBooks) hi hs).moves
  | alEnter ht hp ha =>
    simp only [alBooks, alLog_pushTlaReport_admitted]
    exact (AlMove.enter (b := s.alBooks) ht hp ha).moves
  | alSubmit hi hid _ hselected hblocked hreqs hall =>
    simp only [alBooks, alLog_attempts _ hreqs]
    exact (AlMove.submit (b := s.alBooks) hi hid hselected hblocked hreqs hall).moves

theorem Acts.alMoves (h : Acts k s s') : AlMoves k.started k.admits s.alBooks s'.alBooks :=
  h.keeps (P := fun t => AlMoves k.started k.admits s.alBooks t.alBooks)
    (fun _ _ hm ha => hm.trans ha.alMoves) (AlMoves.refl _)

/-! Other invariants -/

/-- What waits stays fit to be sent again. -/
theorem Act.basicSound (hs : BasicSound k.belongs s.basic) (h : Act k s s') :
    BasicSound k.belongs s'.basic := by
  have hload : ∀ ack ∈ s.outboundMessages, ack.LoadedBy k.belongs := hs.transfers
  cases h with
  | schedule h =>
    refine ⟨⟨hs.transfers, fun e he => ?_⟩, hs.sendSeq⟩
    rcases h e he with hold | hnew
    · exact hs.numbers e hold
    · exact hnew.1
  | revise _ hl => exact ⟨⟨hl hs.toLoaded, hs.numbers⟩, hs.sendSeq⟩
  | first h =>
    have hall := forall_mem_append.mp (h ▸ hload)
    have hrest := forall_mem_cons.mp hall.2
    exact ⟨⟨forall_mem_append.mpr ⟨hall.1, forall_mem_cons.mpr hrest⟩, hs.numbers⟩,
        hs.sendSeq⟩
  | fail h =>
    have hall := forall_mem_append.mp (h ▸ hload)
    have hrest := forall_mem_cons.mp hall.2
    exact ⟨⟨forall_mem_append.mpr ⟨hall.1, hrest.2⟩, hs.numbers⟩, hs.sendSeq⟩
  | confirm h =>
    exact ⟨⟨(forall_mem_cons.mp (h ▸ hload)).2, hs.numbers⟩, hs.sendSeq⟩
  | enter _ hl =>
    obtain ⟨hack, hseq⟩ := hl hs.sendSeq
    exact ⟨⟨forall_mem_append.mpr ⟨hs.transfers, forall_mem_singleton.mpr hack⟩, hs.numbers⟩,
      hseq⟩
  | _ => exact ⟨⟨hs.transfers, hs.numbers⟩, hs.sendSeq⟩

theorem Acts.basicSound (h : Acts k s s') (hs : BasicSound k.belongs s.basic) :
    BasicSound k.belongs s'.basic :=
  h.keeps (P := fun t => BasicSound k.belongs t.basic) (fun _ _ hb ha => ha.basicSound hb) hs

theorem Acts.assembliesFit (h : Acts k s s') (hs : AssembliesFit s.advancedLinkRx) :
    AssembliesFit s'.advancedLinkRx := by
  refine h.keeps (P := fun t => AssembliesFit t.advancedLinkRx) (fun t t' ht ha => ?_) hs
  cases ha with
  | aside _ hr => exact hr ht
  | _ => exact ht

theorem Acts.belowZero (h : Acts k s s') (hs : BelowZero s) : BelowZero s' := by
  refine h.keeps (P := BelowZero) (fun t t' ht ha => ?_) hs
  cases ha with
  | aside hn => exact ⟨ht.acks, hn ht.next⟩
  | schedule h =>
    refine ⟨fun e he => ?_, ht.next⟩
    rcases h e he with hold | hnew
    · exact ht.acks e hold
    · exact hnew.2 ht
  | _ => exact ⟨ht.acks, ht.next⟩

end NexusBs.Llc
