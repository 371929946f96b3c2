import NexusBs.Sds.SdsBs

namespace NexusBs.Sds
open Lib Cc List

def SdsMsg.isIndividual : SdsMsg → Bool
  | dSdsData _ _ _ mainAddress _ => mainAddress.ssiType == .issi
  | _ => false

def RfRoute.delivery : RfRoute → Option Delivery
  | deliver d => some d
  | _ => none

namespace SdsBs

variable {s s' s'' : SdsBs} {c : SdsCtx} {busy : List Nat} {m : PendingIndividualSds}
  {held kept rest : List PendingIndividualSds} {d : Delivery} {r : Option Cc.TxReporter}

/-- Nothing happens to a message for one radio. -/
structure SameAccounts (s s' : SdsBs) : Prop where
  deferred : s'.deferredIndividualSds = s.deferredIndividualSds
  ledger : s'.ledger = s.ledger
  discarded : s.discarded ⊆ s'.discarded

namespace SameAccounts

theorem trans (h : SameAccounts s s') (h' : SameAccounts s' s'') : SameAccounts s s'' where
  deferred := h'.deferred.trans h.deferred
  ledger := h'.ledger.trans h.ledger
  discarded := List.Subset.trans h.discarded h'.discarded

end SameAccounts

theorem send_same : SameAccounts s (s.send msgs) :=
  ⟨rfl, rfl, List.Subset.refl _⟩

theorem discardSdsReporter_same : SameAccounts s (s.discardSdsReporter r) :=
  ⟨rfl, rfl, subset_append_left _ _⟩

/-- Nor is one put on the message queue. -/
structure Aside (s s' : SdsBs) : Prop extends SameAccounts s s' where
  queue : s'.sent.filter (·.isIndividual) = s.sent.filter (·.isIndividual)

namespace Aside

theorem of_eq (hd : s'.deferredIndividualSds = s.deferredIndividualSds) (hl : s'.ledger = s.ledger)
    (hr : s'.discarded = s.discarded) (hm : s'.sent = s.sent) : Aside s s' :=
  ⟨⟨hd, hl, by rw [hr]; exact List.Subset.refl _⟩, by rw [hm]⟩

theorem refl (s : SdsBs) : Aside s s := of_eq rfl rfl rfl rfl

theorem trans (h : Aside s s') (h' : Aside s' s'') : Aside s s'' :=
  ⟨h.toSameAccounts.trans h'.toSameAccounts, h'.queue.trans h.queue⟩

theorem send (h : ∀ msg ∈ msgs, msg.isIndividual = false) : Aside s (s.send msgs) := by
  refine ⟨send_same, ?_⟩
  have hn : msgs.filter (·.isIndividual) = [] :=
    filter_eq_nil_iff.mpr (fun msg hmsg => by simp [h msg hmsg])
  rw [SdsBs.send, filter_append, hn, append_nil]

theorem discard (s : SdsBs) (r : Option Cc.TxReporter) : Aside s (s.discardSdsReporter r) :=
  ⟨discardSdsReporter_same, rfl⟩

end Aside

theorem mem_discardSdsReporter (h : r = some reporter) :
    reporter ∈ (s.discardSdsReporter r).discarded := by
  simp [discardSdsReporter, h]

theorem rememberSdsTlReportContext_same (s : SdsBs) (source dest : Nat) (ty : SsiType)
    (data : SdsUserData) : Aside s (s.rememberSdsTlReportContext source dest ty data) := by
  unfold rememberSdsTlReportContext
  split
  · exact .refl s
  split
  · exact .refl s
  · exact .of_eq rfl rfl rfl rfl

theorem takeSdsTlReportProtocolId_same (s : SdsBs) (reporting peer : Nat)
    (report : SdsShortReport) :
    Aside s (s.takeSdsTlReportProtocolId reporting peer report).2 := by
  unfold takeSdsTlReportProtocolId
  dsimp only
  split
  · exact .refl s
  split
  · exact .of_eq rfl rfl rfl rfl
  · exact .of_eq rfl rfl rfl rfl

/-- Sending touches no account; whoever sends does the booking. -/
theorem sendDSdsDataWithReporter_same (s : SdsBs) (source dest : Nat) (ty : SsiType)
    (data : SdsUserData) (r : Option Cc.TxReporter) :
    SameAccounts s (s.sendDSdsDataWithReporter source dest ty data r).2 := by
  have hr := (rememberSdsTlReportContext_same s source dest ty data).toSameAccounts
  unfold sendDSdsDataWithReporter
  split
  · exact discardSdsReporter_same
  dsimp only
  split
  · exact hr.trans discardSdsReporter_same
  · exact hr.trans send_same

/-- What is refused has its receipt marked. -/
theorem sendDSdsDataWithReporter_discards {source dest : Nat} {ty : SsiType} {data : SdsUserData}
    (h : (s.sendDSdsDataWithReporter source dest ty data r).1 = false) {reporter : Cc.TxReporter}
    (hr : r = some reporter) :
    reporter ∈ (s.sendDSdsDataWithReporter source dest ty data r).2.discarded := by
  unfold sendDSdsDataWithReporter at h ⊢
  split at h
  · next hv =>
    rw [if_pos hv]
    exact mem_discardSdsReporter hr
  rename_i hv
  rw [if_neg hv]
  dsimp only at h ⊢
  split at h
  · next hd =>
    rw [if_pos hd]
    exact mem_discardSdsReporter hr
  · cases h

/-- Every message for one radio that was accepted has gone out, has been given up with its receipt
marked, or is held. -/
structure Accounted (s : SdsBs) (held : List PendingIndividualSds) : Prop where
  numbered : s.ledger.accepted.map (·.number) = List.range s.ledger.accepted.length
  balanced : s.ledger.Balanced held
  discarded : ∀ m ∈ s.ledger.dropped, ∀ r, m.txReporter = some r → r ∈ s.discarded

/-- The messages for one radio go out in the order in which they were accepted. -/
def Ordered (s : SdsBs) (held : List PendingIndividualSds) : Prop :=
  s.ledger.InOrder (·.destIssi) held

/-- The books: every message is accounted for and, where `ordered` asks for it, in its order. -/
structure Kept (ordered : Prop) (s : SdsBs) (held : List PendingIndividualSds) : Prop where
  accounted : Accounted s held
  order : ordered → Ordered s held

namespace Kept

variable {p : Prop}

/-- The books are the ledger and the marked receipts. -/
theorem of_ledger (h : Kept p s held) (hl : s'.ledger = s.ledger) (hd : s.discarded ⊆ s'.discarded) :
    Kept p s' held := by
  obtain ⟨⟨hn, hb, hr⟩, ho⟩ := h
  unfold Ordered at ho
  rw [← hl] at hn hb hr ho
  exact ⟨⟨hn, hb, fun m hm r hmr => hd (hr m hm r hmr)⟩, ho⟩

theorem of_same (h : Kept p s held) (hs : SameAccounts s s') : Kept p s' held :=
  h.of_ledger hs.ledger hs.discarded

/-- A message is numbered as it comes in. -/
theorem accept (h : Kept p s held) (hm : m.number = s.ledger.accepted.length) :
    Kept p { s with ledger := s.ledger.accept m } (held ++ [m]) where
  accounted.numbered := by
    simp [Lib.Ledger.accept, map_append, map_cons, map_nil, length_append, range_succ,
      h.accounted.numbered, hm]
  accounted.balanced := h.accounted.balanced.accept
  accounted.discarded := h.accounted.discarded
  order hp := (h.order hp).accept

/-- A message leaves ahead of messages for other radios only. -/
theorem bookSent (h : Kept p s (kept ++ m :: rest))
    (hk : p → ∀ b ∈ kept, b.destIssi ≠ m.destIssi) : Kept p (s.bookSent m) (kept ++ rest) where
  accounted.numbered := h.accounted.numbered
  accounted.balanced := h.accounted.balanced.release
  accounted.discarded := h.accounted.discarded
  order hp := (h.order hp).release (hk hp)

/-- A message is given up once its receipt is marked. -/
theorem bookDropped (h : Kept p s (kept ++ m :: rest))
    (hr : ∀ r, m.txReporter = some r → r ∈ s.discarded) :
    Kept p (s.bookDropped m) (kept ++ rest) where
  accounted.numbered := h.accounted.numbered
  accounted.balanced := h.accounted.balanced.drop
  accounted.discarded := by
    intro b hb r hbr
    rcases mem_append.mp hb with hb | hb
    · exact h.accounted.discarded b hb r hbr
    · cases mem_singleton.mp hb
      exact hr r hbr
  order hp := (h.order hp).drop

/-- A message may be given up at any time if its receipt is marked. -/
theorem discard (h : Kept p s (kept ++ m :: rest)) :
    Kept p ((s.discardSdsReporter m.txReporter).bookDropped m) (kept ++ rest) :=
  (h.of_same discardSdsReporter_same).bookDropped (fun _ hr => mem_discardSdsReporter hr)

end Kept

/-! One message is sent. -/

/-- What cannot be sent has its receipt marked. -/
theorem sendIndividualSds_cases (s : SdsBs) (m : PendingIndividualSds) :
    ∃ t, SameAccounts s t ∧ (s.sendIndividualSds m = t.bookSent m ∨
      (∀ r, m.txReporter = some r → r ∈ t.discarded) ∧ s.sendIndividualSds m = t.bookDropped m) := by
  have hs := sendDSdsDataWithReporter_same s m.sourceIssi m.destIssi .issi m.userDefinedData
    m.txReporter
  unfold sendIndividualSds
  split
  · next heq =>
    rw [heq] at hs
    exact ⟨_, hs, .inl rfl⟩
  rename_i heq
  have hd := @sendDSdsDataWithReporter_discards s m.txReporter m.sourceIssi m.destIssi .issi
    m.userDefinedData (by rw [heq])
  rw [heq] at hs hd
  exact ⟨_, hs, .inr ⟨fun _ hr => hd hr, rfl⟩⟩

theorem sendIndividualSds_deferred :
    (s.sendIndividualSds m).deferredIndividualSds = s.deferredIndividualSds := by
  obtain ⟨t, hs, heq | ⟨-, heq⟩⟩ := sendIndividualSds_cases s m
  all_goals
    rw [heq]
    exact hs.deferred

/-- Sent or refused, the message is accounted for. -/
theorem Kept.sendIndividualSds (h : Kept p s (kept ++ m :: rest))
    (hk : p → ∀ b ∈ kept, b.destIssi ≠ m.destIssi) :
    Kept p (s.sendIndividualSds m) (kept ++ rest) := by
  obtain ⟨t, hs, heq | ⟨hd, heq⟩⟩ := sendIndividualSds_cases s m
  · rw [heq]
    exact (h.of_same hs).bookSent hk
  · rw [heq]
    exact (h.of_same hs).bookDropped hd

/-- Between two steps: the books are kept with what is in the queue, which has its limit. -/
structure Sound (ordered : Prop) (s : SdsBs) : Prop where
  books : Kept ordered s s.deferredIndividualSds
  bounded : s.deferredIndividualSds.length ≤ deferredIndividualSdsLimit

def InOrder (s : SdsBs) : Prop := Ordered s s.deferredIndividualSds

theorem sound_new : Sound p new where
  books := ⟨⟨rfl, Lib.Ledger.balanced_empty, fun _ hm => absurd hm not_mem_nil⟩,
    fun _ => Lib.Ledger.inOrder_empty⟩
  bounded := Nat.zero_le _

theorem Sound.of_same (h : Sound p s) (hs : SameAccounts s s') : Sound p s' where
  books := by
    rw [hs.deferred]
    exact h.books.of_same hs
  bounded := by
    rw [hs.deferred]
    exact h.bounded

/-- Beyond the limit it is the new message that is given up. -/
theorem Sound.deferIndividualSds (h : Kept p s (s.deferredIndividualSds ++ [m]))
    (hb : s.deferredIndividualSds.length ≤ deferredIndividualSdsLimit) :
    Sound p (s.deferIndividualSds m) := by
  unfold SdsBs.deferIndividualSds
  split
  · have hd := h.discard
    rw [append_nil] at hd
    exact ⟨hd, hb⟩
  · refine ⟨h.of_ledger rfl (List.Subset.refl _), ?_⟩
    rw [length_append, length_singleton]
    omega

/-- A message comes for a radio that is busy, or for which nothing is held. -/
def Timely (busy : List Nat) (s : SdsBs) (d : Delivery) : Prop :=
  d.destSsiType = .issi → busy.contains d.destSsi = true ∨
    ∀ m ∈ s.deferredIndividualSds, m.destIssi ≠ d.destSsi

instance (busy : List Nat) (s : SdsBs) (d : Delivery) : Decidable (Timely busy s d) := by
  unfold Timely
  infer_instance

theorem Timely.of_same (hs : SameAccounts s s') (h : Timely busy s d) : Timely busy s' d := by
  unfold Timely
  rw [hs.deferred]
  exact h

/-- A message that comes in time keeps the order. -/
theorem Sound.sendOrDefer (h : Sound p s) (ht : p → Timely busy s d) :
    Sound p (s.sendOrDeferDSdsData busy d r) := by
  unfold sendOrDeferDSdsData
  split
  · next hissi =>
    dsimp only
    have ha := @Kept.accept s
      ⟨s.ledger.accepted.length, d.sourceIssi, d.destSsi, d.userDefinedData, r⟩ _ p h.books rfl
    split
    · exact Sound.deferIndividualSds ha h.bounded
    · next hb =>
      have hs := ha.sendIndividualSds (fun hp => (ht hp hissi).resolve_left hb)
      rw [append_nil] at hs
      refine ⟨?_, ?_⟩
      · rw [sendIndividualSds_deferred]
        exact hs
      · rw [sendIndividualSds_deferred]
        exact h.bounded
  · exact h.of_same (sendDSdsDataWithReporter_same ..)

/-- While the queue is flushed, what has been looked at and kept is for busy radios, and it comes
before what has not been looked at. -/
structure Flushing (ordered : Prop) (c : SdsCtx) (s : SdsBs) (rest : List PendingIndividualSds) :
    Prop where
  books : Kept ordered s (s.deferredIndividualSds ++ rest)
  bounded : s.deferredIndividualSds.length + rest.length ≤ deferredIndividualSdsLimit
  busy : ∀ b ∈ s.deferredIndividualSds, c.busy.contains b.destIssi = true

/-- A turn of the flush: the message is kept back, given up or sent. -/
theorem Flushing.flushOne (h : Flushing p c s (m :: rest)) : Flushing p c (s.flushOne c m) rest := by
  have hl := h.bounded
  rw [length_cons] at hl
  unfold SdsBs.flushOne
  split
  · next hb =>
    refine ⟨?_, ?_, forall_mem_append.mpr ⟨h.busy, by simpa using hb⟩⟩
    · rw [append_assoc, singleton_append]
      exact h.books.of_ledger rfl (List.Subset.refl _)
    · rw [length_append, length_singleton]
      omega
  rename_i hb
  split
  · exact ⟨h.books.discard, Nat.le_of_succ_le hl, h.busy⟩
  · have hs := h.books.sendIndividualSds (fun _ b hbm he => hb (he ▸ h.busy b hbm))
    refine ⟨?_, ?_, ?_⟩ <;> rw [sendIndividualSds_deferred]
    · exact hs
    · omega
    · exact h.busy

/-- Once everything has been looked at, what was kept back is the queue. -/
theorem Flushing.foldl (h : Flushing p c s rest) : Sound p (rest.foldl (SdsBs.flushOne c) s) := by
  induction rest generalizing s with
  | nil =>
    have hb := h.books
    rw [append_nil] at hb
    exact ⟨hb, h.bounded⟩
  | cons m rest ih => exact ih h.flushOne

theorem Sound.flush (h : Sound p s) (c : SdsCtx) : Sound p (s.flushDeferredIndividualSds c) := by
  refine Flushing.foldl ⟨h.books.of_ledger rfl (List.Subset.refl _), ?_, nofun⟩
  rw [length_nil, Nat.zero_add]
  exact h.bounded

/-! Status messages have nothing to do with the queue. -/

theorem sendDStatus_same : Aside s (s.sendDStatus source dest ty status r) := by
  unfold sendDStatus
  split
  · exact Aside.discard s r
  · exact .send (by simp [SdsMsg.isIndividual])

theorem routeStatusFromControlFields_same (c : SdsCtx) (s : SdsBs) (status : CmceSdsStatus) :
    Aside s (s.routeStatusFromControlFields c status) := by
  unfold routeStatusFromControlFields
  split
  · exact Aside.discard s _
  dsimp only
  split
  · split
    · exact Aside.discard s _
    · exact sendDStatus_same ..
  · split
    · exact Aside.discard s _
    · exact sendDStatus_same ..
  · exact Aside.discard s _

/-- A status that is a command leaves at most an action to take. -/
theorem handleSdsCommandStatus_same (c : SdsCtx) (s : SdsBs) (source : Nat)
    (status : PreCodedStatus) : Aside s (s.handleSdsCommandStatus c source status).2 := by
  unfold handleSdsCommandStatus
  split
  · split
    · exact .refl s
    split
    · exact .refl s
    · exact .refl s
    · exact .of_eq rfl rfl rfl rfl
    · exact .refl s
    · exact .refl s
  · exact .refl s

/-- A report changes the context it answers, and no message. -/
theorem statusForBrew_same : Aside s (s.statusForBrew source dest status).2 := by
  unfold statusForBrew
  split
  · next report =>
    have ht := takeSdsTlReportProtocolId_same s source dest report
    split
    · next heq =>
      rw [heq] at ht
      exact ht
    rename_i heq
    rw [heq] at ht
    exact ht
  · exact .refl s

theorem routeStatusToDestination_same :
    Aside s (s.routeStatusToDestination c source dest status) := by
  unfold routeStatusToDestination
  split
  · exact .refl s
  · exact sendDStatus_same ..
  · exact sendDStatus_same ..
  split
  · exact statusForBrew_same.trans (.send (by simp [SdsMsg.isIndividual]))
  · exact .refl s

theorem routeStatusDeliver_same : Aside s (s.routeStatusDeliver c ul pdu) := by
  unfold routeStatusDeliver
  split
  · exact .refl s
  rename_i source _
  split
  · exact .send (by simp [SdsMsg.isIndividual])
  split
  · exact .refl s
  rename_i dest _
  split
  · have hc := handleSdsCommandStatus_same c s source pdu.preCodedStatus
    split
    · next heq =>
      rw [heq] at hc
      exact hc
    rename_i heq
    rw [heq] at hc
    exact hc.trans (routeStatusToDestination_same ..)
  · exact routeStatusToDestination_same ..

/-! What comes in. -/

/-- The text of a command takes a reference; nothing else changes. -/
theorem commandDelivery_same (c : SdsCtx) (s : SdsBs) (command : SdsCommand) :
    Aside s (s.commandDelivery c command).2 := by
  unfold commandDelivery
  split
  · unfold controlSds
    split
    · exact .refl s
    split
    · exact .refl s
    -- either way only the reference moves on
    dsimp only
    generalize sdsTlTextProtocolId :: _ = wrapped
    split
    · exact .of_eq rfl rfl rfl rfl
    · exact .of_eq rfl rfl rfl rfl
  · exact .refl s
  · exact .refl s

/-- What handling an event amounts to: messages for one radio are left alone, and then the one that
`route` names may come. -/
def Handles (busy : List Nat) (route : Option Delivery) (s s' : SdsBs) : Prop :=
  ∃ t, Aside s t ∧ (s' = t ∨ ∃ d ∈ route, ∃ r, s' = t.sendOrDeferDSdsData busy d r)

theorem Handles.of_aside (h : Aside s s') : Handles busy route s s' := ⟨s', h, .inl rfl⟩

/-- A message of a radio. -/
theorem routeRfDeliver_handles :
    Handles c.busy (c.rfRoute ul.address pdu).delivery s (s.routeRfDeliver c ul pdu) := by
  unfold routeRfDeliver
  cases c.rfRoute ul.address pdu with
  | ignore => exact .of_aside (.refl s)
  | deliver d => exact ⟨s, .refl s, .inr ⟨d, rfl, none, rfl⟩⟩
  | notSupported | forward => exact .of_aside (.send (by simp [SdsMsg.isIndividual]))

/-- A message of the network. -/
theorem rxSdsFromBrew_handles : Handles c.busy (c.brewRoute sds) s (s.rxSdsFromBrew c sds) := by
  unfold rxSdsFromBrew
  split
  · exact .of_aside (.discard s _)
  · next d hd => exact ⟨s, .refl s, .inr ⟨d, hd, _, rfl⟩⟩

/-- A message of the operator. -/
theorem rxCommand_handles :
    Handles c.busy (s.commandDelivery c command).1 s (s.rxCommand c command) := by
  unfold rxCommand
  split
  · exact .of_aside (routeStatusFromControlFields_same ..)
  have hc := commandDelivery_same c s command
  split
  · next d t heq =>
    rw [heq] at hc ⊢
    exact ⟨t, hc, .inr ⟨d, rfl, none, rfl⟩⟩
  · next t heq =>
    rw [heq] at hc
    exact .of_aside hc

/-- Events keep the books, and the order where messages come in time. -/
theorem Sound.handles (h : Sound p s) (hs : Handles busy route s s')
    (ht : p → ∀ d ∈ route, Timely busy s d) : Sound p s' := by
  obtain ⟨t, hsame, rfl | ⟨d, hd, r, rfl⟩⟩ := hs
  · exact h.of_same hsame.toSameAccounts
  · exact (h.of_same hsame.toSameAccounts).sendOrDefer
      (fun hp => (ht hp d hd).of_same hsame.toSameAccounts)

end SdsBs
end NexusBs.Sds
