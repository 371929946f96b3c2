import NexusBs.Llc.Acts

namespace NexusBs.Llc
open Lib List Option

variable {k : Terms} {s s' : Llc} {ack ack' : ExpectedInAck} {A B : List ExpectedInAck} {q : Port}
  {acks acks' : List ScheduledOutAck} {messages messages' : List ExpectedInAck} {t : TdmaTime}
  {prim : TmaUnitdataInd} {pdu : BitBuffer} {found : Option ExpectedInAck} {hasFcs : Bool}

theorem takeTlDataIndReqHandle_below (hn : s.nextTlDataIndReqHandle < 0) :
    s.takeTlDataIndReqHandle.2.nextTlDataIndReqHandle < 0 := by
  simp only [takeTlDataIndReqHandle]
  split
  · decide
  · exact (Int.sub_one_lt_iff.mpr (Int.le_of_lt hn) :)

theorem acts_takeTlDataIndReqHandle (s : Llc) : Acts k s s.takeTlDataIndReqHandle.2 :=
  (Act.aside takeTlDataIndReqHandle_below id).acts

theorem acts_unschedule (h : acks ⊆ s.scheduledOutAcks) :
    Acts k s { s with scheduledOutAcks := acks } :=
  (Act.schedule (fun _ he => .inl (h he))).acts

/-! One transfer -/

theorem Loaded.mid (h : Loaded belongs messages acks) (hs : messages = A ++ ack :: B) :
    ack.LoadedBy belongs :=
  h.transfers ack (hs ▸ mem_append_right _ mem_cons_self)

theorem acts_revise (hs : s.outboundMessages = A ++ ack :: B) (he : blEntry ack' = blEntry ack)
    (hl : Loaded k.belongs s.outboundMessages s.scheduledOutAcks → ack'.LoadedBy k.belongs) :
    Acts k s { s with outboundMessages := A ++ ack' :: B } := by
  refine (Act.revise ?_ (fun h => ?_)).acts
  · simp [hs, he]
  · have hall := forall_mem_append.mp (hs ▸ h.transfers)
    exact forall_mem_append.mpr
      ⟨hall.1, forall_mem_cons.mpr ⟨hl h, (forall_mem_cons.mp hall.2).2⟩⟩

theorem acts_touch (hs : s.outboundMessages = A ++ ack :: B) (he : blEntry ack' = blEntry ack)
    (hl : ack.LoadedBy k.belongs → ack'.LoadedBy k.belongs) :
    Acts k s { s with outboundMessages := A ++ ack' :: B } :=
  acts_revise hs he (fun h => hl (h.mid hs))

theorem acts_order (h : s.outboundMessages.Perm messages) :
    Acts k s { s with outboundMessages := messages } :=
  (Act.revise (h.map _) (fun hl e he => hl.transfers e (h.mem_iff.mpr he))).acts

theorem acts_first (ack : ExpectedInAck) (hs : s.outboundMessages = A ++ ack :: B)
    (hf : ack.firstCompleteReportSent = false) :
    Acts k s { s with
      outboundMessages := A ++ { ack with firstCompleteReportSent := true } :: B
      port := reportBlFirstComplete s.port ack } := (Act.first hs hf).acts

theorem acts_reconcile (hs : s.outboundMessages = A ++ ack :: B) (t : TdmaTime) :
    Acts k s { s with
      outboundMessages := A ++ (reconcileUmacDoneFromReporter s.port ack t).2 :: B
      port := (reconcileUmacDoneFromReporter s.port ack t).1 } := by
  unfold reconcileUmacDoneFromReporter
  dsimp only
  split
  · rw [← hs]
    exact Acts.refl
  have hdone : Acts k s { s with outboundMessages := A ++ { ack with tUmacDone := some t } :: B } :=
    acts_touch hs rfl id
  split
  · rename_i h
    simp only [Bool.and_eq_true, Bool.not_eq_true'] at h
    exact hdone.trans (acts_first { ack with tUmacDone := some t } rfl h.2)
  · exact hdone

theorem acts_completeEarlyAcked (hs : s.outboundMessages = A ++ ack :: B) (t : TdmaTime) :
    (completeEarlyAcked s.port ack t).2.firstCompleteReportSent = true ∧
    Acts k s { s with
      outboundMessages := A ++ (completeEarlyAcked s.port ack t).2 :: B
      port := (completeEarlyAcked s.port ack t).1 } := by
  have hdone : Acts k s { s with outboundMessages := A ++ { ack with
      currentMacReporter := ack.currentMacReporter.map (·.tryMark .transmitted)
      tUmacDone := some t } :: B } := acts_touch hs rfl id
  unfold completeEarlyAcked
  dsimp only
  split
  · rename_i hf
    exact ⟨hf, hdone⟩
  · rename_i hf
    exact ⟨rfl, hdone.trans (acts_first { ack with
      currentMacReporter := ack.currentMacReporter.map (·.tryMark .transmitted)
      tUmacDone := some t } rfl (Bool.eq_false_of_not_eq_true hf))⟩

theorem takeExpectedAckForKey_split (h : takeExpectedAckForKey messages key = some (ack, messages')) :
    ∃ A B, messages = A ++ ack :: B ∧ messages' = A ++ B := by
  obtain ⟨a, ha, he⟩ := map_eq_some_iff.mp h
  obtain ⟨A, B, hm, hr, _⟩ := split_find ha
  cases he
  exact ⟨A, B, hm, hr⟩

/-- An N(R) either settles nothing for good, or takes out a transfer whose receipt is marked
acknowledged; the confirm is still to be sent. -/
theorem acts_processIncomingAck (h : s.processIncomingAck key nr = some (s', found)) :
    (found = none → Acts k s s') ∧
    ∀ ack ∈ found, ack.firstCompleteReportSent = true ∧
      ∃ p, p.markAcknowledged ack.ticket = some s'.port ∧
        Acts k s { s' with outboundMessages := ack :: s'.outboundMessages, port := p } := by
  unfold processIncomingAck at h
  split at h
  · cases h
    exact ⟨fun _ => Acts.refl, fun _ ha => by cases ha⟩
  rename_i ack rest htake
  obtain ⟨A, B, hs, rfl⟩ := takeExpectedAckForKey_split htake
  have hrec := acts_reconcile (k := k) hs s.dltime
  revert h hrec
  generalize reconcileUmacDoneFromReporter s.port ack s.dltime = r
  intro h hrec
  obtain ⟨p, ack⟩ := r
  have hfront : Acts k s { s with outboundMessages := ack :: (A ++ B), port := p } :=
    hrec.trans (acts_order perm_middle)
  dsimp only at h
  split at h
  · split at h
    · obtain ⟨hf, hdone⟩ := acts_completeEarlyAcked (k := k) (A := [])
        (s := { s with outboundMessages := ack :: (A ++ B), port := p }) rfl s.dltime
      obtain ⟨q, hq, h⟩ := map_eq_some_iff.mp h
      cases h
      refine ⟨fun h => (by cases h), fun a ha => ?_⟩
      cases ha
      exact ⟨hf, _, hq, hfront.trans hdone⟩
    · cases h
      exact ⟨fun _ => hfront, fun _ ha => by cases ha⟩
  rename_i hdone
  split at h
  · obtain ⟨q, hq, h⟩ := map_eq_some_iff.mp h
    cases h
    refine ⟨fun h => (by cases h), fun a ha => ?_⟩
    cases ha
    simp only [Bool.or_eq_true, not_or, Bool.not_eq_true', Bool.not_eq_false] at hdone
    exact ⟨hdone.2, _, hq, hfront⟩
  split at h
  · cases h
    exact ⟨fun _ => hfront.trans (acts_touch (A := []) rfl rfl id),
      fun _ ha => by cases ha⟩
  · cases h
    exact ⟨fun _ => hfront.trans (Act.fail (A := []) rfl).acts, fun _ ha => by cases ha⟩

/-! Submission to the MAC -/

theorem acts_pushStandaloneBlAck {ack : ScheduledOutAck}
    (h : pushStandaloneBlAck s.port ack = some q) : Acts k s { s with port := q } := by
  simp only [pushStandaloneBlAck, bind_eq_bind, bind_eq_some_iff] at h
  obtain ⟨_, _, _, _, h⟩ := h
  cases h
  exact (Act.say rfl rfl).acts

theorem rebuildAsBlData_entry (h : rebuildRetransmissionAsBlData ack sdu hasFcs = some ack') :
    blEntry ack' = blEntry ack := by
  simp only [rebuildRetransmissionAsBlData, bind_eq_bind, bind_eq_some_iff] at h
  obtain ⟨_, _, _, _, h⟩ := h
  cases h
  rfl

theorem rebuildAsBlAdata_entry (h : rebuildRetransmissionAsBlAdata ack sdu hasFcs nr = some ack') :
    blEntry ack' = blEntry ack := by
  simp only [rebuildRetransmissionAsBlAdata, bind_eq_bind, bind_eq_some_iff] at h
  obtain ⟨_, _, _, _, h⟩ := h
  cases h
  rfl

/-- A waiting acknowledgement travels in the transfer, or on its own. -/
theorem fold_spec (h : foldWaitingAckIntoMacReadyBlData mc p acks ack = some (q, acks', ack')) :
    blEntry ack' = blEntry ack ∧ acks' ⊆ acks ∧
      (q = p ∨ ∃ waiting, pushStandaloneBlAck p waiting = some q) := by
  simp only [foldWaitingAckIntoMacReadyBlData, bind_eq_bind, bind_eq_some_iff] at h
  obtain ⟨r, _, h⟩ := h
  split at h
  · cases h
    exact ⟨rfl, List.Subset.refl _, .inl rfl⟩
  split at h
  · split at h
    · obtain ⟨a, ha, h⟩ := bind_eq_some_iff.mp h
      cases h
      exact ⟨rebuildAsBlData_entry ha, List.Subset.refl _, .inl rfl⟩
    · cases h
      exact ⟨rfl, List.Subset.refl _, .inl rfl⟩
  rename_i waiting rest htake
  obtain ⟨_, _, rfl⟩ := takeScheduledOutAck_mem htake
  split at h
  · obtain ⟨p', hp, h⟩ := bind_eq_some_iff.mp h
    obtain ⟨a, ha, h⟩ := bind_eq_some_iff.mp h
    cases h
    exact ⟨rebuildAsBlData_entry ha, eraseP_subset, .inr ⟨waiting, hp⟩⟩
  · obtain ⟨a, ha, h⟩ := bind_eq_some_iff.mp h
    cases h
    exact ⟨rebuildAsBlAdata_entry ha, eraseP_subset, .inl rfl⟩

/-- A transfer is made ready for the MAC and handed to it. -/
theorem acts_submit (hs : s.outboundMessages = A ++ ack :: B)
    (h : foldWaitingAckIntoMacReadyBlData mc s.port s.scheduledOutAcks ack = some (q, acks', ack'))
    (t : TdmaTime) :
    Acts k s { s with
      outboundMessages := A ++ (submitForAcknowledgedTransmission q ack' t).2 :: B
      scheduledOutAcks := acks'
      port := (submitForAcknowledgedTransmission q ack' t).1 } := by
  obtain ⟨he, hsub, hq⟩ := fold_spec h
  have hrevise : Acts k s { s with outboundMessages := A ++ ack' :: B } :=
    acts_revise hs he (fun hl => (loadedBy_fold (hl.mid hs) hl.numbers h).1)
  have hacks : Acts k s { s with outboundMessages := A ++ ack' :: B, scheduledOutAcks := acks' } :=
    hrevise.trans (acts_unschedule hsub)
  have hport : Acts k s { s with
      outboundMessages := A ++ ack' :: B, scheduledOutAcks := acks', port := q } := by
    rcases hq with rfl | ⟨waiting, hq⟩
    · exact hacks
    · exact hacks.trans (acts_pushStandaloneBlAck hq)
  have htouch := acts_touch (k := k) (A := A) (B := B) (s := { s with
    outboundMessages := A ++ ack' :: B, scheduledOutAcks := acks', port := q }) rfl
    (show blEntry (submitForAcknowledgedTransmission q ack' t).2 = blEntry ack' from rfl) id
  exact hport.trans (htouch.trans (Act.say rfl rfl).acts)

theorem acts_retryOne (hs : s.outboundMessages = A ++ ack :: B)
    (h : retryOne mc t s.port s.scheduledOutAcks ack = some (q, acks', ack', givenUp)) :
    Acts k s { s with
      outboundMessages := A ++ ack' :: B, scheduledOutAcks := acks', port := q } := by
  unfold retryOne at h
  have hrec := acts_reconcile (k := k) hs t
  revert h hrec
  generalize reconcileUmacDoneFromReporter s.port ack t = r
  intro h hrec
  obtain ⟨p1, ack1⟩ := r
  have hagain : ∀ (e : ExpectedInAck), blEntry e = blEntry ack1 →
      (ack1.LoadedBy k.belongs → e.LoadedBy k.belongs) →
      Acts k s { s with outboundMessages := A ++ e :: B, port := p1 } := fun e he hl =>
    hrec.trans (acts_touch (A := A) (B := B) rfl he hl)
  dsimp only at h
  split at h
  · cases h
    exact hrec
  split at h
  · cases h
    exact hrec
  split at h
  · split at h
    · obtain ⟨⟨p2, acks2, ack2⟩, hfold, h⟩ := bind_eq_some_iff.mp h
      cases h
      exact (hagain { ack1 with
        retransmitCount := ack1.retransmitCount + 1
        tRetransmissionsExhausted := none } rfl id).trans (acts_submit rfl hfold _)
    · split at h
      · cases h
        exact hagain _ rfl id
      · cases h
        exact hrec
  · cases h
    exact hrec

theorem acts_retryAll (hs : s.outboundMessages = A ++ messages)
    (h : retryAll mc t s.port s.scheduledOutAcks messages = some (q, acks', messages', removals)) :
    Acts k s { s with
      outboundMessages := A ++ messages', scheduledOutAcks := acks', port := q } := by
  induction messages generalizing s q acks' messages' removals A with
  | nil =>
    cases h
    rw [← hs]
    exact Acts.refl
  | cons ack messages ih =>
    simp only [retryAll, bind_eq_bind, bind_eq_some_iff] at h
    obtain ⟨⟨p1, acks1, ack1, up⟩, hone, ⟨p2, acks2, ms, rm⟩, hall, h⟩ := h
    cases h
    have hrest := ih (s := { s with
      outboundMessages := A ++ ack1 :: messages, scheduledOutAcks := acks1, port := p1 })
      (A := A ++ [ack1]) (by simp) hall
    rw [append_assoc, singleton_append] at hrest
    exact (acts_retryOne hs hone).trans hrest

theorem acts_failTransfers (s : Llc) (keys : List BasicLinkKey) :
    Acts k s { s with
      outboundMessages := (failTransfers s.port s.outboundMessages keys).2
      port := (failTransfers s.port s.outboundMessages keys).1 } := by
  induction keys generalizing s with
  | nil => exact Acts.refl
  | cons key keys ih =>
    unfold failTransfers
    split
    · exact ih s
    rename_i ack rest htake
    obtain ⟨A, B, hs, rfl⟩ := takeExpectedAckForKey_split htake
    exact (Act.fail hs).acts.trans (ih _)

theorem acts_submitRetransmissionsToUmac (h : s.submitRetransmissionsToUmac = some s') :
    Acts k s s' := by
  simp only [submitRetransmissionsToUmac, bind_eq_bind, bind_eq_some_iff] at h
  obtain ⟨⟨p, acks, messages, removals⟩, hall, h⟩ := h
  cases h
  exact (acts_retryAll (A := []) rfl hall).trans (acts_failTransfers _ removals)

theorem acts_says (ms : List Todo) (s : Llc) :
    Acts k s { s with port := { s.port with queue := s.port.queue ++ ms.map .tmaCancelReq } } := by
  induction ms generalizing s with
  | nil =>
    rw [map_nil, append_nil]
    exact Acts.refl
  | cons m ms ih =>
    have hrest := ih { s with port := s.port.push (.tmaCancelReq m) }
    simp only [Port.push, append_assoc, singleton_append] at hrest
    exact (Act.say (m := .tmaCancelReq m) rfl rfl).acts.trans hrest

theorem acts_cancelLowerPriority :
    Acts k s s.cancelLowerPriorityPendingMacTransfersForEmergency := by
  have hsay := acts_says (k := k) ((s.outboundMessages.filter (cancelsForEmergency
    s.outboundMessages)).map (·.reqHandle) ++ (s.outboundUdataMessages.filter
      (cancelsUdataForEmergency s.outboundMessages)).map (·.reqHandle)) s
  rw [map_append, List.map_map, List.map_map] at hsay
  refine hsay.trans (Acts.trans (Act.aside id id).acts (Act.revise ?_ (fun hl e he => ?_)).acts)
  · rw [List.map_map]
    refine .of_eq (map_congr_left (fun a _ => ?_))
    simp only [Function.comp_apply]
    split <;> rfl
  · obtain ⟨a, ha, rfl⟩ := List.mem_map.mp he
    have hload := hl.transfers a ha
    split <;> exact hload

/-- Renumbering changes no entry, and no TL-SDU. -/
theorem rewriteNsAt_spec (h : rewriteNsAt messages pairs = some messages') :
    messages'.map blEntry = messages.map blEntry ∧
    ∀ belongs, (∀ pair ∈ pairs, pair.2 < 2) → (∀ e ∈ messages, e.LoadedBy belongs) →
      ∀ e ∈ messages', e.LoadedBy belongs := by
  induction pairs generalizing messages with
  | nil =>
    cases h
    exact ⟨rfl, fun _ _ hl => hl⟩
  | cons pair pairs ih =>
    obtain ⟨idx, ns⟩ := pair
    unfold rewriteNsAt at h
    split at h
    · cases h
    rename_i ack hi
    obtain ⟨ack', hack, h⟩ := bind_eq_some_iff.mp h
    have hentry : blEntry ack' = blEntry ack := by
      unfold rewriteRetransmissionNs at hack
      split at hack
      · cases hack
        rfl
      simp only [bind_eq_bind, bind_eq_some_iff] at hack
      obtain ⟨r, _, hack⟩ := hack
      split at hack
      · cases hack
        rfl
      split at hack
      · exact (rebuildAsBlAdata_entry hack).trans rfl
      · exact (rebuildAsBlData_entry hack).trans rfl
    obtain ⟨hentries, hloaded⟩ := ih h
    refine ⟨hentries.trans (map_set hi hentry), fun belongs hp hl => hloaded belongs
      (fun x hx => hp x (mem_cons_of_mem _ hx)) (fun e he => ?_)⟩
    rcases mem_or_eq_of_mem_set he with he | rfl
    · exact hl e he
    · exact loadedBy_rewriteRetransmissionNs (hp (idx, ns) mem_cons_self)
        (hl ack (List.mem_of_getElem? hi)) hack

theorem acts_normalize (h : normalizeUnsubmittedNsForKey s.outboundMessages key = some messages') :
    Acts k s { s with outboundMessages := messages' } := by
  unfold normalizeUnsubmittedNsForKey at h
  dsimp only at h
  split at h
  · cases h
    exact Acts.refl
  obtain ⟨hentries, hloaded⟩ := rewriteNsAt_spec h
  refine (Act.revise (.of_eq hentries.symm) (fun hl => hloaded _ (fun pair hpair => ?_)
    hl.transfers)).acts
  obtain ⟨i, _, hns⟩ := List.mem_map.mp (of_mem_zip hpair).2
  rw [← hns]
  cases hget : s.outboundMessages[i]? with
  | none => simp
  | some ack =>
    obtain ⟨sdu, _, hc⟩ := hl.transfers ack (List.mem_of_getElem? hget)
    simpa using hc.1

theorem acts_submitFreeLoop
    (h : submitFreeLoop mc t fuel s.port s.scheduledOutAcks s.outboundMessages blocked =
      some (q, acks', messages')) :
    Acts k s { s with outboundMessages := messages', scheduledOutAcks := acks', port := q } := by
  induction fuel generalizing s blocked with
  | zero =>
    cases h
    exact Acts.refl
  | succ fuel ih =>
    unfold submitFreeLoop at h
    split at h
    · cases h
      exact Acts.refl
    split at h
    · cases h
    simp only [bind_eq_bind, bind_eq_some_iff] at h
    obtain ⟨ms, hn, ack, hi, ⟨p1, acks1, ack1⟩, hfold, h⟩ := h
    obtain ⟨A, B, rfl, _, hset, _⟩ := split_at hi
    rw [hset] at h
    have hsub := acts_submit (k := k) (s := { s with outboundMessages := A ++ ack :: B }) rfl hfold
      (t.forwardToTimeslot ack1.tFirst.t)
    exact (acts_normalize hn).trans (hsub.trans (ih h))

theorem acts_submitFreeMessagesToUmac (h : s.submitFreeMessagesToUmac = some s') : Acts k s s' := by
  simp only [submitFreeMessagesToUmac, bind_eq_bind, bind_eq_some_iff] at h
  obtain ⟨⟨p, acks, messages⟩, hloop, h⟩ := h
  cases h
  exact acts_cancelLowerPriority.trans (acts_submitFreeLoop hloop)

theorem acts_submitAckReplies (h : submitAckRepliesToUmac s.port acks = some q) :
    Acts k s { s with port := q } := by
  induction acks generalizing s with
  | nil =>
    cases h
    exact Acts.refl
  | cons ack acks ih =>
    obtain ⟨p, hp, h⟩ := bind_eq_some_iff.mp h
    exact (acts_pushStandaloneBlAck hp).trans (ih (s := { s with port := p }) h)

/-! Unacknowledged transfers -/

theorem acts_submitUdataLoop (s : Llc) (fuel : Nat) (udata : List QueuedUdata) :
    Acts k s { s with port := (submitUdataLoop s.port fuel udata).1 } := by
  induction fuel generalizing s udata with
  | zero => exact Acts.refl
  | succ fuel ih =>
    unfold submitUdataLoop
    split
    · exact Acts.refl
    split
    · exact Acts.refl
    · exact (Act.say rfl rfl).acts.trans (ih { s with port := s.port.push _ } _)

theorem acts_submitUdataMsgsToUmac : Acts k s s.submitUdataMsgsToUmac :=
  (acts_submitUdataLoop s _ _).trans (Act.aside id id).acts

theorem acts_ensureUdata (s : Llc) (prio : Todo) (limit fuel : Nat) (udata : List QueuedUdata) :
    Acts k s { s with port := (ensureUdataBacklogCapacity s.port prio limit fuel udata).1 } := by
  induction fuel generalizing s udata with
  | zero => exact Acts.refl
  | succ fuel ih =>
    unfold ensureUdataBacklogCapacity
    split
    · exact Acts.refl
    split
    · exact Acts.refl
    split
    · exact Acts.refl
    · exact (Act.say rfl rfl).acts.trans (ih { s with port := s.port.push _ } _)

theorem acts_rxTlaTlunitdataReqBl {prim : TlaTlUnitdataReqBl}
    (h : s.rxTlaTlunitdataReqBl prim = some s') : Acts k s s' := by
  unfold rxTlaTlunitdataReqBl at h
  dsimp only at h
  split at h
  · cases h
    exact (Act.say rfl rfl).acts
  split at h
  · cases h
    exact (Act.say rfl rfl).acts
  have hens := acts_ensureUdata (k := k) s prim.pduPrio llcMaxOutboundUdataMessages
    s.outboundUdataMessages.length s.outboundUdataMessages
  generalize ensureUdataBacklogCapacity s.port prim.pduPrio llcMaxOutboundUdataMessages
    s.outboundUdataMessages.length s.outboundUdataMessages = r at h hens
  obtain ⟨p, ms, room⟩ := r
  dsimp only at h
  split at h
  · simp only [bind_eq_bind, bind_eq_some_iff] at h
    obtain ⟨_, _, _, _, h⟩ := h
    cases h
    exact hens.trans (Act.aside id id).acts
  · cases h
    exact hens.trans (Acts.trans (Act.say rfl rfl).acts (Act.aside id id).acts)

theorem acts_handleUdataTmaReport (h : s.handleUdataTmaReportAtIndex report idx = some s') :
    Acts k s s' := by
  have hsay : ∀ (u : QueuedUdata) (r : TlaReport), Acts k s (s.finishUdata idx u r) := fun u r =>
    Acts.trans (Act.say rfl rfl).acts (Act.aside id id).acts
  unfold handleUdataTmaReportAtIndex at h
  dsimp only at h
  repeat' split at h
  all_goals first
    | (cases h; exact Acts.refl)
    | (cases h; exact hsay _ _)
    | (cases h; exact (Act.aside id id).acts)
    | cases h

/-! Requests and reports -/

theorem acts_rxTlaTldataReqBasic {prim : TlaTlDataReqBl}
    (hb : k.belongs s.nextTicket prim.tlSdu.rest)
    (h : ({ s with nextTicket := s.nextTicket + 1 } : Llc).rxTlaTldataReqBasic prim s.nextTicket =
      some s') : Acts k s s' := by
  unfold rxTlaTldataReqBasic at h
  split at h
  · cases h
    exact Act.ignore.acts
  split at h
  · obtain ⟨p, hp, h⟩ := map_eq_some_iff.mp h
    cases h
    have hpe : p = if prim.txReporter then s.port.tryMark s.nextTicket .pending .discarded
        else s.port := by
      split at hp
      · rename_i ht
        rw [if_pos ht]
        unfold Port.mark at hp
        split at hp
        · exact (Option.some.inj hp).symm
        · cases hp
      · rename_i ht
        rw [if_neg ht]
        exact (Option.some.inj hp).symm
    rw [hpe]
    exact Act.reject.acts
  split at h
  · cases h
    exact Act.reject.acts
  simp only [bind_eq_bind, bind_eq_some_iff] at h
  obtain ⟨b, hhead, c, happ, h⟩ := h
  cases h
  refine (Act.enter rfl (fun hseq => ⟨⟨_, hb, carries_newExpectedInAck (hseq _) hhead happ⟩,
    fun key => ?_⟩)).acts
  rw [Function.update_apply]
  split
  · exact Nat.xor_lt_two_pow (n := 1) (hseq _) (by decide)
  · exact hseq key

theorem acts_handleBlTmaReport (h : s.handleBlTmaReportAtIndex report idx = some s') :
    Acts k s s' := by
  unfold handleBlTmaReportAtIndex at h
  split at h
  · cases h
  rename_i ack hi
  obtain ⟨A, B, hs, _, hset, herase, hins⟩ := split_at hi
  have hfail : s.handleBlTmaFailure report idx ack = some s' → Acts k s s' := by
    intro h
    unfold handleBlTmaFailure at h
    dsimp only at h
    split at h
    · simp only [bind_eq_bind, bind_eq_some_iff] at h
      obtain ⟨⟨p, acks, ack'⟩, hfold, h⟩ := h
      cases h
      rw [hins]
      refine Acts.trans (acts_touch hs (show blEntry { ack with
        currentMacReporter := ack.currentMacReporter.map (·.tryMark .discarded)
        tUmacDone := some s.dltime
        tRetransmissionsExhausted := none
        retransmitCount := ack.retransmitCount + 1 } = blEntry ack from rfl) id) ?_
      exact acts_submit (s := { s with outboundMessages := A ++ _ :: B }) rfl hfold _
    · cases h
      rw [herase]
      exact (Act.fail hs).acts
  cases report with
  | confirmHandle =>
    cases h
    exact Acts.refl
  | successRandomAccess | successReservedOrStealing =>
    cases h
    rw [hset]
    split
    · rename_i hf
      exact acts_touch hs (by rw [blEntry, blEntry, hf]) id
    · rename_i hf
      exact (acts_first ack hs (Bool.eq_false_of_not_eq_true hf)).trans
        (acts_touch (A := A) (B := B) rfl rfl id)
  | failedTransfer | fragmentationFailure | randomAccessFailure => exact hfail h

/-! Reception -/

/-- An acknowledgement is scheduled under a handle that waits already or under the next one. -/
theorem acts_receiveOptionalNs (hns : ∀ n ∈ ns, n < 2) :
    Acts k s (s.receiveOptionalNs prim ns).1 := by
  have hupsert : ∀ {ns : Nat} {handle : Todo}, ns < 2 → (BelowZero s → handle < 0) →
      Acts k s { s with
        scheduledOutAcks := upsertScheduledOutAck s.scheduledOutAcks (s.dltime.addTimeslots (-2))
          prim.mainAddress prim.endpointId ns handle prim.airInterfaceEncryption } := by
    intro ns handle hn hh
    refine (Act.schedule (fun e he => ?_)).acts
    unfold upsertScheduledOutAck at he
    dsimp only at he
    split at he
    · rcases mem_or_eq_of_mem_set he with he | rfl
      · exact .inl he
      · exact .inr ⟨hn, hh⟩
    rcases mem_append.mp he with he | he
    · exact .inl he
    · rw [mem_singleton] at he
      subst he
      exact .inr ⟨hn, hh⟩
  unfold receiveOptionalNs
  cases ns with
  | none => exact Acts.refl
  | some ns =>
    have hfresh : ∀ {seq : BasicLinkKey → Option ReceiveSeqState}, Acts k s { s with
        scheduledOutAcks := upsertScheduledOutAck s.scheduledOutAcks (s.dltime.addTimeslots (-2))
          prim.mainAddress prim.endpointId ns s.nextTlDataIndReqHandle prim.airInterfaceEncryption
        nextTlDataIndReqHandle := s.takeTlDataIndReqHandle.2.nextTlDataIndReqHandle
        inboundReceiveSeq := seq } := by
      refine (hupsert (hns ns rfl) (fun hb => hb.next)).trans (Act.acts (.aside ?_ id))
      exact takeTlDataIndReqHandle_below
    unfold receiveNs
    dsimp only
    split
    · split
      · rename_i handle hk
        refine (hupsert (hns ns rfl) (fun hb => ?_)).trans (Act.aside id id).acts
        obtain ⟨ack, ha, rfl⟩ := map_eq_some_iff.mp hk
        exact hb.acks ack (List.mem_of_find?_eq_some ha)
      · exact hfresh
    · exact hfresh

theorem acts_deliverBl (h : s.deliverBl prim handle pdu hasFcs = some s') : Acts k s s' := by
  simp only [deliverBl, bind_eq_bind, bind_eq_some_iff] at h
  obtain ⟨tlSdu, _, h⟩ := h
  split at h <;> (cases h; exact (Act.say rfl rfl).acts)

theorem acts_rxBlBody (hns : ∀ n ∈ ns, n < 2)
    (h : s.rxBlBody prim isBlAck ns nr pdu hasFcs fcsOk = some s') : Acts k s s' := by
  unfold rxBlBody at h
  have hreceive : Acts k s (s.receiveOptionalNs prim (if fcsOk then ns else none)).1 :=
    acts_receiveOptionalNs (fun n hn => by
      split at hn
      · exact hns n hn
      · cases hn)
  generalize s.receiveOptionalNs prim (if fcsOk then ns else none) = r at h hreceive
  obtain ⟨s1, duplicate, handle⟩ := r
  obtain ⟨⟨s2, found⟩, hack, h⟩ := bind_eq_some_iff.mp h
  have hmatch : (found = none → Acts k s1 s2) ∧
      ∀ ack ∈ found, ∀ ind, Acts k s1 { s2 with
        port := s2.port.push (.tlDataConfBl ack.ticket ack.reqHandle ind) } := by
    unfold processOptionalAck at hack
    split at hack
    · obtain ⟨hnone, hsome⟩ := acts_processIncomingAck (k := k) hack
      refine ⟨hnone, fun ack ha ind => ?_⟩
      obtain ⟨hf, p, hp, hacts⟩ := hsome ack ha
      exact hacts.trans (Act.confirm rfl hf hp).acts
    · cases hack
      exact ⟨fun _ => Acts.refl, fun _ ha => by cases ha⟩
  refine hreceive.trans ?_
  dsimp only at h
  split at h
  · simp only [rxBlAck, bind_eq_bind, bind_eq_some_iff] at h
    obtain ⟨sdu, _, h⟩ := h
    split at h
    · cases h
      exact hmatch.2 _ rfl _
    split at h
    · cases h
      exact hmatch.1 rfl
    · cases h
      exact (hmatch.1 rfl).trans ((acts_takeTlDataIndReqHandle _).trans (Act.say rfl rfl).acts)
  · have hconf : Acts k s1 (s2.confirmMatch prim found) := by
      cases found with
      | none => exact hmatch.1 rfl
      | some ack => exact hmatch.2 ack rfl _
    unfold rxBlData at h
    split at h
    · cases h
      exact hconf
    · exact hconf.trans (acts_deliverBl h)

theorem acts_rxTmaUnitdataIndBl {pduType : LlcPduType}
    (h : s.rxTmaUnitdataIndBl prim pduType pdu = some s') : Acts k s s' := by
  unfold rxTmaUnitdataIndBl at h
  split at h
  · cases h
    exact Acts.refl
  rename_i hasFcs ns nr rest hheader
  obtain ⟨fcsOk, _, h⟩ := bind_eq_some_iff.mp h
  have hcancel : Acts k s (s.cancelAckOnBadFcs ⟨prim.mainAddress, prim.endpointId⟩ ns fcsOk) := by
    unfold cancelAckOnBadFcs
    split
    · exact acts_unschedule eraseP_subset
    · exact Acts.refl
  dsimp only at h
  split at h
  · cases h
    exact hcancel
  · obtain ⟨_, _, h⟩ := bind_eq_some_iff.mp h
    exact hcancel.trans (acts_rxBlBody (blHeaderOf_lt hheader) h)

end NexusBs.Llc
