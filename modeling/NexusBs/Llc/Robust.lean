import NexusBs.Llc.Outcomes

namespace NexusBs.Llc
open List hiding after
open Option Lib BitBuffer Ledger

variable {s : Llc}

/-! Basic links -/

theorem markAcknowledged_eq {p : Port} (h : p.receipts ticket = .transmitted) :
    p.markAcknowledged ticket = some (p.tryMark ticket .transmitted .acknowledged) := by
  simp [Port.markAcknowledged, Port.mark, h]

/-- The receipt of a transfer says whether its first transmission was reported. -/
def InStep (p : Port) (e : Ticket × Bool) : Prop :=
  p.receipts e.1 = if e.2 then .transmitted else .pending

variable {idx : Nat} {prim : TmaUnitdataInd} {pdu : BitBuffer} {ack : ExpectedInAck}

theorem inStep_reportBlFirstComplete (h : InStep p (blEntry ack))
    (hf : ack.firstCompleteReportSent = false) :
    InStep (reportBlFirstComplete p ack) (ack.ticket, true) := by
  simp only [InStep, blEntry, hf] at h ⊢
  exact Port.receipts_tryMark_self _ h

theorem inStep_reconcile (h : InStep p (blEntry ack)) :
    InStep (reconcileUmacDoneFromReporter p ack t).1
      (blEntry (reconcileUmacDoneFromReporter p ack t).2) := by
  unfold reconcileUmacDoneFromReporter
  dsimp only
  split
  · exact h
  split
  · rename_i hc
    simp only [Bool.and_eq_true, Bool.not_eq_true'] at hc
    exact inStep_reportBlFirstComplete h hc.2
  · exact h

theorem inStep_completeEarlyAcked (h : InStep p (blEntry ack)) :
    (completeEarlyAcked p ack t).1.receipts (completeEarlyAcked p ack t).2.ticket = .transmitted := by
  unfold completeEarlyAcked
  dsimp only
  split
  · rename_i hf
    simpa [InStep, blEntry, hf] using h
  · rename_i hf
    exact inStep_reportBlFirstComplete h (by simpa using hf)

theorem processIncomingAck_isSome (h : ∀ ack ∈ s.outboundMessages, InStep s.port (blEntry ack)) :
    (s.processIncomingAck key nr).isSome = true := by
  unfold processIncomingAck
  split
  · rfl
  rename_i ack rest htake
  have hrec := inStep_reconcile (t := s.dltime) (h ack (takeExpectedAckForKey_mem htake).1)
  revert hrec
  generalize reconcileUmacDoneFromReporter s.port ack s.dltime = r
  intro hrec
  obtain ⟨p, ack⟩ := r
  dsimp only at hrec ⊢
  split
  · split
    · rw [markAcknowledged_eq (inStep_completeEarlyAcked hrec)]
      rfl
    · rfl
  rename_i hsent
  split
  · have hflag : ack.firstCompleteReportSent = true := by simp at hsent; exact hsent.2
    rw [markAcknowledged_eq (by simpa [InStep, blEntry, hflag] using hrec)]
    rfl
  split <;> rfl

theorem takeTlSdu_isSome (pdu : BitBuffer) (ok : Bool) : (takeTlSdu pdu ok).isSome = true := by
  unfold takeTlSdu
  split
  · rw [setRawStart_rawPos]
    rfl
  · rfl

theorem rxBlAck_isSome (s : Llc) (prim : TmaUnitdataInd) (found : Option ExpectedInAck)
    (pdu : BitBuffer) (hasFcs ok : Bool) : (s.rxBlAck prim found pdu hasFcs ok).isSome = true := by
  obtain ⟨tlSdu, ht⟩ := isSome_iff_exists.mp (takeTlSdu_isSome pdu ok)
  simp only [rxBlAck, ht, bind_eq_bind, bind_some]
  repeat' split
  all_goals rfl

theorem rxBlData_isSome (handle : Option Todo) (hasFcs : Bool) :
    (s.rxBlData prim found duplicate handle pdu hasFcs ok).isSome = true := by
  obtain ⟨tlSdu, ht⟩ := isSome_iff_exists.mp (takeTlSdu_isSome pdu true)
  unfold rxBlData deliverBl
  split
  · rfl
  · simp only [ht, bind_eq_bind, bind_some]
    split <;> rfl

theorem rxBlBody_isSome (h : ∀ ack ∈ s.outboundMessages, InStep s.port (blEntry ack)) :
    (s.rxBlBody prim isBlAck ns nr pdu hasFcs ok).isSome = true := by
  have hns : ∀ o, (s.receiveOptionalNs prim o).1.outboundMessages = s.outboundMessages ∧
      (s.receiveOptionalNs prim o).1.port = s.port := by
    intro o
    unfold receiveOptionalNs receiveNs
    cases o with
    | none => exact ⟨rfl, rfl⟩
    | some =>
      dsimp only
      split
      · split <;> exact ⟨rfl, rfl⟩
      · exact ⟨rfl, rfl⟩
  unfold rxBlBody
  obtain ⟨hmessages, hport⟩ := hns (if ok = true then ns else none)
  revert hmessages hport
  generalize s.receiveOptionalNs prim (if ok = true then ns else none) = r
  intro hmessages hport
  obtain ⟨s1, duplicate, handle⟩ := r
  dsimp only at hmessages hport ⊢
  have hack : (s1.processOptionalAck ⟨prim.mainAddress, prim.endpointId⟩ nr).isSome = true := by
    unfold processOptionalAck
    split
    · exact processIncomingAck_isSome (by rw [hmessages, hport]; exact h)
    · rfl
  obtain ⟨⟨s2, found⟩, hack⟩ := isSome_iff_exists.mp hack
  rw [hack, bind_some]
  dsimp only
  split
  · exact rxBlAck_isSome _ _ _ _ _ _
  · exact rxBlData_isSome _ _

theorem stripValidatedFcs_isSome (h : hasFcs = true → 32 ≤ pdu.rest.length) :
    (stripValidatedFcs pdu hasFcs).isSome = true := by
  unfold stripValidatedFcs
  split
  · rename_i hf
    have := h hf
    rw [setRawEnd, if_pos]
    · rfl
    · unfold capacity rawStart rawPos rawEnd
      omega
  · rfl

/-- A basic link PDU announces a checksum and has no TL-SDU in front of it. -/
def BlChecksEmpty (pduType : LlcPduType) (pdu : BitBuffer) : Prop :=
  ∃ ns nr rest, blHeaderOf pduType pdu = some (true, ns, nr, rest) ∧ rest.lenRemaining = 32

theorem rxTmaUnitdataIndBl_none_iff {pduType : LlcPduType}
    (h : ∀ ack ∈ s.outboundMessages, InStep s.port (blEntry ack)) :
    s.rxTmaUnitdataIndBl prim pduType pdu = none ↔ BlChecksEmpty pduType pdu := by
  unfold rxTmaUnitdataIndBl BlChecksEmpty
  cases hheader : blHeaderOf pduType pdu with
  | none => simp
  | some r =>
    obtain ⟨hasFcs, ns, nr, rest⟩ := r
    dsimp only
    have hcancel : ∀ ok,
        (s.cancelAckOnBadFcs ⟨prim.mainAddress, prim.endpointId⟩ ns ok).outboundMessages =
        s.outboundMessages ∧
        (s.cancelAckOnBadFcs ⟨prim.mainAddress, prim.endpointId⟩ ns ok).port = s.port := by
      intro ok
      unfold cancelAckOnBadFcs
      split <;> exact ⟨rfl, rfl⟩
    -- once the checksum is computed, nothing fails
    have hafter : ∀ ok, (ok = true → hasFcs = true → 32 ≤ rest.rest.length) →
        (if (!ok && (pduType == .blDataFcs || pduType == .blUdataFcs)) = true then
          some (s.cancelAckOnBadFcs ⟨prim.mainAddress, prim.endpointId⟩ ns ok)
        else (stripValidatedFcs rest (hasFcs && ok)).bind (fun pdu =>
          (s.cancelAckOnBadFcs ⟨prim.mainAddress, prim.endpointId⟩ ns ok).rxBlBody prim
            (pduType == .blAck || pduType == .blAckFcs) ns nr pdu hasFcs ok)) ≠ none := by
      intro ok hlen
      split
      · simp
      have hstrip : (stripValidatedFcs rest (hasFcs && ok)).isSome = true :=
        stripValidatedFcs_isSome (fun hh => by
          simp only [Bool.and_eq_true] at hh
          exact hlen hh.2 hh.1)
      obtain ⟨b, hb⟩ := isSome_iff_exists.mp hstrip
      rw [hb, bind_some]
      refine isSome_iff_ne_none.mp (rxBlBody_isSome ?_)
      rw [(hcancel ok).1, (hcancel ok).2]
      exact h
    cases hasFcs with
    | false =>
      rw [if_neg (by simp), bind_some]
      refine iff_of_false (hafter true (fun _ hh => by cases hh)) ?_
      rintro ⟨_, _, _, heq, _⟩
      cases heq
    | true =>
      rw [if_pos rfl, Fcs.checkFcs_eq]
      by_cases h32 : rest.rest.length = 32
      · rw [if_neg (by omega), if_pos h32]
        exact iff_of_true rfl ⟨ns, nr, rest, rfl, h32⟩
      · have hne : ¬∃ ns' nr' rest', some (true, ns, nr, rest) = some (true, ns', nr', rest') ∧
            rest'.lenRemaining = 32 := by
          rintro ⟨_, _, _, heq, hlen⟩
          cases heq
          exact h32 hlen
        split
        · exact iff_of_false (hafter false (fun hh => by cases hh)) hne
        · rw [bind_some]
          exact iff_of_false (hafter _ (fun _ _ => by omega)) hne

/-! Advanced links -/

theorem InStep.reportAlFirstComplete {al : ExpectedAlAck} (h : InStep p (alEntry al)) :
    (if al.firstCompleteReportSent then p else reportAlFirstComplete p al).receipts al.ticket =
      .transmitted := by
  split
  · rename_i hf
    simpa [InStep, alEntry, hf] using h
  · rename_i hf
    exact Port.receipts_tryMark_self _ (by simpa [InStep, alEntry, hf] using h)

section

variable (h : ∀ al ∈ s.outboundAlMessages, InStep s.port (alEntry al))
include h

theorem completeOutboundAl_isSome : (s.completeOutboundAlTransferAtIndex idx).isSome = true := by
  unfold completeOutboundAlTransferAtIndex
  split
  · rfl
  rename_i al hi
  dsimp only
  rw [markAcknowledged_eq (h al (List.mem_of_getElem? hi)).reportAlFirstComplete]
  rfl

theorem inStep_set (hi : s.outboundAlMessages[idx]? = some al) (he : alEntry al' = alEntry al) :
    ∀ e ∈ s.outboundAlMessages.set idx al', InStep s.port (alEntry e) := by
  intro e hmem
  rcases mem_or_eq_of_mem_set hmem with hmem | rfl
  · exact h e hmem
  · rw [he]
    exact h al (List.mem_of_getElem? hi)

end

theorem alEntry_applyScan : alEntry (applyScan al scan) = alEntry al := by
  unfold applyScan
  dsimp only
  split <;> rfl

theorem rxAlAckBlock_isSome (h : ∀ al ∈ s.outboundAlMessages, InStep s.port (alEntry al)) :
    (s.rxAlAckBlock peer block after).isSome = true := by
  unfold rxAlAckBlock
  split
  · rfl
  rename_i idx hmatch
  obtain ⟨⟨al, hi, _⟩, _⟩ := findOutboundAlAckBlockMatch_iff.mp hmatch
  rw [hi]
  dsimp only
  split
  · exact completeOutboundAl_isSome h
  split
  · rfl
  split
  · split <;> rfl
  split
  · unfold rxAlSelectiveBlock
    dsimp only
    split
    · split
      · rfl
      split <;> rfl
    split
    · exact completeOutboundAl_isSome (inStep_set h hi alEntry_applyScan)
    · rfl
  · rfl

theorem Receipted.inStepBl (h : Receipted s.ledger) :
    ∀ ack ∈ s.outboundMessages, InStep s.port (blEntry ack) :=
  fun ack hack => h.state (blEntry ack) (mem_append_left _ (List.mem_map_of_mem hack))

theorem Receipted.inStepAl (h : Receipted s.ledger) :
    ∀ al ∈ s.outboundAlMessages, InStep s.port (alEntry al) :=
  fun al hal => h.state (alEntry al) (mem_append_right _ (List.mem_map_of_mem hal))

theorem rxAlAckBlocks_isSome (h : Receipted s.ledger) :
    (s.rxAlAckBlocks peer blocks nr covered).isSome = true := by
  induction blocks generalizing s nr covered with
  | nil => rfl
  | cons block blocks ih =>
    have hblock : (s.rxAlAckBlock peer block
        (if nr = some block.nr then covered else none)).isSome = true :=
      rxAlAckBlock_isSome (Receipted.inStepAl h)
    obtain ⟨t, ht⟩ := isSome_iff_exists.mp hblock
    rw [rxAlAckBlocks, ht, bind_some]
    exact ih ((acts_rxAlAckBlock (k := .keeping False) False.elim ht).receipted h)

theorem rxAlAck_isSome (h : Receipted s.ledger) : (s.rxAlAck prim pdu).isSome = true := by
  unfold rxAlAck
  split
  · rfl
  exact rxAlAckBlocks_isSome ((acts_applyAlReceiverFlowControl (k := .keeping False) s _
    _).receipted h)

theorem fits_negotiate (h : setup.Fits) : (negotiateInboundAlSetupResponse setup).Fits := by
  unfold negotiateInboundAlSetupResponse
  dsimp only
  split
  · exact h.responseWithLowerPhaseModTimeslots _
  · exact h.responseSuccess

theorem rxAlSetup_isSome : (s.rxAlSetup prim pdu).isSome = true := by
  unfold rxAlSetup
  split
  · rfl
  rename_i setup rest hparse
  split
  · rfl
  dsimp only
  split
  · rfl
  obtain ⟨t, ht⟩ := Appends.fields _ (fits_negotiate (AlSetup.fromBitbuf_fits hparse)).fields
    (newAutoexpand 32) rfl rfl
  have ht : (negotiateInboundAlSetupResponse setup).toBitbuf (newAutoexpand 32) = some _ := ht
  simp only [pushAlSetupResponseToUmac, ht, bind_eq_bind, bind_some, seek_zero]
  rfl

/-- The segment completes a TL-SDU that consists of its checksum only. -/
def AlChecksEmpty (s : Llc) (prim : TmaUnitdataInd) (pdu : BitBuffer) : Prop :=
  ∃ header rest key finalSs, AlData.fromBitbuf pdu = .ok (header, rest) ∧
    s.resolveOriginalAdvancedLinkKey ⟨prim.mainAddress, prim.endpointId⟩ = some key ∧
    (s.advancedLinks key).bind (·.lastDeliveredNs) ≠ some header.ns ∧
    (insertAlSegment (s.advancedLinkRx key) header (fromBitbufferPos rest)).Complete finalSs ∧
    ((insertAlSegment (s.advancedLinkRx key) header (fromBitbufferPos rest)).bitsUpTo
      finalSs).length = 32

theorem sendAlAck_isSome {ack : AlAck} (h : ∀ block ∈ ack.acknowledgementBlocks, block.Fits) :
    (s.sendAlAck key ack aie).isSome = true := by
  unfold sendAlAck
  dsimp only
  obtain ⟨m, hm⟩ := pushAlAckToUmac_eq s.takeTlDataIndReqHandle.2.port key
    s.takeTlDataIndReqHandle.1 aie h
  rw [hm]
  rfl

theorem indicateAlTlSdu_isSome (hn : ns < 8) (hl : 32 ≤ complete.rest.length) :
    (s.indicateAlTlSdu prim key ns complete).isSome = true := by
  have hend : (complete.setRawEnd (complete.rawEnd - 32)).isSome = true := by
    rw [setRawEnd, if_pos]
    · rfl
    · unfold capacity rawStart rawPos rawEnd
      omega
  obtain ⟨b, hb⟩ := isSome_iff_exists.mp hend
  simp only [indicateAlTlSdu, hb, bind_eq_bind, bind_some, seek_zero]
  have hfits : ∀ block ∈ (AlAck.complete ns).acknowledgementBlocks, block.Fits := by
    intro block hb
    rw [AlAck.complete, mem_singleton] at hb
    subst hb
    exact AlAckBlock.fits_complete hn
  obtain ⟨m, hm⟩ := pushAlAckToUmac_eq (p := Port.push _ _) key _ prim.airInterfaceEncryption hfits
  rw [hm]
  rfl

theorem deliverAlTlSdu_none_iff {key : AdvancedLinkKey} {ns : Nat} {complete : BitBuffer}
    (hn : ns < 8) : s.deliverAlTlSdu prim key ns complete = none ↔ complete.rest.length = 32 := by
  have hafter : ∀ ok, (ok = true → 32 ≤ complete.rest.length) →
      (if ok = true then ({ s with advancedLinkRx := Function.update s.advancedLinkRx key none } :
        Llc).indicateAlTlSdu prim key ns complete
      else ({ s with advancedLinkRx := Function.update s.advancedLinkRx key none } : Llc).sendAlAck key
        (AlAck.repeatEntire ns) prim.airInterfaceEncryption) ≠ none := by
    intro ok hl
    refine isSome_iff_ne_none.mp ?_
    split
    · exact indicateAlTlSdu_isSome hn (hl ‹_›)
    refine sendAlAck_isSome (fun block hb => ?_)
    rw [AlAck.repeatEntire, mem_singleton] at hb
    subst hb
    exact AlAckBlock.fits_repeatEntire hn
  simp only [deliverAlTlSdu, alFcsOk, Fcs.checkFcs_eq, bind_eq_bind, lenRemaining]
  split
  · rename_i hshort
    exact iff_of_false (hafter false (fun h => by cases h)) (by omega)
  split
  · rename_i h32
    exact iff_of_true rfl h32
  · rename_i hlong h32
    exact iff_of_false (hafter _ (fun _ => by omega)) h32

theorem rxAlDataFinal_none_iff (h : AssembliesFit s.advancedLinkRx) :
    s.rxAlDataFinal prim pdu = none ↔ s.AlChecksEmpty prim pdu := by
  unfold rxAlDataFinal AlChecksEmpty
  cases hparse : AlData.fromBitbuf pdu with
  | error => simp
  | ok r =>
    obtain ⟨header, rest⟩ := r
    have hlt := AlData.fromBitbuf_lt hparse
    cases hkey : s.resolveOriginalAdvancedLinkKey ⟨prim.mainAddress, prim.endpointId⟩ with
    | none => simp
    | some key =>
      dsimp only
      have hfits : (insertAlSegment (s.advancedLinkRx key) header (fromBitbufferPos rest)).Fits :=
        fits_insertAlSegment (h key) hlt
      by_cases hlast : (s.advancedLinks key).bind (·.lastDeliveredNs) = some header.ns
      · rw [if_pos hlast]
        refine iff_of_false (isSome_iff_ne_none.mp (sendAlAck_isSome (fun block hb => ?_))) ?_
        · rw [AlAck.complete, mem_singleton] at hb
          subst hb
          exact AlAckBlock.fits_complete hlt.1
        · rintro ⟨_, _, _, _, heq, hk, hne, _⟩
          cases heq
          cases hk
          exact hne hlast
      · rw [if_neg hlast]
        by_cases hcomplete : ∃ finalSs, (insertAlSegment (s.advancedLinkRx key) header
            (fromBitbufferPos rest)).Complete finalSs
        · obtain ⟨finalSs, hc⟩ := hcomplete
          obtain ⟨tail, ht⟩ := concatenateAlSegments_complete hc
          simp only [ht, bind_eq_bind, bind_some]
          rw [deliverAlTlSdu_none_iff hlt.1]
          constructor
          · exact fun hl => ⟨header, rest, key, finalSs, rfl, rfl, hlast, hc, hl⟩
          · rintro ⟨_, _, _, finalSs', heq, hk, _, hc', hl⟩
            cases heq
            cases hk
            have : finalSs' = finalSs := Option.some.inj (hc'.1.symm.trans hc.1)
            subst this
            exact hl
        · have hinc : ∀ finalSs, ¬(insertAlSegment (s.advancedLinkRx key) header
              (fromBitbufferPos rest)).Complete finalSs := fun f hf => hcomplete ⟨f, hf⟩
          simp only [concatenateAlSegments_incomplete hinc, bind_eq_bind, bind_some]
          refine iff_of_false (isSome_iff_ne_none.mp ?_) ?_
          · split
            · exact sendAlAck_isSome (fits_selectiveAlAck hfits)
            · rfl
          · rintro ⟨_, _, _, f, heq, hk, _, hc, _⟩
            cases heq
            cases hk
            exact hinc f hc

/-! Reports of the MAC -/

theorem handleBlTmaReport_isSome (hl : BasicSound (fun _ _ => True) s.basic)
    (hi : s.outboundMessages[idx]? = some ack) :
    (s.handleBlTmaReportAtIndex report idx).isSome = true := by
  obtain ⟨sdu, _, hc⟩ := hl.transfers ack (List.mem_of_getElem? hi)
  have hfail : (s.handleBlTmaFailure report idx ack).isSome = true := by
    unfold handleBlTmaFailure
    dsimp only
    split
    · have hc' : ({ ack with
          currentMacReporter := ack.currentMacReporter.map (·.tryMark .discarded)
          tUmacDone := some s.dltime
          tRetransmissionsExhausted := none
          retransmitCount := ack.retransmitCount + 1 } : ExpectedInAck).Carries sdu := hc
      obtain ⟨hasFcs, nr, hc'⟩ := hc'.stores
      obtain ⟨p, acks, pdu, nr', hfold, _⟩ :=
        foldWaitingAckIntoMacReadyBlData_eq s.mainCarrier s.port hc' hl.numbers
      have hfold : foldWaitingAckIntoMacReadyBlData s.mainCarrier s.port s.scheduledOutAcks _ = _ :=
        hfold
      rw [hfold]
      rfl
    · rfl
  unfold handleBlTmaReportAtIndex
  rw [hi]
  cases report with
  | confirmHandle | successRandomAccess | successReservedOrStealing => rfl
  | failedTransfer | fragmentationFailure | randomAccessFailure => exact hfail

theorem handleUdataTmaReport_isSome (hi : s.outboundUdataMessages[idx]? = some udata) :
    (s.handleUdataTmaReportAtIndex report idx).isSome = true := by
  unfold handleUdataTmaReportAtIndex
  rw [hi]
  dsimp only
  split
  · rfl
  cases report with
  | confirmHandle | successRandomAccess | randomAccessFailure => rfl
  | successReservedOrStealing | failedTransfer | fragmentationFailure =>
    dsimp only
    split <;> rfl

theorem handleAlTmaReport_isSome (hi : s.outboundAlMessages[idx]? = some al) :
    (s.handleAlTmaReportAtIndex report idx segmentIdx).isSome = true := by
  unfold handleAlTmaReportAtIndex
  rw [hi]
  cases report with
  | confirmHandle | failedTransfer | fragmentationFailure | randomAccessFailure => rfl
  | successRandomAccess | successReservedOrStealing =>
    dsimp only
    split
    · rfl
    split <;> rfl

/-- A report never fails. -/
theorem rxTmaReportInd_isSome (h : Sound s) (handle : Todo) (report : TmaReport) :
    (s.rxTmaReportInd handle report).isSome = true := by
  unfold rxTmaReportInd
  split
  · split
    · rename_i idx hidx
      obtain ⟨⟨udata, hu, _⟩, _⟩ := indicesWhere_eq_singleton.mp hidx
      exact handleUdataTmaReport_isSome hu
    · rfl
  · rename_i idx howner
    obtain ⟨ack, hi⟩ := tmaReportOwners_mem (by rw [howner]; exact mem_singleton_self _)
    exact handleBlTmaReport_isSome h.basicLinks hi
  · rename_i idx howner
    obtain ⟨udata, hi⟩ := tmaReportOwners_mem (by rw [howner]; exact mem_singleton_self _)
    exact handleUdataTmaReport_isSome hi
  · rename_i idx segmentIdx howner
    obtain ⟨al, _, hi, _⟩ := tmaReportOwners_mem (by rw [howner]; exact mem_singleton_self _)
    exact handleAlTmaReport_isSome hi
  · rfl

/-! Reception as a whole -/

/-- The TM-SDU makes the LLC check a TL-SDU of no bits: a basic link PDU with nothing but a
checksum behind its header, or the segment that completes a TL-SDU of nothing but a checksum. -/
def ChecksEmptyTlSdu (s : Llc) (prim : TmaUnitdataInd) : Prop :=
  ∃ pdu pduType, prim.pdu = some pdu ∧ llcPduTypeOf pdu = some pduType ∧
    (BlChecksEmpty pduType pdu ∨ s.AlChecksEmpty prim pdu)

theorem llcPduTypeOf_alData {rest : BitBuffer} {header : AlData}
    (h : AlData.fromBitbuf pdu = .ok (header, rest)) : llcPduTypeOf pdu = some .alDataAlFinal := by
  obtain ⟨_, c, hv, _⟩ := PduParser.bind_ok h
  obtain ⟨v, d, hf, hv⟩ := PduParser.bind_ok hv
  obtain ⟨hn, rfl, rfl⟩ := readField_ok hf
  split at hv
  · rename_i h9
    rw [llcPduTypeOf, peekBits, if_pos ⟨by decide, hn⟩, bind_some, h9]
    rfl
  · cases hv

/-- Reception fails over an empty TL-SDU only. -/
theorem rxTmaUnitdataInd_none_iff (h : Sound s) (prim : TmaUnitdataInd) :
    s.rxTmaUnitdataInd prim = none ↔ s.ChecksEmptyTlSdu prim := by
  unfold rxTmaUnitdataInd ChecksEmptyTlSdu
  cases hpdu : prim.pdu with
  | none => simp
  | some pdu =>
    cases htype : llcPduTypeOf pdu with
    | none => simp [htype]
    | some pduType =>
      have hiff : (∃ pdu' t, some pdu = some pdu' ∧ llcPduTypeOf pdu' = some t ∧
          (BlChecksEmpty t pdu' ∨ s.AlChecksEmpty prim pdu')) ↔
          BlChecksEmpty pduType pdu ∨ s.AlChecksEmpty prim pdu := by
        constructor
        · rintro ⟨_, _, heq, ht, hc⟩
          cases heq
          cases htype.symm.trans ht
          exact hc
        · exact fun hc => ⟨pdu, pduType, rfl, htype, hc⟩
      rw [hiff]
      have hal : s.AlChecksEmpty prim pdu → pduType = .alDataAlFinal := by
        rintro ⟨_, _, _, _, hparse, _⟩
        exact Option.some.inj (htype.symm.trans (llcPduTypeOf_alData hparse))
      have hbl : pduType ≠ .alDataAlFinal → (BlChecksEmpty pduType pdu ∨ s.AlChecksEmpty prim pdu ↔
          BlChecksEmpty pduType pdu) := fun hne =>
        ⟨fun hc => hc.resolve_right (fun ha => hne (hal ha)), .inl⟩
      have hempty : blHeaderOf pduType pdu = none → ¬BlChecksEmpty pduType pdu := by
        rintro hnone ⟨_, _, _, heq, _⟩
        rw [hnone] at heq
        cases heq
      simp only [htype]
      cases pduType with
      | blAdata | blAdataFcs | blData | blDataFcs | blUdata | blUdataFcs | blAck | blAckFcs =>
        rw [hbl (by decide)]
        exact rxTmaUnitdataIndBl_none_iff (Receipted.inStepBl h.receipted)
      | alSetup =>
        rw [hbl (by decide)]
        exact iff_of_false (isSome_iff_ne_none.mp rxAlSetup_isSome) (hempty rfl)
      | alAckAlRnr =>
        rw [hbl (by decide)]
        exact iff_of_false (isSome_iff_ne_none.mp (rxAlAck_isSome h.receipted))
          (hempty rfl)
      | alDataAlFinal =>
        rw [rxAlDataFinal_none_iff h.assemblies]
        exact ⟨.inr, fun hc => hc.resolve_left (hempty rfl)⟩
      | alAlUdataAlUfinal | alReconnect | alDisc | suppLlcPdu | l2SigPdu =>
        rw [hbl (by decide)]
        exact iff_of_false (by simp) (hempty rfl)

/-- Reception fails exactly where a checksum over no bits is asked for; reports of the MAC
never do. -/
theorem receive_fails_iff (mainCarrier : Nat) (ops : List Op) (s : Llc)
    (hr : Lib.run Llc.step (new mainCarrier) ops = some s) :
    (∀ prim, s.step (.tmaUnitdataInd prim) = none ↔ s.ChecksEmptyTlSdu prim) ∧
    ∀ handle report, s.step (.tmaReportInd handle report) ≠ none := by
  have hs : Sound s := run_invariant (P := Sound) (fun s op s' h _ hs => h.step hs)
    (sound_new mainCarrier) (Along.of_forall (p := fun _ => True) (fun _ _ => trivial)) hr
  exact ⟨rxTmaUnitdataInd_none_iff hs, fun handle report =>
    isSome_iff_ne_none.mp (rxTmaReportInd_isSome hs handle report)⟩

/-- BL-UDATA with checksum flag and 32 bits behind its header. -/
theorem empty_tl_sdu_overflows : (new 1).step (.tmaUnitdataInd (.plain (TetraAddress.issi 1)
    (fieldBits [(6, 4)] ++ List.replicate 32 false))) = none := by
  decide +kernel

theorem receive_fails_iff_acknowledged : ∃ s,
    Lib.run Llc.step (new 1) (acknowledgedOnce (TetraAddress.issi 1)) = some s ∧
      ∀ handle report, s.step (.tmaReportInd handle report) ≠ none := by
  have hrun : (Lib.run Llc.step (new 1) (acknowledgedOnce (TetraAddress.issi 1))).isSome = true := by
    decide +kernel
  obtain ⟨s, hr⟩ := isSome_iff_exists.mp hrun
  exact ⟨s, hr, (receive_fails_iff 1 _ s hr).2⟩

end NexusBs.Llc
