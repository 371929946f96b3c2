import NexusBs.Cc.Reach

namespace NexusBs.Cc
open Lib IndividualSide Option

def UplinkPdu.callIdentifier : UplinkPdu → Option Nat
  | .uSetup _ => none
  | .uTxCeased pdu => some pdu.callIdentifier
  | .uTxDemand pdu => some pdu.callIdentifier
  | .uRelease pdu => some pdu.callIdentifier
  | .uDisconnect pdu => some pdu.callIdentifier
  | .uAlert pdu => some pdu.callIdentifier
  | .uConnect pdu => some pdu.callIdentifier
  | .uInfo pdu => some pdu.callIdentifier
  | .uCallRestore => none

def UplinkPdu.endsCall : UplinkPdu → Bool
  | .uRelease _ => true
  | .uDisconnect _ => true
  | _ => false

/-- The digits that a PDU dials, where call control acts on it. -/
def UplinkPdu.dials : UplinkPdu → Bool
  | .uInfo pdu =>
    (unsupportedUInfoFunction pdu).isNone && pdu.dtmfDigits.any (fun digits => !digits.isEmpty)
  | _ => false

/-- An answer goes to the radio that sent the PDU. -/
def Msg.isFor (issi : Nat) : Msg → Bool
  | .lcmc req => req.mainAddress.ssi == issi
  | _ => false

namespace CcBs

/-- The individual call of an identifier, one that is being released included. -/
def individualCall (s : CcBs) (callId : Nat) : Option IndividualCall :=
  (s.individualCalls.lookup callId).or ((s.pendingIndividualReleases.lookup callId).map (·.call))

/-- The call is known to the network, which takes the digits dialled in it. -/
def takesDigits (s : CcBs) (callId : Nat) : Bool :=
  (s.individualCalls.lookup callId).any (fun call => call.overBrew && call.brewUuid.isSome)

/-- Nothing has changed, and at most an answer has gone to one radio. -/
def OnlyAnswers (issi : Nat) (s s' : CcBs) : Prop :=
  s' = { s with sent := s'.sent } ∧ s'.sent.length ≤ 1 ∧ ∀ m ∈ s'.sent, Msg.isFor issi m = true

variable {env : Env} {s : CcBs} {ul : UlContext} {callId : Nat}

@[simp] theorem withIndividual_individualSide : s.withIndividual s.individualSide = s := rfl

theorem onlyAnswers_refl (hs : s.sent = []) : OnlyAnswers ul.address.ssi s s :=
  ⟨rfl, by simp [hs], by simp [hs]⟩

theorem onlyAnswers_reply (hs : s.sent = []) (pdu : CcPdu) :
    OnlyAnswers ul.address.ssi s (s.send [ul.reply pdu]) := by
  refine ⟨rfl, ?_, ?_⟩
  · simp [send, Shared.send, hs]
  · intro m hm
    simp only [send, Shared.send, hs, List.nil_append, List.mem_singleton] at hm
    subst hm
    exact beq_self_eq_true _

theorem onlyAnswers_refuse (hs : s.sent = []) :
    OnlyAnswers ul.address.ssi s (s.send [{ ul with address := .issi ul.address.ssi }.reply pdu]) :=
  @onlyAnswers_reply s { ul with address := .issi ul.address.ssi } hs pdu

end CcBs

namespace IndividualSide

variable {c : Ctx} {i : IndividualSide} {ul : UlContext} {callId : Nat} {call : IndividualCall}

theorem peerIssiFor_of_not_involves (h : call.involves issi = false) :
    call.peerIssiFor issi = none := by
  simp only [IndividualCall.involves, Bool.or_eq_false_iff, beq_eq_false_iff_ne] at h
  rw [IndividualCall.peerIssiFor, if_neg (Ne.symm h.1), if_neg (Ne.symm h.2)]

theorem calledAddr_ne_of_not_involves (h : call.involves issi = false) :
    call.calledAddr.ssi ≠ issi := by
  simp only [IndividualCall.involves, Bool.or_eq_false_iff, beq_eq_false_iff_ne] at h
  exact h.2

/-! What each handler does with a PDU of a radio that is no party of the call. -/

section

variable (h : call.involves ul.address.ssi = false)
include h

theorem fsmOnUTxCeased_nonParty : i.fsmOnUTxCeased c callId call ul.address = i := by
  simp [fsmOnUTxCeased, peerIssiFor_of_not_involves h]

theorem fsmOnUTxDemand_nonParty :
    i.fsmOnUTxDemand c callId call ul priority = i ∨
      i.fsmOnUTxDemand c callId call ul priority =
        i.send [ul.reply (.dTxGranted callId .notGranted none)] := by
  unfold fsmOnUTxDemand
  rw [peerIssiFor_of_not_involves h]
  split
  · exact .inl rfl
  split
  · exact .inl rfl
  · exact .inr rfl

theorem fsmOnURelease_nonParty (hok : CallOk call)
    (hd : ∀ k, k ∉ i.pendingIndividualDisconnectDeliveries) :
    i.fsmOnURelease c callId call ul =
      i.send [{ ul with address := .issi ul.address.ssi }.reply
        (.dRelease callId .requestedServiceNotAvailable)] := by
  have hlookup : i.pendingIndividualDisconnectDeliveries.lookup callId = none :=
    AList.lookup_eq_none.mpr (hd callId)
  have hawait : call.pendingDisconnectReleaseIfAwaitedBy ul.address.ssi = none := by
    have hstate := hok.notDisconnecting
    unfold IndividualCall.isDisconnectPending at hstate
    unfold IndividualCall.pendingDisconnectReleaseIfAwaitedBy
    split
    · next heq =>
      rw [heq] at hstate
      cases hstate
    · rfl
  simp [fsmOnURelease, hlookup, hawait, hok.notDisconnecting, peerIssiFor_of_not_involves h]

theorem fsmOnUDisconnect_nonParty (hok : CallOk call) :
    i.fsmOnUDisconnect c callId call ul cause =
      i.send [{ ul with address := .issi ul.address.ssi }.reply
        (.dRelease callId .requestedServiceNotAvailable)] := by
  simp [fsmOnUDisconnect, hok.notDisconnecting, peerIssiFor_of_not_involves h]

theorem fsmOnUAlert_nonParty (hl : i.individualCalls.lookup pdu.callIdentifier = some call) :
    i.fsmOnUAlert c ul pdu = i := by
  simp only [fsmOnUAlert, hl]
  rw [if_pos (calledAddr_ne_of_not_involves h)]

theorem fsmOnUConnect_nonParty (hl : i.individualCalls.lookup pdu.callIdentifier = some call) :
    i.fsmOnUConnect c ul pdu = i := by
  simp only [fsmOnUConnect, hl]
  rw [if_pos (calledAddr_ne_of_not_involves h), ite_self]

end

/-- Digits go to the network whoever dials them. -/
theorem fsmOnUInfo_of_some (hl : i.individualCalls.lookup callId = some call) :
    i.fsmOnUInfo callId digits =
      if call.overBrew && call.brewUuid.isSome && digits.isSome then
        i.send ((digits.getD []).map (fun digit =>
          .brew (.networkCircuitDtmf (call.brewUuid.getD 0) digit)))
      else i := by
  unfold fsmOnUInfo
  rw [hl]
  cases hb : call.overBrew <;> cases hu : call.brewUuid <;> cases digits <;> simp [hb, hu]

end IndividualSide

namespace CcBs

variable {env : Env} {s s' : CcBs} {ul : UlContext} {callId : Nat} {pdu : UplinkPdu}

theorem onlyAnswers_orNotSupported {ty : CmcePduTypeUl} (hs : s.sent = [])
    (h : OnlyAnswers ul.address.ssi s s') :
    OnlyAnswers ul.address.ssi s (s.orNotSupported ul ty callId unsupported s') := by
  unfold orNotSupported
  split
  · exact onlyAnswers_reply hs _
  · exact h

variable {pending : PendingIndividualRelease}

/-- A PDU for a call that is being released touches no group call. -/
theorem not_active_of_release (hi : s.Inv)
    (h : s.pendingIndividualReleases.lookup callId = some pending) :
    s.activeCalls.lookup callId = none := by
  apply AList.lookup_eq_none.mpr
  intro hk
  exact (hi.apart callId hk).2 (Table.mem_of_lookup h)

theorem directAck_of_release (ul : UlContext)
    (h : s.pendingIndividualReleases.lookup callId = some pending) :
    s.individualSide.pendingReleaseDirectAck callId ul =
      some (ul.reply (s.toShared.dRelease callId pending.cause)) := by
  unfold pendingReleaseDirectAck
  rw [show s.individualSide.pendingIndividualReleases = s.pendingIndividualReleases from rfl, h]
  rfl

theorem onlyAnswers_directAck (hs : s.sent = [])
    (h : s.pendingIndividualReleases.lookup callId = some pending) :
    OnlyAnswers ul.address.ssi s
      (s.send (s.individualSide.pendingReleaseDirectAck callId ul).toList) := by
  rw [directAck_of_release ul h]
  exact onlyAnswers_reply hs _

/-- Late PDUs for a call that is being released are answered at most. -/
theorem onlyAnswers_of_release (hi : s.Inv) (hs : s.sent = [])
    (hn : pdu.callIdentifier = some callId) (hl : s.individualCalls.lookup callId = none)
    (hp : s.pendingIndividualReleases.lookup callId = some pending) :
    OnlyAnswers ul.address.ssi s (s.routeXxDeliver env ul pdu) := by
  have hna := not_active_of_release hi hp
  have hli : s.individualSide.individualCalls.lookup callId = none := hl
  cases pdu with
  | uSetup | uCallRestore => cases hn
  | uTxCeased pdu =>
    cases hn
    have hg : (s.groupSide.fsmGroupOnTxCeased (s.ctx env) pdu.callIdentifier ul.address).1 =
        s.groupSide := by
      unfold GroupSide.fsmGroupOnTxCeased
      split
      · rfl
      · rw [show s.groupSide.activeCalls = s.activeCalls from rfl, hna]
    simp only [routeXxDeliver, fsmOnUTxCeased, hl, onGroup, hg]
    exact onlyAnswers_refl hs
  | uTxDemand =>
    cases hn
    apply onlyAnswers_orNotSupported hs
    simp only [fsmOnUTxDemand, hl]
    rw [if_pos (Table.mem_of_lookup hp)]
    exact onlyAnswers_refl hs
  | uRelease =>
    cases hn
    apply onlyAnswers_orNotSupported hs
    simp only [fsmOnURelease, hl, hna]
    exact onlyAnswers_refl hs
  | uDisconnect =>
    cases hn
    apply onlyAnswers_orNotSupported hs
    have hack := directAck_of_release ul hp
    simp only [fsmOnUDisconnect, hl, hack]
    exact onlyAnswers_reply hs _
  | uAlert =>
    cases hn
    simp only [routeXxDeliver, onIndividual, IndividualSide.rxUAlert]
    split
    · exact onlyAnswers_reply hs _
    · simp only [IndividualSide.fsmOnUAlert, hli]
      exact onlyAnswers_directAck hs hp
  | uConnect =>
    cases hn
    simp only [routeXxDeliver, onIndividual, IndividualSide.fsmOnUConnect, hli]
    exact onlyAnswers_directAck hs hp
  | uInfo =>
    cases hn
    apply onlyAnswers_orNotSupported hs
    simp only [onIndividual, IndividualSide.fsmOnUInfo, hli]
    exact onlyAnswers_refl hs

/-- Digits that a radio dials in a call of the network are passed on. -/
theorem onlyAnswers_uInfo_iff (hs : s.sent = []) (hl : s.individualCalls.lookup callId = some call) :
    OnlyAnswers ul.address.ssi s (s.onIndividual (fun i => i.fsmOnUInfo callId digits)) ↔
      ¬(digits.any (fun digits => !digits.isEmpty) = true ∧ s.takesDigits callId = true) := by
  have hli : s.individualSide.individualCalls.lookup callId = some call := hl
  have htakes : s.takesDigits callId = (call.overBrew && call.brewUuid.isSome) := by
    rw [takesDigits, hl, any_some]
  rw [htakes, onIndividual, fsmOnUInfo_of_some hli]
  cases hb : (call.overBrew && call.brewUuid.isSome) with
  | false => simpa using onlyAnswers_refl hs
  | true =>
    rcases digits with _ | _ | ⟨digit, digits⟩
    · simpa using onlyAnswers_refl hs
    · have hsend : s.individualSide.send [] = s.individualSide := by
        simp [IndividualSide.send, Shared.send]
      simpa [hsend] using onlyAnswers_refl hs
    · -- the first message is for the network
      simp only [isSome_some, Bool.and_self, if_true, getD_some, any_some,
        List.isEmpty_cons, Bool.not_false, and_self, not_true_eq_false, iff_false]
      rintro ⟨-, -, h⟩
      have hfirst := h (.brew (.networkCircuitDtmf (call.brewUuid.getD 0) digit))
        (List.mem_append_right s.sent List.mem_cons_self)
      cases hfirst

/-- A radio that is no party of a call gets an answer at most, unless it dials digits. -/
theorem onlyAnswers_nonParty_iff (hi : s.Inv) (hs : s.sent = [])
    (hn : pdu.callIdentifier = some callId) (hl : s.individualCalls.lookup callId = some call)
    (hp : call.involves ul.address.ssi = false) :
    OnlyAnswers ul.address.ssi s (s.routeXxDeliver env ul pdu) ↔
      ¬(pdu.dials = true ∧ s.takesDigits callId = true) := by
  have hok := (hi.calls callId call hl).1
  have hli : s.individualSide.individualCalls.lookup callId = some call := hl
  have hnever : ∀ {P : Prop}, P → (P ↔ ¬(false = true ∧ s.takesDigits callId = true)) :=
    fun h => ⟨fun _ hf => Bool.false_ne_true hf.1, fun _ => h⟩
  cases pdu with
  | uSetup | uCallRestore => cases hn
  | uTxCeased =>
    cases hn
    apply hnever
    simp only [routeXxDeliver, fsmOnUTxCeased, hl, onIndividual,
      fsmOnUTxCeased_nonParty hp]
    exact onlyAnswers_refl hs
  | uTxDemand pdu =>
    cases hn
    apply hnever
    apply onlyAnswers_orNotSupported hs
    simp only [fsmOnUTxDemand, hl, onIndividual]
    obtain he | he := @fsmOnUTxDemand_nonParty (s.ctx env) s.individualSide ul
      pdu.callIdentifier call hp pdu.txDemandPriority
    · rw [he]
      exact onlyAnswers_refl hs
    · rw [he]
      exact onlyAnswers_reply hs _
  | uRelease pdu =>
    cases hn
    apply hnever
    apply onlyAnswers_orNotSupported hs
    simp only [fsmOnURelease, hl, onIndividual,
      fsmOnURelease_nonParty (i := s.individualSide) hp hok hi.deliveries]
    exact onlyAnswers_refuse hs
  | uDisconnect =>
    cases hn
    apply hnever
    apply onlyAnswers_orNotSupported hs
    simp only [fsmOnUDisconnect, hl, onIndividual, fsmOnUDisconnect_nonParty hp hok]
    exact onlyAnswers_refuse hs
  | uAlert =>
    cases hn
    apply hnever
    simp only [routeXxDeliver, onIndividual, IndividualSide.rxUAlert]
    split
    · exact onlyAnswers_reply hs _
    · rw [fsmOnUAlert_nonParty hp hli]
      exact onlyAnswers_refl hs
  | uConnect =>
    cases hn
    apply hnever
    simp only [routeXxDeliver, onIndividual]
    rw [fsmOnUConnect_nonParty hp hli]
    exact onlyAnswers_refl hs
  | uInfo pdu =>
    cases hn
    simp only [routeXxDeliver, orNotSupported, UplinkPdu.dials]
    cases unsupportedUInfoFunction pdu with
    | some => exact hnever (onlyAnswers_reply hs _)
    | none => simpa using onlyAnswers_uInfo_iff hs hl

/-- Only its owner may end a group call. -/
theorem onlyAnswers_nonOwner (hi : s.Inv) (hs : s.sent = []) (hn : pdu.callIdentifier = some callId)
    (he : pdu.endsCall = true) (hl : s.activeCalls.lookup callId = some call)
    (ho : call.origin.isOwner ul.address.ssi = false) :
    OnlyAnswers ul.address.ssi s (s.routeXxDeliver env ul pdu) := by
  obtain ⟨hni, hnr⟩ := hi.apart callId (Table.mem_of_lookup hl)
  have hni := AList.lookup_eq_none.mpr hni
  have hnr := AList.lookup_eq_none.mpr hnr
  cases pdu with
  | uRelease =>
    cases hn
    apply onlyAnswers_orNotSupported hs
    simp only [fsmOnURelease, hni, hl, ho]
    split
    · exact onlyAnswers_refl hs
    · exact onlyAnswers_refuse hs
  | uDisconnect pdu =>
    cases hn
    apply onlyAnswers_orNotSupported hs
    have hack : s.individualSide.pendingReleaseDirectAck pdu.callIdentifier ul = none := by
      unfold pendingReleaseDirectAck
      rw [show s.individualSide.pendingIndividualReleases = s.pendingIndividualReleases from rfl,
        hnr]
      rfl
    simp only [fsmOnUDisconnect, hni, hack, hl, ho]
    split
    · exact onlyAnswers_refl hs
    · exact onlyAnswers_refuse hs
  | uSetup | uTxCeased | uTxDemand | uAlert | uConnect | uInfo | uCallRestore => cases he

/-- Only the parties act on a call: a PDU that names an individual call and comes from neither of
its parties changes nothing and is answered at most, unless it dials digits in a call of the
network; and a group call is ended by nobody but its owner. -/
theorem outsider_changes_nothing_iff (hr : Reachable s) (hn : pdu.callIdentifier = some callId)
    (hstep : s.step (env, .uplink ul pdu) = some s') :
    (∀ call, s.individualCall callId = some call → call.involves ul.address.ssi = false →
      (OnlyAnswers ul.address.ssi s s' ↔ ¬(pdu.dials = true ∧ s.takesDigits callId = true))) ∧
    ∀ call, s.activeCalls.lookup callId = some call →
      call.origin.isOwner ul.address.ssi = false → pdu.endsCall = true →
      OnlyAnswers ul.address.ssi s s' := by
  obtain ⟨-, rfl⟩ := step_eq hstep
  have hi : Inv { s with sent := [] } := ⟨hr.inv.calls, hr.inv.deliveries, hr.inv.apart⟩
  refine ⟨fun call hc hp => ?_, fun call hl ho he => onlyAnswers_nonOwner hi rfl hn he hl ho⟩
  cases hl : s.individualCalls.lookup callId with
  | some found =>
    have hfound : found = call := by simpa [individualCall, hl] using hc
    exact onlyAnswers_nonParty_iff hi rfl hn hl (hfound ▸ hp)
  | none =>
    have hrel : ∃ pending, s.pendingIndividualReleases.lookup callId = some pending := by
      rw [individualCall, hl, none_or, map_eq_some_iff] at hc
      exact hc.imp (fun _ h => h.1)
    obtain ⟨pending, hpending⟩ := hrel
    have hno : s.takesDigits callId = false := by rw [takesDigits, hl, any_none]
    refine ⟨fun _ hd => ?_, fun _ => onlyAnswers_of_release hi rfl hn hl hpending⟩
    rw [hno] at hd
    cases hd.2

/-- A radio has called a party of the network, and a third one sends a PDU for the call. -/
theorem exists_call_over_network (pdu : UplinkPdu) (sent : List Msg)
    (hrun : (run step (.start .sample ∅ .empty true)
      [(.sample .pending, .uplink (.sample 1001) (.uSetup (.sample .p2p false 2002))),
        (.sample .pending, .uplink (.sample 3003) pdu)]).map (·.sent) = some sent) :
    ∃ s s' call, Reachable s ∧ s.individualCall 4 = some call ∧ call.involves 3003 = false ∧
      s.step (.sample .pending, .uplink (.sample 3003) pdu) = some s' ∧ s'.sent = sent := by
  have hcall : (run step (.start .sample ∅ .empty true)
      [(.sample .pending, .uplink (.sample 1001) (.uSetup (.sample .p2p false 2002)))]).map
      (fun s => (s.individualCall 4).map (fun call => call.involves 3003)) =
      some (some false) := by
    decide +kernel
  obtain ⟨s, hs, hc⟩ := map_eq_some_iff.mp hcall
  obtain ⟨call, hc, hp⟩ := map_eq_some_iff.mp hc
  obtain ⟨s', hs', hsent⟩ := map_eq_some_iff.mp hrun
  rw [← List.singleton_append, run_append, hs, bind_some, run_cons] at hs'
  obtain ⟨t, ht, hrest⟩ := bind_eq_some_iff.mp hs'
  cases hrest
  exact ⟨s, s', call, ⟨_, _, _, _, _, hs⟩, hc, hp, ht, hsent⟩

/-- Digits of a radio that has nothing to do with the call reach the network. -/
theorem outsider_dials_in_call :
    ∃ s s' call, Reachable s ∧ s.individualCall 4 = some call ∧ call.involves 3003 = false ∧
      s.step (.sample .pending, .uplink (.sample 3003) (.uInfo ⟨4, none, some ['1'], false, false⟩))
        = some s' ∧ ¬OnlyAnswers 3003 s s' := by
  obtain ⟨s, s', call, hr, hc, hp, hstep, hsent⟩ := exists_call_over_network
    (.uInfo ⟨4, none, some ['1'], false, false⟩) [.brew (.networkCircuitDtmf 7 '1')]
    (by decide +kernel)
  refine ⟨s, s', call, hr, hc, hp, hstep, ?_⟩
  rintro ⟨-, -, h⟩
  rw [hsent] at h
  have hfirst := h _ List.mem_cons_self
  cases hfirst

/-- A third radio that wants to end the call is refused, and that is all. -/
theorem outsider_changes_nothing_at_call :
    ∃ s s', Reachable s ∧
      s.step (.sample .pending, .uplink (.sample 3003)
        (.uDisconnect ⟨4, .userRequestedDisconnection, false, false⟩)) = some s' ∧
      s'.sent ≠ [] ∧ OnlyAnswers 3003 s s' := by
  obtain ⟨s, s', call, hr, hc, hp, hstep, hsent⟩ := exists_call_over_network
    (.uDisconnect ⟨4, .userRequestedDisconnection, false, false⟩)
    [(UlContext.sample 3003).reply (.dRelease 4 .requestedServiceNotAvailable)] (by decide +kernel)
  refine ⟨s, s', hr, hstep, by rw [hsent]; simp, ?_⟩
  refine ((outsider_changes_nothing_iff hr rfl hstep).1 call hc hp).mpr ?_
  rintro ⟨hd, -⟩
  cases hd

end CcBs

end NexusBs.Cc
