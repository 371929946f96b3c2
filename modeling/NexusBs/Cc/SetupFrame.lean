import NexusBs.Cc.IndividualFrame

namespace NexusBs.Cc
open Lib Relation Table

namespace IndividualSide

variable {c : Ctx} {i i' : IndividualSide} {callId : Nat} {call : IndividualCall}

theorem lookup_acceptCalledSimplexOffer (hd : call.simplexDuplex = true) :
    (i.acceptCalledSimplexOfferForRequestedDuplex c callId call).individualCalls.lookup callId =
      some (call.toSimplex c.cell.callTimeout) := by
  unfold acceptCalledSimplexOfferForRequestedDuplex
  rw [if_neg (by simp [hd])]
  exact AList.lookup_insert _

namespace Evolves

/-! Answers of the called party. -/

theorem fsmIndividualOnAlert : Evolves i (i.fsmIndividualOnAlert c callId ctx timeout) := by
  unfold IndividualSide.fsmIndividualOnAlert
  split
  · exact refl i
  rename_i call h
  split
  · exact refl i
  rename_i hv
  have hv : validateIndividualTransition call.state .alert = true := by simpa using hv
  have hbound : ReflTransGen (CallStep (callId ∈ i.cachedSetups)) call
      ((ctx.map call.bindCalledContext).getD call) := by
    cases ctx with
    | none => exact .refl
    | some ctx => exact .single (.bound ctx)
  have hstate : ((ctx.map call.bindCalledContext).getD call).state = call.state := by
    cases ctx with
    | none => rfl
    | some ctx => exact call.state_bindCalledContext
  have halert := hbound.tail (.alerted c.dltime timeout (hstate ▸ hv))
  dsimp only
  split
  · split
    · exact setCall_steps h hbound
    · exact .trans (send _) (setCall_steps h halert)
  · exact .trans (send _) (setCall_steps h halert)

theorem acceptCalledSimplexOfferForRequestedDuplex
    (h : i.individualCalls.lookup callId = some call) :
    Evolves i (i.acceptCalledSimplexOfferForRequestedDuplex c callId call) := by
  unfold IndividualSide.acceptCalledSimplexOfferForRequestedDuplex
  split
  · exact refl i
  dsimp only
  generalize (if call.calledTs = call.callingTs then none
    else if (call.callingOverBrew && !call.calledOverBrew) = true then some call.callingTs
    else some call.calledTs) = unused
  cases unused with
  | none => exact setCall h (.simplexOffer _)
  | some ts =>
    have he : Evolves i { i with
        toShared := { i.toShared with circuits := (i.circuits.closeCircuit .both ts).2
          }.releaseTimeslot ts } := of_eq rfl rfl rfl rfl
    exact he.trans (setCall h (.simplexOffer _))

theorem fsmOnUAlert : Evolves i (i.fsmOnUAlert c ul pdu) := by
  unfold IndividualSide.fsmOnUAlert
  dsimp only
  split
  · exact send _
  rename_i h
  split
  · exact refl i
  refine .trans ?_ fsmIndividualOnAlert
  split
  · exact acceptCalledSimplexOfferForRequestedDuplex h
  · exact refl i

theorem rxUAlert : Evolves i (i.rxUAlert c ul pdu) := by
  unfold IndividualSide.rxUAlert
  dsimp only
  split
  · exact send _
  · exact fsmOnUAlert

section

variable (h : i.individualCalls.lookup callId = some call)
include h

theorem connectOverBrew (hb : call.callingOverBrew = true) (hc : call.calledContext.isSome = true) :
    Evolves i (i.connectOverBrew callId call pdu) := by
  unfold IndividualSide.connectOverBrew
  split
  · exact refl i
  split
  · exact refl i
  · refine .trans ?_ (send _)
    exact setCall h (.connectRequested _ hb hc)

theorem connectLocally (hb : call.callingOverBrew = false) :
    Evolves i (i.connectLocally c callId call) := by
  unfold IndividualSide.connectLocally
  split
  · exact refl i
  rename_i hc
  split
  · exact refl i
  have hset : Evolves i (i.setCall callId call.markCalledConnectAckPending) :=
    setCall h (.calledConnectAck hb (mem_of_lookup hc))
  exact hset.trans (of_eq rfl rfl rfl rfl)

theorem answerUConnect : Evolves i (i.answerUConnect c callId call ul pdu) := by
  unfold IndividualSide.answerUConnect
  split
  · exact refl i
  dsimp only
  have hset : Evolves i (i.setCall callId (call.bindCalledContext ul.calledContext)) :=
    setCall h (.bound _)
  have hl : (i.setCall callId (call.bindCalledContext ul.calledContext)).individualCalls.lookup
      callId = some (call.bindCalledContext ul.calledContext) := AList.lookup_insert _
  split
  · next hb =>
    exact hset.trans (connectOverBrew hl hb call.calledContext_bindCalledContext_isSome)
  · next hb => exact hset.trans (connectLocally hl (by simpa using hb))

end

theorem fsmOnUConnect : Evolves i (i.fsmOnUConnect c ul pdu) := by
  unfold IndividualSide.fsmOnUConnect
  dsimp only
  split
  · exact send _
  rename_i call h
  split
  · exact refl i
  split
  · exact refl i
  split
  · exact send _
  split
  · next hoffer =>
    refine .trans (acceptCalledSimplexOfferForRequestedDuplex h) (answerUConnect ?_)
    exact lookup_acceptCalledSimplexOffer (by simp_all)
  · exact answerUConnect h

/-! Delivery of the connection to both parties of a local call. -/

theorem dropConnectAck : Evolves i (i.dropConnectAck callId) := of_eq rfl rfl rfl rfl

theorem completePrivateConnectAfterCalledDelivery :
    Evolves i (i.completePrivateConnectAfterCalledDelivery c callId) := by
  unfold IndividualSide.completePrivateConnectAfterCalledDelivery
  split
  · exact refl i
  rename_i call h
  split
  · exact releaseIndividualCall
  have hset : Evolves i (i.setCall callId call.markCallerConnectAckPending) :=
    setCall h .callerConnectAck
  exact hset.trans (of_eq rfl rfl rfl rfl)

theorem completePrivateConnectAfterCallerConnectDelivery :
    Evolves i (i.completePrivateConnectAfterCallerConnectDelivery c callId) := by
  unfold IndividualSide.completePrivateConnectAfterCallerConnectDelivery
  split
  · exact refl i
  rename_i call h
  split
  · exact refl i
  dsimp only
  split
  · exact setCall h (.activated _)
  split
  · exact setCall h (.activated _)
  · refine .trans ?_ (send _)
    exact setCall_steps h (.tail (.single (.activated c.dltime)) (.setFloorHolder _))

theorem retryOrFailCalledDelivery : Evolves i (i.retryOrFailCalledDelivery c callId) := by
  unfold IndividualSide.retryOrFailCalledDelivery
  dsimp only
  split
  · exact .trans dropConnectAck releaseIndividualCall
  split
  · exact of_eq rfl rfl rfl rfl
  · exact dropConnectAck

theorem retryOrFailCallerDelivery : Evolves i (i.retryOrFailCallerDelivery c callId) := by
  unfold IndividualSide.retryOrFailCallerDelivery
  dsimp only
  split
  · exact .trans dropConnectAck releaseIndividualCall
  split
  · exact dropConnectAck
  · exact .trans dropConnectAck releaseIndividualCall
  · exact of_eq rfl rfl rfl rfl

theorem drainIndividualConnectAck : Evolves i (i.drainIndividualConnectAck c callId action) := by
  cases action with
  | calledDeliveryComplete => exact .trans dropConnectAck completePrivateConnectAfterCalledDelivery
  | callerDeliveryComplete =>
    exact .trans dropConnectAck completePrivateConnectAfterCallerConnectDelivery
  | retryOrFailCalledDelivery => exact retryOrFailCalledDelivery
  | retryOrFailCallerDelivery => exact retryOrFailCallerDelivery

theorem drainPendingIndividualConnectAcks :
    Evolves i (i.drainPendingIndividualConnectAcks c) := by
  refine foldl (fun i' callId => ?_) _ i
  split
  · exact drainIndividualConnectAck
  · exact refl i'

/-! Calls over the network. -/

theorem applyBrewSimplexInitialFloor (h : i.individualCalls.lookup callId = some call)
    (hs : ReflTransGen (CallStep (callId ∈ i.cachedSetups)) call call') :
    Evolves i (i.applyBrewSimplexInitialFloor callId call' pending) := by
  unfold IndividualSide.applyBrewSimplexInitialFloor
  split
  · exact setCall_steps h hs
  split
  · refine .trans ?_ (send _)
    exact setCall_steps h (hs.tail (.setFloorHolder _))
  · refine .trans ?_ (send _)
    exact setCall_steps h (hs.tail (.setFloorHolder _))
  · exact setCall_steps h (hs.tail .clearFloorHolder)

theorem completePendingNetworkIndividualConnect :
    Evolves i (i.completePendingNetworkIndividualConnect c callId pending) := by
  unfold IndividualSide.completePendingNetworkIndividualConnect
  split
  · exact refl i
  rename_i call h
  refine .trans ?_ (send _)
  refine applyBrewSimplexInitialFloor h ?_
  split
  · exact .single (.activated _)
  · exact .refl

theorem drainNetworkIndividualConnect : Evolves i (i.drainNetworkIndividualConnect c callId) := by
  unfold IndividualSide.drainNetworkIndividualConnect
  split
  · exact refl i
  dsimp only
  have he : Evolves i { i with
      pendingNetworkIndividualConnects := i.pendingNetworkIndividualConnects.erase callId } :=
    of_eq rfl rfl rfl rfl
  split
  · exact he.trans completePendingNetworkIndividualConnect
  · exact he.trans releaseIndividualCall

theorem drainPendingNetworkIndividualConnects :
    Evolves i (i.drainPendingNetworkIndividualConnects c) :=
  foldl (fun _ _ => drainNetworkIndividualConnect) _ i

variable {brewUuid : Nat}

theorem rxNetworkCircuitSetupReject :
    Evolves i (i.rxNetworkCircuitSetupReject c brewUuid cause) := by
  unfold IndividualSide.rxNetworkCircuitSetupReject
  split
  · exact refl i
  · exact releaseIndividualCallWithoutBrewEcho

theorem rxNetworkCircuitRelease : Evolves i (i.rxNetworkCircuitRelease c brewUuid cause) := by
  unfold IndividualSide.rxNetworkCircuitRelease
  split
  · exact refl i
  · exact releaseIndividualCallWithoutBrewEcho

theorem rxNetworkCircuitAlert : Evolves i (i.rxNetworkCircuitAlert c brewUuid) := by
  unfold IndividualSide.rxNetworkCircuitAlert
  split
  · exact refl i
  · exact fsmIndividualOnAlert

theorem awaitNetworkConnect :
    Evolves i (i.awaitNetworkConnect c callId brewUuid call leg peerAddr ts grant permission kind
      reporter connectMsg openMsgs) := by
  unfold IndividualSide.awaitNetworkConnect
  refine of_eq rfl rfl rfl ?_
  dsimp only
  split <;> rfl

theorem connectLocalCaller (h : i.individualCalls.lookup callId = some call) :
    Evolves i (i.connectLocalCaller c brewUuid callId call info) := by
  unfold IndividualSide.connectLocalCaller
  refine .trans ?_ awaitNetworkConnect
  split
  · exact setCall h (.networkCall info)
  · exact refl i

theorem fsmOnNetworkCircuitConnectConfirm :
    Evolves i (i.fsmOnNetworkCircuitConnectConfirm c brewUuid grant permission) := by
  unfold IndividualSide.fsmOnNetworkCircuitConnectConfirm
  split
  · exact refl i
  split
  · exact refl i
  split
  · exact refl i
  split
  · exact refl i
  · exact awaitNetworkConnect

theorem fsmOnNetworkCircuitConnectRequest :
    Evolves i (i.fsmOnNetworkCircuitConnectRequest c brewUuid info) := by
  unfold IndividualSide.fsmOnNetworkCircuitConnectRequest
  split
  · exact refl i
  rename_i hfind
  split
  · exact fsmOnNetworkCircuitConnectConfirm
  split
  · exact refl i
  · exact connectLocalCaller (find_some hfind).1

theorem fsmOnNetworkCircuitSimplexGranted :
    Evolves i (i.fsmOnNetworkCircuitSimplexGranted c brewUuid grant) := by
  unfold IndividualSide.fsmOnNetworkCircuitSimplexGranted
  split
  · exact refl i
  rename_i hfind
  split
  · exact refl i
  split
  · exact refl i
  split
  · exact refl i
  split
  · refine .trans ?_ (send _)
    exact setCall (find_some hfind).1 (.setFloorHolder _)
  · refine .trans ?_ (send _)
    exact setCall (find_some hfind).1 (.setFloorHolder _)
  · exact send _

theorem fsmOnNetworkCircuitSimplexIdle :
    Evolves i (i.fsmOnNetworkCircuitSimplexIdle c brewUuid) := by
  unfold IndividualSide.fsmOnNetworkCircuitSimplexIdle
  split
  · exact refl i
  rename_i hfind
  split
  · exact refl i
  split
  · exact refl i
  split
  · exact refl i
  split
  · refine .trans ?_ (send _)
    exact setCall (find_some hfind).1 (.floor _ _ _)
  · refine .trans ?_ (send _)
    exact setCall (find_some hfind).1 .clearFloorHolder

end Evolves

/-- A call that has just been set up, or opened to a service. -/
structure NewCall (call : IndividualCall) : Prop where
  state : call.state = .callSetupPending ∨ call.state = .incomingSetupPending ∨
    call.state = .active
  requested : call.connectRequestSent = false

/-- An individual call that a handler has set up, under an identifier that was not in use. A
set-up is cached for it only where no radio of the cell has called the network. -/
structure Opens (occupied : Nat → Bool) (i i' : IndividualSide) : Prop where
  opened : ∃ k call, 1 ≤ k ∧ occupied k = false ∧ NewCall call ∧
    (∀ j v, i'.individualCalls.lookup j = some v →
      j = k ∧ v = call ∨ i.individualCalls.lookup j = some v) ∧
    ∀ j ∈ i'.cachedSetups, j ∈ i.cachedSetups ∨
      j = k ∧ (call.brewUuid = none ∨ call.callingOverBrew = true)
  releases : i'.pendingIndividualReleases = i.pendingIndividualReleases
  deliveries : i'.pendingIndividualDisconnectDeliveries = i.pendingIndividualDisconnectDeliveries

variable {occupied : Nat → Bool}

theorem lookup_fsmIndividualCreateSetupCall
    (h : (i.fsmIndividualCreateSetupCall callId call).individualCalls.lookup j = some v) :
    j = callId ∧ v = call ∨ i.individualCalls.lookup j = some v := by
  unfold fsmIndividualCreateSetupCall at h
  split at h
  · exact .inr h
  split at h
  · exact (lookup_insert_cases h).imp_right And.right
  · exact .inr h

theorem opens_fsmIndividualCreateSetupCall {base : IndividualSide} (hk : 1 ≤ callId)
    (hocc : occupied callId = false) (hnew : NewCall call)
    (hcalls : base.individualCalls = i.individualCalls)
    (hr : base.pendingIndividualReleases = i.pendingIndividualReleases)
    (hd : base.pendingIndividualDisconnectDeliveries = i.pendingIndividualDisconnectDeliveries)
    (hcached : ∀ j ∈ base.cachedSetups, j ∈ i.cachedSetups ∨
      j = callId ∧ (call.brewUuid = none ∨ call.callingOverBrew = true)) :
    Opens occupied i (base.fsmIndividualCreateSetupCall callId call) := by
  have hframe : ∃ calls, base.fsmIndividualCreateSetupCall callId call =
      { base with individualCalls := calls } := by
    unfold fsmIndividualCreateSetupCall
    split
    · exact ⟨_, rfl⟩
    split
    · exact ⟨_, rfl⟩
    · exact ⟨_, rfl⟩
  refine ⟨⟨callId, call, hk, hocc, hnew, fun j v h => ?_, ?_⟩, ?_, ?_⟩
  · rw [← hcalls]
    exact lookup_fsmIndividualCreateSetupCall h
  · obtain ⟨calls, he⟩ := hframe
    rw [he]
    exact hcached
  · obtain ⟨calls, he⟩ := hframe
    rw [he]
    exact hr
  · obtain ⟨calls, he⟩ := hframe
    rw [he]
    exact hd

variable {pdu : USetup} {ul : UlContext}

theorem Evolves.reject_of_alloc (hs : s.cachedSetups = i.cachedSetups) :
    Evolves i ({ i with toShared := s }.reject ul cause) :=
  .of_eq rfl rfl rfl hs

theorem newCall_serviceCall : NewCall (serviceCall c ul pdu issi circuit) :=
  ⟨.inr (.inr rfl), rfl⟩

theorem opens_service {i : IndividualSide} {commType : CommunicationType}
    (h : i.toShared.allocateCircuit commType duplex occupied = (some circuit, s)) :
    Opens occupied i (({ i with toShared := s, parrotSession := parrot, echoSession := echo }.setCall
      circuit.callId (serviceCall c ul pdu issi circuit)).send msgs) where
  opened := ⟨circuit.callId, _, (Shared.allocateCircuit_fresh h).1, (Shared.allocateCircuit_fresh h).2,
    newCall_serviceCall, fun _ _ h => (lookup_insert_cases h).imp_right And.right,
    fun _ hj => .inl (Shared.cachedSetups_allocateCircuit h ▸ hj)⟩
  releases := rfl
  deliveries := rfl

theorem fsmOnUSetupParrot_evolves_or_opens :
    Evolves i (i.fsmOnUSetupParrot c occupied ul pdu) ∨
      Opens occupied i (i.fsmOnUSetupParrot c occupied ul pdu) := by
  unfold fsmOnUSetupParrot
  split
  · exact .inl (.send _)
  split
  · exact .inl (.send _)
  split
  · next h => exact .inl (.reject_of_alloc (Shared.cachedSetups_allocateCircuit h))
  · next h => exact .inr (opens_service h)

theorem fsmOnUSetupEcho_evolves_or_opens :
    Evolves i (i.fsmOnUSetupEcho c occupied ul pdu) ∨
      Opens occupied i (i.fsmOnUSetupEcho c occupied ul pdu) := by
  unfold fsmOnUSetupEcho
  split
  · exact .inl (.send _)
  split
  · next h => exact .inl (.reject_of_alloc (Shared.cachedSetups_allocateCircuit h))
  · next h => exact .inr (opens_service h)

theorem fsmOnUSetupP2pOverBrew_evolves_or_opens :
    Evolves i (i.fsmOnUSetupP2pOverBrew c occupied ul pdu calledAddr) ∨
      Opens occupied i (i.fsmOnUSetupP2pOverBrew c occupied ul pdu calledAddr) := by
  unfold fsmOnUSetupP2pOverBrew
  dsimp only
  split
  · exact .inl (.send _)
  split
  · exact .inl (.send _)
  split
  · exact .inl (.send _)
  split
  · exact .inl (.send _)
  split
  · next h => exact .inl (.reject_of_alloc (Shared.cachedSetups_allocateCircuit h))
  rename_i circuit s h
  have hf := Shared.allocateCircuit_fresh h
  have hs : s.cachedSetups = i.cachedSetups := Shared.cachedSetups_allocateCircuit h
  exact .inr (opens_fsmIndividualCreateSetupCall hf.1 hf.2 ⟨.inl rfl, rfl⟩ rfl rfl rfl
    (fun j hj => .inl (hs ▸ hj)))

/-- The circuits come under an identifier that is not in use. -/
theorem allocatePrivateCircuits_spec
    (h : allocatePrivateCircuits s pdu occupied = (circuits, s')) :
    s'.cachedSetups = s.cachedSetups ∧
      ∀ cs ∈ circuits, 1 ≤ cs.1.callId ∧ occupied cs.1.callId = false := by
  unfold allocatePrivateCircuits at h
  dsimp only at h
  split at h
  · cases h
    exact ⟨rfl, by simp⟩
  split at h
  · next halloc =>
    cases h
    exact ⟨Shared.cachedSetups_allocateCircuit halloc, by simp⟩
  rename_i halloc
  have hs := Shared.cachedSetups_allocateCircuit halloc
  have hf := Shared.allocateCircuit_fresh halloc
  split at h
  · cases h
    exact ⟨hs, by rintro _ ⟨⟩; exact hf⟩
  split at h
  · cases h
    exact ⟨hs, by rintro _ ⟨⟩; exact hf⟩
  · cases h
    exact ⟨hs, by simp⟩

theorem opens_openPrivateCall {s : Shared} {calling : CmceCircuit} (hk : 1 ≤ calling.callId)
    (hocc : occupied calling.callId = false) (hs : s.cachedSetups = i.cachedSetups) :
    Opens occupied i ({ i with toShared := s }.openPrivateCall c ul pdu calledAddr calling
      called) := by
  refine opens_fsmIndividualCreateSetupCall hk hocc ⟨.inl rfl, rfl⟩ rfl rfl rfl (fun j hj => ?_)
  obtain rfl | hj := (AList.mem_insert _).mp hj
  · exact .inr ⟨rfl, .inl rfl⟩
  · exact .inl (hs ▸ hj)

theorem fsmOnUSetupP2p_evolves_or_opens :
    Evolves i (i.fsmOnUSetupP2p c occupied ul pdu) ∨
      Opens occupied i (i.fsmOnUSetupP2p c occupied ul pdu) := by
  unfold fsmOnUSetupP2p
  dsimp only
  split
  · exact .inl (.send _)
  split
  · exact .inl (.send _)
  split
  · exact .inl (.send _)
  split
  · exact fsmOnUSetupParrot_evolves_or_opens
  split
  · exact fsmOnUSetupEcho_evolves_or_opens
  split
  · exact fsmOnUSetupP2pOverBrew_evolves_or_opens
  split
  · split
    · exact .inl (.send _)
    · exact fsmOnUSetupP2pOverBrew_evolves_or_opens
  split
  · exact .inl (.send _)
  split
  · next h => exact .inl (.reject_of_alloc (allocatePrivateCircuits_spec h).1)
  rename_i h
  obtain ⟨hs, hf⟩ := allocatePrivateCircuits_spec h
  obtain ⟨hk, hocc⟩ := hf _ rfl
  exact .inr (opens_openPrivateCall hk hocc hs)

theorem fsmOnNetworkCircuitSetupRequest_evolves_or_opens :
    Evolves i (i.fsmOnNetworkCircuitSetupRequest c occupied brewUuid info) ∨
      Opens occupied i (i.fsmOnNetworkCircuitSetupRequest c occupied brewUuid info) := by
  unfold fsmOnNetworkCircuitSetupRequest
  split
  · exact .inl (.send _)
  split
  · exact .inl (.send _)
  split
  · exact .inl (.send _)
  split
  · exact .inl (.send _)
  split
  · next h =>
    exact .inl (.of_eq rfl rfl rfl (Shared.cachedSetups_allocateCircuit h :))
  rename_i circuit s h
  have hf := Shared.allocateCircuit_fresh h
  have hs : s.cachedSetups = i.cachedSetups := Shared.cachedSetups_allocateCircuit h
  refine .inr (opens_fsmIndividualCreateSetupCall hf.1 hf.2 ⟨.inr (.inl rfl), rfl⟩ rfl
    rfl rfl (fun j hj => ?_))
  obtain rfl | hj := (AList.mem_insert _).mp hj
  · exact .inr ⟨rfl, .inr rfl⟩
  · exact .inl (hs ▸ hj)

end IndividualSide
end NexusBs.Cc
