import NexusBs.Cc.Parties

namespace NexusBs.Cc
open Lib IndividualSide Option

/-! Events of the set-up of a call that come too late or twice. -/

def CcEvent.isNetworkConnect : CcEvent → Bool
  | .network (.circuitConnectRequest _ _) => true
  | .network (.circuitConnectConfirm _ _ _) => true
  | _ => false

namespace CcBs

/-- The call that an event of the set-up is for; none for any other event. -/
def setupEventCall (env : Env) (s : CcBs) : CcEvent → Option (Nat × IndividualCall)
  | .uplink _ (.uAlert pdu) =>
    (s.individualCall pdu.callIdentifier).map (fun call => (pdu.callIdentifier, call))
  | .uplink _ (.uConnect pdu) =>
    (s.individualCall pdu.callIdentifier).map (fun call => (pdu.callIdentifier, call))
  | .network (.circuitAlert brewUuid) =>
    s.individualSide.findBrewIndividualCall (s.ctx env) brewUuid
  | .network (.circuitConnectRequest brewUuid _) =>
    s.individualSide.findBrewIndividualCall (s.ctx env) brewUuid
  | .network (.circuitConnectConfirm brewUuid _ _) =>
    s.individualSide.findBrewIndividualCall (s.ctx env) brewUuid
  | _ => none

/-- The call is still being set up, its called party has not answered, and no connection to the
network is under way for it. -/
def admitsSetupEvent (s : CcBs) (callId : Nat) (call : IndividualCall) : Bool :=
  decide (callId ∈ s.individualCalls) && !call.isActive && !call.isConnectAckPending &&
    !call.isDisconnectPending && !call.connectRequestSent &&
    decide (callId ∉ s.pendingNetworkIndividualConnects)

/-- What is acted on before the state of the call is looked at. The called party offers simplex for
a duplex call, in a U-ALERT at any time and in a U-CONNECT before the call is connected; or the
network connects a call that is not active, as often as it says so. -/
def actsAnyway (s : CcBs) (callId : Nat) (call : IndividualCall) : CcEvent → Bool
  | .uplink ul (.uAlert pdu) =>
    decide (callId ∈ s.individualCalls) && call.calledAddr.ssi == ul.address.ssi &&
      (unsupportedUAlertFunction pdu
        ((s.cachedSetups.lookup callId).map (·.pdu.basicServiceInformation))).isNone &&
      call.simplexDuplex && !pdu.simplexDuplexSelection
  | .uplink ul (.uConnect pdu) =>
    decide (callId ∈ s.individualCalls) && !call.isActive && !call.isConnectAckPending &&
      call.calledAddr.ssi == ul.address.ssi &&
      (unsupportedUConnectFunction pdu
        ((s.cachedSetups.lookup callId).map (·.pdu.basicServiceInformation))).isNone &&
      call.simplexDuplex && !pdu.simplexDuplexSelection
  | .network (.circuitConnectRequest _ _) =>
    !call.isActive && (!call.callingOverBrew || call.calledContext.isSome)
  | .network (.circuitConnectConfirm _ _ _) =>
    !call.isActive && call.callingOverBrew && call.calledContext.isSome
  | _ => false

/-- Messages apart nothing has changed: every call has the record that it had, and all else is the
same. -/
def Unchanged (s s' : CcBs) : Prop :=
  s' = { s with sent := s'.sent, individualCalls := s'.individualCalls } ∧
    ∀ k, s'.individualCalls.lookup k = s.individualCalls.lookup k

end CcBs

namespace IndividualSide

variable {c : Ctx} {i : IndividualSide} {ul : UlContext} {callId : Nat} {call : IndividualCall}

/-- A record that is written back leaves the table as it was. -/
theorem lookup_setCall_of_lookup (h : i.individualCalls.lookup callId = some call) (k : Nat) :
    (i.setCall callId call).individualCalls.lookup k = i.individualCalls.lookup k := by
  unfold setCall
  by_cases hk : k = callId
  · subst hk
    rw [AList.lookup_insert, h]
  · rw [AList.lookup_insert_ne hk]

theorem fsmIndividualOnAlert_rejected {ctx : Option CalledContext}
    {timeout : CallTimeoutSetupPhase}
    (h : ∀ call, i.individualCalls.lookup callId = some call →
      validateIndividualTransition call.state .alert = false) :
    i.fsmIndividualOnAlert c callId ctx timeout = i := by
  unfold fsmIndividualOnAlert
  split
  · rfl
  · next call hl => rw [if_pos (by rw [h call hl]; rfl)]

@[simp] theorem toSimplex_state : (call.toSimplex timeout).state = call.state := by
  obtain ⟨_, _, _, _, _, he⟩ := call.toSimplex_eq
  rw [he]

@[simp] theorem toSimplex_simplexDuplex : (call.toSimplex timeout).simplexDuplex = false := rfl

@[simp] theorem bindCalledContext_simplexDuplex :
    (call.bindCalledContext ctx).simplexDuplex = call.simplexDuplex := by
  obtain ⟨_, he⟩ := call.bindCalledContext_eq
  rw [he]

/-- A U-ALERT that the call no longer takes: nothing happens, or the call becomes a simplex call. -/
theorem fsmOnUAlert_rejected (hl : i.individualCalls.lookup pdu.callIdentifier = some call)
    (hv : validateIndividualTransition call.state .alert = false) :
    i.fsmOnUAlert c ul pdu =
      if call.calledAddr.ssi == ul.address.ssi && call.simplexDuplex &&
          !pdu.simplexDuplexSelection then
        i.acceptCalledSimplexOfferForRequestedDuplex c pdu.callIdentifier call
      else i := by
  simp only [fsmOnUAlert, hl]
  by_cases hp : call.calledAddr.ssi = ul.address.ssi
  · rw [if_neg (by simpa using hp)]
    cases ho : (call.simplexDuplex && !pdu.simplexDuplexSelection) with
    | false =>
      rw [if_neg (by simp), if_neg (by simp [Bool.and_assoc, ho])]
      apply fsmIndividualOnAlert_rejected
      intro call' hc
      rw [hl] at hc
      cases hc
      exact hv
    | true =>
      rw [if_pos rfl, if_pos (by simp [ho, hp])]
      apply fsmIndividualOnAlert_rejected
      intro call' hc
      rw [lookup_acceptCalledSimplexOffer (by simp_all)] at hc
      cases hc
      rw [toSimplex_state]
      exact hv
  · rw [if_pos hp, if_neg (by simp [hp])]

/-- A second U-CONNECT, while the network is asked to connect: only the record of the call is
written, with the link on which the called party first answered. -/
theorem answerUConnect_waiting (hs : call.state = .incomingSetupWaitNetworkAck)
    (hb : call.callingOverBrew = true) (hr : call.connectRequestSent = true) :
    i.answerUConnect c callId call ul pdu =
      i.setCall callId (call.bindCalledContext ul.calledContext) := by
  obtain ⟨bound, he⟩ := call.bindCalledContext_eq
  unfold answerUConnect
  rw [hs, if_neg (by decide), he]
  simp only [hb, if_true]
  unfold connectOverBrew
  split
  · rfl
  · rw [if_pos (by simp [hr])]

theorem bindCalledContext_of_isSome (h : call.calledContext.isSome = true) :
    call.bindCalledContext ctx = call := by
  unfold IndividualCall.bindCalledContext
  rw [if_neg (by simpa using ne_none_iff_isSome.mpr h)]

end IndividualSide

/-- The states that take no alert are those that take no event of the set-up. -/
theorem CallOk.no_alert {call : IndividualCall} (h : CallOk call)
    (hn : call.isActive = true ∨ call.isConnectAckPending = true ∨ call.connectRequestSent = true) :
    validateIndividualTransition call.state .alert = false := by
  rcases hn with hn | hn | hn
  · simp only [IndividualCall.isActive, beq_iff_eq] at hn
    rw [hn]
    rfl
  · unfold IndividualCall.isConnectAckPending at hn
    split at hn
    · next heq =>
      rw [heq]
      rfl
    · next heq =>
      rw [heq]
      rfl
    · cases hn
  · rw [h.requested hn]
    rfl

/-- A call that takes no alert though it is not connected waits for the network. -/
theorem CallOk.requested_of_no_alert {call : IndividualCall} (h : CallOk call)
    (hv : validateIndividualTransition call.state .alert = false) (ha : call.isActive = false)
    (hc : call.isConnectAckPending = false) : call.connectRequestSent = true := by
  have hd := h.notDisconnecting
  cases hs : call.state
  case incomingSetupWaitNetworkAck => exact (h.waiting hs).2.2
  all_goals simp [IndividualCall.isActive, IndividualCall.isConnectAckPending,
    IndividualCall.isDisconnectPending, validateIndividualTransition, hs] at hv ha hc hd

namespace CcBs

variable {env : Env} {s s' : CcBs} {ul : UlContext} {callId : Nat} {call : IndividualCall}
  {event : CcEvent}

@[simp] theorem withIndividual_send :
    s.withIndividual (s.individualSide.send msgs) = s.send msgs := rfl

theorem Unchanged.refl (s : CcBs) : Unchanged s s := ⟨rfl, fun _ => rfl⟩

theorem Unchanged.send (s : CcBs) (msgs : List Msg) : Unchanged s (s.send msgs) :=
  ⟨rfl, fun _ => rfl⟩

/-- A duplex call that has become a simplex call has changed. -/
theorem not_unchanged_of_simplex (hl : s.individualCalls.lookup callId = some call)
    (hd : call.simplexDuplex = true) (hl' : s'.individualCalls.lookup callId = some call')
    (hd' : call'.simplexDuplex = false) : ¬Unchanged s s' := by
  rintro ⟨-, h⟩
  have he := h callId
  rw [hl, hl', Option.some.injEq] at he
  rw [he, hd] at hd'
  cases hd'

/-- A call that is still in the table and does not admit events of the set-up takes no alert,
unless a connection is under way. -/
theorem no_alert_of_not_admitted (hok : CallOk call) (hm : callId ∈ s.individualCalls)
    (h : s.admitsSetupEvent callId call = false)
    (hw : callId ∈ s.pendingNetworkIndividualConnects →
      validateIndividualTransition call.state .alert = false) :
    validateIndividualTransition call.state .alert = false := by
  simp only [admitsSetupEvent, hm, decide_true, Bool.true_and, hok.notDisconnecting, Bool.not_false,
    Bool.and_true, Bool.and_eq_false_iff, Bool.not_eq_false', decide_eq_false_iff_not,
    Decidable.not_not] at h
  by_cases hn : callId ∈ s.pendingNetworkIndividualConnects
  · exact hw hn
  · exact hok.no_alert (by tauto)

theorem individualCall_cases (h : s.individualCall callId = some call) :
    s.individualCalls.lookup callId = some call ∨
      s.individualCalls.lookup callId = none ∧ callId ∉ s.individualCalls := by
  cases hl : s.individualCalls.lookup callId with
  | some =>
    left
    simpa [individualCall, hl] using h
  | none => exact .inr ⟨rfl, AList.lookup_eq_none.mp hl⟩

theorem rejected_uAlert_iff (hi : s.Inv) {pdu : UAlert}
    (hc : s.individualCall pdu.callIdentifier = some call)
    (hna : s.admitsSetupEvent pdu.callIdentifier call = false)
    (hw : pdu.callIdentifier ∈ s.pendingNetworkIndividualConnects →
      validateIndividualTransition call.state .alert = false) :
    Unchanged s (s.routeXxDeliver env ul (.uAlert pdu)) ↔
      s.actsAnyway pdu.callIdentifier call (.uplink ul (.uAlert pdu)) = false := by
  simp only [routeXxDeliver, onIndividual, IndividualSide.rxUAlert, actsAnyway]
  rw [show s.individualSide.cachedSetups = s.cachedSetups from rfl]
  cases hu : unsupportedUAlertFunction pdu
      ((s.cachedSetups.lookup pdu.callIdentifier).map (·.pdu.basicServiceInformation)) with
  | some => simpa using Unchanged.send s _
  | none =>
    obtain hl | ⟨hl, hm⟩ := individualCall_cases hc
    · have hm := Table.mem_of_lookup hl
      have hv := no_alert_of_not_admitted (hi.calls _ _ hl).1 hm hna hw
      have hli : s.individualSide.individualCalls.lookup pdu.callIdentifier = some call := hl
      simp only [fsmOnUAlert_rejected hli hv, hm, decide_true, Bool.true_and,
        isNone_none, Bool.and_true]
      cases ho : (call.calledAddr.ssi == ul.address.ssi && call.simplexDuplex &&
          !pdu.simplexDuplexSelection) with
      | false => simpa using Unchanged.refl s
      | true =>
        have hd : call.simplexDuplex = true := by simp_all
        simp only [if_true, Bool.true_eq_false, iff_false]
        exact not_unchanged_of_simplex hl hd (lookup_acceptCalledSimplexOffer hd)
          toSimplex_simplexDuplex
    · have hli : s.individualSide.individualCalls.lookup pdu.callIdentifier = none := hl
      simp only [IndividualSide.fsmOnUAlert, hli, hm, decide_false, Bool.false_and, iff_true]
      exact Unchanged.send s _

theorem rejected_uConnect_iff (hi : s.Inv) {pdu : UConnect}
    (hc : s.individualCall pdu.callIdentifier = some call)
    (hna : s.admitsSetupEvent pdu.callIdentifier call = false)
    (hw : pdu.callIdentifier ∈ s.pendingNetworkIndividualConnects →
      validateIndividualTransition call.state .alert = false) :
    Unchanged s (s.routeXxDeliver env ul (.uConnect pdu)) ↔
      s.actsAnyway pdu.callIdentifier call (.uplink ul (.uConnect pdu)) = false := by
  simp only [routeXxDeliver, onIndividual, actsAnyway]
  obtain hl | ⟨hl, hm⟩ := individualCall_cases hc
  · have hm := Table.mem_of_lookup hl
    have hok := (hi.calls _ _ hl).1
    have hli : s.individualSide.individualCalls.lookup pdu.callIdentifier = some call := hl
    simp only [IndividualSide.fsmOnUConnect, hli, hm, decide_true, Bool.true_and]
    rw [show s.individualSide.cachedSetups = s.cachedSetups from rfl]
    by_cases hopen : (call.isActive || call.isConnectAckPending) = true
    · rw [if_pos hopen]
      have hno : (!call.isActive && !call.isConnectAckPending) = false := by
        rw [← Bool.not_or, hopen]
        rfl
      simpa [hno] using Unchanged.refl s
    · rw [if_neg hopen]
      simp only [Bool.or_eq_true, not_or, Bool.not_eq_true] at hopen
      -- the network has been asked, so the state and the link of the called party are known
      have hr : call.connectRequestSent = true :=
        hok.requested_of_no_alert (no_alert_of_not_admitted hok hm hna hw) hopen.1 hopen.2
      have hstate := hok.requested hr
      obtain ⟨hb, hctx, -⟩ := hok.waiting hstate
      by_cases hp : call.calledAddr.ssi = ul.address.ssi
      · rw [if_neg (by simpa using hp)]
        cases hu : unsupportedUConnectFunction pdu
            ((s.cachedSetups.lookup pdu.callIdentifier).map (·.pdu.basicServiceInformation)) with
        | some => simpa using Unchanged.send s _
        | none =>
          cases ho : (call.simplexDuplex && !pdu.simplexDuplexSelection) with
          | false =>
            have hanswer := @answerUConnect_waiting (s.ctx env) s.individualSide ul
              pdu.callIdentifier call pdu hstate hb hr
            rw [bindCalledContext_of_isSome hctx] at hanswer
            simp only [Bool.false_eq_true, if_false, hanswer, Bool.and_assoc, ho, Bool.and_false,
              iff_true]
            exact ⟨rfl, lookup_setCall_of_lookup hli⟩
          | true =>
            have hd : call.simplexDuplex = true := by simp_all
            simp only [if_true, hopen, Bool.not_false, Bool.true_and, hp, beq_self_eq_true,
              isNone_none, ho, Bool.true_eq_false, iff_false]
            obtain ⟨_, _, _, _, _, he⟩ := call.toSimplex_eq
            rw [answerUConnect_waiting (by rw [he]; exact hstate)
              (by rw [he]; exact hb) (by rw [he]; exact hr)]
            exact not_unchanged_of_simplex hl hd (AList.lookup_insert _)
              (by rw [bindCalledContext_simplexDuplex]; rfl)
      · rw [if_pos hp]
        simpa [hp] using Unchanged.refl s
  · have hli : s.individualSide.individualCalls.lookup pdu.callIdentifier = none := hl
    simp only [IndividualSide.fsmOnUConnect, hli, hm, decide_false, Bool.false_and, iff_true]
    exact Unchanged.send s _

/-- The call that the network names by its own identifier. -/
theorem findBrewIndividualCall_some {i : IndividualSide}
    (h : i.findBrewIndividualCall c brewUuid = some (callId, call)) :
    i.individualCalls.lookup callId = some call ∧ call.brewUuid = some brewUuid := by
  obtain ⟨hl, hp⟩ := Table.find_some h
  exact ⟨hl, by simpa using hp⟩

/-- What a message with a new reporter goes out for has changed something. -/
theorem not_unchanged_of_reporter (h : s.nextReporter < s'.nextReporter) : ¬Unchanged s s' := by
  rintro ⟨he, -⟩
  rw [he] at h
  exact absurd h (Nat.lt_irrefl _)

section

variable (i : IndividualSide)

theorem nextReporter_awaitNetworkConnect :
    (i.awaitNetworkConnect c callId brewUuid call leg peer ts grant permission kind reporter msg
      msgs).nextReporter = i.nextReporter + if splitBrewDuplex call then 2 else 1 := by
  unfold awaitNetworkConnect
  dsimp only [Shared.sendReported, Shared.send]
  split <;> rfl

theorem connectLocalCalled_reporter (brewUuid : Nat) : i.nextReporter <
    (i.connectLocalCalled c brewUuid callId call bound grant permission).nextReporter := by
  rw [connectLocalCalled, nextReporter_awaitNetworkConnect]
  split <;> omega

theorem connectLocalCaller_reporter (brewUuid : Nat) :
    i.nextReporter < (i.connectLocalCaller c brewUuid callId call info).nextReporter := by
  rw [connectLocalCaller, nextReporter_awaitNetworkConnect]
  split <;> split <;> exact Nat.lt_add_of_pos_right (by decide)

end

theorem connectConfirm_iff (env : Env)
    (hf : s.individualSide.findBrewIndividualCall (s.ctx env) brewUuid = some (callId, call)) :
    Unchanged s (s.onIndividual (fun i =>
      i.fsmOnNetworkCircuitConnectConfirm (s.ctx env) brewUuid grant permission)) ↔
        (!call.isActive && call.callingOverBrew && call.calledContext.isSome) = false := by
  simp only [onIndividual, fsmOnNetworkCircuitConnectConfirm, hf]
  cases hb : call.callingOverBrew with
  | false => simpa using Unchanged.refl s
  | true =>
    cases ha : call.isActive with
    | true => simpa using Unchanged.refl s
    | false =>
      cases hctx : call.calledContext with
      | none => simpa using Unchanged.refl s
      | some =>
        simp only [Bool.not_true, Bool.false_eq_true, if_false]
        refine iff_of_false (not_unchanged_of_reporter ?_) (by simp)
        exact connectLocalCalled_reporter s.individualSide brewUuid

theorem connectRequest_iff (env : Env)
    (hf : s.individualSide.findBrewIndividualCall (s.ctx env) brewUuid = some (callId, call)) :
    Unchanged s (s.onIndividual (fun i =>
      i.fsmOnNetworkCircuitConnectRequest (s.ctx env) brewUuid info)) ↔
        (!call.isActive && (!call.callingOverBrew || call.calledContext.isSome)) = false := by
  simp only [onIndividual, fsmOnNetworkCircuitConnectRequest, hf]
  cases hb : call.callingOverBrew with
  | true => simpa [onIndividual, hb] using connectConfirm_iff env hf
  | false =>
    cases ha : call.isActive with
    | true => simpa using Unchanged.refl s
    | false =>
      simp only [Bool.false_eq_true, if_false]
      refine iff_of_false (not_unchanged_of_reporter ?_) (by simp)
      exact connectLocalCaller_reporter s.individualSide brewUuid

theorem rejected_circuitAlert (env : Env) (hi : s.Inv)
    (hf : s.individualSide.findBrewIndividualCall (s.ctx env) brewUuid = some (callId, call))
    (hna : s.admitsSetupEvent callId call = false)
    (hw : callId ∈ s.pendingNetworkIndividualConnects →
      validateIndividualTransition call.state .alert = false) :
    s.rxCallControl env (.circuitAlert brewUuid) = s := by
  obtain ⟨hl, -⟩ := findBrewIndividualCall_some hf
  simp only [rxCallControl, onIndividual, IndividualSide.rxNetworkCircuitAlert, hf]
  rw [fsmIndividualOnAlert_rejected, withIndividual_individualSide]
  intro call' hl'
  rw [hl] at hl'
  cases hl'
  exact no_alert_of_not_admitted (hi.calls _ _ hl).1 (Table.mem_of_lookup hl) hna hw

/-- A duplex call between two radios of the cell is open, and the called one rings once more. -/
theorem exists_late_alert (duplex : Bool) :
    ∃ s s' call call', Reachable s ∧ s.individualCalls.lookup 4 = some call ∧
      call.isActive = true ∧ call.simplexDuplex = true ∧
      s.step (.sample .pending, .uplink (.sample 2002) (.uAlert ⟨4, true, duplex, none, false,
        false⟩)) = some s' ∧
      s'.individualCalls.lookup 4 = some call' ∧ call'.simplexDuplex = duplex := by
  have hopen : (run step (.start .sample ∅ .empty true)
      [(.sample .pending, .mmUpdate ⟨2002, [], .register⟩),
        (.sample .pending, .uplink (.sample 1001) (.uSetup (.sample .p2p true 2002))),
        (.sample .pending, .uplink (.sample 2002) (.uConnect ⟨4, false, true, none, false, false⟩)),
        (.sample .acknowledged, .tick .default),
        (.sample .acknowledged, .tick .default)]).bind (fun s =>
      (s.individualCalls.lookup 4).bind (fun call =>
        (s.step (.sample .pending, .uplink (.sample 2002) (.uAlert ⟨4, true, duplex, none, false,
          false⟩))).bind (fun s' => (s'.individualCalls.lookup 4).map (fun call' =>
            (call.isActive, call.simplexDuplex, call'.simplexDuplex))))) =
              some (true, true, duplex) := by
    cases duplex <;> decide +kernel
  obtain ⟨s, hs, hopen⟩ := bind_eq_some_iff.mp hopen
  obtain ⟨call, hl, hopen⟩ := bind_eq_some_iff.mp hopen
  obtain ⟨s', hstep, hopen⟩ := bind_eq_some_iff.mp hopen
  obtain ⟨call', hl', he⟩ := map_eq_some_iff.mp hopen
  simp only [Prod.mk.injEq] at he
  exact ⟨s, s', call, call', ⟨_, _, _, _, _, hs⟩, hl, he.1, he.2.1, hstep, hl', he.2.2⟩

end CcBs
end NexusBs.Cc
