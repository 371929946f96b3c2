import NexusBs.Cc.Moves

namespace NexusBs.Cc
open Lib Relation IndividualCall

/-- A record of an individual call as it can occur. No call waits for the answer to a D-DISCONNECT,
since none is ever sent; the network is asked to connect a call of its own once the called radio is
known; and only calls between two radios of the cell wait for the delivery of a connection. -/
structure CallOk (call : IndividualCall) : Prop where
  notDisconnecting : call.isDisconnectPending = false
  waiting : call.state = .incomingSetupWaitNetworkAck →
    call.callingOverBrew = true ∧ call.calledContext.isSome = true ∧ call.connectRequestSent = true
  requested : call.connectRequestSent = true → call.state = .incomingSetupWaitNetworkAck
  connecting : call.isConnectAckPending = true → call.brewUuid = none

variable {call : IndividualCall}

theorem IndividualSide.NewCall.callOk (h : IndividualSide.NewCall call) : CallOk call := by
  obtain ⟨hs, hr⟩ := h
  refine ⟨?_, ?_, ?_, ?_⟩
  · rcases hs with hs | hs | hs <;> simp [isDisconnectPending, hs]
  · rcases hs with hs | hs | hs <;> simp [hs]
  · simp [hr]
  · rcases hs with hs | hs | hs <;> simp [isConnectAckPending, hs]

namespace IndividualCall

variable (call : IndividualCall)

theorem bindCalledContext_eq :
    ∃ bound, call.bindCalledContext ctx = { call with calledContext := some bound } := by
  unfold bindCalledContext
  cases hc : call.calledContext with
  | none => exact ⟨ctx, rfl⟩
  | some bound =>
    refine ⟨bound, ?_⟩
    rw [if_neg (by simp), ← hc]

theorem toSimplex_eq : ∃ callingTs callingUsage calledTs calledUsage networkCall,
      call.toSimplex timeout =
        { call with
          callingTs := callingTs
          callingUsage := callingUsage
          calledTs := calledTs
          calledUsage := calledUsage
          simplexDuplex := false
          callTimeout := timeout
          networkCall := networkCall } := by
  unfold toSimplex
  dsimp only
  split
  · exact ⟨_, _, _, _, _, rfl⟩
  split
  · exact ⟨_, _, _, _, _, rfl⟩
  · exact ⟨_, _, _, _, _, rfl⟩

theorem markCalledConnectAckPending_eq :
    call.markCalledConnectAckPending = call ∨
      validateIndividualTransition call.state .alert = true ∧
        call.markCalledConnectAckPending = { call with state := .calledConnectAckPending } := by
  unfold markCalledConnectAckPending
  split
  · next h => exact .inr ⟨by rw [h]; rfl, rfl⟩
  · next h => exact .inr ⟨by rw [h]; rfl, rfl⟩
  · next h => exact .inr ⟨by rw [h]; rfl, rfl⟩
  · exact .inl rfl

theorem markCallerConnectAckPending_eq :
    call.markCallerConnectAckPending = call ∨
      call.state = .calledConnectAckPending ∧
        call.markCallerConnectAckPending = { call with state := .callerConnectAckPending } := by
  unfold markCallerConnectAckPending
  split
  · next h => exact .inr ⟨h, rfl⟩
  · exact .inl rfl

/-- A call that takes an alert is alerting after it. -/
theorem markAlerted_eq (h : validateIndividualTransition call.state .alert = true) :
    call.markAlerted now timeout =
      { call with
        state := .incomingAlerting
        setupTimerStarted := some now
        setupTimeout := some timeout } := by
  unfold markAlerted
  cases hs : call.state <;> rw [hs] at h <;> first | rfl | cases h

theorem not_connectRequestSent (h : CallOk call)
    (hv : validateIndividualTransition call.state .alert = true) :
    call.connectRequestSent = false := by
  cases hr : call.connectRequestSent with
  | false => rfl
  | true =>
    rw [h.requested hr] at hv
    cases hv

end IndividualCall

/-- Who a call is between, and how the network knows it. -/
def IndividualCall.parties (call : IndividualCall) :
    TetraAddress × TetraAddress × Bool × Bool × Option Nat :=
  (call.callingAddr, call.calledAddr, call.callingOverBrew, call.calledOverBrew, call.brewUuid)

namespace CallStep

variable {cached : Prop} {call call' : IndividualCall}

theorem parties_eq (h : CallStep cached call call') : call'.parties = call.parties := by
  cases h with
  | bound ctx =>
    obtain ⟨bound, he⟩ := call.bindCalledContext_eq
    rw [he]
    rfl
  | simplexOffer timeout =>
    obtain ⟨_, _, _, _, _, he⟩ := call.toSimplex_eq
    rw [he]
    rfl
  | calledConnectAck =>
    obtain he | ⟨-, he⟩ := call.markCalledConnectAckPending_eq <;> simp only [he, parties]
  | callerConnectAck =>
    obtain he | ⟨-, he⟩ := call.markCallerConnectAckPending_eq <;> simp only [he, parties]
  | alerted | connectRequested | activated | networkCall | floor => rfl

end CallStep

theorem CallOk.of_eq (h : CallOk call) (hs : call'.state = call.state)
    (hb : call'.callingOverBrew = call.callingOverBrew)
    (hc : call.calledContext.isSome = true → call'.calledContext.isSome = true)
    (hr : call'.connectRequestSent = call.connectRequestSent) (hu : call'.brewUuid = call.brewUuid) :
    CallOk call' where
  notDisconnecting := by
    have := h.notDisconnecting
    simpa only [isDisconnectPending, hs] using this
  waiting := fun hw => by
    obtain ⟨h1, h2, h3⟩ := h.waiting (hs ▸ hw)
    exact ⟨hb.trans h1, hc h2, hr.trans h3⟩
  requested := fun hreq => hs.trans (h.requested (hr ▸ hreq))
  connecting := fun hcon => by
    refine hu.trans (h.connecting ?_)
    simpa only [isConnectAckPending, hs] using hcon

theorem CallOk.step (h : CallOk call)
    (hcached : cached → call.brewUuid ≠ none → call.callingOverBrew = true)
    (hs : CallStep cached call call') : CallOk call' := by
  cases hs with
  | bound ctx =>
    obtain ⟨bound, he⟩ := call.bindCalledContext_eq
    rw [he]
    exact h.of_eq rfl rfl (fun _ => rfl) rfl rfl
  | alerted now timeout hv =>
    have hr := call.not_connectRequestSent h hv
    rw [call.markAlerted_eq hv]
    exact ⟨rfl, by simp, by simp [hr], by simp [isConnectAckPending]⟩
  | simplexOffer timeout =>
    obtain ⟨_, _, _, _, _, he⟩ := call.toSimplex_eq
    rw [he]
    exact h.of_eq rfl rfl id rfl rfl
  | connectRequested info hb hc =>
    exact ⟨rfl, fun _ => ⟨hb, hc, rfl⟩, fun _ => rfl, by simp [isConnectAckPending]⟩
  | calledConnectAck hb hc =>
    obtain he | ⟨hv, he⟩ := call.markCalledConnectAckPending_eq
    · rw [he]
      exact h
    · -- a call whose set-up is cached and that a radio made is not known to the network
      have hu : call.brewUuid = none := by
        by_contra hu
        rw [hcached hc hu] at hb
        cases hb
      rw [he]
      exact ⟨rfl, by simp, by simp [call.not_connectRequestSent h hv], fun _ => hu⟩
  | callerConnectAck =>
    obtain he | ⟨hstate, he⟩ := call.markCallerConnectAckPending_eq
    · rw [he]
      exact h
    · have hu : call.brewUuid = none := h.connecting (by
        rw [isConnectAckPending, hstate])
      have hr : call.connectRequestSent = true → False := fun hr => by
        have := h.requested hr
        rw [hstate] at this
        cases this
      rw [he]
      exact ⟨rfl, by simp, fun hreq => (hr hreq).elim, fun _ => hu⟩
  | activated =>
    exact ⟨rfl, by simp [IndividualCall.activate], by simp [IndividualCall.activate],
      by simp [IndividualCall.activate, isConnectAckPending]⟩
  | networkCall | floor => exact h.of_eq rfl rfl id rfl rfl

/-- A record that can occur, of a call whose set-up is or is not cached. -/
def CallFits (cached : Prop) (call : IndividualCall) : Prop :=
  CallOk call ∧ (cached → call.brewUuid ≠ none → call.callingOverBrew = true)

theorem CallFits.steps (h : CallFits cached call) (hs : ReflTransGen (CallStep cached) call call') :
    CallFits cached call' := by
  induction hs with
  | refl => exact h
  | tail _ hstep ih =>
    have hp := hstep.parties_eq
    simp only [parties, Prod.mk.injEq] at hp
    obtain ⟨-, -, hb, -, hu⟩ := hp
    refine ⟨ih.1.step ih.2 hstep, fun hc hne => ?_⟩
    rw [hb]
    exact ih.2 hc (hu ▸ hne)

theorem CallFits.mono (h : CallFits p call) (hqp : q → p) : CallFits q call :=
  ⟨h.1, fun hq => h.2 (hqp hq)⟩

namespace CcBs

/-- What holds in every state of call control: the records of individual calls, and that no call
identifier stands for a group call and an individual call. -/
structure Inv (s : CcBs) : Prop where
  calls : ∀ k call, s.individualCalls.lookup k = some call → CallFits (k ∈ s.cachedSetups) call
  deliveries : ∀ k, k ∉ s.pendingIndividualDisconnectDeliveries
  apart : ∀ k ∈ s.activeCalls, k ∉ s.individualCalls ∧ k ∉ s.pendingIndividualReleases

variable {env : Env} {s s' : CcBs}

/-- An identifier that is not in use is not in the tables. -/
theorem not_mem_of_not_occupied (hk : 1 ≤ k) (hocc : s.occupiedCallIds k = false) :
    k ∉ s.cachedSetups ∧ k ∉ s.activeCalls ∧ k ∉ s.individualCalls ∧
      k ∉ s.pendingIndividualReleases := by
  have hk0 : (k != 0) = true := by simp; omega
  simp only [occupiedCallIds, hk0, Bool.true_and, Bool.or_eq_false_iff, decide_eq_false_iff_not]
    at hocc
  tauto

theorem step_eq (h : s.step input = some s') :
    s'.sent.all Msg.validate = true ∧
      s' = { s with sent := [] }.handle (input.1.knows s.nextReporter) input.2 := by
  unfold step at h
  dsimp only at h
  split at h
  · next hv =>
    cases h
    exact ⟨hv, rfl⟩
  · cases h

theorem Inv.callMove (h : Inv s) (hm : CallMove s s') : Inv s' := by
  cases hm with
  | group hg =>
    exact ⟨fun k call hc => (h.calls k call hc).mono (hg.cached k), h.deliveries,
      fun k hk => h.apart k (hg.calls.mem hk)⟩
  | individual hi =>
    refine ⟨fun k call' hc => ?_, fun k hk => h.deliveries k (hi.deliveries k hk), fun k hk => ?_⟩
    · obtain ⟨call, hcall, hsteps⟩ := hi.calls k call' hc
      exact ((h.calls k call hcall).steps hsteps).mono (hi.cached k)
    · obtain ⟨hni, hnr⟩ := h.apart k hk
      exact ⟨fun hc => hni (hi.calls.mem hc), fun hr => (hi.releases k hr).elim hnr hni⟩
  | shared sh dltime connected hs =>
    exact ⟨fun k call hc => (h.calls k call hc).mono (hs k), h.deliveries, h.apart⟩

/-- A call is entered under an identifier of which no table knows. -/
theorem Inv.entry (h : Inv s) (he : Entry env s s') : Inv s' := by
  cases he with
  | group hg =>
    obtain ⟨k, call, hk, hocc, -, hcalls, hcached⟩ := hg.opened
    obtain ⟨-, -, hni, hnr⟩ := not_mem_of_not_occupied hk hocc
    refine ⟨fun j v hv => ?_, h.deliveries, fun j hj => ?_⟩
    · refine (h.calls j v hv).mono (fun hj => (hcached j hj).resolve_left ?_)
      rintro rfl
      exact hni (Table.mem_of_lookup hv)
    · obtain ⟨v, hv⟩ := Table.exists_lookup hj
      obtain ⟨rfl, -⟩ | hv := hcalls j v hv
      · exact ⟨hni, hnr⟩
      · exact h.apart j (Table.mem_of_lookup hv)
  | individual hi =>
    obtain ⟨k, call, hk, hocc, hnew, hcalls, hcached⟩ := hi.opened
    obtain ⟨hns, hna, hni, -⟩ := not_mem_of_not_occupied hk hocc
    refine ⟨fun j v hv => ?_, fun j hj => h.deliveries j (hi.deliveries ▸ hj), fun j hj => ?_⟩
    · obtain ⟨rfl, rfl⟩ | hv := hcalls j v hv
      · refine ⟨hnew.callOk, fun hj hu => ?_⟩
        exact ((hcached j hj).resolve_left hns).2.resolve_left hu
      · refine (h.calls j v hv).mono (fun hj => (hcached j hj).resolve_right ?_)
        rintro ⟨rfl, -⟩
        exact hni (Table.mem_of_lookup hv)
    · obtain ⟨hji, hjr⟩ := h.apart j hj
      refine ⟨fun hc => ?_, fun hr => hjr (hi.releases ▸ hr)⟩
      obtain ⟨v, hv⟩ := Table.exists_lookup hc
      obtain ⟨rfl, -⟩ | hv := hcalls j v hv
      · exact hna hj
      · exact hji (Table.mem_of_lookup hv)

theorem Inv.moves (h : Inv s) (hm : ReflTransGen Move s s') : Inv s' := by
  induction hm with
  | refl => exact h
  | tail _ hstep ih =>
    cases hstep with
    | call hm => exact ih.callMove hm
    | subscribers => exact ⟨ih.calls, ih.deliveries, ih.apart⟩

/-- Opening a call or moving one on keeps the invariant. -/
theorem Inv.step (h : Inv s) (hs : s.step input = some s') : Inv s' := by
  have h0 : Inv { s with sent := [] } := ⟨h.calls, h.deliveries, h.apart⟩
  obtain ⟨-, rfl⟩ := step_eq hs
  exact (handle_enters_or_moves h0.deliveries).elim h0.entry h0.moves

theorem Inv.start {cell : CellConfig} {registry : SubscriberRegistry} {alloc : TimeslotAllocator}
    {connected : Bool} : Inv (.start cell registry alloc connected) where
  calls := fun k call h => by cases h
  deliveries := fun k hk => by cases hk
  apart := fun k hk => by cases hk

end CcBs

theorem Reachable.inv (h : Reachable s) : s.Inv := by
  obtain ⟨cell, registry, alloc, connected, inputs, hr⟩ := h
  exact run_invariant (fun _ _ _ hs _ hstep => CcBs.Inv.step hs hstep) CcBs.Inv.start
    (Along.of_forall (p := fun _ => True) (fun _ _ => trivial)) hr

end NexusBs.Cc
