import NexusBs.Lib.Table
import NexusBs.Sndcp.PdpService
import NexusBs.Sndcp.StateMachine
import NexusBs.Sndcp.Transfer

namespace NexusBs.Sndcp

open Lib SndcpContextTable SwmiSndcpStateMachine SndcpPdpService

structure SndcpBearerManager where
  pdp : SndcpPdpService
  states : Table SwmiSndcpStateMachine

inductive SndcpBearerActivationOutcome where
  | accepted (accept : SndcpActivatePdpContextAccept) (transition : SwmiSndcpTransition)
  | rejected (reject : SndcpActivatePdpContextReject)

structure SndcpBearerDeactivationOutcome where
  deactivation : SndcpPdpDeactivationResult
  transitions : List SwmiSndcpTransition

structure SndcpBearerControlOutcome where
  transition : Option SwmiSndcpTransition
  controlPdu : Option (List Bool)

inductive SndcpBearerError where
  | missingPdpContext (issi nsapi : Nat)
  | packetDataTransferNotReady (issi : Nat) (state : SwmiSndcpState)
  | state (error : SwmiSndcpStateError)
  | encodeTransferControl

def stateErrorToRejectCause : SwmiSndcpStateError → SndcpTransferRejectCause
  | .noActivePdpContext => .unknownNsapi
  | .invalidEvent _ _ => .undefined
  | .swmiStillTransmittingTlSdu => .undefined

def encoded (pdu : Except SndcpTransferError (List Bool)) : Except SndcpBearerError (List Bool) :=
  pdu.mapError (fun _ => .encodeTransferControl)

def encodeRejectResponse (nsapi : Nat) (cause : SndcpTransferRejectCause) :
    Except SndcpBearerError (List Bool) :=
  encoded (encodeDataTransmitResponse ⟨nsapi, .rejected cause⟩)

def controlPduForTransition (transition : SwmiSndcpTransition) :
    Except SndcpBearerError (Option (List Bool)) :=
  if SwmiSndcpAction.transmitEndOfData ∈ transition.actions then
    (encoded (encodeEndOfData ⟨false⟩)).map some
  else .ok none

namespace SndcpBearerManager

def new (policy : SndcpPdpPolicy) : SndcpBearerManager := ⟨.new policy, ∅⟩

section

variable (m : SndcpBearerManager)

def stateForIssi (issi : Nat) : SwmiSndcpState :=
  ((m.states.lookup issi).map SwmiSndcpStateMachine.state).getD .idle

def contextMissing (issi nsapi : Nat) : Bool :=
  match m.pdp.contexts.getIssiNsapi issi nsapi with
  | .ok (some _) => false
  | _ => true

/-- An event for the machine of a subscriber, which is made where there is none and stays whatever
comes of the event. -/
def stateForIssiMut (issi : Nat)
    (event : SwmiSndcpStateMachine → SwmiSndcpStateMachine.Outcome) :
    SndcpBearerManager × Except SwmiSndcpStateError SwmiSndcpTransition :=
  let machine := (m.states.lookup issi).getD default
  match event machine with
  | .error e => ({ m with states := m.states.insert issi machine }, .error e)
  | .ok (machine, transition) =>
    ({ m with states := m.states.insert issi machine }, .ok transition)

def removeIdleState (issi : Nat) : SndcpBearerManager :=
  if m.stateForIssi issi = .idle then { m with states := m.states.erase issi } else m

def markReadyBearerTemporarilyBroken (issi : Nat) :
    SndcpBearerManager × Except SndcpBearerError (Option SwmiSndcpTransition) :=
  if m.stateForIssi issi ≠ .ready then (m, .ok none)
  else
    let (m, r) := m.stateForIssiMut issi (·.reconnectWithoutDataReceived)
    (m, (r.map some).mapError .state)

end

def handleActivateDemand (m : SndcpBearerManager) (issi : Nat)
    (demand : SndcpActivatePdpContextDemand) :
    SndcpBearerManager × Except SndcpBearerError SndcpBearerActivationOutcome :=
  let (pdp, result) := m.pdp.handleActivateDemand issi demand
  let m := { m with pdp }
  match result with
  | .accepted accept _ true =>
    let state := m.stateForIssi issi
    (m, .ok (.accepted accept ⟨state, state, []⟩))
  | .accepted accept _ false =>
    let (m, r) := m.stateForIssiMut issi (·.activatePdpContext)
    (m, (r.map (.accepted accept)).mapError .state)
  | .rejected reject => (m, .ok (.rejected reject))

/-- One deactivation of the machine for each context removed, up to the first that is refused. -/
def deactivateStates (issi : Nat) :
    Nat → Table SwmiSndcpStateMachine → Table SwmiSndcpStateMachine × List SwmiSndcpTransition
  | 0, states => (states, [])
  | n + 1, states =>
    match states.lookup issi with
    | none => (states, [])
    | some machine =>
      match machine.deactivatePdpContext with
      | .error _ => (states, [])
      | .ok (machine, transition) =>
        let (states, transitions) := deactivateStates issi n (states.insert issi machine)
        (states, transition :: transitions)

def handleDeactivateDemand (m : SndcpBearerManager) (issi : Nat) (deactivation : SndcpDeactivation) :
    SndcpBearerManager × SndcpBearerDeactivationOutcome :=
  let (pdp, deactivation) := m.pdp.handleDeactivateDemand issi deactivation
  let (states, transitions) := deactivateStates issi deactivation.removedContexts m.states
  (removeIdleState ⟨pdp, states⟩ issi, ⟨deactivation, transitions⟩)

section

variable (m : SndcpBearerManager)

def handleMsDataTransmitRequest (issi : Nat)
    (request : SndcpDataTransmitRequest) :
    SndcpBearerManager × Except SndcpBearerError SndcpBearerControlOutcome :=
  if m.contextMissing issi request.nsapi then
    (m, (encodeRejectResponse request.nsapi .unknownNsapi).map (fun pdu => ⟨none, some pdu⟩))
  else
    match m.stateForIssiMut issi (·.dataTransmitRequestReceived) with
    | (m, .error error) =>
      (m, (encodeRejectResponse request.nsapi (stateErrorToRejectCause error)).map
        (fun pdu => ⟨none, some pdu⟩))
    | (m, .ok transition) =>
      (m, (encoded (encodeDataTransmitResponse ⟨request.nsapi, .accepted⟩)).map
        (fun pdu => ⟨some transition, some pdu⟩))

def handleSwmiServiceUserDataRequest (issi nsapi : Nat) :
    SndcpBearerManager × Except SndcpBearerError SndcpBearerControlOutcome :=
  if m.contextMissing issi nsapi then (m, .error (.missingPdpContext issi nsapi))
  else
    match m.stateForIssiMut issi (·.serviceUserDataRequest) with
    | (m, .error error) => (m, .error (.state error))
    | (m, .ok transition) =>
      (m, (encoded (encodeDataTransmitRequest ⟨nsapi, false, .none⟩)).map
        (fun pdu => ⟨some transition, some pdu⟩))

def handlePacketDataTransferred (issi : Nat) :
    SndcpBearerManager × Except SndcpBearerError SwmiSndcpTransition :=
  let (m, r) := m.stateForIssiMut issi (·.packetDataTransferred)
  (m, r.mapError .state)

def prepareSwmiUnitdataTransfer (issi nsapi : Nat) :
    SndcpBearerManager × Except SndcpBearerError SwmiSndcpTransition :=
  if m.contextMissing issi nsapi then (m, .error (.missingPdpContext issi nsapi))
  else if m.stateForIssi issi ≠ .ready then
    (m, .error (.packetDataTransferNotReady issi (m.stateForIssi issi)))
  else m.handlePacketDataTransferred issi

end

def echoed (r : Except SwmiSndcpStateError SwmiSndcpTransition) :
    Except SndcpBearerError SndcpBearerControlOutcome :=
  match r with
  | .error error => .error (.state error)
  | .ok transition => (controlPduForTransition transition).map (fun pdu => ⟨some transition, pdu⟩)

section

variable (m : SndcpBearerManager) (issi : Nat)

def handleReadyTimerExpired :
    SndcpBearerManager × Except SndcpBearerError SndcpBearerControlOutcome :=
  let (m, r) := m.stateForIssiMut issi (·.readyTimerExpired)
  (m, echoed r)

def handleEndOfDataReceived (endOfData : SndcpEndOfData)
    (swmiTransmittingTlSdu : Bool) :
    SndcpBearerManager × Except SndcpBearerError SndcpBearerControlOutcome :=
  let (m, r) := m.stateForIssiMut issi
    (·.endOfDataReceived endOfData.immediateServiceChange swmiTransmittingTlSdu)
  (m, echoed r)

def handleReconnectReceived (reconnect : SndcpReconnect) :
    SndcpBearerManager × Except SndcpBearerError SndcpBearerControlOutcome :=
  match reconnect.nsapi with
  | none =>
    let (m, r) := m.stateForIssiMut issi (·.reconnectWithoutDataReceived)
    (m, (r.map (fun transition => ⟨some transition, none⟩)).mapError .state)
  | some nsapi =>
    if m.contextMissing issi nsapi then
      (m, (encodeRejectResponse nsapi .unknownNsapi).map (fun pdu => ⟨none, some pdu⟩))
    else
      match m.stateForIssiMut issi (·.reconnectReceived) with
      | (m, .error error) => (m, .error (.state error))
      | (m, .ok _) =>
        match m.stateForIssiMut issi (·.dataTransmitRequestReceived) with
        | (m, .error error) => (m, .error (.state error))
        | (m, .ok transition) =>
          (m, (encoded (encodeDataTransmitResponse ⟨nsapi, .accepted⟩)).map
            (fun pdu => ⟨some transition, some pdu⟩))

def deregisterIssi :
    SndcpBearerManager × Except SndcpBearerError SwmiSndcpTransition :=
  let m := { m with pdp := (m.pdp.handleDeactivateDemand issi .allNsapis).1 }
  match m.stateForIssiMut issi (·.deregisterMs) with
  | (m, .error error) => (m, .error (.state error))
  | (m, .ok transition) => (m.removeIdleState issi, .ok transition)

end

/-! ### Runs of the manager -/

inductive Operation where
  | activate (issi : Nat) (demand : SndcpActivatePdpContextDemand)
  | deactivate (issi : Nat) (deactivation : SndcpDeactivation)
  | msDataTransmitRequest (issi : Nat) (request : SndcpDataTransmitRequest)
  | swmiServiceUserDataRequest (issi nsapi : Nat)
  | packetDataTransferred (issi : Nat)
  | prepareSwmiUnitdataTransfer (issi nsapi : Nat)
  | readyTimerExpired (issi : Nat)
  | endOfDataReceived (issi : Nat) (endOfData : SndcpEndOfData) (swmiTransmittingTlSdu : Bool)
  | reconnectReceived (issi : Nat) (reconnect : SndcpReconnect)
  | bearerBroken (issi : Nat)
  | deregister (issi : Nat)

def apply (m : SndcpBearerManager) : Operation → SndcpBearerManager
  | .activate issi demand => (m.handleActivateDemand issi demand).1
  | .deactivate issi deactivation => (m.handleDeactivateDemand issi deactivation).1
  | .msDataTransmitRequest issi request => (m.handleMsDataTransmitRequest issi request).1
  | .swmiServiceUserDataRequest issi nsapi => (m.handleSwmiServiceUserDataRequest issi nsapi).1
  | .packetDataTransferred issi => (m.handlePacketDataTransferred issi).1
  | .prepareSwmiUnitdataTransfer issi nsapi => (m.prepareSwmiUnitdataTransfer issi nsapi).1
  | .readyTimerExpired issi => (m.handleReadyTimerExpired issi).1
  | .endOfDataReceived issi endOfData transmitting =>
    (m.handleEndOfDataReceived issi endOfData transmitting).1
  | .reconnectReceived issi reconnect => (m.handleReconnectReceived issi reconnect).1
  | .bearerBroken issi => (m.markReadyBearerTemporarilyBroken issi).1
  | .deregister issi => (m.deregisterIssi issi).1

def step (m : SndcpBearerManager) (op : Operation) : Option SndcpBearerManager := some (m.apply op)

def activePdpContexts (m : SndcpBearerManager) (issi : Nat) : Nat :=
  ((m.states.lookup issi).map SwmiSndcpStateMachine.activePdpContexts).getD 0

structure Agrees (m : SndcpBearerManager) : Prop where
  count : ∀ issi, m.activePdpContexts issi = (m.pdp.contexts.contextsForIssi issi).length
  idle : ∀ issi, m.stateForIssi issi = .idle ↔ m.pdp.contexts.contextsForIssi issi = []
  entry : ∀ issi, issi ∈ m.states → m.pdp.contexts.contextsForIssi issi ≠ []

/-- What the table says of a subscriber's machine. -/
def Matches (n : Nat) : Option SwmiSndcpStateMachine → Prop
  | none => n = 0
  | some machine => machine.activePdpContexts = n ∧ 0 < n ∧ machine.state ≠ .idle

def Matched (m : SndcpBearerManager) : Prop :=
  ∀ issi, Matches (m.pdp.contexts.contextCount issi) (m.states.lookup issi)

theorem contextsForIssi_eq_nil {t : SndcpContextTable} :
    t.contextsForIssi issi = [] ↔ t.contextCount issi = 0 := by
  rw [← length_contextsForIssi, List.length_eq_zero_iff]

theorem Matched.agrees (h : Matched m) : Agrees m := by
  refine ⟨fun issi => ?_, fun issi => ?_, fun issi hmem => ?_⟩
  all_goals
    have hi := h issi
  · rw [length_contextsForIssi, activePdpContexts]
    cases hl : m.states.lookup issi with
    | none =>
      rw [hl] at hi
      exact hi.symm
    | some =>
      rw [hl] at hi
      exact hi.1
  · rw [contextsForIssi_eq_nil, stateForIssi]
    cases hl : m.states.lookup issi with
    | none =>
      rw [hl] at hi
      simpa [Matches] using hi
    | some =>
      rw [hl] at hi
      simp [hi.2.2, Nat.pos_iff_ne_zero.mp hi.2.1]
  · rw [Ne, contextsForIssi_eq_nil]
    obtain ⟨machine, hl⟩ := Table.exists_lookup hmem
    rw [hl] at hi
    exact Nat.pos_iff_ne_zero.mp hi.2.1

section Steps

variable {m : SndcpBearerManager} {issi nsapi : Nat}
  {event : SwmiSndcpStateMachine → SwmiSndcpStateMachine.Outcome}

theorem Matched.of_new (policy : SndcpPdpPolicy) : Matched (new policy) := fun _ => rfl

theorem stateForIssiMut_pdp (m : SndcpBearerManager) (issi : Nat)
    (event : SwmiSndcpStateMachine → SwmiSndcpStateMachine.Outcome) :
    (m.stateForIssiMut issi event).1.pdp = m.pdp := by
  unfold stateForIssiMut
  dsimp only
  split <;> rfl

/-- An event that only moves data keeps the machines right, for a subscriber that has one. -/
theorem Matched.transfer (h : Matched m) (hevent : SwmiSndcpStateMachine.Transfers event)
    (hc : m.pdp.contexts.contextCount issi ≠ 0) : Matched (m.stateForIssiMut issi event).1 := by
  have hi := h issi
  cases hl : m.states.lookup issi with
  | none =>
    rw [hl] at hi
    exact absurd hi hc
  | some machine =>
    rw [hl] at hi
    have hput : ∀ machine' : SwmiSndcpStateMachine,
        machine'.activePdpContexts = machine.activePdpContexts → machine'.state ≠ .idle →
        Matched { m with states := m.states.insert issi machine' } := by
      intro machine' ha hs other
      by_cases ho : other = issi
      · subst ho
        simp only [AList.lookup_insert]
        exact ⟨ha.trans hi.1, hi.2.1, hs⟩
      · simp only [AList.lookup_insert_ne ho]
        exact h other
    unfold stateForIssiMut
    simp only [hl, Option.getD_some]
    split
    · exact hput machine rfl hi.2.2
    rename_i machine' t hev
    obtain ⟨ha, hs⟩ := hevent machine machine' t hev
    exact hput machine' ha hs

theorem contextMissing_false (h : m.contextMissing issi nsapi = false) :
    m.pdp.contexts.contextCount issi ≠ 0 := by
  unfold contextMissing at h
  split at h
  · rename_i c hc
    obtain ⟨hm, hk⟩ := getIssiNsapi_some hc
    have hpos : 0 < m.pdp.contexts.contextCount issi :=
      Keyed.count_pos.mpr ⟨c, hm, by simp [hk]⟩
    omega
  · cases h

theorem Matched.count_of_ready (h : Matched m) (hr : m.stateForIssi issi = .ready) :
    m.pdp.contexts.contextCount issi ≠ 0 := by
  have hi := h issi
  cases hl : m.states.lookup issi with
  | none => simp [stateForIssi, hl] at hr
  | some =>
    rw [hl] at hi
    exact Nat.pos_iff_ne_zero.mp hi.2.1

/-- The table has changed for one subscriber, whose machine then gets what it should. -/
theorem Matched.update {pdp : SndcpPdpService} {states : Table SwmiSndcpStateMachine}
    (h : Matched m) (issi : Nat)
    (hpdp : ∀ other, other ≠ issi →
      pdp.contexts.contextCount other = m.pdp.contexts.contextCount other)
    (hstates : ∀ other, other ≠ issi → states.lookup other = m.states.lookup other)
    (hself : Matches (pdp.contexts.contextCount issi) (states.lookup issi)) :
    Matched ⟨pdp, states⟩ := by
  intro other
  by_cases ho : other = issi
  · subst ho
    exact hself
  · simp only [hpdp other ho, hstates other ho]
    exact h other

/-- A machine as the table has it takes one context more. -/
theorem Matches.activated (h : Matches n o) :
    ∃ machine t, (o.getD default).activatePdpContext = .ok (machine, t) ∧
      Matches (n + 1) (some machine) := by
  have hidle : (o.getD default).activePdpContexts = n ∧
      ((o.getD default).activePdpContexts = 0 ↔ (o.getD default).state = .idle) := by
    cases o with
    | none =>
      cases h
      exact ⟨rfl, iff_of_true rfl rfl⟩
    | some =>
      refine ⟨h.1, ?_⟩
      have hpos := h.2.1
      simp only [Option.getD_some, h.1]
      exact iff_of_false (by omega) h.2.2
  obtain ⟨machine, t, hev, hc, hs⟩ := activatePdpContext_ok hidle.2
  exact ⟨machine, t, hev, hc.trans (by rw [hidle.1]), Nat.succ_pos n, hs⟩

theorem Matched.handleActivateDemand (h : Matched m) (demand : SndcpActivatePdpContextDemand) :
    Matched (m.handleActivateDemand issi demand).1 := by
  have ha := handleActivateDemand_activated m.pdp issi demand
  unfold SndcpBearerManager.handleActivateDemand
  generalize m.pdp.handleActivateDemand issi demand = q at ha ⊢
  obtain ⟨pdp, r⟩ := q
  dsimp only at ha ⊢
  cases ha with
  | rejected | kept => exact h
  | refreshed accept c d hc hi hl =>
    intro other
    have hg : m.pdp.contexts.get d.key = some c := Keyed.get_eq_some.mpr ⟨hc, hl.1.symm⟩
    simp only [contextCount_insert_same hg]
    exact h other
  | entered accept c hk hfree =>
    obtain ⟨machine, t, hev, hm⟩ := (h issi).activated
    simp only [stateForIssiMut, hev]
    refine h.update issi ?_ ?_ ?_
    · intro other ho
      simp [contextCount_insert_new hfree, hk, Ne.symm ho]
    · intro other ho
      exact AList.lookup_insert_ne ho
    · simpa [contextCount_insert_new hfree, hk] using hm

theorem deactivateStates_other (ho : other ≠ issi) (states : Table SwmiSndcpStateMachine) :
    (deactivateStates issi n states).1.lookup other = states.lookup other := by
  induction n generalizing states with
  | zero => rfl
  | succ n ih =>
    unfold deactivateStates
    split
    · rfl
    split
    · rfl
    · simp [ih, AList.lookup_insert_ne ho]

variable {states : Table SwmiSndcpStateMachine}

/-- Fewer contexts go than the machine counts. -/
theorem deactivateStates_some (hl : states.lookup issi = some machine)
    (hn : n < machine.activePdpContexts) :
    (deactivateStates issi n states).1.lookup issi =
      some { machine with activePdpContexts := machine.activePdpContexts - n } := by
  induction n generalizing states machine with
  | zero => exact hl
  | succ n ih =>
    obtain ⟨t, ht⟩ := deactivatePdpContext_shared (m := machine) (by omega)
    simp only [deactivateStates, hl, ht]
    rw [ih (AList.lookup_insert _) (by simp only; omega)]
    simp only [Option.some.injEq, SwmiSndcpStateMachine.mk.injEq, true_and, and_true]
    omega

/-- All the contexts that the machine counts go, in Standby. -/
theorem deactivateStates_all (hl : states.lookup issi = some machine)
    (hpos : 0 < machine.activePdpContexts) (hs : machine.state = .standby) :
    ∃ machine', (deactivateStates issi machine.activePdpContexts states).1.lookup issi =
      some machine' ∧ machine'.state = .idle := by
  obtain ⟨n, hn⟩ : ∃ n, machine.activePdpContexts = n + 1 :=
    ⟨machine.activePdpContexts - 1, by omega⟩
  rw [hn]
  induction n generalizing states machine with
  | zero =>
    obtain ⟨t, ht⟩ := deactivatePdpContext_last hn hs
    simp only [deactivateStates, hl, ht]
    exact ⟨_, AList.lookup_insert _, rfl⟩
  | succ n ih =>
    obtain ⟨t, ht⟩ := deactivatePdpContext_shared (m := machine) (by omega)
    rw [deactivateStates]
    simp only [hl, ht]
    exact ih (AList.lookup_insert _) (by simp only; omega) hs (by simp only; omega)

theorem removeIdleState_pdp : (m.removeIdleState issi).pdp = m.pdp := by
  unfold removeIdleState
  split <;> rfl

theorem removeIdleState_other (ho : other ≠ issi) :
    (m.removeIdleState issi).states.lookup other = m.states.lookup other := by
  unfold removeIdleState
  split
  · exact AList.lookup_erase_ne ho
  · rfl

theorem removeIdleState_of_idle (h : m.stateForIssi issi = .idle) :
    (m.removeIdleState issi).states.lookup issi = none := by
  rw [removeIdleState, if_pos h]
  exact AList.lookup_erase _ _

theorem removeIdleState_of_ne (h : m.stateForIssi issi ≠ .idle) : m.removeIdleState issi = m := by
  rw [removeIdleState, if_neg h]

/-- What the machine of a subscriber is after a deactivation that took `n` of its contexts. -/
theorem Matches.deactivated {pdp : SndcpPdpService} {c n : Nat}
    (h : Matches (c + n) (m.states.lookup issi)) (hok : m.stateForIssi issi = .ready → 0 < c) :
    Matches c ((removeIdleState ⟨pdp, (deactivateStates issi n m.states).1⟩ issi).states.lookup
      issi) := by
  cases hl : m.states.lookup issi with
  | none =>
    rw [hl] at h
    have hn : n = 0 := Nat.eq_zero_of_add_eq_zero_left h
    have hc : c = 0 := Nat.eq_zero_of_add_eq_zero_right h
    subst hn hc
    rw [removeIdleState_of_idle (by simp [stateForIssi, deactivateStates, hl])]
    rfl
  | some machine =>
    rw [hl] at h
    obtain ⟨hcount, hpos, hidle⟩ := h
    rcases Nat.eq_zero_or_pos c with hc | hc
    · -- the last context is gone: the machine was in Standby, and is dropped
      have hstandby : machine.state = .standby := by
        have hready : machine.state ≠ .ready := fun hr => by
          have := hok (by simp [stateForIssi, hl, hr])
          omega
        cases hs : machine.state with
        | idle => exact absurd hs hidle
        | standby => rfl
        | ready => exact absurd hs hready
      have hn : n = machine.activePdpContexts := by omega
      obtain ⟨machine', hl', hi'⟩ := deactivateStates_all hl (by omega) hstandby
      rw [hn, removeIdleState_of_idle (by simp [stateForIssi, hl', hi'])]
      exact hc
    · have hl' := deactivateStates_some (n := n) hl (by omega)
      rw [removeIdleState_of_ne (by simp [stateForIssi, hl', hidle])]
      rw [hl']
      exact ⟨by simp only; omega, hc, hidle⟩

/-- A context that a deactivation leaves alone. -/
def stays (t : SndcpContextTable) (issi : Nat) (deactivation : SndcpDeactivation)
    (c : SndcpPdpContext) : Bool :=
  match deactivation with
  | .allNsapis => false
  | .nsapi nsapi => (t.get ⟨issi, nsapi⟩).all (fun gone => !takenOut gone c)

theorem contextCount_of_stays {s : SndcpPdpService} (hc : c ∈ s.contexts.contextsForIssi issi)
    (h : stays s.contexts issi d c = true) :
    0 < (s.handleDeactivateDemand issi d).1.contexts.contextCount issi := by
  obtain ⟨hc, hi⟩ := List.mem_filter.mp hc
  refine Keyed.count_pos.mpr ⟨c, ?_, hi⟩
  cases d with
  | allNsapis => cases h
  | nsapi nsapi =>
    simp only [SndcpPdpService.handleDeactivateDemand]
    split
    · exact hc
    rename_i hk
    cases SndcpContextKey.new_ok hk
    split
    · rename_i hd
      obtain ⟨gone, hg, hmem⟩ := deactivateWithLinkedSecondaries_ok hd
      exact (hmem c).mpr ⟨hc, by simpa [stays, hg] using h⟩
    · exact hc

theorem Matched.handleDeactivateDemand (h : Matched m)
    (hok : m.stateForIssi issi = .ready →
      ∃ c ∈ m.pdp.contexts.contextsForIssi issi, stays m.pdp.contexts issi d c = true) :
    Matched (m.handleDeactivateDemand issi d).1 := by
  have hd := handleDeactivateDemand_deactivated m.pdp issi d
  replace hok : m.stateForIssi issi = .ready →
      0 < (m.pdp.handleDeactivateDemand issi d).1.contexts.contextCount issi := fun hr =>
    let ⟨_, hc, hs⟩ := hok hr
    contextCount_of_stays hc hs
  unfold SndcpBearerManager.handleDeactivateDemand
  generalize m.pdp.handleDeactivateDemand issi d = q at hd hok ⊢
  obtain ⟨pdp, r⟩ := q
  dsimp only at hd hok ⊢
  have hself := hd.contextCount issi
  rw [if_pos rfl] at hself
  intro other
  rw [removeIdleState_pdp]
  by_cases ho : other = issi
  · subst ho
    refine Matches.deactivated ?_ ?_
    · rw [hself]
      exact h other
    · exact hok
  · have hcount := hd.contextCount other
    rw [if_neg ho, Nat.add_zero] at hcount
    rw [removeIdleState_other ho]
    simp only [hcount, deactivateStates_other ho]
    exact h other

theorem Matched.deregisterIssi (h : Matched m) : Matched (m.deregisterIssi issi).1 := by
  have hd := handleDeactivateDemand_deactivated m.pdp issi .allNsapis
  intro other
  unfold SndcpBearerManager.deregisterIssi
  simp only [stateForIssiMut, deregisterMs, SwmiSndcpStateMachine.transition]
  rw [removeIdleState_pdp]
  by_cases ho : other = issi
  · subst ho
    rw [removeIdleState_of_idle (by simp [stateForIssi, enterIdle])]
    exact Nat.eq_zero_of_not_pos (fun hpos => by
      obtain ⟨c, hc, hi⟩ := Keyed.count_pos.mp hpos
      obtain ⟨-, hne⟩ := Keyed.mem_retain.mp hc
      simp at hi hne
      exact hne hi)
  · have hcount := hd.contextCount other
    rw [if_neg ho, Nat.add_zero] at hcount
    rw [removeIdleState_other ho]
    simp only [hcount, AList.lookup_insert_ne ho]
    exact h other

end Steps

/-- What an operation must meet for the machines to follow the table: a deactivation does not take
the last context of a subscriber that is Ready, and what moves data is for a subscriber that has a
context. -/
def Fits (m : SndcpBearerManager) : Operation → Prop
  | .deactivate issi d =>
    m.stateForIssi issi = .ready →
      ∃ c ∈ m.pdp.contexts.contextsForIssi issi, stays m.pdp.contexts issi d c = true
  | .packetDataTransferred issi | .readyTimerExpired issi | .endOfDataReceived issi _ _ =>
    m.pdp.contexts.contextCount issi ≠ 0
  | .reconnectReceived issi reconnect =>
    reconnect.nsapi = none → m.pdp.contexts.contextCount issi ≠ 0
  | _ => True

instance (m : SndcpBearerManager) : (op : Operation) → Decidable (Fits m op)
  | .deactivate .. | .reconnectReceived .. => inferInstanceAs (Decidable (_ → _))
  | .packetDataTransferred _ | .readyTimerExpired _ | .endOfDataReceived .. =>
    inferInstanceAs (Decidable (_ ≠ _))
  | .activate .. | .msDataTransmitRequest .. | .swmiServiceUserDataRequest ..
  | .prepareSwmiUnitdataTransfer .. | .bearerBroken _ | .deregister _ => .isTrue trivial

section Run

variable {m : SndcpBearerManager} {issi : Nat}

open SwmiSndcpStateMachine

theorem Matched.handleReconnectReceived (h : Matched m)
    (hok : reconnect.nsapi = none → m.pdp.contexts.contextCount issi ≠ 0) :
    Matched (m.handleReconnectReceived issi reconnect).1 := by
  unfold SndcpBearerManager.handleReconnectReceived
  split
  · rename_i hn
    exact h.transfer transfers_reconnectWithoutDataReceived (hok hn)
  split
  · exact h
  rename_i hmissing
  have hc := contextMissing_false (by simpa using hmissing)
  have h1 := h.transfer transfers_reconnectReceived hc
  have hp1 := stateForIssiMut_pdp m issi (·.reconnectReceived)
  split
  · rename_i heq
    rw [heq] at h1
    exact h1
  rename_i m1 _ heq
  rw [heq] at h1 hp1
  have hc1 : m1.pdp.contexts.contextCount issi ≠ 0 := by
    rw [show m1.pdp = m.pdp from hp1]
    exact hc
  have h2 := Matched.transfer h1 transfers_dataTransmitRequestReceived hc1
  split
  · rename_i heq
    rw [heq] at h2
    exact h2
  rename_i heq
  rw [heq] at h2
  exact h2

theorem Matched.apply (h : Matched m) (hok : Fits m op) : Matched (m.apply op) := by
  cases op with
  | activate issi demand => exact h.handleActivateDemand demand
  | deactivate => exact h.handleDeactivateDemand hok
  | msDataTransmitRequest issi request =>
    simp only [SndcpBearerManager.apply, handleMsDataTransmitRequest]
    split
    · exact h
    rename_i hmissing
    have h1 := h.transfer transfers_dataTransmitRequestReceived
      (contextMissing_false (by simpa using hmissing))
    split <;>
    · rename_i heq
      rw [heq] at h1
      exact h1
  | swmiServiceUserDataRequest issi nsapi =>
    simp only [SndcpBearerManager.apply, handleSwmiServiceUserDataRequest]
    split
    · exact h
    rename_i hmissing
    have h1 := h.transfer transfers_serviceUserDataRequest
      (contextMissing_false (by simpa using hmissing))
    split <;>
    · rename_i heq
      rw [heq] at h1
      exact h1
  | packetDataTransferred => exact h.transfer transfers_packetDataTransferred hok
  | prepareSwmiUnitdataTransfer issi nsapi =>
    simp only [SndcpBearerManager.apply, SndcpBearerManager.prepareSwmiUnitdataTransfer]
    split
    · exact h
    rename_i hmissing
    split
    · exact h
    exact h.transfer transfers_packetDataTransferred
      (contextMissing_false (by simpa using hmissing))
  | readyTimerExpired => exact h.transfer transfers_readyTimerExpired hok
  | endOfDataReceived issi e w =>
    exact h.transfer transfers_endOfDataReceived hok
  | reconnectReceived => exact h.handleReconnectReceived hok
  | bearerBroken issi =>
    simp only [SndcpBearerManager.apply, markReadyBearerTemporarilyBroken]
    split
    · exact h
    rename_i hready
    exact h.transfer transfers_reconnectWithoutDataReceived
      (h.count_of_ready (not_not.mp hready))
  | deregister => exact h.deregisterIssi

end Run

/-- Over every run in which no deactivation takes the last context of a subscriber that is Ready,
and what moves data is for subscribers with contexts, the machines follow the context table. -/
theorem run_bearer_state_agrees (policy : SndcpPdpPolicy) (ops : List Operation)
    (hok : Along step Fits (new policy) ops) :
    ∃ m, Lib.run step (new policy) ops = some m ∧ Agrees m := by
  obtain ⟨m, hm, h⟩ := run_total (P := Matched) (fun m op h hfit => ⟨m.apply op, rfl, h.apply hfit⟩)
    (Matched.of_new policy) hok
  exact ⟨m, hm, h.agrees⟩

/-- Two contexts, one of them given up while data moves, and then the subscriber leaves. -/
def readyOperations : List Operation :=
  [.activate 100 (demandOf 2 .ipv4Dynamic),
    .activate 100 (demandOf 3 .ipv4Dynamic),
    .msDataTransmitRequest 100 ⟨2, false, .none⟩, .deactivate 100 (.nsapi 3),
    .readyTimerExpired 100, .deactivate 100 (.nsapi 2)]

theorem readyOperations_agree :
    Along step Fits (new .experimentalWapIpv4) readyOperations ∧
      ∃ m, Lib.run step (new .experimentalWapIpv4) readyOperations = some m ∧ Agrees m := by
  have hok : Along step Fits (new .experimentalWapIpv4) readyOperations := by decide +kernel
  exact ⟨hok, run_bearer_state_agrees .experimentalWapIpv4 readyOperations hok⟩

/-- A context is given up while its subscriber is Ready: the table is empty, and the machine still
counts one context. A subscriber without contexts ends its data: it is left with a machine. -/
theorem ready_deactivation_left_behind :
    (∃ m, Lib.run step (new .experimentalWapIpv4)
        [.activate 100 (demandOf 2 .ipv4Dynamic),
          .msDataTransmitRequest 100 ⟨2, false, .none⟩, .deactivate 100 (.nsapi 2)] = some m ∧
      m.pdp.contexts.contextsForIssi 100 = [] ∧ m.activePdpContexts 100 = 1 ∧
      m.stateForIssi 100 = .ready ∧ ¬ Agrees m) ∧
    (∃ m, Lib.run step (new .experimentalWapIpv4) [.endOfDataReceived 100 ⟨false⟩ false] = some m ∧
      m.pdp.contexts.contextsForIssi 100 = [] ∧ (m.states.lookup 100).isSome ∧ ¬ Agrees m) := by
  have hready : ∃ m, Lib.run step (new .experimentalWapIpv4)
      [.activate 100 (demandOf 2 .ipv4Dynamic),
        .msDataTransmitRequest 100 ⟨2, false, .none⟩, .deactivate 100 (.nsapi 2)] = some m ∧
      m.pdp.contexts.contextsForIssi 100 = [] ∧ m.activePdpContexts 100 = 1 ∧
      m.stateForIssi 100 = .ready := ⟨_, rfl, by decide +kernel⟩
  have hended : ∃ m, Lib.run step (new .experimentalWapIpv4)
      [.endOfDataReceived 100 ⟨false⟩ false] = some m ∧
      m.pdp.contexts.contextsForIssi 100 = [] ∧ (m.states.lookup 100).isSome :=
    ⟨_, rfl, by decide +kernel⟩
  obtain ⟨m, hm, hnone, hone, hs⟩ := hready
  obtain ⟨m', hm', hnone', hsome⟩ := hended
  refine ⟨⟨m, hm, hnone, hone, hs, ?_⟩, m', hm', hnone', hsome, ?_⟩
  · intro ha
    have hc := ha.count 100
    rw [hnone, hone] at hc
    cases hc
  · intro ha
    exact ha.entry 100 (AList.lookup_isSome.mp hsome) hnone'

end SndcpBearerManager

end NexusBs.Sndcp
