import Mathlib.Logic.Basic

namespace NexusBs.Sndcp

inductive SwmiSndcpState where
  | idle | standby | ready
deriving DecidableEq

structure SwmiSndcpTimers where
  standby : Bool := false
  ready : Bool := false
  contextReady : Bool := false

inductive SwmiSndcpEvent where
  | pdpContextActivated | pdpContextDeactivated | serviceUserDataRequest
  | dataTransmitRequestReceived | packetDataTransferred | readyTimerExpired | endOfDataReceived
  | reconnectReceived

inductive SwmiSndcpAction where
  | startStandbyTimer | stopStandbyTimer | startReadyTimer | restartReadyTimer | stopReadyTimer
  | startContextReadyTimers | restartContextReadyTimers | stopContextReadyTimers
  | deleteAllPdpContexts | transmitDataTransmitRequest | transmitDataTransmitResponseAccept
  | transmitEndOfData
deriving DecidableEq

structure SwmiSndcpTransition where
  (previousState newState : SwmiSndcpState)
  actions : List SwmiSndcpAction

inductive SwmiSndcpStateError where
  | invalidEvent (state : SwmiSndcpState) (event : SwmiSndcpEvent)
  | noActivePdpContext
  | swmiStillTransmittingTlSdu

structure SwmiSndcpStateMachine where
  state : SwmiSndcpState := .idle
  activePdpContexts : Nat := 0
  timers : SwmiSndcpTimers := {}

instance : Inhabited SwmiSndcpStateMachine := ⟨{}⟩

namespace SwmiSndcpStateMachine

/-- A machine after an event, with what it tells the manager; an event that is refused changes
nothing. -/
abbrev Outcome := Except SwmiSndcpStateError (SwmiSndcpStateMachine × SwmiSndcpTransition)

section

variable (m : SwmiSndcpStateMachine)

def enterIdle : SwmiSndcpStateMachine :=
  { m with state := .idle, timers := {} }

def enterStandbyFromIdle : SwmiSndcpStateMachine :=
  { m with state := .standby, timers := { standby := true } }

def enterStandbyFromReady : SwmiSndcpStateMachine :=
  { m with state := .standby, timers := { standby := true } }

def enterReady : SwmiSndcpStateMachine :=
  { m with state := .ready, timers := { ready := true, contextReady := true } }

end

/-- The machine `m'` that `m` has become, and the actions on the way. -/
def transition (m m' : SwmiSndcpStateMachine) (actions : List SwmiSndcpAction) : Outcome :=
  .ok (m', ⟨m.state, m'.state, actions⟩)

def activatePdpContext (m : SwmiSndcpStateMachine) : Outcome :=
  if m.activePdpContexts = 0 then
    if m.state ≠ .idle then .error (.invalidEvent m.state .pdpContextActivated)
    else m.transition { m with activePdpContexts := 1 }.enterStandbyFromIdle [.startStandbyTimer]
  else m.transition { m with activePdpContexts := m.activePdpContexts + 1 } []

def deactivatePdpContext (m : SwmiSndcpStateMachine) : Outcome :=
  if m.activePdpContexts = 0 then .error .noActivePdpContext
  else if m.activePdpContexts > 1 then
    m.transition { m with activePdpContexts := m.activePdpContexts - 1 } []
  else if m.state ≠ .standby then .error (.invalidEvent m.state .pdpContextDeactivated)
  else m.transition { m with activePdpContexts := 0 }.enterIdle [.stopStandbyTimer]

def deregisterMs (m : SwmiSndcpStateMachine) : Outcome :=
  let actions : List SwmiSndcpAction :=
    match m.state with
    | .idle => []
    | .standby => [.stopStandbyTimer, .deleteAllPdpContexts]
    | .ready => [.stopReadyTimer, .stopContextReadyTimers, .deleteAllPdpContexts]
  m.transition { m with activePdpContexts := 0 }.enterIdle actions

def serviceUserDataRequest (m : SwmiSndcpStateMachine) : Outcome :=
  if m.activePdpContexts = 0 then .error .noActivePdpContext
  else if m.state ≠ .standby then .error (.invalidEvent m.state .serviceUserDataRequest)
  else m.transition m.enterReady
    [.transmitDataTransmitRequest, .stopStandbyTimer, .startReadyTimer, .startContextReadyTimers]

def dataTransmitRequestReceived (m : SwmiSndcpStateMachine) : Outcome :=
  if m.activePdpContexts = 0 then .error .noActivePdpContext
  else if m.state ≠ .standby then .error (.invalidEvent m.state .dataTransmitRequestReceived)
  else m.transition m.enterReady
    [.transmitDataTransmitResponseAccept, .stopStandbyTimer, .startReadyTimer,
      .startContextReadyTimers]

def packetDataTransferred (m : SwmiSndcpStateMachine) : Outcome :=
  if m.activePdpContexts = 0 then .error .noActivePdpContext
  else if m.state ≠ .ready then .error (.invalidEvent m.state .packetDataTransferred)
  else m.transition { m with timers := { m.timers with ready := true, contextReady := true } }
    [.restartReadyTimer, .restartContextReadyTimers]

def readyTimerExpired (m : SwmiSndcpStateMachine) : Outcome :=
  if m.state ≠ .ready then .error (.invalidEvent m.state .readyTimerExpired)
  else m.transition m.enterStandbyFromReady
    [.transmitEndOfData, .stopReadyTimer, .stopContextReadyTimers, .startStandbyTimer]

def endOfDataReceived (immediateServiceChange swmiTransmittingTlSdu : Bool)
    (m : SwmiSndcpStateMachine) : Outcome :=
  if m.state ≠ .ready then .error (.invalidEvent m.state .endOfDataReceived)
  else if !immediateServiceChange && swmiTransmittingTlSdu then .error .swmiStillTransmittingTlSdu
  else m.transition m.enterStandbyFromReady
    ((if immediateServiceChange then [] else [.transmitEndOfData]) ++
      [.stopReadyTimer, .stopContextReadyTimers, .startStandbyTimer])

def reconnectReceived (m : SwmiSndcpStateMachine) : Outcome :=
  if m.state ≠ .ready then .error (.invalidEvent m.state .reconnectReceived)
  else m.transition m.enterStandbyFromReady
    [.stopReadyTimer, .stopContextReadyTimers, .startStandbyTimer]

def reconnectWithoutDataReceived (m : SwmiSndcpStateMachine) : Outcome :=
  if m.activePdpContexts = 0 then .error .noActivePdpContext
  else if m.state = .ready then m.reconnectReceived
  else if m.state ≠ .standby then .error (.invalidEvent m.state .reconnectReceived)
  else m.transition { m with timers := { m.timers with standby := true } } [.startStandbyTimer]

/-- An event that leaves the number of contexts alone and never ends in Idle. -/
def Transfers (event : SwmiSndcpStateMachine → Outcome) : Prop :=
  ∀ m m' t, event m = .ok (m', t) → m'.activePdpContexts = m.activePdpContexts ∧ m'.state ≠ .idle

theorem transfers_serviceUserDataRequest : Transfers serviceUserDataRequest := by
  intro m m' t h
  unfold serviceUserDataRequest at h
  split at h
  · cases h
  split at h
  · cases h
  cases h
  exact ⟨rfl, by simp [enterReady]⟩

theorem transfers_dataTransmitRequestReceived : Transfers dataTransmitRequestReceived := by
  intro m m' t h
  unfold dataTransmitRequestReceived at h
  split at h
  · cases h
  split at h
  · cases h
  cases h
  exact ⟨rfl, by simp [enterReady]⟩

theorem transfers_packetDataTransferred : Transfers packetDataTransferred := by
  intro m m' t h
  unfold packetDataTransferred at h
  split at h
  · cases h
  split at h
  · cases h
  rename_i hready
  cases h
  refine ⟨rfl, ?_⟩
  simp only [ne_eq, not_not] at hready
  simp [hready]

theorem transfers_readyTimerExpired : Transfers readyTimerExpired := by
  intro m m' t h
  unfold readyTimerExpired at h
  split at h
  · cases h
  cases h
  exact ⟨rfl, by simp [enterStandbyFromReady]⟩

theorem transfers_endOfDataReceived : Transfers (endOfDataReceived i w) := by
  intro m m' t h
  unfold endOfDataReceived at h
  split at h
  · cases h
  split at h
  · cases h
  cases h
  exact ⟨rfl, by simp [enterStandbyFromReady]⟩

theorem transfers_reconnectReceived : Transfers reconnectReceived := by
  intro m m' t h
  unfold reconnectReceived at h
  split at h
  · cases h
  cases h
  exact ⟨rfl, by simp [enterStandbyFromReady]⟩

theorem transfers_reconnectWithoutDataReceived : Transfers reconnectWithoutDataReceived := by
  intro m m' t h
  unfold reconnectWithoutDataReceived at h
  split at h
  · cases h
  split at h
  · exact transfers_reconnectReceived m m' t h
  split at h
  · cases h
  rename_i hstandby
  cases h
  refine ⟨rfl, ?_⟩
  simp only [ne_eq, not_not] at hstandby
  simp [hstandby]

theorem activatePdpContext_ok {m : SwmiSndcpStateMachine}
    (h : m.activePdpContexts = 0 ↔ m.state = .idle) :
    ∃ m' t, m.activatePdpContext = .ok (m', t) ∧
      m'.activePdpContexts = m.activePdpContexts + 1 ∧ m'.state ≠ .idle := by
  unfold activatePdpContext
  by_cases h0 : m.activePdpContexts = 0
  · rw [if_pos h0, if_neg (not_not.mpr (h.mp h0))]
    exact ⟨_, _, rfl, by simp [enterStandbyFromIdle, h0], by simp [enterStandbyFromIdle]⟩
  · rw [if_neg h0]
    exact ⟨_, _, rfl, rfl, fun hi => h0 (h.mpr hi)⟩

/-- A context less, as long as another is left. -/
theorem deactivatePdpContext_shared {m : SwmiSndcpStateMachine} (h : 1 < m.activePdpContexts) :
    ∃ t, m.deactivatePdpContext =
      .ok ({ m with activePdpContexts := m.activePdpContexts - 1 }, t) := by
  unfold deactivatePdpContext
  rw [if_neg (by omega), if_pos h]
  exact ⟨_, rfl⟩

/-- The last context goes only in Standby. -/
theorem deactivatePdpContext_last {m : SwmiSndcpStateMachine} (h : m.activePdpContexts = 1)
    (hs : m.state = .standby) :
    ∃ t, m.deactivatePdpContext = .ok ({ m with activePdpContexts := 0 }.enterIdle, t) := by
  unfold deactivatePdpContext
  rw [if_neg (by omega), if_neg (by omega), if_neg (by simp [hs])]
  exact ⟨_, rfl⟩

end SwmiSndcpStateMachine

end NexusBs.Sndcp
