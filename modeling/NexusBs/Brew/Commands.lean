import Mathlib.Data.List.Basic

namespace NexusBs.Brew
open List

/-- Commands to the Brew worker. A UUID is a number, and the data of a circuit call, which nothing
here reads, is left open. -/
inductive BrewCommand (γ : Type) where
  | registerSubscriber (issi : Nat)
  | deregisterSubscriber (issi : Nat)
  | affiliateGroups (issi : Nat) (groups : List Nat)
  | deaffiliateGroups (issi : Nat) (groups : List Nat)
  | sendGroupTx (uuid sourceIssi destGssi priority service : Nat)
  | sendVoiceFrame (uuid lengthBits : Nat) (data : List Nat)
  | sendGroupIdle (uuid cause : Nat)
  | sendSds (uuid source destination : Nat) (data : List Nat) (lengthBits : Nat)
  | sendSdsReport (uuid status : Nat)
  | sendSetupRequest (uuid : Nat) (call : γ)
  | sendSetupAccept (uuid : Nat)
  | sendSetupReject (uuid cause : Nat)
  | sendCallAlert (uuid : Nat)
  | sendConnectRequest (uuid : Nat) (call : γ)
  | sendConnectConfirm (uuid grant permission : Nat)
  | sendSimplexGranted (uuid grant permission : Nat)
  | sendSimplexIdle (uuid grant permission : Nat)
  | sendCallRelease (uuid cause : Nat)
  | sendDtmf (uuid lengthBits : Nat) (data : List Nat)
  | sendRssiUpdate (issi rssiDbfs : Nat)
  | disconnect

variable {γ : Type}

def BrewCommand.isCritical : BrewCommand γ → Bool
  | sendVoiceFrame .. | sendRssiUpdate .. | sendDtmf .. => false
  | _ => true

def brewCommandChannelCapacity : Nat := 8192
def brewNoncriticalCommandWatermark : Nat := 256

/-- The bounded channel, with all that ever entered it. -/
structure BrewChannel (γ : Type) where
  (queue entered : List (BrewCommand γ))
  disconnected : Bool

inductive SendResult where
  | ok | full | disconnected

namespace BrewChannel

/-- The worker takes commands. -/
def receive (ch : BrewChannel γ) (n : Nat) : BrewChannel γ := { ch with queue := ch.queue.drop n }

/-- The worker may have taken some commands first. -/
def trySend (ch : BrewChannel γ) (taken : Nat) (command : BrewCommand γ) :
    SendResult × BrewChannel γ :=
  let ch := ch.receive taken
  if ch.disconnected then (.disconnected, ch)
  else if brewCommandChannelCapacity ≤ ch.queue.length then (.full, ch)
  else (.ok, { ch with queue := ch.queue ++ [command], entered := ch.entered ++ [command] })

end BrewChannel

structure BrewEntity (γ : Type) where
  channel : BrewChannel γ
  pendingCriticalCommands : List (BrewCommand γ)
  connected : Bool

namespace BrewEntity

def new : BrewEntity γ := ⟨⟨[], [], false⟩, [], false⟩

variable (e : BrewEntity γ)

def queueCriticalBrewCommand (command : BrewCommand γ) : BrewEntity γ :=
  { e with pendingCriticalCommands := e.pendingCriticalCommands ++ [command] }

/-- The command is lost. -/
def handleDisconnectedBrewCommand : BrewEntity γ := { e with connected := false }

/-- The loop over the commands that wait. Between two uses of the channel the worker takes as many
commands as the head of `work` says; what is left of `work` is returned. -/
def flushLoop : List Nat → List (BrewCommand γ) → BrewEntity γ → List Nat × BrewEntity γ
  | work, [], e => (work, { e with pendingCriticalCommands := [] })
  | work, command :: rest, e =>
    match e.channel.trySend (work.headD 0) command with
    | (.ok, ch) => flushLoop work.tail rest { e with channel := ch }
    | (.full, ch) => (work.tail, { e with channel := ch, pendingCriticalCommands := command :: rest })
    | (.disconnected, ch) => (work.tail,
        handleDisconnectedBrewCommand { e with channel := ch, pendingCriticalCommands := [] })

def flushPendingCriticalBrewCommands (work : List Nat) : List Nat × BrewEntity γ :=
  flushLoop work e.pendingCriticalCommands e

def sendOrQueueBrewCommand (work : List Nat) (command : BrewCommand γ) : BrewEntity γ :=
  if command.isCritical then
    let (work, e) := e.flushPendingCriticalBrewCommands work
    if e.pendingCriticalCommands.isEmpty then
      match e.channel.trySend (work.headD 0) command with
      | (.ok, ch) => { e with channel := ch }
      | (.full, ch) => queueCriticalBrewCommand { e with channel := ch } command
      | (.disconnected, ch) => handleDisconnectedBrewCommand { e with channel := ch }
    else e.queueCriticalBrewCommand command
  else if e.pendingCriticalCommands.isEmpty then
    -- the channel may have been emptied again between the two looks at it
    let ch := e.channel.receive (work.headD 0)
    if brewNoncriticalCommandWatermark ≤ ch.queue.length then { e with channel := ch }
    else
      match ch.trySend (work.tail.headD 0) command with
      | (.disconnected, ch) => handleDisconnectedBrewCommand { e with channel := ch }
      | (_, ch) => { e with channel := ch }
  else e

/-- What happens at the channel while it is not disconnected. -/
inductive Event (γ : Type) where
  | send (work : List Nat) (command : BrewCommand γ)
  | flush (work : List Nat)
  | receive (n : Nat)

def step : Event γ → BrewEntity γ
  | .send work command => e.sendOrQueueBrewCommand work command
  | .flush work => (e.flushPendingCriticalBrewCommands work).2
  | .receive n => { e with channel := e.channel.receive n }

def Event.issued : Event γ → List (BrewCommand γ)
  | .send _ command => [command]
  | _ => []

/-- The critical commands among those issued have entered the channel or wait, in their order. -/
structure InOrder (issued : List (BrewCommand γ)) (e : BrewEntity γ) : Prop where
  connected : e.channel.disconnected = false
  order : e.channel.entered.filter (·.isCritical) ++ e.pendingCriticalCommands =
    issued.filter (·.isCritical)

/-- Of the commands that wait the first `k` enter the channel, at least as many as it has room for,
and the others go on waiting. -/
structure Enters (e : BrewEntity γ) (waiting : List (BrewCommand γ)) (k : Nat)
    (e' : BrewEntity γ) : Prop where
  connected : e'.channel.disconnected = false
  room : min waiting.length (brewCommandChannelCapacity - e.channel.queue.length) ≤ k
  entered : e'.channel.entered = e.channel.entered ++ waiting.take k
  queue : e'.channel.queue <:+ e.channel.queue ++ waiting.take k
  pending : e'.pendingCriticalCommands = waiting.drop k

variable {e e' : BrewEntity γ} {issued : List (BrewCommand γ)} {command : BrewCommand γ}

/-- While the channel is open a command enters it, or it is full. -/
theorem trySend_cases {ch : BrewChannel γ} (h : ch.disconnected = false) (taken : Nat)
    (command : BrewCommand γ) :
    ∃ r ch', ch.trySend taken command = (r, ch') ∧ ch'.disconnected = false ∧
      (r = .ok ∧ ch'.entered = ch.entered ++ [command] ∧ ch'.queue <:+ ch.queue ++ [command] ∨
        r = .full ∧ ch'.entered = ch.entered ∧ ch'.queue <:+ ch.queue ∧
          brewCommandChannelCapacity ≤ ch'.queue.length) := by
  have hq : ch.queue.drop taken <:+ ch.queue := drop_suffix ..
  unfold BrewChannel.trySend
  dsimp only
  rw [if_neg (by simp [BrewChannel.receive, h])]
  split
  · rename_i hfull
    exact ⟨_, _, rfl, h, .inr ⟨rfl, rfl, hq, hfull⟩⟩
  · exact ⟨_, _, rfl, h, .inl ⟨rfl, rfl, (suffix_append_self_iff ..).mpr hq⟩⟩

/-- Flushing moves commands from the front of those that wait to the end of those that entered,
and stops only at a full channel. -/
theorem flushLoop_enters (work : List Nat) (pending : List (BrewCommand γ))
    (h : e.channel.disconnected = false) : ∃ k, Enters e pending k (flushLoop work pending e).2 := by
  induction pending generalizing work e with
  | nil => exact ⟨0, h, by simp, by simp [flushLoop], by simp [flushLoop], rfl⟩
  | cons command rest ih =>
    obtain ⟨r, ch, hs, hd, ⟨rfl, he, hq⟩ | ⟨rfl, he, hq, hfull⟩⟩ :=
      trySend_cases h (work.headD 0) command
    · rw [flushLoop, hs]
      obtain ⟨k, hk⟩ := ih work.tail (e := { e with channel := ch }) hd
      refine ⟨k + 1, hk.connected, ?_, by simp [hk.entered, he], ?_, hk.pending⟩
      · have hroom := hk.room
        have hlen := hq.length_le
        simp only [length_append, length_cons, length_nil] at hroom hlen ⊢
        omega
      · refine hk.queue.trans ?_
        rw [take_succ_cons, ← singleton_append, ← append_assoc]
        exact (suffix_append_self_iff ..).mpr hq
    · rw [flushLoop, hs]
      refine ⟨0, hd, ?_, by simp [he], by simpa using hq, rfl⟩
      have := hq.length_le
      omega

/-- A critical command is sent behind those that wait. -/
theorem send_enters (work : List Nat) (hc : command.isCritical = true)
    (h : e.channel.disconnected = false) :
    ∃ k, Enters e (e.pendingCriticalCommands ++ [command]) k
      (e.sendOrQueueBrewCommand work command) := by
  obtain ⟨k, hk⟩ := flushLoop_enters work e.pendingCriticalCommands h
  unfold sendOrQueueBrewCommand
  rw [if_pos hc, flushPendingCriticalBrewCommands]
  generalize flushLoop work e.pendingCriticalCommands e = r at hk ⊢
  obtain ⟨work, e'⟩ := r
  dsimp only at hk ⊢
  split
  · rename_i hempty
    have hall := drop_eq_nil_iff.mp (hk.pending.symm.trans (List.isEmpty_iff.mp hempty))
    have hin := hk.entered
    have hqueue := hk.queue
    rw [take_of_length_le hall] at hin hqueue
    obtain ⟨r, ch, hs, hd, ⟨rfl, he, hq⟩ | ⟨rfl, he, hq, hfull⟩⟩ :=
      trySend_cases hk.connected (work.headD 0) command
    · rw [hs]
      refine ⟨e.pendingCriticalCommands.length + 1, hd, ?_, ?_, ?_, ?_⟩
      · rw [length_append]
        exact Nat.min_le_left ..
      · simp [he, hin, take_of_length_le]
      · rw [take_of_length_le (by simp), ← append_assoc]
        exact hq.trans ((suffix_append_self_iff ..).mpr hqueue)
      · simpa using hempty
    · rw [hs]
      refine ⟨e.pendingCriticalCommands.length, hd, ?_, by simp [he, hin, queueCriticalBrewCommand],
        ?_, ?_⟩
      · have := (hq.trans hqueue).length_le
        rw [length_append] at this
        omega
      · simpa [queueCriticalBrewCommand] using hq.trans hqueue
      · simpa [queueCriticalBrewCommand] using hempty
  · rename_i hempty
    have hlt : k < e.pendingCriticalCommands.length := by
      simpa [hk.pending] using hempty
    have htake : (e.pendingCriticalCommands ++ [command]).take k =
        e.pendingCriticalCommands.take k := take_append_of_le_length (Nat.le_of_lt hlt)
    refine ⟨k, hk.connected, ?_, by rw [htake]; exact hk.entered, by rw [htake]; exact hk.queue, ?_⟩
    · have := hk.room
      omega
    · rw [drop_append_of_le_length (Nat.le_of_lt hlt), ← hk.pending]
      rfl

section

variable (h : InOrder issued e)
include h

theorem InOrder.critical : ∀ c ∈ e.pendingCriticalCommands, c.isCritical = true := by
  intro c hc
  have hm : c ∈ issued.filter (·.isCritical) := h.order ▸ mem_append_right _ hc
  exact (mem_filter.mp hm).2

/-- What enters is critical, so together with what waits it is what was issued, in order. -/
theorem InOrder.enters {more : List (BrewCommand γ)} (hm : ∀ c ∈ more, c.isCritical = true)
    (hk : Enters e (e.pendingCriticalCommands ++ more) k e') : InOrder (issued ++ more) e' := by
  have hcritical : ∀ c ∈ e.pendingCriticalCommands ++ more, c.isCritical = true :=
    fun c hc => (mem_append.mp hc).elim (h.critical c) (hm c)
  refine ⟨hk.connected, ?_⟩
  rw [hk.entered, hk.pending, filter_append,
    filter_eq_self.mpr (fun c hc => hcritical c (mem_of_mem_take hc)), append_assoc,
    take_append_drop, ← append_assoc, h.order, filter_append, filter_eq_self.mpr hm]

theorem InOrder.send_noncritical (hc : command.isCritical = false) :
    InOrder (issued ++ [command]) (e.sendOrQueueBrewCommand work command) := by
  have ho := h.order
  unfold sendOrQueueBrewCommand
  rw [if_neg (by simp [hc])]
  dsimp only
  split
  · split
    · exact ⟨h.connected, by simpa [BrewChannel.receive, hc] using ho⟩
    · have hcon : (e.channel.receive (work.headD 0)).disconnected = false := h.connected
      obtain ⟨r, ch, hs, hd, ⟨rfl, he, -⟩ | ⟨rfl, he, -⟩⟩ :=
        trySend_cases hcon (work.tail.headD 0) command
      · rw [hs]
        exact ⟨hd, by simpa [he, BrewChannel.receive, hc] using ho⟩
      · rw [hs]
        exact ⟨hd, by simpa [he, BrewChannel.receive, hc] using ho⟩
  · exact ⟨h.connected, by simpa [hc] using ho⟩

theorem InOrder.step (event : Event γ) : InOrder (issued ++ event.issued) (e.step event) := by
  cases event with
  | send work command =>
    cases hc : command.isCritical with
    | true =>
      obtain ⟨k, hk⟩ := send_enters work hc h.connected
      exact h.enters (by simpa [Event.issued] using hc) hk
    | false => exact h.send_noncritical hc
  | flush work =>
    obtain ⟨k, hk⟩ := flushLoop_enters work e.pendingCriticalCommands h.connected
    refine h.enters nofun (k := k) ?_
    change Enters e (e.pendingCriticalCommands ++ []) k _
    rw [append_nil]
    exact hk
  | receive => exact ⟨h.connected, by
      simpa [Event.issued, BrewEntity.step, BrewChannel.receive] using h.order⟩

end

theorem foldl_inOrder (events : List (Event γ)) (h : InOrder issued e) :
    InOrder (issued ++ events.flatMap Event.issued) (events.foldl BrewEntity.step e) := by
  induction events generalizing issued e with
  | nil => simpa using h
  | cons event events ih =>
    rw [flatMap_cons, ← append_assoc]
    exact ih (h.step event)

end BrewEntity
end NexusBs.Brew
