import NexusBs.Cmce.CmceBs
import NexusBs.Sds.Booked

namespace NexusBs.Cmce
open Lib Cc Sds SdsBs

namespace CmceBs

variable {env : Env} {s s' : CmceBs}

/-! What of CMCE touches the messages for one radio. -/

theorem kickMs_sds : (s.kickMs env issi).sds = s.sds := rfl

theorem kickAll_sds : (s.kickAll env).sds = s.sds := by
  unfold kickAll
  exact List.foldlRecOn (motive := fun t : CmceBs => t.sds = s.sds) _ _ rfl
    (fun t ht issi _ => kickMs_sds.trans ht)

theorem doPendingActions_sds :
    (s.doPendingActions env).sds = { s.sds with pendingActions := [] } := by
  unfold doPendingActions
  refine List.foldlRecOn
    (motive := fun t : CmceBs => t.sds = { s.sds with pendingActions := [] }) _ _ rfl ?_
  intro t ht action _
  cases action with
  | kickAll => exact kickAll_sds.trans ht

theorem doPendingActions_same : s.sds.SameAccounts (s.doPendingActions env).sds := by
  rw [doPendingActions_sds]
  exact ⟨rfl, rfl, List.Subset.refl _⟩

theorem cleared_same : s.sds.SameAccounts s.cleared.sds :=
  ⟨rfl, rfl, List.Subset.refl _⟩

theorem doControlCommand_kickMs_sds : (s.doControlCommand env (.kickMs issi)).sds = s.sds := by
  unfold doControlCommand
  dsimp only
  split <;> rfl

/-- The message that a command sends. -/
def commandRoute (s : CmceBs) : ControlCommand → Option Delivery
  | .sds command => (s.sds.commandDelivery s.sdsCtx command).1
  | .kickMs _ => none

/-- The message that an event other than a tick brings. -/
def route (s : CmceBs) : CmceEvent → Option Delivery
  | .uSdsData ul pdu => (s.sdsCtx.rfRoute ul.address pdu).delivery
  | .brewSds sds => s.sdsCtx.brewRoute sds
  | _ => none

theorem doControlCommand_handles :
    s.sds.Handles s.sdsCtx.busy (s.commandRoute command) (s.doControlCommand env command).sds := by
  cases command with
  | sds => exact rxCommand_handles
  | kickMs =>
    rw [doControlCommand_kickMs_sds]
    exact .of_aside (.refl _)

theorem handle_handles (h : ∀ dltime commands, event ≠ .tick dltime commands) :
    s.sds.Handles s.sdsCtx.busy (s.route event) (s.handle env event).sds := by
  cases event with
  | cc event => cases event <;> exact .of_aside (.refl _)
  | uSdsData => exact routeRfDeliver_handles
  | uStatus => exact .of_aside routeStatusDeliver_same
  | brewSds => exact rxSdsFromBrew_handles
  | brewStatus => exact .of_aside (routeStatusFromControlFields_same ..)
  | tick dltime commands => exact absurd rfl (h dltime commands)
  | wxChanged => exact .of_aside (.refl _)

/-! The order, where every message comes in time. -/

/-- The message of a command is for a radio that is busy, or for which nothing is held. -/
def TimelyCommand (s : CmceBs) (command : ControlCommand) : Prop :=
  ∀ d ∈ s.commandRoute command, SdsBs.Timely s.sdsCtx.busy s.sds d

/-- Every message of an event is for a radio that is busy, or for which nothing is held when the
message comes; commands are looked at one after the other. -/
def TimelyEvent (env : Env) (s : CmceBs) : CmceEvent → Prop
  | .tick dltime commands =>
    Along (fun s command => some (s.doControlCommand env command)) TimelyCommand
      (s.tickCalls env dltime) commands
  | event => ∀ d ∈ s.route event, SdsBs.Timely s.sdsCtx.busy s.sds d

/-- No message comes for a radio that has left its call while messages for it are still held. -/
def Timely (s : CmceBs) (input : Env × CmceEvent) : Prop :=
  s.cleared.TimelyEvent (input.1.knows s.cc.nextReporter) input.2

instance (s : CmceBs) (command : ControlCommand) : Decidable (s.TimelyCommand command) := by
  unfold TimelyCommand
  infer_instance

instance (env : Env) (s : CmceBs) (event : CmceEvent) : Decidable (s.TimelyEvent env event) := by
  cases event <;> unfold TimelyEvent <;> infer_instance

instance (s : CmceBs) (input : Env × CmceEvent) : Decidable (s.Timely input) := by
  unfold Timely
  infer_instance

theorem commands_sound (h : s.sds.Sound p) (ht : p →
      Along (fun s command => some (s.doControlCommand env command)) TimelyCommand s commands) :
    (commands.foldl (doControlCommand env) s).sds.Sound p := by
  induction commands generalizing s with
  | nil => exact h
  | cons command commands ih =>
    exact ih (h.handles doControlCommand_handles (fun hp => (ht hp).1)) (fun hp => (ht hp).2 _ rfl)

theorem handle_sound (h : s.sds.Sound p) (ht : p → s.TimelyEvent env event) :
    (s.handle env event).sds.Sound p := by
  cases event with
  | tick dltime commands =>
    have hc := @commands_sound env (s.tickCalls env dltime) p commands h ht
    exact (hc.of_same doPendingActions_same).flush _
  | _ => exact h.handles (handle_handles nofun) ht

variable {input : Env × CmceEvent}

theorem step_eq (h : s.step input = some s') :
    s' = s.cleared.handle (input.1.knows s.cc.nextReporter) input.2 := by
  unfold step at h
  dsimp only at h
  split at h
  · exact (Option.some.inj h).symm
  · cases h

/-! What is put on the queue. -/

/-- The messages for one radio that are put on the queue are for radios in no private call. -/
def SparesBusy (s s' : CmceBs) : Prop := s.sds.Books s.cc.busyIndividualIssis s'.sds

/-- At every part of an event, no message is put on the queue for a radio that is in a private call
at that moment. -/
def EventSparesBusy (env : Env) (s : CmceBs) : CmceEvent → Prop
  | .tick dltime commands =>
    let calls := s.tickCalls env dltime
    let commanded := commands.foldl (doControlCommand env) calls
    let acted := commanded.doPendingActions env
    SparesBusy s calls ∧
      Along (fun s command => some (s.doControlCommand env command))
        (fun s command => SparesBusy s (s.doControlCommand env command)) calls commands ∧
      SparesBusy commanded acted ∧ SparesBusy acted acted.flushDeferred
  | event => SparesBusy s (s.handle env event)

theorem doControlCommand_spares : SparesBusy s (s.doControlCommand env command) :=
  doControlCommand_handles.books

theorem doPendingActions_spares : SparesBusy s (s.doPendingActions env) := by
  unfold SparesBusy
  rw [doPendingActions_sds]
  exact .of_same rfl rfl

theorem handle_spares : EventSparesBusy env s event := by
  cases event with
  | tick dltime commands =>
    exact ⟨.refl _, Along.of_run (fun _ _ _ _ _ _ => doControlCommand_spares),
      doPendingActions_spares, flushDeferredIndividualSds_books ..⟩
  | _ => exact Handles.books (handle_handles nofun)

theorem commands_books (commands : List ControlCommand) (s : CmceBs) :
    s.sds.Books [] (commands.foldl (doControlCommand env) s).sds := by
  induction commands generalizing s with
  | nil => exact .refl _
  | cons command commands ih => exact doControlCommand_spares.weaken.trans (ih _)

/-- The parts of an event book together what the event books. -/
theorem handle_books : s.sds.Books [] (s.handle env event).sds := by
  have h := @handle_spares env s event
  cases event with
  | tick dltime commands =>
    obtain ⟨hcalls, -, hacted, hflushed⟩ := h
    exact hcalls.weaken.trans ((commands_books ..).trans (hacted.weaken.trans hflushed.weaken))
  | cc | uSdsData | uStatus | brewSds | brewStatus | wxChanged => exact Books.weaken h

/-- The messages for one radio that a step sends are those that its accounts gain. -/
theorem step_books (h : s.step input = some s') :
    ∃ new, s'.sds.ledger.released = s.sds.ledger.released ++ new ∧
      s'.sds.sent.filter (·.isIndividual) = new.map (·.msg) := by
  obtain ⟨new, hr, hm, -⟩ := handle_books
  rw [← step_eq h] at hr hm
  exact ⟨new, hr, hm⟩

/-- The messages for one radio that are put on the queue in a run. -/
def sentInRun (s : CmceBs) : List (Env × CmceEvent) → List SdsMsg
  | [] => []
  | input :: inputs =>
    match s.step input with
    | none => []
    | some s' => s'.sds.sent.filter (·.isIndividual) ++ s'.sentInRun inputs

theorem sentInRun_eq (h : run step s inputs = some s') :
    ∃ new, s'.sds.ledger.released = s.sds.ledger.released ++ new ∧
      s.sentInRun inputs = new.map (·.msg) := by
  induction inputs generalizing s with
  | nil =>
    cases h
    exact ⟨[], by simp, rfl⟩
  | cons input inputs ih =>
    obtain ⟨t, ht, h⟩ := Option.bind_eq_some_iff.mp h
    obtain ⟨new, hr, hm⟩ := step_books ht
    obtain ⟨new', hr', hm'⟩ := ih h
    refine ⟨new ++ new', ?_, ?_⟩
    · rw [hr', hr, List.append_assoc]
    · rw [sentInRun, ht, List.map_append, ← hm, ← hm']

theorem step_sound (hs : s.sds.Sound p) (ht : p → s.Timely input) (h : s.step input = some s') :
    s'.sds.Sound p := by
  rw [step_eq h]
  exact handle_sound (hs.of_same cleared_same) ht

theorem run_sound {cc : CcBs} {control : Option SdsCommandControl} {wx : WxService}
    (ht : Along step (fun s input => p → s.Timely input) (start cc feature control wx) inputs)
    (h : run step (start cc feature control wx) inputs = some s) : s.sds.Sound p :=
  run_invariant (P := fun s => s.sds.Sound p) (fun _ _ _ hs ht h => step_sound hs ht h) sound_new ht h

/-- Two radios talk, a third one sends the called radio a short message, the caller hangs up, and
an operator's commands wait for the tick that ends the call. -/
def heldMessageInputs (commands : List ControlCommand) : List (Env × CmceEvent) :=
  [(.sample .pending, .cc (.mmUpdate ⟨2002, [], .register⟩)),
    (.sample .pending, .cc (.mmUpdate ⟨3003, [], .register⟩)),
    (.sample .pending, .cc (.uplink (.sample 1001) (.uSetup (.sample .p2p true 2002)))),
    (.sample .pending, .cc (.uplink (.sample 2002)
      (.uConnect ⟨4, false, true, none, false, false⟩))),
    (.sample .acknowledged, .tick .default []),
    (.sample .acknowledged, .tick .default []),
    (.sample .pending, .uSdsData (.sample 3003)
      ⟨⟨.ssi, none, some 2002, none, false, false⟩, .type1 1⟩),
    (.sample .pending, .cc (.uplink (.sample 1001)
      (.uDisconnect ⟨4, .userRequestedDisconnection, false, false⟩))),
    (.sample .transmitted, .tick .default commands)]

def sample : CmceBs := start (.start .sample ∅ .empty true) true none ⟨false, 0⟩

/-- The messages for one radio that leave in a run are messages that were accepted for it, and none
of those leaves twice. -/
theorem messages_leave_once {cc : CcBs} {control : Option SdsCommandControl} {wx : WxService}
    (h : run step (start cc feature control wx) inputs = some s) :
    ∃ left : List PendingIndividualSds, (left.map (·.number)).Nodup ∧
      left ⊆ s.sds.ledger.accepted ∧
      (start cc feature control wx).sentInRun inputs = left.map (·.msg) := by
  obtain ⟨left, hr, hm⟩ := sentInRun_eq h
  have hs := (run_sound (p := False) (Along.of_run (fun _ _ _ _ _ _ => False.elim)) h).books.accounted
  have hleft : left.Sublist (s.sds.ledger.released ++ s.sds.ledger.dropped ++
      s.sds.deferredIndividualSds) := by
    rw [hr]
    simp
  have hnodup : (s.sds.ledger.accepted.map (·.number)).Nodup := by
    rw [hs.numbered]
    exact List.nodup_range
  have hperm := hs.balanced
  refine ⟨left, ?_, fun m hl => hperm.mem_iff.mpr (hleft.subset hl), hm⟩
  exact ((hperm.map _).nodup_iff.mp hnodup).sublist (hleft.map _)

theorem held_message_leaves_once :
    ∃ s, ∃ left : List PendingIndividualSds, run step sample (heldMessageInputs []) = some s ∧
      left ≠ [] ∧ (left.map (·.number)).Nodup ∧
      sample.sentInRun (heldMessageInputs []) = left.map (·.msg) := by
  have hrun : (run step sample (heldMessageInputs [])).isSome = true := by decide +kernel
  have hsent : (sample.sentInRun (heldMessageInputs [])).length = 1 := by decide +kernel
  obtain ⟨s, hs⟩ := Option.isSome_iff_exists.mp hrun
  obtain ⟨left, hn, -, hm⟩ := messages_leave_once hs
  refine ⟨s, left, hs, ?_, hn, hm⟩
  rintro rfl
  rw [sample, hm] at hsent
  cases hsent

end CmceBs
end NexusBs.Cmce
