import NexusBs.Cc.Network
import NexusBs.Cc.GroupFrame

namespace NexusBs.Cc
open Lib Relation

/-- What may happen to an individual call while it lasts; `cached` says whether its set-up is at
hand. -/
inductive CallStep (cached : Prop) : IndividualCall → IndividualCall → Prop where
  | bound {call : IndividualCall} (ctx : CalledContext) :
      CallStep cached call (call.bindCalledContext ctx)
  | alerted {call : IndividualCall} (now : TdmaTime) (setupTimeout : CallTimeoutSetupPhase)
      (h : validateIndividualTransition call.state .alert = true) :
      CallStep cached call (call.markAlerted now setupTimeout)
  | simplexOffer {call : IndividualCall} (callTimeout : CallTimeout) :
      CallStep cached call (call.toSimplex callTimeout)
  | connectRequested {call : IndividualCall} (info : NetworkCircuitCall)
      (hb : call.callingOverBrew = true) (hc : call.calledContext.isSome = true) :
      CallStep cached call
        { call with
          connectRequestSent := true
          networkCall := some info
          state := .incomingSetupWaitNetworkAck }
  | calledConnectAck {call : IndividualCall} (hb : call.callingOverBrew = false) (hc : cached) :
      CallStep cached call call.markCalledConnectAckPending
  | callerConnectAck {call : IndividualCall} :
      CallStep cached call call.markCallerConnectAckPending
  | activated {call : IndividualCall} (now : TdmaTime) : CallStep cached call (call.activate now)
  | networkCall {call : IndividualCall} (info : NetworkCircuitCall) :
      CallStep cached call { call with networkCall := some info }
  | floor {call : IndividualCall} (holder last : Option Nat) (queued : Option TetraAddress) :
      CallStep cached call
        { call with floorHolder := holder, lastFloorHolder := last, queuedTxDemand := queued }

variable {call : IndividualCall}

theorem CallStep.mono (hpq : p → q) (h : CallStep p call call') : CallStep q call call' := by
  cases h with
  | bound ctx => exact .bound ctx
  | alerted now setupTimeout h => exact .alerted now setupTimeout h
  | simplexOffer callTimeout => exact .simplexOffer callTimeout
  | connectRequested info hb hc => exact .connectRequested info hb hc
  | calledConnectAck hb hc => exact .calledConnectAck hb (hpq hc)
  | callerConnectAck => exact .callerConnectAck
  | activated now => exact .activated now
  | networkCall info => exact .networkCall info
  | floor holder last queued => exact .floor holder last queued

theorem CallStep.setFloorHolder (issi : Nat) : CallStep p call (call.setFloorHolder issi) :=
  .floor _ _ _

theorem CallStep.clearFloorHolder : CallStep p call call.clearFloorHolder :=
  .floor _ _ _

theorem CallStep.queueTxDemand (requester : TetraAddress) :
    CallStep p call (call.queueTxDemand requester).2 := by
  unfold IndividualCall.queueTxDemand
  split
  · exact .floor call.floorHolder call.lastFloorHolder call.queuedTxDemand
  split
  · split
    · exact .floor call.floorHolder call.lastFloorHolder call.queuedTxDemand
    · exact .floor call.floorHolder call.lastFloorHolder call.queuedTxDemand
  · exact .floor _ _ _

namespace IndividualCall

variable (call : IndividualCall)

@[simp] theorem state_bindCalledContext : (call.bindCalledContext ctx).state = call.state := by
  unfold bindCalledContext
  split <;> rfl

@[simp] theorem callingOverBrew_bindCalledContext :
    (call.bindCalledContext ctx).callingOverBrew = call.callingOverBrew := by
  unfold bindCalledContext
  split <;> rfl

@[simp] theorem calledContext_bindCalledContext_isSome :
    (call.bindCalledContext ctx).calledContext.isSome = true := by
  unfold bindCalledContext
  split
  · rfl
  · next h => exact Option.isSome_iff_ne_none.mpr (by simpa using h)

end IndividualCall

namespace Shared

variable {s : Shared} {callId : Nat}

variable {cause : DisconnectCause} {call : IndividualCall}

theorem cachedSetups_sendFacchReleases :
    (s.sendFacchReleases callId cause legs).2.cachedSetups = s.cachedSetups := by
  induction legs generalizing s with
  | nil => rfl
  | cons leg legs ih =>
    rw [sendFacchReleases]
    exact ih

theorem cachedSetups_sendDirectIndividualReleasePdu :
    (s.sendDirectIndividualReleasePdu callId call cause targetIssi).cachedSetups =
      s.cachedSetups := by
  unfold sendDirectIndividualReleasePdu
  split
  · rfl
  split
  · split <;> rfl
  · rfl

theorem cachedSetups_sendConnectingIndividualReleasePdus :
    (s.sendConnectingIndividualReleasePdus callId call cause releaseTo).2.cachedSetups =
      s.cachedSetups := by
  have hcalling : ∀ b : Bool, (if b = true then
      s.sendDirectIndividualReleasePdu callId call cause call.callingAddr.ssi
      else s).cachedSetups = s.cachedSetups := by
    intro b
    cases b with
    | false => rfl
    | true => exact cachedSetups_sendDirectIndividualReleasePdu
  unfold sendConnectingIndividualReleasePdus
  dsimp only
  split
  · split
    · rw [cachedSetups_sendFacchReleases]
      exact hcalling _
    · rw [cachedSetups_sendDirectIndividualReleasePdu]
      exact hcalling _
  · exact hcalling _

theorem cachedSetups_sendIndividualReleasePdus :
    (s.sendIndividualReleasePdus callId call cause releaseTo).2.cachedSetups = s.cachedSetups := by
  unfold sendIndividualReleasePdus
  split
  · exact cachedSetups_sendConnectingIndividualReleasePdus
  · exact cachedSetups_sendFacchReleases

theorem cachedSetups_closeReleasedSlot :
    (s.closeReleasedSlot callId call preclosed ts).cachedSetups = s.cachedSetups := by
  unfold closeReleasedSlot
  dsimp only
  split
  · rfl
  · exact cachedSetups_closeCircuit

end Shared

namespace IndividualSide

/-- Individual calls after some handling: no call is new, each has gone through steps of its life,
what is being released was a call, nothing waits for the delivery of a D-DISCONNECT that did not,
and no set-up is newly cached. -/
structure Evolves (i i' : IndividualSide) : Prop where
  calls : Table.Within (fun k => ReflTransGen (CallStep (k ∈ i.cachedSetups))) i.individualCalls
    i'.individualCalls
  releases : ∀ k ∈ i'.pendingIndividualReleases,
    k ∈ i.pendingIndividualReleases ∨ k ∈ i.individualCalls
  deliveries : ∀ k ∈ i'.pendingIndividualDisconnectDeliveries,
    k ∈ i.pendingIndividualDisconnectDeliveries
  cached : ∀ k ∈ i'.cachedSetups, k ∈ i.cachedSetups

variable {c : Ctx} {i i' i'' : IndividualSide} {callId : Nat} {call call' : IndividualCall}

namespace Evolves

theorem of_eq (hc : i'.individualCalls = i.individualCalls)
    (hr : i'.pendingIndividualReleases = i.pendingIndividualReleases)
    (hd : i'.pendingIndividualDisconnectDeliveries = i.pendingIndividualDisconnectDeliveries)
    (hs : i'.cachedSetups = i.cachedSetups) : Evolves i i' where
  calls := .of_eq (fun _ _ => .refl) hc
  releases := fun _ hk => .inl (hr ▸ hk)
  deliveries := fun _ hk => hd ▸ hk
  cached := fun _ hk => hs ▸ hk

theorem refl (i : IndividualSide) : Evolves i i := of_eq rfl rfl rfl rfl

theorem trans (h : Evolves i i') (h' : Evolves i' i'') : Evolves i i'' where
  calls := h.calls.trans (fun _ _ _ _ hv hw => hv.trans hw)
    (h'.calls.mono (fun k v w hr =>
      ReflTransGen.mono (fun _ _ => CallStep.mono (h.cached k)) v w hr))
  releases := fun k hk => (h'.releases k hk).elim (h.releases k) (fun hc => .inr (h.calls.mem hc))
  deliveries := fun k hk => h.deliveries k (h'.deliveries k hk)
  cached := fun k hk => h.cached k (h'.cached k hk)

theorem foldl {β : Type*} {f : IndividualSide → β → IndividualSide} (h : ∀ i b, Evolves i (f i b))
    (l : List β) (i : IndividualSide) : Evolves i (l.foldl f i) :=
  List.foldlRecOn l f (refl i) (fun i' hi b _ => hi.trans (h i' b))

theorem send (msgs : List Msg) : Evolves i (i.send msgs) := of_eq rfl rfl rfl rfl

theorem setCall_steps (h : i.individualCalls.lookup callId = some call)
    (hs : ReflTransGen (CallStep (callId ∈ i.cachedSetups)) call call') :
    Evolves i (i.setCall callId call') where
  calls := .insert (fun _ _ => .refl) h hs
  releases := fun _ hk => .inl hk
  deliveries := fun _ hk => hk
  cached := fun _ hk => hk

theorem setCall (h : i.individualCalls.lookup callId = some call)
    (hs : CallStep (callId ∈ i.cachedSetups) call call') : Evolves i (i.setCall callId call') :=
  setCall_steps h (.single hs)

theorem removeCall : Evolves i (i.removeCall callId) where
  calls := .erase (fun _ _ => .refl) _ _
  releases := fun _ hk => .inl hk
  deliveries := fun _ hk => hk
  cached := fun _ hk => hk

theorem clearPending : Evolves i (i.clearPending callId) where
  calls := .refl (fun _ _ => .refl) _
  releases := fun _ hk => .inl hk
  deliveries := fun _ hk => (AList.mem_erase.mp hk).2
  cached := fun _ hk => hk

theorem releaseEchoSessionIfMatches : Evolves i (i.releaseEchoSessionIfMatches callId) :=
  of_eq rfl rfl rfl rfl

variable {cause : DisconnectCause} {issi : Nat} {peer : IndividualTailDrainLeg}

theorem completeIndividualReleaseCleanup :
    Evolves i (i.completeIndividualReleaseCleanup callId call cause preclosed notifyBrew) := by
  refine .trans ?_ releaseEchoSessionIfMatches
  refine .trans ?_ (send _)
  refine .trans ?_ clearPending
  refine .trans ?_ removeCall
  have hs : (call.timeslots.foldl (fun s ts => s.closeReleasedSlot callId call preclosed ts)
      i.toShared).cachedSetups = i.cachedSetups :=
    List.foldlRecOn (motive := fun s : Shared => s.cachedSetups = i.cachedSetups) call.timeslots _ rfl
      (fun s hs ts _ => Shared.cachedSetups_closeReleasedSlot.trans hs)
  refine ⟨.refl (fun _ _ => .refl) _, fun _ hk => .inl hk, fun _ hk => hk, fun k hk => ?_⟩
  exact hs ▸ (AList.mem_erase.mp hk).2

theorem completePendingIndividualRelease :
    Evolves i (i.completePendingIndividualRelease callId) := by
  unfold IndividualSide.completePendingIndividualRelease
  split
  · exact refl i
  refine .trans ?_ completeIndividualReleaseCleanup
  exact ⟨.refl (fun _ _ => .refl) _, fun k hk => .inl (AList.mem_erase.mp hk).2,
    fun _ hk => hk, fun _ hk => hk⟩

/-- A call that is taken from the calls may be put among the releases. -/
theorem moveToReleases (h : i.individualCalls.lookup callId = some call)
    (hs : s.cachedSetups = i.cachedSetups) :
    Evolves i { (i.clearPending callId).removeCall callId with
      toShared := s
      pendingIndividualReleases := i.pendingIndividualReleases.insert callId pending } where
  calls := .erase (fun _ _ => .refl) _ _
  releases := fun k hk => by
    obtain rfl | hk := (AList.mem_insert _).mp hk
    · exact .inr (Table.mem_of_lookup h)
    · exact .inl hk
  deliveries := fun _ hk => (AList.mem_erase.mp hk).2
  cached := fun _ hk => hs ▸ hk

theorem beginIndividualRelease :
    Evolves i (i.beginIndividualRelease c callId cause preclosed notifyBrew releaseTo) := by
  unfold IndividualSide.beginIndividualRelease
  split
  · exact refl i
  dsimp only
  split
  · exact clearPending
  rename_i call h
  split
  · have hs : (i.toShared.sendIndividualReleasePdus callId call cause
        releaseTo).2.cachedSetups = i.cachedSetups :=
      Shared.cachedSetups_sendIndividualReleasePdus
    have h : i.individualCalls.lookup callId = some call := h
    split
    · refine .trans ?_ completePendingIndividualRelease
      exact moveToReleases h hs
    · exact moveToReleases h hs
  · refine .trans ?_ completeIndividualReleaseCleanup
    refine .trans ?_ (send _)
    exact .trans clearPending removeCall

theorem releaseIndividualCall : Evolves i (i.releaseIndividualCall c callId cause) :=
  beginIndividualRelease

theorem releaseIndividualCallWithoutBrewEcho :
    Evolves i (i.releaseIndividualCallWithoutBrewEcho c callId cause) :=
  beginIndividualRelease

theorem releaseIndividualCallToIssi :
    Evolves i (i.releaseIndividualCallToIssi c callId cause issi) :=
  beginIndividualRelease

theorem drainPendingIndividualReleases : Evolves i (i.drainPendingIndividualReleases c) :=
  foldl (fun _ _ => completePendingIndividualRelease) _ i

/-! Disconnection. -/

theorem completeIndividualDisconnectIfReady :
    Evolves i (i.completeIndividualDisconnectIfReady c callId) := by
  unfold IndividualSide.completeIndividualDisconnectIfReady
  split
  · exact refl i
  split
  · dsimp only
    split
    · exact of_eq rfl rfl rfl rfl
    refine .trans ?_ completeIndividualReleaseCleanup
    refine .trans ?_ removeCall
    exact of_eq rfl rfl rfl rfl
  · exact refl i

theorem drainPendingIndividualDisconnectReleaseAcks :
    Evolves i (i.drainPendingIndividualDisconnectReleaseAcks c) :=
  foldl (fun _ _ => completeIndividualDisconnectIfReady) _ i

theorem sendIndividualDisconnectReleaseAck :
    Evolves i (i.sendIndividualDisconnectReleaseAck c callId call issi cause) := by
  unfold IndividualSide.sendIndividualDisconnectReleaseAck
  split
  · exact refl i
  · refine .trans ?_ completeIndividualDisconnectIfReady
    exact of_eq rfl rfl rfl Shared.cachedSetups_sendFacchReleases

theorem sendIndividualDisconnectPeerRelease :
    Evolves i (i.sendIndividualDisconnectPeerRelease c callId call cause issi) := by
  unfold IndividualSide.sendIndividualDisconnectPeerRelease
  dsimp only
  split
  · refine .trans ?_ completeIndividualDisconnectIfReady
    exact of_eq rfl rfl rfl Shared.cachedSetups_sendFacchReleases
  · refine .trans ?_ beginIndividualRelease
    exact of_eq rfl rfl rfl Shared.cachedSetups_sendFacchReleases

theorem completeIndividualDisconnectPeerRelease :
    Evolves i (i.completeIndividualDisconnectPeerRelease c callId cause issi) := by
  unfold IndividualSide.completeIndividualDisconnectPeerRelease
  split
  · refine .trans ?_ completeIndividualDisconnectIfReady
    exact of_eq rfl rfl rfl rfl
  · exact releaseIndividualCallToIssi

theorem beginIndividualDisconnectTailDrain :
    Evolves i (i.beginIndividualDisconnectTailDrain c callId sender issi cause) := by
  unfold IndividualSide.beginIndividualDisconnectTailDrain
  split
  · exact refl i
  · exact of_eq rfl rfl rfl rfl

theorem drainIndividualDisconnectTailDrain :
    Evolves i (i.drainIndividualDisconnectTailDrain c callId) := by
  unfold IndividualSide.drainIndividualDisconnectTailDrain
  split
  · exact refl i
  dsimp only
  split
  · exact of_eq rfl rfl rfl rfl
  split
  · exact of_eq rfl rfl rfl rfl
  split
  · exact of_eq rfl rfl rfl rfl
  · refine .trans ?_ sendIndividualDisconnectPeerRelease
    exact of_eq rfl rfl rfl rfl

theorem drainPendingIndividualDisconnectTailDrains :
    Evolves i (i.drainPendingIndividualDisconnectTailDrains c) :=
  foldl (fun _ _ => drainIndividualDisconnectTailDrain) _ i

/-- Where nothing waits for the delivery of a D-DISCONNECT there is nothing to do. -/
theorem drainPendingIndividualDisconnectDeliveries
    (h : ∀ k, k ∉ i.pendingIndividualDisconnectDeliveries) :
    Evolves i (i.drainPendingIndividualDisconnectDeliveries c) := by
  have hnil : ∀ p, i.pendingIndividualDisconnectDeliveries.select
      (c.order .pendingIndividualDisconnectDeliveries) p = [] := by
    intro p
    refine List.eq_nil_iff_forall_not_mem.mpr (fun k hk => ?_)
    obtain ⟨pending, hp, -⟩ := Table.mem_select.mp hk
    exact h k (Table.mem_of_lookup hp)
  rw [IndividualSide.drainPendingIndividualDisconnectDeliveries, hnil, List.foldl_nil]
  exact refl i

theorem completeIndividualDisconnectPeerClearWithoutDownlink :
    Evolves i (i.completeIndividualDisconnectPeerClearWithoutDownlink c callId cause) := by
  unfold IndividualSide.completeIndividualDisconnectPeerClearWithoutDownlink
  split
  · refine .trans ?_ completeIndividualDisconnectIfReady
    exact of_eq rfl rfl rfl rfl
  split
  · exact refl i
  · exact .trans removeCall completeIndividualReleaseCleanup

theorem checkIndividualDisconnectPendingTimeout :
    Evolves i (i.checkIndividualDisconnectPendingTimeout c) := by
  refine foldl (fun i' callId => ?_) _ i
  split
  · exact completeIndividualDisconnectPeerClearWithoutDownlink
  · exact refl i'

/-! The floor. -/

theorem beginIndividualTxCeasedTailDrain :
    Evolves i (i.beginIndividualTxCeasedTailDrain c callId sender peer notifyBrew) := by
  unfold IndividualSide.beginIndividualTxCeasedTailDrain
  split
  · exact refl i
  · exact of_eq rfl rfl rfl rfl

theorem setCall_cancelMatching (h : i.individualCalls.lookup callId = some call)
    (hs : CallStep (callId ∈ i.cachedSetups) call call') :
    Evolves i ((i.cancelMatchingIndividualTxCeasedTailDrain callId issi).setCall callId call') := by
  unfold IndividualSide.cancelMatchingIndividualTxCeasedTailDrain
  split
  · have he : Evolves i { i with
        pendingIndividualTxCeasedTailDrains :=
          i.pendingIndividualTxCeasedTailDrains.erase callId } := of_eq rfl rfl rfl rfl
    exact he.trans (setCall h hs)
  · exact setCall h hs

theorem handOverFloor (h : i.individualCalls.lookup callId = some call) :
    Evolves i (i.handOverFloor callId call requester sender peer toBrew) := by
  refine .trans ?_ (send _)
  exact setCall h (.floor _ _ _)

theorem drainIndividualTxCeasedTailDrain :
    Evolves i (i.drainIndividualTxCeasedTailDrain callId) := by
  unfold IndividualSide.drainIndividualTxCeasedTailDrain
  split
  · exact refl i
  rename_i pending _
  have he : Evolves i { i with
      pendingIndividualTxCeasedTailDrains :=
        i.pendingIndividualTxCeasedTailDrains.erase callId } := of_eq rfl rfl rfl rfl
  refine he.trans ?_
  unfold IndividualSide.completeIndividualTxCeasedTailDrain
  split
  · exact refl _
  rename_i h
  split
  · exact refl _
  split
  · exact refl _
  split
  · exact handOverFloor h
  · refine .trans ?_ (send _)
    exact setCall h .clearFloorHolder

theorem drainPendingIndividualTxCeasedTailDrains :
    Evolves i (i.drainPendingIndividualTxCeasedTailDrains c) :=
  foldl (fun _ _ => drainIndividualTxCeasedTailDrain) _ i

section

variable (h : i.individualCalls.lookup callId = some call)
include h

theorem parrotTxCeased : Evolves i (i.parrotTxCeased c callId call leg) := by
  unfold IndividualSide.parrotTxCeased
  split
  · exact refl i
  split
  · refine .trans ?_ releaseIndividualCallToIssi
    exact of_eq rfl rfl rfl rfl
  split
  · exact refl i
  rename_i session _
  have hp : Evolves i { i with parrotSession := some session } := of_eq rfl rfl rfl rfl
  refine .trans ?_ (send _)
  refine hp.trans (setCall ?_ (.setFloorHolder parrotIssi))
  exact h

theorem fsmOnUTxCeased : Evolves i (i.fsmOnUTxCeased c callId call sender) := by
  unfold IndividualSide.fsmOnUTxCeased
  split
  · exact refl i
  split
  · exact refl i
  split
  · exact refl i
  split
  · exact refl i
  dsimp only
  split
  · split
    · exact setCall h (.floor _ _ _)
    · exact refl i
  split
  · exact parrotTxCeased h
  split
  · exact handOverFloor h
  · exact beginIndividualTxCeasedTailDrain

theorem individualTxDemandWhileHeld : Evolves i
      (i.individualTxDemandWhileHeld c callId call holderIssi requester peer priority) := by
  unfold IndividualSide.individualTxDemandWhileHeld
  split
  · refine .trans ?_ (send _)
    exact setCall_cancelMatching h (.floor _ _ _)
  · refine .trans ?_ (send _)
    exact setCall h (.queueTxDemand _)

theorem fsmOnUTxDemand : Evolves i (i.fsmOnUTxDemand c callId call ul priority) := by
  unfold IndividualSide.fsmOnUTxDemand
  split
  · exact refl i
  split
  · exact refl i
  split
  · exact send _
  split
  · exact refl i
  dsimp only
  split
  · exact individualTxDemandWhileHeld h
  · refine .trans ?_ (send _)
    exact setCall_cancelMatching h (.setFloorHolder _)

end

theorem fsmOnUInfo : Evolves i (i.fsmOnUInfo callId digits) := by
  unfold IndividualSide.fsmOnUInfo
  split
  · exact refl i
  split
  · exact refl i
  split
  · exact send _
  · exact refl i

theorem fsmOnURelease : Evolves i (i.fsmOnURelease c callId call ul) := by
  unfold IndividualSide.fsmOnURelease
  split
  · refine .trans ?_ completeIndividualDisconnectPeerRelease
    exact ⟨.refl (fun _ _ => .refl) _, fun _ hk => .inl hk, fun _ hk => (AList.mem_erase.mp hk).2,
      fun _ hk => hk⟩
  split
  · exact completeIndividualDisconnectPeerRelease
  split
  · exact refl i
  split
  · exact send _
  · exact refl i

theorem fsmOnUDisconnect : Evolves i (i.fsmOnUDisconnect c callId call ul cause) := by
  unfold IndividualSide.fsmOnUDisconnect
  dsimp only
  split
  · exact refl i
  split
  · exact send _
  split
  · split
    · exact refl i
    split
    · exact .trans sendIndividualDisconnectReleaseAck beginIndividualDisconnectTailDrain
    · exact .trans sendIndividualDisconnectReleaseAck sendIndividualDisconnectPeerRelease
  · exact releaseIndividualCall

/-! Timers and services. -/

theorem individualUlInactivity (h : i.individualCalls.lookup callId = some call) :
    Evolves i (i.individualUlInactivity c callId call) := by
  unfold IndividualSide.individualUlInactivity
  split
  · exact parrotTxCeased h
  split
  · exact refl i
  dsimp only
  split
  · exact handOverFloor h
  · refine .trans ?_ (send _)
    exact setCall h .clearFloorHolder

theorem checkIndividualCallTimeoutExpiry : Evolves i (i.checkIndividualCallTimeoutExpiry c) :=
  foldl (fun _ _ => releaseIndividualCall) _ i

theorem retryIndividualDSetup : Evolves i (i.retryIndividualDSetup c callId) := by
  unfold IndividualSide.retryIndividualDSetup
  split
  · exact refl i
  rename_i cached h
  split
  · exact refl i
  refine ⟨.refl (fun _ _ => .refl) _, fun _ hk => .inl hk, fun _ hk => hk, fun k hk => ?_⟩
  obtain rfl | hk := (AList.mem_insert _).mp hk
  · exact Table.mem_of_lookup h
  · exact hk

theorem checkIndividualSetupTimeout : Evolves i (i.checkIndividualSetupTimeout c) := by
  refine .trans ?_ (foldl (fun _ _ => retryIndividualDSetup) _ _)
  exact foldl (fun _ _ => releaseIndividualCall) _ i

theorem handleEchoUlFrame : Evolves i (i.handleEchoUlFrame ts data) := by
  unfold IndividualSide.handleEchoUlFrame
  split
  · exact refl i
  split
  · exact refl i
  · exact of_eq rfl rfl rfl rfl

theorem handleParrotUlFrame : Evolves i (i.handleParrotUlFrame ts frame).2 := by
  unfold IndividualSide.handleParrotUlFrame
  split
  · exact refl i
  split
  · exact refl i
  · exact of_eq rfl rfl rfl rfl

theorem driveParrotSession : Evolves i (i.driveParrotSession c) := by
  unfold IndividualSide.driveParrotSession
  split
  · exact refl i
  dsimp only
  split
  · refine .trans ?_ releaseIndividualCallToIssi
    exact of_eq rfl rfl rfl rfl
  · exact of_eq rfl rfl rfl rfl

end Evolves
end IndividualSide
end NexusBs.Cc
