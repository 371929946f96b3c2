import NexusBs.Cc.CircuitIdentity
import NexusBs.Cc.GroupSetup

namespace NexusBs.Cc
open Lib Shared

namespace ActiveCall

variable (call : ActiveCall)

@[simp] theorem destGssi_grantFloor (issi : Nat) : (call.grantFloor issi).destGssi = call.destGssi :=
  rfl

@[simp] theorem destGssi_markUlInactivityRegrantIfUnused :
    call.markUlInactivityRegrantIfUnused.2.destGssi = call.destGssi := by
  unfold markUlInactivityRegrantIfUnused
  split <;> rfl

@[simp] theorem destGssi_queueTxDemandAfterCeaseTail :
    (call.queueTxDemandAfterCeaseTail requester).2.destGssi = call.destGssi := by
  unfold queueTxDemandAfterCeaseTail
  split
  · rfl
  · split <;> rfl

@[simp] theorem destGssi_queueTxDemand (requester : TetraAddress) :
    (call.queueTxDemand requester).2.destGssi = call.destGssi := by
  unfold queueTxDemand
  split
  · rfl
  · exact call.destGssi_queueTxDemandAfterCeaseTail

@[simp] theorem destGssi_takeQueuedTxDemandThrough (target : Option Nat) :
    (call.takeQueuedTxDemandThrough target).2.destGssi = call.destGssi := rfl

end ActiveCall

namespace CircuitMgr

variable {m m' : CircuitMgr} {occupied : Nat → Bool} {callId : Nat}

theorem normalCallIdentifier_pos : 1 ≤ normalCallIdentifier callId := by
  unfold normalCallIdentifier
  split <;> omega

/-- A new call identifier is not zero and not in use. -/
theorem getNextCallIdAvoiding_fresh (h : getNextCallIdAvoiding occupied tries m = (some callId, m')) :
    1 ≤ callId ∧ occupied callId = false := by
  induction tries generalizing m with
  | zero => cases h
  | succ tries ih =>
    rw [getNextCallIdAvoiding] at h
    split at h
    · exact ih h
    rename_i hocc
    cases h
    exact ⟨normalCallIdentifier_pos, by simpa using hocc⟩

end CircuitMgr

namespace Shared

variable {s : Shared} {k callId : Nat}

/-- A call that gets a circuit gets an identifier that nothing refers to. -/
theorem allocateCircuit_fresh {commType : CommunicationType}
    (h : s.allocateCircuit commType simplexDuplex occupied = (some circuit, s')) :
    1 ≤ circuit.callId ∧ occupied circuit.callId = false := by
  have hr := congrArg Prod.fst h
  unfold allocateCircuit CircuitMgr.allocateCircuitWithAllocatorDuplexAvoiding at hr
  dsimp only at hr
  split at hr
  · cases hr
  rename_i callId m hnext
  obtain ⟨r, m', alloc', ha, -, hid, -⟩ := m.allocateCircuitForCallWithAllocator_spec callId .both
    commType simplexDuplex s.timeslotAlloc .cmce
  rw [ha] at hr
  rw [(hid circuit hr).2.1]
  exact CircuitMgr.getNextCallIdAvoiding_fresh hnext

theorem cachedSetups_allocateCircuit {commType : CommunicationType}
    (h : s.allocateCircuit commType simplexDuplex occupied = (circuit, s')) :
    s'.cachedSetups = s.cachedSetups := by
  cases h
  rfl

theorem mem_cachedSetups_refresh :
    k ∈ (s.refreshGroupCachedDSetupSpeaker callId issi).cachedSetups ↔ k ∈ s.cachedSetups :=
  Table.mem_modify

theorem mem_of_mem_sendGroupDSetupRefreshReported
    (h : s.sendGroupDSetupRefreshReported callId ts usage = (reporter, s'))
    (hk : k ∈ s'.cachedSetups) : k ∈ s.cachedSetups := by
  unfold sendGroupDSetupRefreshReported at h
  cases hc : s.cachedSetups.lookup callId with
  | none =>
    rw [hc] at h
    cases h
    exact hk
  | some =>
    rw [hc] at h
    dsimp only at h
    split at h
    · cases h
      exact hk
    cases h
    obtain rfl | hk := (AList.mem_insert _).mp hk
    · exact Table.mem_of_lookup hc
    · exact hk

theorem cachedSetups_closeCircuit : (s.closeCircuit dir ts).cachedSetups = s.cachedSetups := by
  unfold closeCircuit
  split <;> rfl

end Shared

namespace GroupSide

/-- A call keeps its group for life. -/
def SameGroup (_ : Nat) (call call' : ActiveCall) : Prop := call'.destGssi = call.destGssi

theorem SameGroup.refl (k : Nat) (call : ActiveCall) : SameGroup k call call := rfl

theorem SameGroup.trans (k : Nat) (u v w : ActiveCall) (h : SameGroup k u v)
    (h' : SameGroup k v w) : SameGroup k u w :=
  Eq.trans h' h

/-- Group calls after some handling: no call is new or has another group, a release that is under
way goes on, and no set-up is newly cached. -/
structure Keeps (g g' : GroupSide) : Prop where
  calls : Table.Within SameGroup g.activeCalls g'.activeCalls
  releases : ∀ k ∈ g'.activeCalls, k ∈ g.pendingGroupReleases → k ∈ g'.pendingGroupReleases
  cached : ∀ k ∈ g'.cachedSetups, k ∈ g.cachedSetups

variable {c : Ctx} {g g' g'' : GroupSide} {callId issi : Nat} {call call' : ActiveCall}

/-- A call of the same group, in which nobody speaks who did not before. -/
def StillSpeaks (_ : Nat) (call call' : ActiveCall) : Prop :=
  call'.destGssi = call.destGssi ∧
    ∀ issi, call'.isCurrentSpeaker issi = true → call.isCurrentSpeaker issi = true

theorem StillSpeaks.refl (k : Nat) (call : ActiveCall) : StillSpeaks k call call :=
  ⟨rfl, fun _ h => h⟩

theorem StillSpeaks.trans (k : Nat) (u v w : ActiveCall) (h : StillSpeaks k u v)
    (h' : StillSpeaks k v w) : StillSpeaks k u w :=
  ⟨h'.1.trans h.1, fun issi hw => h.2 issi (h'.2 issi hw)⟩

theorem StillSpeaks.silent (h : StillSpeaks k call call')
    (hn : call.isCurrentSpeaker issi = false) : call'.isCurrentSpeaker issi = false := by
  rw [← Bool.not_eq_true] at hn ⊢
  exact fun hc => hn (h.2 issi hc)

/-- Group calls after somebody has left: no call is new or has a new speaker, releases go on, and
no set-up is newly cached. -/
structure Quiets (g g' : GroupSide) : Prop where
  calls : Table.Within StillSpeaks g.activeCalls g'.activeCalls
  releases : ∀ k ∈ g.pendingGroupReleases, k ∈ g'.pendingGroupReleases
  cached : ∀ k ∈ g'.cachedSetups, k ∈ g.cachedSetups

namespace Quiets

theorem of_eq (ha : g'.activeCalls = g.activeCalls)
    (hp : g'.pendingGroupReleases = g.pendingGroupReleases)
    (hc : g'.cachedSetups = g.cachedSetups) : Quiets g g' where
  calls := .of_eq StillSpeaks.refl ha
  releases := fun _ hk => hp ▸ hk
  cached := fun _ hk => hc ▸ hk

theorem refl (g : GroupSide) : Quiets g g := of_eq rfl rfl rfl

theorem trans (h : Quiets g g') (h' : Quiets g' g'') : Quiets g g'' where
  calls := h.calls.trans StillSpeaks.trans h'.calls
  releases := fun k hk => h'.releases k (h.releases k hk)
  cached := fun k hk => h.cached k (h'.cached k hk)

theorem keeps (h : Quiets g g') : Keeps g g' where
  calls := h.calls.mono (fun _ _ _ hs => hs.1)
  releases := fun k _ hk => h.releases k hk
  cached := h.cached

theorem foldl {β : Type*} {f : GroupSide → β → GroupSide} (h : ∀ g b, Quiets g (f g b))
    (l : List β) (g : GroupSide) : Quiets g (l.foldl f g) :=
  List.foldlRecOn l f (refl g) (fun g' hg b _ => hg.trans (h g' b))

theorem setCall (h : g.activeCalls.lookup callId = some call)
    (hs : StillSpeaks callId call call') : Quiets g (g.setCall callId call') where
  calls := .insert StillSpeaks.refl h hs
  releases := fun _ hk => hk
  cached := fun _ hk => hk

theorem fsmGroupOnCurrentSpeakerDeparted :
    Quiets g (g.fsmGroupOnCurrentSpeakerDeparted c callId issi).1 := by
  unfold GroupSide.fsmGroupOnCurrentSpeakerDeparted
  split
  · exact refl g
  cases h : g.activeCalls.lookup callId with
  | none => exact refl g
  | some call =>
    dsimp only
    split
    · exact refl g
    split
    · exact refl g
    have hset : Quiets g
        (g.setCall callId (call.clearAllQueuedTxDemands.enterHangtime c.dltime)) :=
      setCall h ⟨rfl, fun _ hs => by cases hs⟩
    refine .trans hset ?_
    split
    · exact refl _
    · exact of_eq rfl rfl rfl

theorem departGroupCall : Quiets g (g.departGroupCall c issi gssi callId) := by
  unfold GroupSide.departGroupCall
  split
  · exact refl g
  rename_i h
  split
  · exact fsmGroupOnCurrentSpeakerDeparted
  · exact setCall h ⟨rfl, fun _ hs => hs⟩

theorem clearGroupFloorStateForDeparture :
    Quiets g (g.clearGroupFloorStateForDeparture c issi gssi) :=
  foldl (fun _ _ => departGroupCall) _ g

theorem beginGroupRelease : Quiets g (g.beginGroupRelease c callId cause preclosed) := by
  unfold GroupSide.beginGroupRelease
  dsimp only
  split
  · exact of_eq rfl rfl rfl
  split
  · exact of_eq rfl rfl rfl
  · exact ⟨.refl StillSpeaks.refl _, fun k hk => (AList.mem_insert _).mpr (.inr hk),
      fun _ hk => hk⟩

theorem releaseGroupCall : Quiets g (g.releaseGroupCall c callId cause) := beginGroupRelease

theorem dropGroupCallsIfUnlistened : Quiets g (g.dropGroupCallsIfUnlistened c gssi) := by
  unfold GroupSide.dropGroupCallsIfUnlistened
  split
  · exact refl g
  · exact foldl (fun _ _ => releaseGroupCall) _ g

end Quiets

namespace Keeps

theorem of_eq (ha : g'.activeCalls = g.activeCalls)
    (hp : g'.pendingGroupReleases = g.pendingGroupReleases)
    (hc : ∀ k ∈ g'.cachedSetups, k ∈ g.cachedSetups) : Keeps g g' where
  calls := .of_eq SameGroup.refl ha
  releases := fun k _ hk => by rwa [hp]
  cached := hc

theorem refl (g : GroupSide) : Keeps g g := of_eq rfl rfl (fun _ hk => hk)

theorem trans (h : Keeps g g') (h' : Keeps g' g'') : Keeps g g'' where
  calls := h.calls.trans SameGroup.trans h'.calls
  releases := fun k hk hp => h'.releases k hk (h.releases k (h'.calls.mem hk) hp)
  cached := fun k hk => h.cached k (h'.cached k hk)

theorem foldl {β : Type*} {f : GroupSide → β → GroupSide} (h : ∀ g b, Keeps g (f g b))
    (l : List β) (g : GroupSide) : Keeps g (l.foldl f g) :=
  List.foldlRecOn l f (refl g) (fun g' hg b _ => hg.trans (h g' b))

theorem send (msgs : List Msg) : Keeps g (g.send msgs) := of_eq rfl rfl (fun _ hk => hk)

theorem setCall (h : g.activeCalls.lookup callId = some call)
    (hd : call'.destGssi = call.destGssi) : Keeps g (g.setCall callId call') where
  calls := .insert SameGroup.refl h hd
  releases := fun _ _ hk => hk
  cached := fun _ hk => hk

theorem cancelGroupTxCeasedTailDrain : Keeps g (g.cancelGroupTxCeasedTailDrain callId) :=
  of_eq rfl rfl (fun _ hk => hk)

theorem cancelMatchingGroupTxCeasedTailDrain :
    Keeps g (g.cancelMatchingGroupTxCeasedTailDrain callId issi) := by
  unfold GroupSide.cancelMatchingGroupTxCeasedTailDrain
  split
  · exact cancelGroupTxCeasedTailDrain
  · exact refl g

theorem cancelGroupFloorActivation : Keeps g (g.cancelGroupFloorActivation callId) :=
  of_eq rfl rfl (fun _ hk => hk)

theorem cancelNetworkGroupReady : Keeps g (g.cancelNetworkGroupReady callId) :=
  of_eq rfl rfl (fun _ hk => hk)

variable {destGssi : Nat}

theorem beginGroupTxCeasedTailDrain :
    Keeps g (g.beginGroupTxCeasedTailDrain c callId sender destGssi ts usage notifyBrew) := by
  unfold GroupSide.beginGroupTxCeasedTailDrain
  split
  · exact refl g
  · exact of_eq rfl rfl (fun _ hk => hk)

theorem queueGroupFloorActivation :
    Keeps g (g.queueGroupFloorActivation c callId sourceIssi destGssi ts reporter notifyBrew) :=
  of_eq rfl rfl (fun _ hk => hk)

theorem queueNetworkGroupReady :
    Keeps g (g.queueNetworkGroupReady c callId brewUuid sourceIssi destGssi ts usage reporters) :=
  of_eq rfl rfl (fun _ hk => hk)

theorem resetGroupT310AfterFloorGrant : Keeps g (g.resetGroupT310AfterFloorGrant c callId) where
  calls := .modify SameGroup.refl (fun _ _ => rfl)
  releases := fun _ _ hk => hk
  cached := fun _ hk => hk

theorem refreshGroupCachedDSetupSpeaker :
    Keeps g { g with toShared := g.toShared.refreshGroupCachedDSetupSpeaker callId issi } :=
  of_eq rfl rfl (fun _ hk => mem_cachedSetups_refresh.mp hk)

theorem announceFloorGrant :
    Keeps g (g.announceFloorGrant c callId requester listenerGssi destGssi ts usage
      notifyBrew) := by
  refine .trans ?_ queueGroupFloorActivation
  refine .trans ?_ resetGroupT310AfterFloorGrant
  exact of_eq rfl rfl (fun _ hk => mem_cachedSetups_refresh.mp hk)

theorem releaseGroupCall : Keeps g (g.releaseGroupCall c callId cause) :=
  Quiets.releaseGroupCall.keeps

theorem completePendingGroupRelease : Keeps g (g.completePendingGroupRelease c callId) := by
  unfold GroupSide.completePendingGroupRelease
  split
  · exact refl g
  rename_i pending _
  dsimp only
  refine ⟨.erase SameGroup.refl _ _, ?_, ?_⟩
  · intro k hk hp
    exact AList.mem_erase.mpr ⟨(AList.mem_erase.mp hk).1, hp⟩
  · intro k hk
    have hk := (AList.mem_erase.mp hk).2
    cases hc : pending.preclosedCircuit with
    | none =>
      rw [hc] at hk
      exact (cachedSetups_closeCircuit (s := g.toShared)) ▸ hk
    | some =>
      rw [hc] at hk
      exact hk

theorem fsmGroupQueueSameSpeakerRetakeDuringTxCeasedTail
    (h : g.activeCalls.lookup callId = some call) :
    Keeps g (g.fsmGroupQueueSameSpeakerRetakeDuringTxCeasedTail callId call requester) :=
  .trans (setCall h call.destGssi_queueTxDemandAfterCeaseTail) (send _)

theorem fsmGroupReassertCurrentSpeakerFloor :
    Keeps g (g.fsmGroupReassertCurrentSpeakerFloor c callId speaker).1 := by
  unfold GroupSide.fsmGroupReassertCurrentSpeakerFloor
  split
  · exact refl g
  split
  · exact refl g
  rename_i call h
  split
  · exact refl g
  split
  · exact send _
  split
  · exact fsmGroupQueueSameSpeakerRetakeDuringTxCeasedTail h
  split
  · exact refl g
  · exact .trans cancelMatchingGroupTxCeasedTailDrain announceFloorGrant

theorem fsmGroupOnTxDemand : Keeps g (g.fsmGroupOnTxDemand c callId requester priority).1 := by
  unfold GroupSide.fsmGroupOnTxDemand
  by_cases hp : g.releasePending callId = true
  · rw [if_pos hp]
    exact refl g
  · rw [if_neg hp]
    cases h : g.activeCalls.lookup callId with
    | none => exact refl g
    | some call =>
      dsimp only
      split
      · exact send _
      split
      · exact releaseGroupCall
      split
      · exact fsmGroupQueueSameSpeakerRetakeDuringTxCeasedTail h
      split
      -- a pre-emptive request takes the floor
      · split
        · exact refl g
        refine .trans ?_ announceFloorGrant
        refine .trans ?_ (send _)
        exact .trans (setCall h (call.destGssi_grantFloor requester.ssi))
          cancelGroupTxCeasedTailDrain
      · split
        -- while another radio speaks the request waits
        · refine .trans (setCall h (call.destGssi_queueTxDemand requester)) ?_
          split
          · exact refl _
          split
          · exact fsmGroupReassertCurrentSpeakerFloor
          · exact send _
          · exact send _
        · refine .trans (setCall h (call.destGssi_grantFloor requester.ssi)) ?_
          split
          · exact refl _
          · exact announceFloorGrant

theorem fsmGroupOnTxCeased : Keeps g (g.fsmGroupOnTxCeased c callId sender).1 := by
  unfold GroupSide.fsmGroupOnTxCeased
  split
  · exact refl g
  cases h : g.activeCalls.lookup callId with
  | none => exact refl g
  | some call =>
    dsimp only
    split
    · exact refl g
    split
    · split
      · exact setCall h rfl
      · exact refl g
    have hq := call.destGssi_takeQueuedTxDemandThrough
      ((c.firstAffiliatedGroupFloorRequester call).map (·.ssi))
    split
    · next requester taken heq =>
      rw [heq] at hq
      have hset : Keeps g (g.setCall callId (taken.grantFloor requester.ssi)) :=
        setCall h hq
      refine .trans hset ?_
      split
      · exact refl _
      · exact announceFloorGrant
    · next heq =>
      rw [heq] at hq
      refine .trans (setCall h hq) ?_
      split
      · exact refl _
      · exact beginGroupTxCeasedTailDrain

theorem announceNetworkSpeaker :
    Keeps g (g.announceNetworkSpeaker c callId call brewUuid sourceIssi).1 := by
  unfold GroupSide.announceNetworkSpeaker
  dsimp only
  split
  · next heq =>
    exact of_eq rfl rfl (fun k hk =>
      have hk' := mem_of_mem_sendGroupDSetupRefreshReported heq hk
      mem_cachedSetups_refresh.mp hk')
  rename_i heq
  refine .trans (.trans ?_ resetGroupT310AfterFloorGrant) queueNetworkGroupReady
  exact of_eq rfl rfl (fun k hk =>
    have hk' := mem_of_mem_sendGroupDSetupRefreshReported heq hk
    mem_cachedSetups_refresh.mp hk')

theorem fsmGroupOnNetworkCallStart :
    Keeps g (g.fsmGroupOnNetworkCallStart c callId brewUuid sourceIssi priority).1 := by
  unfold GroupSide.fsmGroupOnNetworkCallStart
  split
  · exact refl g
  dsimp only
  split
  · exact cancelGroupTxCeasedTailDrain
  rename_i call h
  refine .trans ?_ announceNetworkSpeaker
  refine .trans ?_ (send _)
  exact .trans cancelGroupTxCeasedTailDrain (setCall h rfl)

theorem fsmGroupOnNetworkCallEnd : Keeps g (g.fsmGroupOnNetworkCallEnd c callId).1 := by
  unfold GroupSide.fsmGroupOnNetworkCallEnd
  split
  · exact refl g
  dsimp only
  split
  · exact cancelNetworkGroupReady
  rename_i call h
  split
  · exact .trans cancelNetworkGroupReady releaseGroupCall
  split
  · refine .trans cancelNetworkGroupReady (.trans (setCall h ?_) (send _))
    rfl
  · exact .trans cancelNetworkGroupReady releaseGroupCall

theorem rxNetworkCallEnd : Keeps g (g.rxNetworkCallEnd c brewUuid) := by
  unfold GroupSide.rxNetworkCallEnd
  split
  · exact refl g
  · exact fsmGroupOnNetworkCallEnd

theorem completeGroupFloorActivation : Keeps g (g.completeGroupFloorActivation callId pending) := by
  unfold GroupSide.completeGroupFloorActivation
  split
  · exact refl g
  split
  · exact refl g
  · exact send _

theorem suppressGroupFloorActivation :
    Keeps g (g.suppressGroupFloorActivation c callId pending) := by
  unfold GroupSide.suppressGroupFloorActivation
  split
  · exact refl g
  rename_i h
  split
  · exact setCall h rfl
  · exact refl g

theorem drainGroupFloorActivation : Keeps g (g.drainGroupFloorActivation c callId) := by
  unfold GroupSide.drainGroupFloorActivation
  split
  · exact refl g
  dsimp only
  split
  · exact .trans cancelGroupFloorActivation completeGroupFloorActivation
  · exact .trans cancelGroupFloorActivation suppressGroupFloorActivation

theorem drainPendingGroupFloorActivations :
    Keeps g (g.drainPendingGroupFloorActivations c) :=
  foldl (fun _ _ => drainGroupFloorActivation) _ g

theorem completeNetworkGroupReady : Keeps g (g.completeNetworkGroupReady callId pending) := by
  unfold GroupSide.completeNetworkGroupReady
  split
  · exact refl g
  split
  · exact refl g
  · exact send _

theorem drainNetworkGroupReady : Keeps g (g.drainNetworkGroupReady c callId) := by
  unfold GroupSide.drainNetworkGroupReady
  split
  · exact refl g
  dsimp only
  split
  · exact .trans cancelNetworkGroupReady completeNetworkGroupReady
  · exact .trans cancelNetworkGroupReady releaseGroupCall

theorem drainPendingNetworkGroupReadies : Keeps g (g.drainPendingNetworkGroupReadies c) :=
  foldl (fun _ _ => drainNetworkGroupReady) _ g

theorem drainPendingGroupReleases : Keeps g (g.drainPendingGroupReleases c) :=
  foldl (fun _ _ => completePendingGroupRelease) _ g

theorem completeGroupTxCeasedTailDrain :
    Keeps g (g.completeGroupTxCeasedTailDrain c callId pending) := by
  unfold GroupSide.completeGroupTxCeasedTailDrain
  split
  · exact refl g
  rename_i call h
  split
  · exact refl g
  have hq := call.destGssi_takeQueuedTxDemandThrough
    ((requesterAfterTail c call pending.sender.ssi).map (·.ssi))
  have hidle : ∀ taken : ActiveCall, taken.destGssi = call.destGssi → ∀ msgs,
      Keeps g ((g.setCall callId (taken.enterHangtime c.dltime)).send msgs) :=
    fun taken ht msgs => by
      refine .trans ?_ (send msgs)
      exact setCall h ht
  dsimp only
  split
  · next heq =>
    rw [heq] at hq
    split
    · exact .trans (hidle _ hq _) releaseGroupCall
    · exact hidle _ hq _
  · next heq =>
    rw [heq] at hq
    split
    · split
      · exact .trans (hidle _ hq _) releaseGroupCall
      · exact hidle _ hq _
    · refine .trans ?_ announceFloorGrant
      exact setCall h hq

theorem drainPendingGroupTxCeasedTailDrains :
    Keeps g (g.drainPendingGroupTxCeasedTailDrains c) := by
  refine foldl (fun g callId => ?_) _ g
  unfold GroupSide.drainGroupTxCeasedTailDrain
  split
  · exact refl g
  · exact .trans cancelGroupTxCeasedTailDrain completeGroupTxCeasedTailDrain

theorem checkGroupCallTimeoutExpiry : Keeps g (g.checkGroupCallTimeoutExpiry c) :=
  foldl (fun _ _ => releaseGroupCall) _ g

theorem checkHangtimeExpiry : Keeps g (g.checkHangtimeExpiry c) :=
  foldl (fun _ _ => releaseGroupCall) _ g

theorem groupUlInactivity (h : g.activeCalls.lookup callId = some call) :
    Keeps g (g.groupUlInactivity c callId call ts) := by
  unfold GroupSide.groupUlInactivity
  split
  · exact refl g
  split
  · exact refl g
  split
  · exact refl g
  dsimp only
  split
  · refine .trans ?_ announceFloorGrant
    exact setCall h rfl
  have hm := call.destGssi_markUlInactivityRegrantIfUnused
  split
  · next heq =>
    rw [heq] at hm
    refine .trans ?_ queueGroupFloorActivation
    exact .trans (setCall h hm) (of_eq rfl rfl (fun _ hk => hk))
  rename_i heq
  rw [heq] at hm
  refine .trans ?_ (send _)
  exact setCall h hm

theorem fsmGroupOnUSetupMaintainedReentry :
    Keeps g (g.fsmGroupOnUSetupMaintainedReentry c ul pdu callId).1 := by
  unfold GroupSide.fsmGroupOnUSetupMaintainedReentry
  split
  · exact refl g
  rename_i h
  split
  · exact refl g
  split
  · exact refl g
  dsimp only
  refine .trans ?_ (send _)
  refine .trans ?_ refreshGroupCachedDSetupSpeaker
  refine .trans ?_ resetGroupT310AfterFloorGrant
  refine .trans ?_ (send _)
  refine .trans ?_ cancelMatchingGroupTxCeasedTailDrain
  exact setCall h rfl

theorem fsmOnUSetupActiveGroup :
    Keeps g (g.fsmOnUSetupActiveGroup c ul pdu destGssi callId call) := by
  unfold GroupSide.fsmOnUSetupActiveGroup
  split
  · exact send _
  split
  · exact send _
  split
  · exact send _
  dsimp only
  split
  · exact fsmGroupOnUSetupMaintainedReentry
  split
  · exact fsmGroupReassertCurrentSpeakerFloor
  · exact fsmGroupOnTxDemand

end Keeps

/-- A group call that a handler has set up: under an identifier that was not in use, for a group
that somebody listens to. -/
structure Opens (c : Ctx) (occupied : Nat → Bool) (g g' : GroupSide) : Prop where
  opened : ∃ k call, 1 ≤ k ∧ occupied k = false ∧ c.hasListener call.destGssi = true ∧
    (∀ j v, g'.activeCalls.lookup j = some v → j = k ∧ v = call ∨ g.activeCalls.lookup j = some v) ∧
    ∀ j ∈ g'.cachedSetups, j = k ∨ j ∈ g.cachedSetups
  releases : g'.pendingGroupReleases = g.pendingGroupReleases

variable {occupied : Nat → Bool}

theorem opens_of_insert {s : Shared} {commType : CommunicationType}
    (h : g.allocateCircuit commType duplex occupied = (some circuit, s))
    (hl : c.hasListener call.destGssi = true)
    (ha : g'.activeCalls = g.activeCalls.insert circuit.callId call)
    (hc : g'.cachedSetups = s.cachedSetups.insert circuit.callId cached)
    (hr : g'.pendingGroupReleases = g.pendingGroupReleases) : Opens c occupied g g' := by
  have hf := allocateCircuit_fresh h
  refine ⟨⟨circuit.callId, call, hf.1, hf.2, hl, ?_, ?_⟩, hr⟩
  · intro j v hv
    rw [ha] at hv
    exact (Table.lookup_insert_cases hv).imp_right And.right
  · intro j hj
    rw [hc, AList.mem_insert, cachedSetups_allocateCircuit h] at hj
    exact hj

theorem fsmOnUSetupGroup_keeps_or_opens :
    Keeps g (g.fsmOnUSetupGroup c occupied ul pdu) ∨
      Opens c occupied g (g.fsmOnUSetupGroup c occupied ul pdu) := by
  unfold fsmOnUSetupGroup
  split
  · exact .inl (.send _)
  split
  · exact .inl (.send _)
  rename_i destGssi _
  split
  · exact .inl (.send _)
  rename_i hl
  split
  · exact .inl .fsmOnUSetupActiveGroup
  split
  · next h =>
    exact .inl (.of_eq rfl rfl (fun _ hk => cachedSetups_allocateCircuit h ▸ hk))
  · next h =>
    have hl' : c.hasListener destGssi = true := by simpa using hl
    exact .inr (opens_of_insert h hl' rfl rfl rfl)

theorem fsmOnNetworkCallStart_keeps_or_opens :
    Keeps g (g.fsmOnNetworkCallStart c occupied brewUuid sourceIssi destGssi priority) ∨
      Opens c occupied g
        (g.fsmOnNetworkCallStart c occupied brewUuid sourceIssi destGssi priority) := by
  unfold fsmOnNetworkCallStart
  split
  · exact .inl (.send _)
  split
  · exact .inl (.trans Quiets.dropGroupCallsIfUnlistened.keeps (.send _))
  rename_i hl
  split
  · exact .inl (.send _)
  split
  · split
    · exact .inl (.send _)
    · exact .inl .fsmGroupOnNetworkCallStart
  split
  · next h =>
    exact .inl (.of_eq rfl rfl (fun _ hk => cachedSetups_allocateCircuit h ▸ hk))
  · next h =>
    have hl' : c.hasListener destGssi = true := by
      simp only [Bool.not_eq_true', Bool.not_eq_false] at hl
      simp [Ctx.hasListener, hl]
    exact .inr (opens_of_insert h hl' rfl rfl rfl)

end GroupSide
end NexusBs.Cc
