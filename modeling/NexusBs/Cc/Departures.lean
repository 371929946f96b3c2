import NexusBs.Cc.Listeners
import NexusBs.Lib.Lists

namespace NexusBs.Cc
open Lib Relation Table

namespace GroupSide

variable {c : Ctx} {g g' g'' : GroupSide} {callId issi gssi : Nat} {call call' : ActiveCall}

/-- In this call the radio does not speak, unless the call is being released. -/
def SilentIn (issi callId : Nat) (g : GroupSide) : Prop :=
  ∀ call, g.activeCalls.lookup callId = some call →
    callId ∈ g.pendingGroupReleases ∨ call.isCurrentSpeaker issi = false

theorem SilentIn.quiets (h : SilentIn issi callId g) (hq : Quiets g g') :
    SilentIn issi callId g' := by
  intro call' hl'
  obtain ⟨call, hl, hs⟩ := hq.calls callId call' hl'
  exact (h call hl).imp (hq.releases callId) hs.silent

theorem silentIn_speakerDeparted :
    SilentIn issi callId (g.fsmGroupOnCurrentSpeakerDeparted c callId issi).1 := by
  unfold GroupSide.fsmGroupOnCurrentSpeakerDeparted
  split
  · next hp => exact fun _ _ => .inl (by simpa [releasePending] using hp)
  cases h : g.activeCalls.lookup callId with
  | none =>
    intro call hl
    dsimp only at hl
    rw [h] at hl
    cases hl
  | some call =>
    dsimp only
    split
    · next ht =>
      intro call' hl
      dsimp only at hl
      rw [h] at hl
      cases hl
      exact .inr (by simp_all [ActiveCall.isCurrentSpeaker])
    · split
      · next hs =>
        intro call' hl
        dsimp only at hl
        rw [h] at hl
        cases hl
        exact .inr (by simpa using hs)
      · have hset : SilentIn issi callId
            (g.setCall callId (call.clearAllQueuedTxDemands.enterHangtime c.dltime)) := by
          intro call' hl
          rw [GroupSide.setCall, AList.lookup_insert, Option.some.injEq] at hl
          subst hl
          exact .inr rfl
        split
        · exact hset
        · exact hset.quiets (.of_eq rfl rfl rfl)

theorem silentIn_departGroupCall (hl : c.hasListener gssi = true) :
    SilentIn issi callId (g.departGroupCall c issi gssi callId) := by
  unfold departGroupCall
  split
  · next h =>
    intro call hc
    rw [h] at hc
    cases hc
  rename_i call h
  rw [hl, Bool.and_true]
  split
  · exact silentIn_speakerDeparted
  rename_i hs
  intro call' hc
  rw [GroupSide.setCall, AList.lookup_insert, Option.some.injEq] at hc
  subst hc
  right
  change call.isCurrentSpeaker issi = false
  simpa using hs

/-- A radio that has left a group speaks in none of its calls, where the group has a listener. -/
theorem silentIn_clearGroupFloorState (hl : c.hasListener gssi = true)
    (hc : (g.clearGroupFloorStateForDeparture c issi gssi).activeCalls.lookup callId = some call')
    (hd : call'.destGssi = gssi) :
    SilentIn issi callId (g.clearGroupFloorStateForDeparture c issi gssi) := by
  obtain ⟨call, hcall, hsame, -⟩ :=
    Quiets.clearGroupFloorStateForDeparture.calls callId call' hc
  refine foldl_establishes (Q := fun k g => SilentIn issi k g)
    (fun g k => silentIn_departGroupCall hl) (fun g k j h => h.quiets .departGroupCall) ?_ g
  exact mem_select.mpr ⟨call, hcall, by simp [← hd, hsame]⟩

theorem mem_releases_releaseGroupCall (hk : callId ∈ g.activeCalls) :
    callId ∈ (g.releaseGroupCall c callId cause).pendingGroupReleases := by
  obtain ⟨call, h⟩ := exists_lookup hk
  unfold releaseGroupCall beginGroupRelease
  dsimp only
  split
  · next hp => simpa [releasePending] using hp
  split
  · next hn =>
    have hn : g.activeCalls.lookup callId = none := hn
    rw [h] at hn
    cases hn
  · exact (AList.mem_insert _).mpr (.inl rfl)

theorem mem_releases_dropGroupCalls (hl : c.hasListener gssi = false)
    (hc : (g.dropGroupCallsIfUnlistened c gssi).activeCalls.lookup callId = some call')
    (hd : call'.destGssi = gssi) :
    callId ∈ (g.dropGroupCallsIfUnlistened c gssi).pendingGroupReleases := by
  obtain ⟨call, hcall, hsame, -⟩ := Quiets.dropGroupCallsIfUnlistened.calls callId call' hc
  have hmem : callId ∈ g.activeCalls.select (c.order .activeCalls)
      (fun _ call => call.destGssi == gssi) :=
    mem_select.mpr ⟨call, hcall, by simp [← hd, hsame]⟩
  unfold dropGroupCallsIfUnlistened at hc ⊢
  rw [if_neg (by simp [hl])] at hc ⊢
  have hall := foldl_establishes
    (Q := fun k (g : GroupSide) => k ∈ g.activeCalls → k ∈ g.pendingGroupReleases)
    (f := fun g k => g.releaseGroupCall c k .swmiRequestedDisconnection)
    (fun g k hk => mem_releases_releaseGroupCall
      (Quiets.releaseGroupCall.calls.mem hk))
    (fun g k j h hk => (Quiets.releaseGroupCall (c := c)).releases k
      (h (Quiets.releaseGroupCall.calls.mem hk)))
    hmem g
  exact hall (mem_of_lookup hc)

end GroupSide

namespace SubscriberRegistry

variable {r : SubscriberRegistry} {issi gssi j : Nat}

theorem hasGroupMembers_iff :
    r.hasGroupMembers gssi = true ↔ ∃ j, containsGroupMember r gssi j = true := by
  unfold hasGroupMembers
  rw [List.any_eq_true]
  refine ⟨fun ⟨j, _, h⟩ => ⟨j, h⟩, fun ⟨j, h⟩ => ⟨j, ?_, h⟩⟩
  obtain ⟨groups, hl, -⟩ := (Option.any_eq_true _ _).mp h
  exact mem_of_lookup hl

theorem hasGroupMembers_mono
    (h : ∀ j, containsGroupMember r gssi j = true → containsGroupMember r' gssi j = true)
    (hm : r.hasGroupMembers gssi = true) : r'.hasGroupMembers gssi = true := by
  obtain ⟨j, hj⟩ := hasGroupMembers_iff.mp hm
  exact hasGroupMembers_iff.mpr ⟨j, h j hj⟩

theorem containsGroupMember_register (h : r.isRegistered issi = false) :
    containsGroupMember (r.register issi) gssi j = containsGroupMember r gssi j := by
  unfold containsGroupMember register
  by_cases hj : j = issi
  · subst hj
    have hl : r.lookup j = none := AList.lookup_eq_none.mpr (by simpa [isRegistered] using h)
    rw [AList.lookup_insert, hl]
    simp
  · rw [AList.lookup_insert_ne hj]

theorem containsGroupMember_deregister :
    containsGroupMember (r.deregister issi) gssi j =
      (containsGroupMember r gssi j && j != issi) := by
  unfold containsGroupMember deregister
  by_cases hj : j = issi
  · subst hj
    simp
  · rw [AList.lookup_erase_ne hj]
    simp [hj]

theorem containsGroupMember_affiliate (h : containsGroupMember r gssi j = true) :
    containsGroupMember (r.affiliate issi g) gssi j = true := by
  obtain ⟨groups, hl, hm⟩ := (Option.any_eq_true _ _).mp h
  unfold containsGroupMember affiliate
  by_cases hj : j = issi
  · subst hj
    rw [lookup_modify_self, hl]
    simp only [decide_eq_true_eq] at hm
    simp [hm]
  · rw [lookup_modify_ne hj]
    exact h

theorem containsGroupMember_deaffiliate :
    containsGroupMember (r.deaffiliate issi g) gssi j =
      (containsGroupMember r gssi j && !(j == issi && gssi == g)) := by
  unfold containsGroupMember deaffiliate
  by_cases hj : j = issi
  · subst hj
    rw [lookup_modify_self]
    cases r.lookup j with
    | none => rfl
    | some => by_cases hg : gssi = g <;> simp [hg]
  · rw [lookup_modify_ne hj]
    simp [hj]

theorem containsGroupMember_foldl_affiliate {groups : List Nat}
    (h : containsGroupMember r gssi j = true) :
    containsGroupMember (groups.foldl (fun r g => r.affiliate issi g) r) gssi j = true :=
  List.foldlRecOn (motive := fun r => containsGroupMember r gssi j = true) groups _ h
    (fun _ ht _ _ => containsGroupMember_affiliate ht)

theorem containsGroupMember_foldl_deaffiliate (groups : List Nat) :
    containsGroupMember (groups.foldl (fun r g => r.deaffiliate issi g) r) gssi j =
      (containsGroupMember r gssi j && !(j == issi && groups.contains gssi)) := by
  induction groups generalizing r with
  | nil => simp
  | cons g groups ih =>
    rw [List.foldl_cons, ih, containsGroupMember_deaffiliate, List.contains_cons]
    cases containsGroupMember r gssi j <;> cases j == issi <;> cases gssi == g <;> simp

end SubscriberRegistry

namespace CcBs

open Subscribers

/-- A radio of the cell or somebody behind the network listens to the group. -/
def hasListener (s : CcBs) (gssi : Nat) : Bool :=
  s.registry.hasGroupMembers gssi || decide (amount s.subs.groupListeners gssi > 0) ||
    decide (amount s.subs.externalGroupListeners gssi > 0)

def LiveGroupCall (s : CcBs) (callId : Nat) (call : ActiveCall) : Prop :=
  s.activeCalls.lookup callId = some call ∧ callId ∉ s.pendingGroupReleases

/-- The groups that are recorded for a radio of the cell. -/
def recordedGroups (s : CcBs) (issi : Nat) : Finset Nat :=
  (s.subs.subscriberGroups.lookup issi).getD ∅

/-- The groups that a radio leaves with an event: all of its groups with a deregistration, those
that are named with a deaffiliation, those that are recorded for it when it is kicked. -/
def leaves (s : CcBs) (event : CcEvent) (issi gssi : Nat) : Bool :=
  match event with
  | .mmUpdate update =>
    issi == update.issi &&
      match update.action with
      | .deregister =>
        decide (gssi ∈ s.recordedGroups issi) || s.registry.containsGroupMember gssi issi
      | .deaffiliate => update.groups.contains gssi
      | _ => false
  | .kickMs kicked => issi == kicked && decide (gssi ∈ s.recordedGroups issi)
  | _ => false

/-- The groups that are taken from a radio without a look at their calls: all of them when it is
kicked, and else those that call control has not recorded for it. -/
def leavesUnseen (s : CcBs) (event : CcEvent) (issi gssi : Nat) : Bool :=
  s.leaves event issi gssi &&
    match event with
    | .mmUpdate update =>
      !decide (gssi ∈ s.recordedGroups issi) &&
        (update.action != .deaffiliate || decide (issi ∈ s.subs.subscriberGroups))
    | _ => true

/-- Somebody listens to the group when the radio has left it. -/
def keepsListener (s : CcBs) (event : CcEvent) (issi gssi : Nat) : Bool :=
  match event with
  | .kickMs _ =>
    s.registry.hasGroupMembers gssi || decide (amount s.subs.groupListeners gssi > 1) ||
      decide (amount s.subs.externalGroupListeners gssi > 0)
  | _ =>
    s.registry.keys.any (fun j => s.registry.containsGroupMember gssi j && j != issi) ||
      decide (amount s.subs.groupListeners gssi > 0) ||
      decide (amount s.subs.externalGroupListeners gssi > 0)

def subscriberOf : CcEvent → Option Nat
  | .mmUpdate update => some update.issi
  | .kickMs issi => some issi
  | _ => none

/-- In the calls of a group that is taken from a radio unseen another radio speaks, or none, and
somebody still listens; and whoever writes the registry leaves every call a listener. -/
def leavesInOrder (s : CcBs) (event : CcEvent) : Bool :=
  s.activeCalls.keys.all (fun callId =>
    decide (callId ∈ s.pendingGroupReleases) ||
      (s.activeCalls.lookup callId).all (fun call =>
        (subscriberOf event).all (fun issi =>
          !s.leavesUnseen event issi call.destGssi ||
            !call.isCurrentSpeaker issi && s.keepsListener event issi call.destGssi) &&
        match event with
        | .registryChanged registry => { s with registry := registry }.hasListener call.destGssi
        | _ => true))

/-- Every group call that is not being released has a listener. -/
def Listened (s : CcBs) : Prop :=
  ∀ callId call, s.LiveGroupCall callId call → s.hasListener call.destGssi = true

/-- Nobody speaks in a group that they have just left. -/
def Departed (s : CcBs) (event : CcEvent) (s' : CcBs) : Prop :=
  ∀ callId call issi, s'.LiveGroupCall callId call → s.leaves event issi call.destGssi = true →
    call.isCurrentSpeaker issi = false

variable {env : Env} {s s' : CcBs} {event : CcEvent} {issi gssi callId : Nat} {call : ActiveCall}

theorem leavesInOrder_live (h : s.leavesInOrder event = true) (hl : s.LiveGroupCall callId call)
    (hi : subscriberOf event = some issi)
    (hu : s.leavesUnseen event issi call.destGssi = true) :
    call.isCurrentSpeaker issi = false ∧ s.keepsListener event issi call.destGssi = true := by
  have hk := List.all_eq_true.mp h callId (mem_of_lookup hl.1)
  simp only [hl.1, hl.2, decide_false, Bool.false_or, Option.all_some, hi, hu, Bool.not_true,
    Bool.and_eq_true, Bool.not_eq_true'] at hk
  exact hk.1

theorem leavesInOrder_registry {registry : SubscriberRegistry}
    (h : s.leavesInOrder (.registryChanged registry) = true) (hl : s.LiveGroupCall callId call) :
    { s with registry := registry }.hasListener call.destGssi = true := by
  have hk := List.all_eq_true.mp h callId (mem_of_lookup hl.1)
  simpa only [hl.1, hl.2, decide_false, Bool.false_or, Option.all_some, subscriberOf,
    Option.all_none, Bool.true_and] using hk

/-! What an event does to the calls of the groups that a radio leaves. -/

theorem live_of_quiets (hq : s.groupSide.Quiets s'.groupSide) (hl : s'.LiveGroupCall callId call') :
    ∃ call, s.LiveGroupCall callId call ∧ GroupSide.StillSpeaks callId call call' := by
  obtain ⟨call, hc, hs⟩ := hq.calls callId call' hl.1
  exact ⟨call, ⟨hc, fun hp => hl.2 (hq.releases callId hp)⟩, hs⟩

/-- The radio speaks in no call of a group that has a listener. -/
def Silent (issi gssi : Nat) (s : CcBs) : Prop :=
  ∀ callId call, s.LiveGroupCall callId call → call.destGssi = gssi → s.hasListener gssi = true →
    call.isCurrentSpeaker issi = false

/-- Calls of the group have a listener. -/
def Heard (gssi : Nat) (s : CcBs) : Prop :=
  ∀ callId call, s.LiveGroupCall callId call → call.destGssi = gssi → s.hasListener gssi = true

theorem Silent.quiets (h : Silent issi gssi s) (hq : s.groupSide.Quiets s'.groupSide)
    (hl : s'.hasListener gssi = s.hasListener gssi) : Silent issi gssi s' := by
  intro callId call' hlive hd hlis
  obtain ⟨call, hlive', hs⟩ := live_of_quiets hq hlive
  exact hs.silent (h callId call hlive' (hs.1 ▸ hd) (hl ▸ hlis))

theorem Heard.quiets (h : Heard gssi s) (hq : s.groupSide.Quiets s'.groupSide)
    (hl : s'.hasListener gssi = s.hasListener gssi) : Heard gssi s' := by
  intro callId call' hlive hd
  obtain ⟨call, hlive', hsame, -⟩ := live_of_quiets hq hlive
  rw [hl]
  exact h callId call hlive' (hsame ▸ hd)

theorem clearGroupFloorState_quiets :
    s.groupSide.Quiets (s.clearGroupFloorState env issi gssi).groupSide :=
  GroupSide.Quiets.clearGroupFloorStateForDeparture

theorem dropIfUnlistened_quiets : s.groupSide.Quiets (s.dropIfUnlistened env gssi).groupSide :=
  GroupSide.Quiets.dropGroupCallsIfUnlistened

theorem silent_clearGroupFloorState :
    Silent issi gssi (s.clearGroupFloorState env issi gssi) := by
  intro callId call hlive hd hl
  have hlis : (s.ctx env).hasListener gssi = true := hl
  exact (GroupSide.silentIn_clearGroupFloorState hlis hlive.1 hd call hlive.1).resolve_left hlive.2

theorem heard_dropIfUnlistened : Heard gssi (s.dropIfUnlistened env gssi) := by
  intro callId call hlive hd
  by_contra hl
  have hlis : (s.ctx env).hasListener gssi = false := by
    rw [← Bool.not_eq_true]
    exact hl
  exact hlive.2 (GroupSide.mem_releases_dropGroupCalls hlis hlive.1 hd)

theorem leaveGroups_quiets : s.groupSide.Quiets (s.leaveGroups env issi groups).groupSide := by
  refine List.foldlRecOn (motive := fun t : CcBs => s.groupSide.Quiets t.groupSide) _ _ ?_
    (fun t ht g _ => ht.trans dropIfUnlistened_quiets)
  exact List.foldlRecOn (motive := fun t : CcBs => s.groupSide.Quiets t.groupSide) _ _ (.refl _)
    (fun t ht g _ => ht.trans clearGroupFloorState_quiets)

/-- A group that a radio leaves has a listener or no calls, and the radio speaks in none. -/
theorem leaveGroups_handles (hg : gssi ∈ groups) :
    Silent issi gssi (s.leaveGroups env issi groups) ∧
      Heard gssi (s.leaveGroups env issi groups) := by
  have hcleared : Silent issi gssi
      (groups.foldl (fun s gssi => s.clearGroupFloorState env issi gssi) s) :=
    foldl_establishes (Q := fun gssi s => Silent issi gssi s)
      (fun s gssi => silent_clearGroupFloorState)
      (fun s g g' h => h.quiets clearGroupFloorState_quiets rfl) hg s
  refine ⟨?_, ?_⟩
  · exact List.foldlRecOn (motive := Silent issi gssi) _ _ hcleared
      (fun t ht g _ => ht.quiets dropIfUnlistened_quiets rfl)
  · exact foldl_establishes (Q := fun gssi s => Heard gssi s)
      (fun s gssi => heard_dropIfUnlistened)
      (fun s g g' h => h.quiets dropIfUnlistened_quiets rfl) hg _

end CcBs
end NexusBs.Cc
