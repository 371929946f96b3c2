import NexusBs.Cc.Departures

namespace NexusBs.Cc
open Lib Relation Table SubscriberRegistry Option

namespace CcBs

open Subscribers

variable {env : Env} {s s' : CcBs} {event : CcEvent} {issi gssi callId : Nat} {call : ActiveCall}

/-! Listeners of a group that the radio of an event does not leave, or leaves unseen. -/

theorem hasListener_mono
    (hr : s.registry.hasGroupMembers gssi = true → s'.registry.hasGroupMembers gssi = true)
    (hl : amount s.subs.groupListeners gssi ≤ amount s'.subs.groupListeners gssi)
    (he : amount s.subs.externalGroupListeners gssi ≤
      amount s'.subs.externalGroupListeners gssi)
    (h : s.hasListener gssi = true) : s'.hasListener gssi = true := by
  simp only [hasListener, Bool.or_eq_true, decide_eq_true_eq] at h ⊢
  rcases h with (h | h) | h
  · exact .inl (.inl (hr h))
  · exact .inl (.inr (by omega))
  · exact .inr (by omega)

/-- Calls that nobody joins keep the listeners that their groups keep. -/
theorem Listened.mono (h : s.Listened) (hq : s.groupSide.Quiets s'.groupSide)
    (hl : ∀ callId call, s.LiveGroupCall callId call → s.hasListener call.destGssi = true →
      s'.hasListener call.destGssi = true) : s'.Listened := by
  intro callId call' hlive
  obtain ⟨call, hlive', hsame, -⟩ := live_of_quiets hq hlive
  rw [hsame]
  exact hl callId call hlive' (h callId call hlive')

theorem Listened.callMove (h : s.Listened) (hm : CallMove s s') : s'.Listened := by
  intro callId call' hlive
  cases hm with
  | group hg =>
    obtain ⟨call, hc, hsame⟩ := hg.calls callId call' hlive.1
    have hlive' : s.LiveGroupCall callId call :=
      ⟨hc, fun hp => hlive.2 (hg.releases callId (mem_of_lookup hlive.1) hp)⟩
    have hl := h callId call hlive'
    rw [← hsame] at hl
    exact hl
  | individual | shared => exact h callId call' hlive

theorem Listened.entry (h : s.Listened) (he : Entry env s s') : s'.Listened := by
  intro callId call' hlive
  cases he with
  | group hg =>
    obtain ⟨k, opened, -, -, hl, hcalls, -⟩ := hg.opened
    obtain ⟨-, rfl⟩ | hc := hcalls callId call' hlive.1
    · exact hl
    · exact h callId call' ⟨hc, fun hp => hlive.2 (hg.releases ▸ hp)⟩
  | individual => exact h callId call' hlive

theorem Listened.callMoves (h : s.Listened) (hm : ReflTransGen CallMove s s') :
    s'.Listened := by
  induction hm with
  | refl => exact h
  | tail _ hstep ih => exact ih.callMove hstep

theorem releaseIndividualCallsOf_quiets :
    s.groupSide.Quiets (s.releaseIndividualCallsOf env issi).groupSide :=
  ⟨.refl GroupSide.StillSpeaks.refl _, fun _ hk => hk,
    (IndividualSide.Evolves.foldl (fun _ _ => .releaseIndividualCall) _ _).cached⟩

/-! One group after the other is taken from a radio that leaves the cell. -/

def takeGroup (env : Env) (issi : Nat) (s : CcBs) (gssi : Nat) : CcBs :=
  ((s.decGroupListener gssi).clearGroupFloorState env issi gssi).dropIfUnlistened env gssi

theorem takeGroup_quiets : s.groupSide.Quiets (s.takeGroup env issi gssi).groupSide :=
  .trans (clearGroupFloorState_quiets (s := s.decGroupListener gssi)) dropIfUnlistened_quiets

theorem takeGroup_handles :
    Silent issi gssi (s.takeGroup env issi gssi) ∧ Heard gssi (s.takeGroup env issi gssi) :=
  ⟨silent_clearGroupFloorState.quiets dropIfUnlistened_quiets rfl, heard_dropIfUnlistened⟩

theorem hasListener_takeGroup (hg : g ≠ gssi) :
    (s.takeGroup env issi g).hasListener gssi = s.hasListener gssi := by
  have hamount : amount (decListener s.subs.groupListeners g) gssi =
      amount s.subs.groupListeners gssi := by
    rw [amount_decListener, if_neg hg, Nat.sub_zero]
  change (s.registry.hasGroupMembers gssi ||
    decide (amount (decListener s.subs.groupListeners g) gssi > 0) || _) = _
  rw [hamount]
  rfl

theorem deregisterLocal_quiets : s.groupSide.Quiets (s.deregisterLocal env issi).groupSide := by
  unfold deregisterLocal
  split
  · exact .refl _
  · exact List.foldlRecOn (motive := fun t : CcBs => s.groupSide.Quiets t.groupSide) _ _
      (.of_eq rfl rfl rfl) (fun t ht g _ => ht.trans takeGroup_quiets)

theorem deregisterLocal_handles (hg : gssi ∈ s.recordedGroups issi) :
    Silent issi gssi (s.deregisterLocal env issi) ∧ Heard gssi (s.deregisterLocal env issi) := by
  unfold recordedGroups at hg
  unfold deregisterLocal
  cases hl : s.subs.subscriberGroups.lookup issi with
  | none =>
    rw [hl] at hg
    simp at hg
  | some existing =>
    rw [hl, getD_some] at hg
    have hmem : gssi ∈ groupsInOrder env existing := by
      rw [← List.count_pos_iff, count_groupsInOrder, indicator, if_pos hg]
      exact Nat.one_pos
    refine foldl_establishes (Q := fun gssi s => Silent issi gssi s ∧ Heard gssi s)
      (f := takeGroup env issi) (fun s g => takeGroup_handles) (fun s g g' h => ?_) hmem _
    by_cases he : g' = g
    · rw [he]
      exact takeGroup_handles
    · exact ⟨h.1.quiets takeGroup_quiets (hasListener_takeGroup he),
        h.2.quiets takeGroup_quiets (hasListener_takeGroup he)⟩

/-- Calls after an event: a group that is left is handled, and of the others enough is known. -/
theorem listened_and_departed (hq : s.groupSide.Quiets s'.groupSide)
    (hl : ∀ callId call, s.LiveGroupCall callId call →
      Heard call.destGssi s' ∨ s'.hasListener call.destGssi = true)
    (hs : ∀ callId call issi, s.LiveGroupCall callId call →
      s.leaves event issi call.destGssi = true →
      Silent issi call.destGssi s' ∧ Heard call.destGssi s' ∨ call.isCurrentSpeaker issi = false) :
    s'.Listened ∧ Departed s event s' := by
  refine ⟨fun callId call' hlive => ?_, fun callId call' issi hlive hleave => ?_⟩
  · obtain ⟨call, hlive', hsame, -⟩ := live_of_quiets hq hlive
    rw [hsame]
    exact (hl callId call hlive').elim (fun hh => hh callId call' hlive hsame) id
  · obtain ⟨call, hlive', hspeaks⟩ := live_of_quiets hq hlive
    have hsame := hspeaks.1
    rw [hsame] at hleave
    obtain ⟨hsil, hh⟩ | hn := hs callId call issi hlive' hleave
    · exact hsil callId call' hlive hsame (hh callId call' hlive hsame)
    · exact hspeaks.silent hn

theorem mem_removeGroups : g ∈ (removeGroups entry groups).2 ↔ g ∈ entry ∧ g ∈ groups := by
  induction groups generalizing entry with
  | nil => simp [removeGroups]
  | cons g' groups ih =>
    rw [removeGroups]
    split
    · next hg =>
      rw [List.mem_cons, ih, Finset.mem_erase, List.mem_cons]
      by_cases he : g = g'
      · subst he
        simp [hg]
      · simp [he]
    · next hg =>
      rw [ih, List.mem_cons]
      by_cases he : g = g'
      · subst he
        simp [hg]
      · simp [he]

/-- Somebody else listens to a group from which the registry takes a radio. -/
theorem hasListener_of_keepsListener
    (hr : ∀ j, s.registry.containsGroupMember gssi j = true → j ≠ issi →
      s'.registry.containsGroupMember gssi j = true)
    (hl : amount s'.subs.groupListeners gssi = amount s.subs.groupListeners gssi)
    (he : s'.subs.externalGroupListeners = s.subs.externalGroupListeners)
    (h : s.keepsListener (.mmUpdate update) issi gssi = true) : s'.hasListener gssi = true := by
  simp only [keepsListener, Bool.or_eq_true, List.any_eq_true, Bool.and_eq_true, bne_iff_ne, ne_eq]
    at h
  simp only [hasListener, hl, he, Bool.or_eq_true]
  refine Or.imp_left (Or.imp_left ?_) h
  rintro ⟨j, -, hj, hne⟩
  exact hasGroupMembers_iff.mpr ⟨j, hr j hj hne⟩

variable {update : SubscriberUpdate}

theorem issi_of_leaves (h : s.leaves (.mmUpdate update) issi gssi = true) : issi = update.issi := by
  simp only [leaves, Bool.and_eq_true, beq_iff_eq] at h
  exact h.1

/-- An update with which a radio leaves groups: those that are seen to are handled, and for the
others only the registry has changed. -/
theorem handles_update (h : s.Listened) (ho : s.leavesInOrder (.mmUpdate update) = true)
    (hq : s.groupSide.Quiets s'.groupSide)
    (hseen : ∀ g, s.leaves (.mmUpdate update) update.issi g = true →
      s.leavesUnseen (.mmUpdate update) update.issi g = false → Silent update.issi g s' ∧ Heard g s')
    (hr : ∀ g j, s.registry.containsGroupMember g j = true →
      j ≠ update.issi ∨ s.leaves (.mmUpdate update) update.issi g = false →
      s'.registry.containsGroupMember g j = true)
    (hl : ∀ g, s.leaves (.mmUpdate update) update.issi g = false ∨
        s.leavesUnseen (.mmUpdate update) update.issi g = true →
      amount s'.subs.groupListeners g = amount s.subs.groupListeners g)
    (he : s'.subs.externalGroupListeners = s.subs.externalGroupListeners) :
    s'.Listened ∧ Departed s (.mmUpdate update) s' := by
  refine listened_and_departed hq (fun callId call hlive => ?_)
    (fun callId call issi hlive hleave => ?_)
  · cases hleave : s.leaves (.mmUpdate update) update.issi call.destGssi with
    | false =>
      refine .inr (hasListener_mono ?_ (hl _ (.inl hleave)).ge (by rw [he]) (h callId call hlive))
      exact hasGroupMembers_mono (fun j hj => hr _ j hj (.inr hleave))
    | true =>
      cases hu : s.leavesUnseen (.mmUpdate update) update.issi call.destGssi with
      | false => exact .inl (hseen _ hleave hu).2
      | true =>
        have hkeeps := (leavesInOrder_live ho hlive rfl hu).2
        exact .inr (hasListener_of_keepsListener (fun j hj hne => hr _ j hj (.inl hne))
          (hl _ (.inr hu)) he hkeeps)
  · obtain rfl := issi_of_leaves hleave
    cases hu : s.leavesUnseen (.mmUpdate update) update.issi call.destGssi with
    | false => exact .inl (hseen _ hleave hu)
    | true => exact .inr (leavesInOrder_live ho hlive rfl hu).1

/-! Deregistration. -/

theorem amount_deregisterLocal (hg : gssi ∉ s.recordedGroups issi) :
    amount (s.deregisterLocal env issi).subs.groupListeners gssi =
      amount s.subs.groupListeners gssi := by
  cases hl : s.subs.subscriberGroups.lookup issi with
  | none => rw [deregisterLocal, hl]
  | some =>
    rw [recordedGroups, hl, getD_some] at hg
    rw [subs_deregisterLocal hl]
    dsimp only
    rw [amount_foldl_decListener, count_groupsInOrder, indicator, if_neg hg, Nat.sub_zero]

theorem externals_deregisterLocal :
    (s.deregisterLocal env issi).subs.externalGroupListeners = s.subs.externalGroupListeners := by
  cases hl : s.subs.subscriberGroups.lookup issi with
  | none => rw [deregisterLocal, hl]
  | some => rw [subs_deregisterLocal hl]

theorem registry_deregisterLocal : (s.deregisterLocal env issi).registry = s.registry := by
  unfold deregisterLocal
  split
  · rfl
  · exact List.foldlRecOn (motive := fun t : CcBs => t.registry = s.registry) _ _ rfl
      (fun t ht g _ => ht)

theorem handles_deregister (ha : update.action = .deregister) (h : s.Listened)
    (ho : s.leavesInOrder (.mmUpdate update) = true) :
    (s.handleSubscriberUpdate env update).Listened ∧
      Departed s (.mmUpdate update) (s.handleSubscriberUpdate env update) := by
  have hleaves : ∀ g, s.leaves (.mmUpdate update) update.issi g =
      (decide (g ∈ s.recordedGroups update.issi) ||
        s.registry.containsGroupMember g update.issi) := by
    intro g
    simp [leaves, ha]
  have hunseen : ∀ g, s.leavesUnseen (.mmUpdate update) update.issi g =
      (s.registry.containsGroupMember g update.issi &&
        !decide (g ∈ s.recordedGroups update.issi)) := by
    intro g
    rw [leavesUnseen, hleaves, ha]
    cases decide (g ∈ s.recordedGroups update.issi) <;> simp
  obtain ⟨t, ht⟩ : ∃ t, t = { s with registry := s.registry.deregister update.issi } := ⟨_, rfl⟩
  have hshape : s.handleSubscriberUpdate env update =
      (t.deregisterLocal env update.issi).releaseIndividualCallsOf env update.issi := by
    rw [ht]
    simp [handleSubscriberUpdate, syncSharedSubscribersFromMmUpdate, ha]
  have hrec : t.recordedGroups update.issi = s.recordedGroups update.issi := by rw [ht]; rfl
  have hqt : s.groupSide.Quiets t.groupSide := by
    rw [ht]
    exact .of_eq rfl rfl rfl
  rw [hshape]
  refine handles_update h ho
    (hqt.trans (.trans deregisterLocal_quiets releaseIndividualCallsOf_quiets)) ?_ ?_ ?_ ?_
  · intro g hg hu
    have hmem : g ∈ t.recordedGroups update.issi := by
      rw [hrec]
      rw [hleaves] at hg
      rw [hunseen] at hu
      by_contra hn
      simp_all
    exact (deregisterLocal_handles hmem).imp
      (fun hs => hs.quiets releaseIndividualCallsOf_quiets rfl)
      (fun hh => hh.quiets releaseIndividualCallsOf_quiets rfl)
  · intro g j hj hor
    change (t.deregisterLocal env update.issi).registry.containsGroupMember g j = true
    rw [registry_deregisterLocal, ht]
    dsimp only
    rw [containsGroupMember_deregister, hj, Bool.true_and, bne_iff_ne]
    rcases hor with hne | hl
    · exact hne
    · rintro rfl
      rw [hleaves, hj, Bool.or_true] at hl
      cases hl
  · intro g hor
    have hg : g ∉ t.recordedGroups update.issi := by
      rw [hrec]
      rw [hleaves, hunseen] at hor
      intro hg
      simp [hg] at hor
    have hs : t.subs = s.subs := by rw [ht]
    rw [← hs]
    exact amount_deregisterLocal hg
  · have hs : t.subs = s.subs := by rw [ht]
    rw [← hs]
    exact externals_deregisterLocal

/-! Deaffiliation. -/

/-- The state in which a radio leaves groups: registry, record and tally are without them. -/
theorem deaffiliate_shape (ha : update.action = .deaffiliate) :
    ∃ t : CcBs, ∃ left : List Nat,
      s.handleSubscriberUpdate env update = t.leaveGroups env update.issi left ∧
      s.groupSide.Quiets t.groupSide ∧
      t.registry = update.groups.foldl (fun r g => r.deaffiliate update.issi g) s.registry ∧
      (∀ g, g ∈ left ↔ s.leaves (.mmUpdate update) update.issi g = true ∧
        s.leavesUnseen (.mmUpdate update) update.issi g = false) ∧
      (∀ g, g ∉ left →
        amount t.subs.groupListeners g = amount s.subs.groupListeners g) ∧
      t.subs.externalGroupListeners = s.subs.externalGroupListeners := by
  have hleaves : ∀ g, s.leaves (.mmUpdate update) update.issi g = update.groups.contains g := by
    intro g
    simp [leaves, ha]
  cases hl : s.subs.subscriberGroups.lookup update.issi with
  | none =>
    refine ⟨s.syncSharedSubscribersFromMmUpdate update, update.groups, ?_, .of_eq rfl rfl rfl, ?_, ?_,
      fun _ _ => rfl, rfl⟩
    · simp only [handleSubscriberUpdate, ha, deaffiliateLocal]
      rw [show (s.syncSharedSubscribersFromMmUpdate update).subs = s.subs from rfl, hl]
    · simp [syncSharedSubscribersFromMmUpdate, ha]
    · intro g
      have hm : update.issi ∉ s.subs.subscriberGroups := AList.lookup_eq_none.mp hl
      simp [leavesUnseen, hleaves, ha, hm]
  | some entry =>
    refine ⟨(s.syncSharedSubscribersFromMmUpdate update).setSubs
      { s.subs with
        subscriberGroups :=
          s.subs.subscriberGroups.insert update.issi (removeGroups entry update.groups).1
        groupListeners :=
          (removeGroups entry update.groups).2.foldl decListener s.subs.groupListeners },
      (removeGroups entry update.groups).2, ?_, .of_eq rfl rfl rfl, ?_, ?_, ?_, rfl⟩
    · simp only [handleSubscriberUpdate, ha, deaffiliateLocal]
      rw [show (s.syncSharedSubscribersFromMmUpdate update).subs = s.subs from rfl, hl]
    · simp [setSubs, syncSharedSubscribersFromMmUpdate, ha]
    · intro g
      have hm := mem_of_lookup hl
      rw [mem_removeGroups, leavesUnseen, hleaves]
      simp only [recordedGroups, hl, getD_some, ha, hm, List.contains_iff_mem]
      by_cases he : g ∈ entry <;> simp [he]
    · intro g hg
      dsimp only [setSubs]
      rw [amount_foldl_decListener, List.count_eq_zero_of_not_mem hg, Nat.sub_zero]

theorem handles_deaffiliate (ha : update.action = .deaffiliate) (h : s.Listened)
    (ho : s.leavesInOrder (.mmUpdate update) = true) :
    (s.handleSubscriberUpdate env update).Listened ∧
      Departed s (.mmUpdate update) (s.handleSubscriberUpdate env update) := by
  obtain ⟨t, left, hshape, hq, hreg, hleft, hamount, hext⟩ := @deaffiliate_shape env s update ha
  obtain ⟨hregistry, hsubs⟩ :=
    sameSubscribers_of_calls (@leaveGroups_moves env t update.issi left)
  rw [hshape]
  refine handles_update h ho (hq.trans leaveGroups_quiets)
    (fun g hg hu => leaveGroups_handles ((hleft g).mpr ⟨hg, hu⟩)) ?_ ?_ (by rw [hsubs, hext])
  · intro g j hj hor
    rw [hregistry, hreg, containsGroupMember_foldl_deaffiliate, hj,
      Bool.true_and, Bool.not_eq_true', Bool.and_eq_false_iff]
    rcases hor with hne | hl
    · exact .inl (by simpa using hne)
    · exact .inr (by simpa [leaves, ha] using hl)
  · intro g hor
    rw [hsubs]
    refine hamount g (fun hg => ?_)
    obtain ⟨hl, hu⟩ := (hleft g).mp hg
    rw [hl, hu] at hor
    simp at hor

/-! A radio that is kicked. -/

theorem handles_kickMs (h : s.Listened) (ho : s.leavesInOrder (.kickMs kicked) = true) :
    (s.kickMs env kicked).Listened ∧ Departed s (.kickMs kicked) (s.kickMs env kicked) := by
  have hunseen : ∀ issi g, s.leavesUnseen (.kickMs kicked) issi g =
      s.leaves (.kickMs kicked) issi g := fun issi g => by simp [leavesUnseen]
  have hsilent : ∀ callId call issi, s.LiveGroupCall callId call →
      s.leaves (.kickMs kicked) issi call.destGssi = true →
      call.isCurrentSpeaker issi = false := by
    intro callId call issi hlive hleave
    obtain rfl : issi = kicked := by
      simp only [leaves, Bool.and_eq_true, beq_iff_eq] at hleave
      exact hleave.1
    exact (leavesInOrder_live ho hlive rfl (hunseen _ _ ▸ hleave)).1
  unfold kickMs
  cases hl : s.subs.subscriberGroups.lookup kicked with
  | none =>
    exact listened_and_departed (.refl _) (fun callId call hlive => .inr (h callId call hlive))
      (fun callId call issi hlive hleave => .inr (hsilent callId call issi hlive hleave))
  | some groups =>
    refine listened_and_departed (.trans releaseIndividualCallsOf_quiets (.of_eq rfl rfl rfl))
      (fun callId call hlive => .inr ?_)
      (fun callId call issi hlive hleave => .inr (hsilent callId call issi hlive hleave))
    have hamount : amount ((groupsInOrder env groups).foldl decListener
        s.subs.groupListeners) call.destGssi =
        amount s.subs.groupListeners call.destGssi - indicator groups call.destGssi := by
      rw [amount_foldl_decListener, count_groupsInOrder]
    have hlis := h callId call hlive
    change (s.registry.hasGroupMembers call.destGssi ||
      decide (amount ((groupsInOrder env groups).foldl decListener s.subs.groupListeners)
        call.destGssi > 0) ||
      decide (amount s.subs.externalGroupListeners call.destGssi > 0)) = true
    rw [hamount]
    simp only [hasListener, Bool.or_eq_true, decide_eq_true_eq] at hlis ⊢
    by_cases hg : call.destGssi ∈ groups
    · have hleave : s.leaves (.kickMs kicked) kicked call.destGssi = true := by
        simp [leaves, recordedGroups, hl, hg]
      have hk := (leavesInOrder_live ho hlive rfl (hunseen _ _ ▸ hleave)).2
      simp only [keepsListener, Bool.or_eq_true, decide_eq_true_eq] at hk
      rw [indicator, if_pos hg]
      refine Or.imp_left (Or.imp id (fun hc => ?_)) hk
      omega
    · rw [indicator, if_neg hg, Nat.sub_zero]
      exact hlis

/-! Subscribers behind the network, and those that come or stay. -/

theorem Listened.leaveGroups {t : CcBs} (h : s.Listened) (hq : s.groupSide.Quiets t.groupSide)
    (hl : ∀ g, g ∉ left → s.hasListener g = true → t.hasListener g = true) :
    (t.leaveGroups env issi left).Listened := by
  intro callId call' hlive
  obtain ⟨call, hlive', hsame, -⟩ := live_of_quiets (hq.trans leaveGroups_quiets) hlive
  rw [hsame]
  by_cases hg : call.destGssi ∈ left
  · exact (leaveGroups_handles hg).2 callId call' hlive hsame
  · obtain ⟨hregistry, hsubs⟩ := sameSubscribers_of_calls (@leaveGroups_moves env t issi left)
    have ht := hl _ hg (h callId call hlive')
    unfold hasListener at ht ⊢
    rw [hregistry, hsubs]
    exact ht

/-- Listeners behind the network that have left some groups. -/
theorem hasListener_externals {left : List Nat} {subs : Subscribers} (hg : gssi ∉ left)
    (hl : subs.groupListeners = s.subs.groupListeners)
    (he : subs.externalGroupListeners =
      left.foldl decListener s.subs.externalGroupListeners)
    (h : s.hasListener gssi = true) : (s.setSubs subs).hasListener gssi = true := by
  refine hasListener_mono (s := s) id ?_ ?_ h
  · dsimp only [setSubs]
    rw [hl]
  · dsimp only [setSubs]
    rw [he, amount_foldl_decListener, List.count_eq_zero_of_not_mem hg, Nat.sub_zero]

theorem listened_handleExternalSubscriberUpdate (h : s.Listened) :
    (s.handleExternalSubscriberUpdate env update).Listened := by
  unfold handleExternalSubscriberUpdate
  dsimp only
  split
  · split <;> exact h
  · unfold deregisterExternal
    split
    · exact h
    · exact h.leaveGroups (.of_eq rfl rfl rfl) (fun g hg hl => hasListener_externals hg rfl rfl hl)
  · refine h.mono (.of_eq rfl rfl rfl)
      (fun callId call _ hl => hasListener_mono (s := s) id le_rfl ?_ hl)
    dsimp only [affiliateExternal, setSubs]
    rw [amount_foldl_incListener]
    omega
  · unfold deaffiliateExternal
    split
    · exact h
    · exact h.leaveGroups (.of_eq rfl rfl rfl) (fun g hg hl => hasListener_externals hg rfl rfl hl)
  · exact h

theorem listened_register (ha : update.action = .register) (h : s.Listened) :
    (s.handleSubscriberUpdate env update).Listened := by
  have hsync : (s.syncSharedSubscribersFromMmUpdate update).Listened := by
    refine h.mono (.of_eq rfl rfl rfl)
      (fun callId call _ hl => hasListener_mono (s := s) ?_ le_rfl le_rfl hl)
    simp only [syncSharedSubscribersFromMmUpdate, ha]
    split
    · exact id
    rename_i hr
    exact hasGroupMembers_mono (fun j hj => by
      rw [containsGroupMember_register (by simpa using hr)]
      exact hj)
  simp only [handleSubscriberUpdate, ha]
  split <;> exact hsync

theorem listened_affiliate (ha : update.action = .affiliate) (h : s.Listened) :
    (s.handleSubscriberUpdate env update).Listened := by
  have hshape : s.handleSubscriberUpdate env update =
      (s.syncSharedSubscribersFromMmUpdate update).affiliateLocal update.issi update.groups := by
    simp [handleSubscriberUpdate, ha]
  rw [hshape]
  refine h.mono (.of_eq rfl rfl rfl)
    (fun callId call _ hl => hasListener_mono (s := s) ?_ ?_ le_rfl hl)
  · simp only [affiliateLocal, setSubs, syncSharedSubscribersFromMmUpdate, ha]
    exact hasGroupMembers_mono
      (fun j => containsGroupMember_foldl_affiliate)
  · dsimp only [affiliateLocal, setSubs, syncSharedSubscribersFromMmUpdate]
    rw [amount_foldl_incListener]
    omega

theorem Departed.of_not_leaves (h : ∀ issi gssi, s.leaves event issi gssi = false) :
    Departed s event s' := by
  intro callId call issi _ hleave
  rw [h] at hleave
  cases hleave

theorem handles_mmUpdate (h : s.Listened) (ho : s.leavesInOrder (.mmUpdate update) = true) :
    (s.handleSubscriberUpdate env update).Listened ∧
      Departed s (.mmUpdate update) (s.handleSubscriberUpdate env update) := by
  cases ha : update.action with
  | register => exact ⟨listened_register ha h, .of_not_leaves (fun _ _ => by simp [leaves, ha])⟩
  | deregister => exact handles_deregister ha h ho
  | affiliate => exact ⟨listened_affiliate ha h, .of_not_leaves (fun _ _ => by simp [leaves, ha])⟩
  | deaffiliate => exact handles_deaffiliate ha h ho
  | releaseIndividualCalls =>
    refine ⟨?_, .of_not_leaves (fun _ _ => by simp [leaves, ha])⟩
    simp only [handleSubscriberUpdate, syncSharedSubscribersFromMmUpdate, ha]
    exact h.callMoves releaseIndividualCallsOf_moves

theorem handles_event (h : s.Listened) (hd : ∀ k, k ∉ s.pendingIndividualDisconnectDeliveries)
    (ho : s.leavesInOrder event = true) :
    (s.handle env event).Listened ∧ Departed s event (s.handle env event) := by
  cases hc : changesSubscribers event with
  | false =>
    refine ⟨(handle_enters_or_callMoves hd hc).elim h.entry h.callMoves,
      .of_not_leaves (fun _ _ => ?_)⟩
    cases event <;> first | rfl | cases hc
  | true =>
    cases event with
    | mmUpdate => exact handles_mmUpdate h ho
    | brewUpdate =>
      exact ⟨listened_handleExternalSubscriberUpdate h, .of_not_leaves (fun _ _ => rfl)⟩
    | kickMs => exact handles_kickMs h ho
    | registryChanged =>
      exact ⟨fun callId call hlive => leavesInOrder_registry ho hlive,
        .of_not_leaves (fun _ _ => rfl)⟩
    | uplink | network | ulInactivityTimeout | ulFrame | tick | timeslotChanged
    | networkConnectedChanged => cases hc

/-- Listeners are counted right after every event; and where radios leave their groups in order,
every group call has a listener after each event and nobody speaks in a group they have left. -/
theorem listeners_counted_and_departures_handled {cell : CellConfig}
    {registry : SubscriberRegistry} {alloc : TimeslotAllocator} {connected : Bool}
    {inputs : List (Env × CcEvent)}
    (hrun : run step (.start cell registry alloc connected) inputs = some s)
    (hstep : s.step (env, event) = some s') :
    s'.subs.Counted ∧
      (Along step (fun s input => s.leavesInOrder input.2 = true)
        (.start cell registry alloc connected) (inputs ++ [(env, event)]) →
        s'.Listened ∧ Departed s event s') := by
  have hreach : Reachable s := ⟨_, _, _, _, _, hrun⟩
  refine ⟨?_, fun halong => ?_⟩
  · obtain ⟨-, rfl⟩ := step_eq hstep
    exact counted_handle hreach.counted hreach.inv.deliveries
  · obtain ⟨hpre, hlast⟩ := halong.append hrun
    have hlistened : s.Inv ∧ s.Listened := by
      refine run_invariant (P := fun s : CcBs => s.Inv ∧ s.Listened) ?_
        ⟨Inv.start, fun _ _ hlive => by cases hlive.1⟩ hpre hrun
      rintro s ⟨env, event⟩ s' ⟨hi, hl⟩ ho hstep
      refine ⟨hi.step hstep, ?_⟩
      obtain ⟨-, rfl⟩ := step_eq hstep
      exact (handles_event (s := { s with sent := [] }) hl hi.deliveries ho).1
    obtain ⟨-, rfl⟩ := step_eq hstep
    exact handles_event (s := { s with sent := [] }) hlistened.2 hlistened.1.deliveries hlast.1

/-- Two radios are in a group, and the first one speaks in its call. -/
def groupCallInputs : List (Env × CcEvent) :=
  [(.sample .pending, .mmUpdate ⟨1001, [], .register⟩),
    (.sample .pending, .mmUpdate ⟨1001, [9001], .affiliate⟩),
    (.sample .pending, .mmUpdate ⟨1002, [], .register⟩),
    (.sample .pending, .mmUpdate ⟨1002, [9001], .affiliate⟩),
    (.sample .pending, .uplink (.sample 1001) (.uSetup (.sample .p2mp false 9001)))]

/-- A registration has taken the speaker's group from the registry, and MM forgets the group without
a word to call control. Then the speaker is kicked, and MM's answer names no group: the radio goes on
speaking in a group that it has left. -/
theorem kicked_speaker_keeps_floor :
    ∃ s s', run step (.start .sample ∅ .empty true) (groupCallInputs ++ [(.sample .pending,
        .registryChanged (((SubscriberRegistry.register ∅ 1002).affiliate 1002 9001).register
          1001))]) = some s ∧
      run step s [(.sample .pending, .kickMs 1001),
        (.sample .pending, .mmUpdate ⟨1001, [], .deregister⟩)] = some s' ∧
      ¬Departed s (.kickMs 1001) s' := by
  have hspeaks : (run step (.start .sample ∅ .empty true) (groupCallInputs ++ [(.sample .pending,
      .registryChanged (((SubscriberRegistry.register ∅ 1002).affiliate 1002 9001).register
        1001))])).bind (fun s => (run step s [(.sample .pending, .kickMs 1001),
          (.sample .pending, .mmUpdate ⟨1001, [], .deregister⟩)]).bind (fun s' =>
        (s'.activeCalls.lookup 4).map (fun call => (s.leaves (.kickMs 1001) 1001 call.destGssi,
          decide (4 ∈ s'.pendingGroupReleases), call.isCurrentSpeaker 1001)))) =
      some (true, false, true) := by
    decide +kernel
  obtain ⟨s, hs, hspeaks⟩ := bind_eq_some_iff.mp hspeaks
  obtain ⟨s', hs', hspeaks⟩ := bind_eq_some_iff.mp hspeaks
  obtain ⟨call, hl, he⟩ := map_eq_some_iff.mp hspeaks
  simp only [Prod.mk.injEq, decide_eq_false_iff_not] at he
  refine ⟨s, s', hs, hs', fun hd => ?_⟩
  have hsilent := hd 4 call 1001 ⟨hl, he.2.1⟩ he.1
  rw [he.2.2] at hsilent
  cases hsilent

/-- The speaker is deregistered while the other radio listens: the call goes on without it. -/
theorem deregistered_speaker_loses_floor :
    ∃ s s', run step (.start .sample ∅ .empty true) groupCallInputs = some s ∧
      s.step (.sample .pending, .mmUpdate ⟨1001, [], .deregister⟩) = some s' ∧
      (∃ call, s'.LiveGroupCall 4 call) ∧ s'.subs.Counted ∧ s'.Listened ∧
      Departed s (.mmUpdate ⟨1001, [], .deregister⟩) s' := by
  have hrun : (run step (.start .sample ∅ .empty true) groupCallInputs).bind (fun s =>
      (s.step (.sample .pending, .mmUpdate ⟨1001, [], .deregister⟩)).bind (fun s' =>
        (s'.activeCalls.lookup 4).map (fun _ => decide (4 ∈ s'.pendingGroupReleases)))) =
      some false := by
    decide +kernel
  obtain ⟨s, hs, hrun⟩ := bind_eq_some_iff.mp hrun
  obtain ⟨s', hstep, hrun⟩ := bind_eq_some_iff.mp hrun
  obtain ⟨call, hl, he⟩ := map_eq_some_iff.mp hrun
  have hall := listeners_counted_and_departures_handled hs hstep
  have halong : Along step (fun s input => s.leavesInOrder input.2 = true)
      (.start .sample ∅ .empty true)
      (groupCallInputs ++ [(.sample .pending, .mmUpdate ⟨1001, [], .deregister⟩)]) := by
    decide +kernel
  exact ⟨s, s', hs, hstep, ⟨call, hl, by simpa using he⟩, hall.1, hall.2 halong⟩

end CcBs
end NexusBs.Cc
