import NexusBs.Cc.Reach
import NexusBs.Lib.Tally

namespace NexusBs.Cc
open Lib Relation Table List

namespace Subscribers

variable {t : Table Nat} {gssi : Nat}

/-- A tally of listeners agrees with the groups that are recorded for each subscriber. -/
def Tallied (groups : Table (Finset Nat)) (listeners : Table Nat) : Prop :=
  ∀ gssi, amount listeners gssi = members groups gssi

/-- Both tallies agree with what is recorded. -/
def Counted (subs : Subscribers) : Prop :=
  Tallied subs.subscriberGroups subs.groupListeners ∧
    Tallied subs.externalSubscriberGroups subs.externalGroupListeners

theorem amount_incListener :
    amount (incListener t g) gssi = amount t gssi + if g = gssi then 1 else 0 := by
  unfold incListener amount
  by_cases h : gssi = g
  · subst h
    rw [AList.lookup_insert]
    simp
  · rw [AList.lookup_insert_ne h, if_neg (Ne.symm h), Nat.add_zero]

theorem amount_decListener :
    amount (decListener t g) gssi = amount t gssi - if g = gssi then 1 else 0 := by
  unfold decListener amount
  by_cases h : gssi = g
  · subst h
    cases hl : t.lookup gssi with
    | none => simp [hl]
    | some =>
      dsimp only
      split
      · rw [AList.lookup_erase]
        simp only [Option.getD_none, Option.getD_some, if_true]
        omega
      · rw [AList.lookup_insert]
        simp
  · rw [if_neg (Ne.symm h), Nat.sub_zero]
    cases t.lookup g with
    | none => rfl
    | some =>
      dsimp only
      split
      · rw [AList.lookup_erase_ne h]
      · rw [AList.lookup_insert_ne h]

theorem amount_foldl_incListener (groups : List Nat) :
    amount (groups.foldl incListener t) gssi = amount t gssi + groups.count gssi := by
  induction groups generalizing t with
  | nil => rfl
  | cons g groups ih =>
    rw [foldl_cons, ih, amount_incListener, count_cons]
    simp only [beq_iff_eq]
    omega

theorem amount_foldl_decListener (groups : List Nat) :
    amount (groups.foldl decListener t) gssi = amount t gssi - groups.count gssi := by
  induction groups generalizing t with
  | nil => rfl
  | cons g groups ih =>
    rw [foldl_cons, ih, amount_decListener, count_cons]
    simp only [beq_iff_eq]
    omega

theorem indicator_insert (hg : g ∉ entry) (gssi : Nat) :
    indicator (insert g entry) gssi = indicator entry gssi + if g = gssi then 1 else 0 := by
  by_cases he : g = gssi
  · subst he
    simp [indicator, hg]
  · simp [indicator, he, Ne.symm he]

/-- The groups that are new to a subscriber are those that it has after and had not before. -/
theorem count_addGroups (entry : Finset Nat) (groups : List Nat) (gssi : Nat) :
    (addGroups entry groups).2.count gssi + indicator entry gssi =
      indicator (addGroups entry groups).1 gssi := by
  induction groups generalizing entry with
  | nil => simp [addGroups]
  | cons g groups ih =>
    rw [addGroups]
    split
    · exact ih entry
    rename_i hg
    have hi := ih (insert g entry)
    rw [indicator_insert hg] at hi
    simp only [count_cons, beq_iff_eq]
    omega

theorem count_removeGroups (entry : Finset Nat) (groups : List Nat) (gssi : Nat) :
    (removeGroups entry groups).2.count gssi + indicator (removeGroups entry groups).1 gssi =
      indicator entry gssi := by
  induction groups generalizing entry with
  | nil => simp [removeGroups]
  | cons g groups ih =>
    rw [removeGroups]
    split
    · next hg =>
      have hi := ih (entry.erase g)
      have hin := indicator_insert (Finset.notMem_erase g entry) gssi
      rw [Finset.insert_erase hg] at hin
      simp only [count_cons, beq_iff_eq]
      omega
    · exact ih entry

theorem count_groupsInOrder (env : Env) (groups : Finset Nat) (gssi : Nat) :
    (CcBs.groupsInOrder env groups).count gssi = indicator groups gssi := by
  have hperm := (env.order .subscriberGroups).perm (groups.sort (· ≤ ·))
  rw [CcBs.groupsInOrder, hperm.count_eq, indicator]
  split
  · next h => exact count_eq_one_of_mem (Finset.sort_nodup _ _) ((Finset.mem_sort _).mpr h)
  · next h => exact count_eq_zero_of_not_mem (fun hm => h ((Finset.mem_sort _).mp hm))

namespace Tallied

variable {groups : Table (Finset Nat)} {listeners : Table Nat} {issi : Nat} {entry : Finset Nat}

variable (h : Tallied groups listeners)
include h

theorem register (hi : issi ∉ groups) : Tallied (groups.insert issi ∅) listeners := by
  intro gssi
  have hm := members_insert groups issi ∅ gssi
  rw [AList.lookup_eq_none.mpr hi] at hm
  rw [h gssi]
  simpa using hm.symm

theorem affiliate (added : List Nat) :
    Tallied (groups.insert issi (addGroups ((groups.lookup issi).getD ∅) added).1)
      ((addGroups ((groups.lookup issi).getD ∅) added).2.foldl incListener listeners) := by
  intro gssi
  have hm := members_insert groups issi
    (addGroups ((groups.lookup issi).getD ∅) added).1 gssi
  have hc := count_addGroups ((groups.lookup issi).getD ∅) added gssi
  rw [amount_foldl_incListener, h gssi]
  omega

theorem deaffiliate (he : groups.lookup issi = some entry) (removed : List Nat) :
    Tallied (groups.insert issi (removeGroups entry removed).1)
      ((removeGroups entry removed).2.foldl decListener listeners) := by
  intro gssi
  have hm := members_insert groups issi (removeGroups entry removed).1 gssi
  have hc := count_removeGroups entry removed gssi
  rw [he, Option.getD_some] at hm
  rw [amount_foldl_decListener, h gssi]
  omega

/-- A subscriber whose groups are all taken from the tally can be forgotten. -/
theorem erase (he : groups.lookup issi = some entry) {removed : List Nat}
    (hr : ∀ gssi, removed.count gssi = indicator entry gssi) :
    Tallied (groups.erase issi) (removed.foldl decListener listeners) := by
  intro gssi
  have hm := members_erase groups issi gssi
  rw [he, Option.getD_some] at hm
  rw [amount_foldl_decListener, h gssi, hr gssi]
  omega

/-- A subscriber that is left without groups is forgotten. -/
theorem deaffiliate_erase (he : groups.lookup issi = some entry)
    (hn : (removeGroups entry removed).1 = ∅) :
    Tallied (groups.erase issi) ((removeGroups entry removed).2.foldl decListener listeners) := by
  refine h.erase he (fun gssi => ?_)
  have hc := count_removeGroups entry removed gssi
  rw [hn, indicator_empty, Nat.add_zero] at hc
  exact hc

end Tallied
end Subscribers

namespace CcBs

open Subscribers

variable {env : Env} {s s' : CcBs}

theorem CallMove.sameSubscribers (h : CallMove s s') :
    s'.registry = s.registry ∧ s'.subs = s.subs := by
  cases h with
  | group | individual | shared => exact ⟨rfl, rfl⟩

theorem sameSubscribers_of_calls (h : ReflTransGen CallMove s s') :
    s'.registry = s.registry ∧ s'.subs = s.subs := by
  induction h with
  | refl => exact ⟨rfl, rfl⟩
  | tail _ hm ih =>
    obtain ⟨hr, hs⟩ := hm.sameSubscribers
    exact ⟨hr.trans ih.1, hs.trans ih.2⟩

theorem Entry.subs_eq (h : Entry env s s') : s'.subs = s.subs := by
  cases h with
  | group | individual => rfl

variable {issi : Nat}

theorem subs_leaveGroups : (s.leaveGroups env issi groups).subs = s.subs :=
  (sameSubscribers_of_calls leaveGroups_moves).2

theorem subs_releaseIndividualCallsOf : (s.releaseIndividualCallsOf env issi).subs = s.subs :=
  (sameSubscribers_of_calls releaseIndividualCallsOf_moves).2

/-- One group after the other is taken from a radio that leaves the cell. -/
theorem subs_foldl_leave (groups : List Nat) :
    (groups.foldl (fun s gssi =>
      ((s.decGroupListener gssi).clearGroupFloorState env issi gssi).dropIfUnlistened env gssi)
      s).subs =
      { s.subs with groupListeners := groups.foldl decListener s.subs.groupListeners } := by
  induction groups generalizing s with
  | nil => rfl
  | cons gssi groups ih =>
    rw [foldl_cons, ih]
    rfl

theorem subs_deregisterLocal (h : s.subs.subscriberGroups.lookup issi = some existing) :
    (s.deregisterLocal env issi).subs =
      { s.subs with
        subscriberGroups := s.subs.subscriberGroups.erase issi
        groupListeners :=
          (groupsInOrder env existing).foldl decListener s.subs.groupListeners } := by
  unfold deregisterLocal
  rw [h]
  exact subs_foldl_leave _

theorem counted_deregisterLocal (h : s.subs.Counted) :
    (s.deregisterLocal env issi).subs.Counted := by
  cases hl : s.subs.subscriberGroups.lookup issi with
  | none =>
    rw [deregisterLocal, hl]
    exact h
  | some existing =>
    rw [subs_deregisterLocal hl]
    exact ⟨h.1.erase hl (count_groupsInOrder env existing), h.2⟩

theorem counted_deaffiliateLocal (h : s.subs.Counted) :
    (s.deaffiliateLocal env issi groups).subs.Counted := by
  unfold deaffiliateLocal
  split
  · rw [subs_leaveGroups]
    exact h
  rename_i entry hl
  rw [subs_leaveGroups]
  exact ⟨h.1.deaffiliate hl groups, h.2⟩

theorem counted_handleSubscriberUpdate (h : s.subs.Counted) :
    (s.handleSubscriberUpdate env update).subs.Counted := by
  unfold handleSubscriberUpdate
  dsimp only
  split
  · split
    · exact h
    · next hn => exact ⟨h.1.register hn, h.2⟩
  · rw [subs_releaseIndividualCallsOf]
    exact counted_deregisterLocal h
  · exact ⟨h.1.affiliate update.groups, h.2⟩
  · exact counted_deaffiliateLocal h
  · rw [subs_releaseIndividualCallsOf]
    exact h

theorem counted_handleExternalSubscriberUpdate (h : s.subs.Counted) :
    (s.handleExternalSubscriberUpdate env update).subs.Counted := by
  unfold handleExternalSubscriberUpdate
  dsimp only
  split
  · split
    · exact h
    · next hn => exact ⟨h.1, h.2.register hn⟩
  · unfold deregisterExternal
    split
    · exact h
    rename_i existing hl
    dsimp only
    rw [subs_leaveGroups]
    exact ⟨h.1, h.2.erase hl (count_groupsInOrder env existing)⟩
  · exact ⟨h.1, h.2.affiliate update.groups⟩
  · unfold deaffiliateExternal
    split
    · exact h
    rename_i entry hl
    dsimp only
    rw [subs_leaveGroups]
    refine ⟨h.1, ?_⟩
    dsimp only [setSubs]
    split
    · next hn => exact h.2.deaffiliate_erase hl hn
    · exact h.2.deaffiliate hl update.groups
  · exact h

theorem counted_kickMs (h : s.subs.Counted) : (s.kickMs env issi).subs.Counted := by
  unfold kickMs
  split
  · exact h
  rename_i groups hl
  have hs := @subs_releaseIndividualCallsOf env s issi
  refine ⟨?_, ?_⟩
  · have ht : Tallied (s.subs.subscriberGroups.erase issi)
        ((groupsInOrder env groups).foldl decListener s.subs.groupListeners) :=
      h.1.erase hl (count_groupsInOrder env groups)
    dsimp only [send, setSubs]
    rw [hs]
    exact ht
  · dsimp only [send, setSubs]
    rw [hs]
    exact h.2

theorem counted_handle (h : s.subs.Counted)
    (hd : ∀ k, k ∉ s.pendingIndividualDisconnectDeliveries) :
    (s.handle env event).subs.Counted := by
  cases hc : changesSubscribers event with
  | false =>
    have hs : (s.handle env event).subs = s.subs :=
      (handle_enters_or_callMoves hd hc).elim Entry.subs_eq
        (fun hm => (sameSubscribers_of_calls hm).2)
    rw [hs]
    exact h
  | true =>
    cases event with
    | mmUpdate => exact counted_handleSubscriberUpdate h
    | brewUpdate => exact counted_handleExternalSubscriberUpdate h
    | kickMs => exact counted_kickMs h
    | registryChanged => exact h
    | uplink | network | ulInactivityTimeout | ulFrame | tick | timeslotChanged
    | networkConnectedChanged => cases hc

end CcBs

/-- Listeners are counted right in every state. -/
theorem Reachable.counted (h : Reachable s) : s.subs.Counted := by
  obtain ⟨cell, registry, alloc, connected, inputs, hr⟩ := h
  have hboth : s.Inv ∧ s.subs.Counted := by
    refine run_invariant (P := fun s : CcBs => s.Inv ∧ s.subs.Counted) ?_
      ⟨CcBs.Inv.start, fun _ => rfl, fun _ => rfl⟩
      (Along.of_forall (p := fun _ => True) (fun _ _ => trivial)) hr
    rintro s ⟨env, event⟩ s' ⟨hi, hc⟩ - hstep
    refine ⟨hi.step hstep, ?_⟩
    obtain ⟨-, rfl⟩ := CcBs.step_eq hstep
    exact CcBs.counted_handle hc hi.deliveries
  exact hboth.2

end NexusBs.Cc
