import NexusBs.Cc.Run
import NexusBs.Cc.SetupFrame

namespace NexusBs.Cc
open Lib Relation

namespace CcBs

/-- What call control does in one go, the subscribers and new calls apart. -/
inductive CallMove : CcBs → CcBs → Prop where
  | group {s : CcBs} {g : GroupSide} (h : s.groupSide.Keeps g) : CallMove s (s.withGroup g)
  | individual {s : CcBs} {i : IndividualSide} (h : s.individualSide.Evolves i) :
      CallMove s (s.withIndividual i)
  | shared {s : CcBs} (shared : Shared) (dltime : TdmaTime) (networkConnected : Bool)
      (h : ∀ k ∈ shared.cachedSetups, k ∈ s.cachedSetups) :
      CallMove s
        { s with toShared := shared, dltime := dltime, networkConnected := networkConnected }

/-- A call is entered. -/
inductive Entry (env : Env) : CcBs → CcBs → Prop where
  | group {s : CcBs} {g : GroupSide}
      (h : GroupSide.Opens (s.ctx env) s.occupiedCallIds s.groupSide g) :
      Entry env s (s.withGroup g)
  | individual {s : CcBs} {i : IndividualSide}
      (h : IndividualSide.Opens s.occupiedCallIds s.individualSide i) :
      Entry env s (s.withIndividual i)

/-- What call control does in one go, new calls apart. -/
inductive Move : CcBs → CcBs → Prop where
  | call {s s' : CcBs} (h : CallMove s s') : Move s s'
  | subscribers {s : CcBs} (registry : SubscriberRegistry) (subs : Subscribers) :
      Move s { s with registry := registry, subs := subs }

/-- Events that may change who is registered or listens. -/
def changesSubscribers : CcEvent → Bool
  | .mmUpdate _ => true
  | .brewUpdate _ => true
  | .kickMs _ => true
  | .registryChanged _ => true
  | _ => false

variable {env : Env} {s s' : CcBs}

theorem moves_of_calls (h : ReflTransGen CallMove s s') : ReflTransGen Move s s' :=
  ReflTransGen.mono (fun _ _ => Move.call) s s' h

theorem CallMove.send (msgs : List Msg) : CallMove s (s.send msgs) :=
  .shared (s.toShared.send msgs) s.dltime s.networkConnected (fun _ hk => hk)

theorem deliveries_of_calls (h : ReflTransGen CallMove s s')
    (hd : ∀ k, k ∉ s.pendingIndividualDisconnectDeliveries) :
    ∀ k, k ∉ s'.pendingIndividualDisconnectDeliveries := by
  induction h with
  | refl => exact hd
  | tail _ hm ih =>
    cases hm with
    | group | shared => exact ih
    | individual h => exact fun k hk => ih k (h.deliveries k hk)

/-! Uplink PDUs. -/

variable {ul : UlContext} {callId : Nat}

/-- A U-SETUP enters a call as the only thing it does, or enters none. -/
theorem fsmOnUSetup_enters_or_moves : Entry env s (s.fsmOnUSetup env ul pdu) ∨
    ReflTransGen CallMove s (s.fsmOnUSetup env ul pdu) := by
  unfold fsmOnUSetup
  split
  · exact .inr (.single (.send _))
  split
  · exact IndividualSide.fsmOnUSetupP2p_evolves_or_opens.symm.imp .individual
      (fun h => .single (.individual h))
  · exact GroupSide.fsmOnUSetupGroup_keeps_or_opens.symm.imp .group (fun h => .single (.group h))

theorem fsmOnUTxCeased_moves : ReflTransGen CallMove s (s.fsmOnUTxCeased env ul callId) := by
  unfold fsmOnUTxCeased
  split
  · next h => exact .single (.individual (.fsmOnUTxCeased h))
  · exact .single (.group .fsmGroupOnTxCeased)

theorem fsmOnUTxDemand_moves :
    ReflTransGen CallMove s (s.fsmOnUTxDemand env ul callId priority) := by
  unfold fsmOnUTxDemand
  split
  · next h => exact .single (.individual (.fsmOnUTxDemand h))
  split
  · exact .refl
  refine .single (.group ?_)
  have hk : s.groupSide.Keeps
      (s.groupSide.fsmGroupOnTxDemand (s.ctx env) callId ul.address priority).1 :=
    .fsmGroupOnTxDemand
  dsimp only
  split
  · next heq =>
    rw [heq] at hk
    exact .trans hk (.send _)
  rename_i heq
  rw [heq] at hk
  exact hk

theorem fsmOnURelease_moves : ReflTransGen CallMove s (s.fsmOnURelease env ul callId) := by
  unfold fsmOnURelease
  split
  · exact .single (.individual .fsmOnURelease)
  split
  · exact .refl
  split
  · exact .refl
  split
  · exact .refl
  · exact .single (.send _)

theorem fsmOnUDisconnect_moves :
    ReflTransGen CallMove s (s.fsmOnUDisconnect env ul callId cause) := by
  unfold fsmOnUDisconnect
  split
  · exact .single (.individual .fsmOnUDisconnect)
  split
  · exact .single (.send _)
  split
  · exact .refl
  split
  · exact .refl
  split
  · exact .single (.group .releaseGroupCall)
  · exact .single (.send _)

theorem orNotSupported_moves {ty : CmcePduTypeUl} (h : ReflTransGen CallMove s s') :
    ReflTransGen CallMove s (s.orNotSupported ul ty callId unsupported s') := by
  unfold orNotSupported
  split
  · exact .single (.send _)
  · exact h

/-- A PDU opens a call, or it moves calls on. -/
theorem routeXxDeliver_enters_or_moves : Entry env s (s.routeXxDeliver env ul pdu) ∨
    ReflTransGen CallMove s (s.routeXxDeliver env ul pdu) := by
  cases pdu with
  | uSetup => exact fsmOnUSetup_enters_or_moves
  | uTxCeased => exact .inr fsmOnUTxCeased_moves
  | uTxDemand => exact .inr (orNotSupported_moves fsmOnUTxDemand_moves)
  | uRelease => exact .inr (orNotSupported_moves fsmOnURelease_moves)
  | uDisconnect => exact .inr (orNotSupported_moves fsmOnUDisconnect_moves)
  | uAlert => exact .inr (.single (.individual .rxUAlert))
  | uConnect => exact .inr (.single (.individual .fsmOnUConnect))
  | uInfo => exact .inr (orNotSupported_moves (.single (.individual .fsmOnUInfo)))
  | uCallRestore => exact .inr (.single (.send _))

theorem rxCallControl_enters_or_moves : Entry env s (s.rxCallControl env event) ∨
    ReflTransGen CallMove s (s.rxCallControl env event) := by
  cases event with
  | callStart =>
    exact GroupSide.fsmOnNetworkCallStart_keeps_or_opens.symm.imp .group
      (fun h => .single (.group h))
  | circuitSetupRequest =>
    exact IndividualSide.fsmOnNetworkCircuitSetupRequest_evolves_or_opens.symm.imp .individual
      (fun h => .single (.individual h))
  | callEnd => exact .inr (.single (.group .rxNetworkCallEnd))
  | circuitSetupReject => exact .inr (.single (.individual .rxNetworkCircuitSetupReject))
  | circuitAlert => exact .inr (.single (.individual .rxNetworkCircuitAlert))
  | circuitConnectRequest =>
    exact .inr (.single (.individual .fsmOnNetworkCircuitConnectRequest))
  | circuitConnectConfirm =>
    exact .inr (.single (.individual .fsmOnNetworkCircuitConnectConfirm))
  | circuitSimplexGranted =>
    exact .inr (.single (.individual .fsmOnNetworkCircuitSimplexGranted))
  | circuitSimplexIdle => exact .inr (.single (.individual .fsmOnNetworkCircuitSimplexIdle))
  | circuitRelease => exact .inr (.single (.individual .rxNetworkCircuitRelease))

/-! Time. -/

theorem handleUlInactivityTimeout_moves :
    ReflTransGen CallMove s (s.handleUlInactivityTimeout env ts) := by
  unfold handleUlInactivityTimeout
  split
  · next h => exact .single (.individual (.individualUlInactivity (Table.find_some h).1))
  split
  · next h => exact .single (.group (.groupUlInactivity (Table.find_some h).1))
  split
  · exact .single (.send _)
  · exact .refl

theorem drainPending_moves (hd : ∀ k, k ∉ s.pendingIndividualDisconnectDeliveries) :
    ReflTransGen CallMove s (s.drainPending env) := by
  unfold drainPending
  refine .tail ?_ (.individual .driveParrotSession)
  refine .tail ?_ (.individual .drainPendingNetworkIndividualConnects)
  refine .tail ?_ (.individual .drainPendingIndividualConnectAcks)
  refine .tail ?_ (.individual .checkIndividualDisconnectPendingTimeout)
  refine .tail ?_ (.individual .drainPendingIndividualDisconnectReleaseAcks)
  suffices hpre : ReflTransGen CallMove s _ from
    hpre.tail (.individual (.drainPendingIndividualDisconnectDeliveries
      (deliveries_of_calls hpre hd)))
  refine .tail ?_ (.individual .drainPendingIndividualReleases)
  refine .tail ?_ (.group .drainPendingGroupReleases)
  refine .tail ?_ (.individual .drainPendingIndividualDisconnectTailDrains)
  refine .tail ?_ (.group .drainPendingNetworkGroupReadies)
  refine .tail ?_ (.group .drainPendingGroupFloorActivations)
  refine .tail ?_ (.group .drainPendingGroupTxCeasedTailDrains)
  exact .single (.individual .drainPendingIndividualTxCeasedTailDrains)

theorem checkTimers_moves : ReflTransGen CallMove s (s.checkTimers env) := by
  unfold checkTimers
  refine .tail ?_ (.group .checkHangtimeExpiry)
  refine .tail ?_ (.individual .checkIndividualSetupTimeout)
  refine .tail ?_ (.individual .checkIndividualCallTimeoutExpiry)
  exact .single (.group .checkGroupCallTimeoutExpiry)

theorem resendDSetup_moves :
    ReflTransGen CallMove s (s.resendDSetup env callId usage ts) := by
  unfold resendDSetup
  split
  · exact .refl
  split
  · exact .refl
  rename_i h
  split
  · exact .refl
  refine .single (.shared _ s.dltime s.networkConnected (fun k hk => ?_))
  obtain rfl | hk := (AList.mem_insert _).mp hk
  · exact Table.mem_of_lookup h
  · exact hk

theorem closeStaleCircuit_moves :
    ReflTransGen CallMove s (s.closeStaleCircuit env callId circuit) := by
  unfold closeStaleCircuit
  split
  · exact .refl
  split
  · exact .single (.group GroupSide.Quiets.beginGroupRelease.keeps)
  split
  · exact .single (.individual .beginIndividualRelease)
  · exact .single (.shared _ s.dltime s.networkConnected (fun _ hk => hk))

theorem tickCircuits_moves : ReflTransGen CallMove s (s.tickCircuits env) := by
  have hmgr : CallMove s { s with circuits := (s.circuits.tickStart s.dltime).2 } :=
    .shared _ s.dltime s.networkConnected (fun _ hk => hk)
  refine List.foldlRecOn (motive := ReflTransGen CallMove s) _ _ (.single hmgr)
    (fun t ht task _ => ht.trans ?_)
  cases task with
  | sendDSetup => exact resendDSetup_moves
  | sendClose => exact closeStaleCircuit_moves

section

variable (hd : ∀ k, k ∉ s.pendingIndividualDisconnectDeliveries)
include hd

/-- Time opens no call. -/
theorem tickStart_moves {dltime : TdmaTime} :
    ReflTransGen CallMove s (s.tickStart env dltime) := by
  have htime : CallMove s { s with dltime := dltime } :=
    .shared s.toShared dltime s.networkConnected (fun _ hk => hk)
  refine .trans ?_ tickCircuits_moves
  refine .trans ?_ checkTimers_moves
  exact .trans (.single htime) (drainPending_moves hd)

/-- Whatever does not touch the subscribers enters a call or is made of moves of the calls. -/
theorem handle_enters_or_callMoves {event : CcEvent} (hc : changesSubscribers event = false) :
    Entry env s (s.handle env event) ∨ ReflTransGen CallMove s (s.handle env event) := by
  cases event with
  | uplink => exact routeXxDeliver_enters_or_moves
  | network => exact rxCallControl_enters_or_moves
  | ulInactivityTimeout => exact .inr handleUlInactivityTimeout_moves
  | ulFrame =>
    exact .inr (.tail (.single (.individual .handleParrotUlFrame)) (.individual .handleEchoUlFrame))
  | tick => exact .inr (tickStart_moves hd)
  | timeslotChanged =>
    right
    unfold handle
    dsimp only
    split
    · exact .refl
    split
    · exact .single (.shared _ s.dltime s.networkConnected (fun _ hk => hk))
    · exact .single (.shared _ s.dltime s.networkConnected (fun _ hk => hk))
  | networkConnectedChanged connected =>
    exact .inr (.single (.shared s.toShared s.dltime connected (fun _ hk => hk)))
  | mmUpdate | brewUpdate | kickMs | registryChanged => cases hc

end

/-! Subscribers. -/

theorem setSubs_move (subs : Subscribers) : Move s (s.setSubs subs) :=
  .subscribers s.registry subs

theorem leaveGroups_moves : ReflTransGen CallMove s (s.leaveGroups env issi groups) := by
  refine List.foldlRecOn (motive := ReflTransGen CallMove s) _ _ ?_
    (fun t ht gssi _ => ht.tail (.group GroupSide.Quiets.dropGroupCallsIfUnlistened.keeps))
  exact List.foldlRecOn (motive := ReflTransGen CallMove s) _ _ .refl
    (fun t ht gssi _ => ht.tail (.group GroupSide.Quiets.clearGroupFloorStateForDeparture.keeps))

theorem releaseIndividualCallsOf_moves :
    ReflTransGen CallMove s (s.releaseIndividualCallsOf env issi) :=
  .single (.individual (.foldl (fun _ _ => .releaseIndividualCall) _ _))

theorem deregisterLocal_moves : ReflTransGen Move s (s.deregisterLocal env issi) := by
  unfold deregisterLocal
  split
  · exact .refl
  refine List.foldlRecOn (motive := ReflTransGen Move s) _ _ (.single (setSubs_move _))
    (fun t ht gssi _ => ?_)
  refine .tail ?_ (.call (.group GroupSide.Quiets.dropGroupCallsIfUnlistened.keeps))
  refine .tail ?_ (.call (.group GroupSide.Quiets.clearGroupFloorStateForDeparture.keeps))
  exact .tail ht (setSubs_move _)

theorem deaffiliateLocal_moves :
    ReflTransGen Move s (s.deaffiliateLocal env issi groups) := by
  unfold deaffiliateLocal
  split
  · exact moves_of_calls leaveGroups_moves
  · exact .trans (.single (setSubs_move _)) (moves_of_calls leaveGroups_moves)

theorem handleSubscriberUpdate_moves :
    ReflTransGen Move s (s.handleSubscriberUpdate env update) := by
  have hsync : Move s (s.syncSharedSubscribersFromMmUpdate update) := .subscribers _ s.subs
  refine .trans (.single hsync) ?_
  unfold handleSubscriberUpdate
  dsimp only
  split
  · split
    · exact .refl
    · exact .single (setSubs_move _)
  · exact .trans deregisterLocal_moves (moves_of_calls releaseIndividualCallsOf_moves)
  · exact .single (setSubs_move _)
  · exact deaffiliateLocal_moves
  · exact moves_of_calls releaseIndividualCallsOf_moves

theorem handleExternalSubscriberUpdate_moves :
    ReflTransGen Move s (s.handleExternalSubscriberUpdate env update) := by
  unfold handleExternalSubscriberUpdate
  dsimp only
  split
  · split
    · exact .refl
    · exact .single (setSubs_move _)
  · unfold deregisterExternal
    split
    · exact .refl
    · exact .trans (.single (setSubs_move _)) (moves_of_calls leaveGroups_moves)
  · exact .single (setSubs_move _)
  · unfold deaffiliateExternal
    split
    · exact .refl
    · exact .trans (.single (setSubs_move _)) (moves_of_calls leaveGroups_moves)
  · exact .refl

theorem kickMs_moves : ReflTransGen Move s (s.kickMs env issi) := by
  unfold kickMs
  split
  · exact .refl
  · refine .tail ?_ (.call (.send _))
    exact .tail (moves_of_calls releaseIndividualCallsOf_moves) (setSubs_move _)

/-- Whatever call control does enters a call or is made of moves. -/
theorem handle_enters_or_moves {event : CcEvent}
    (hd : ∀ k, k ∉ s.pendingIndividualDisconnectDeliveries) :
    Entry env s (s.handle env event) ∨ ReflTransGen Move s (s.handle env event) := by
  cases hc : changesSubscribers event with
  | false => exact (handle_enters_or_callMoves hd hc).imp_right moves_of_calls
  | true =>
    cases event with
    | mmUpdate => exact .inr handleSubscriberUpdate_moves
    | brewUpdate => exact .inr handleExternalSubscriberUpdate_moves
    | kickMs => exact .inr kickMs_moves
    | registryChanged registry => exact .inr (.single (.subscribers registry s.subs))
    | uplink | network | ulInactivityTimeout | ulFrame | tick | timeslotChanged
    | networkConnectedChanged => cases hc

end CcBs
end NexusBs.Cc
