import NexusBs.Cc.Network
import Mathlib.Data.Finset.Sort

namespace NexusBs.Cc
open Lib Subscribers

/-- Call control of the base station, with the shared state that it works on. -/
structure CcBs extends Shared, GroupTables, IndividualTables where
  cell : CellConfig
  dltime : TdmaTime
  registry : SubscriberRegistry
  subs : Subscribers
  networkConnected : Bool

/-- What an event finds besides the state: the order of the hash tables, how far the transfers have
come, and an identifier for a new network call. -/
structure Env where
  order : TableName → Order
  tx : Nat → TxState
  newUuid : Nat

/-- Receipts that are handed out in the course of a step have not been acted on in it. -/
def Env.knows (env : Env) (nextReporter : Nat) : Env :=
  { env with tx := fun handle => if handle < nextReporter then env.tx handle else .pending }

inductive SubscriberAction where
  | register | deregister | affiliate | deaffiliate | releaseIndividualCalls
deriving DecidableEq

structure SubscriberUpdate where
  issi : Nat
  groups : List Nat
  action : SubscriberAction

/-- The groups with those of a list, and which of the list are new. -/
def addGroups (entry : Finset Nat) : List Nat → Finset Nat × List Nat
  | [] => (entry, [])
  | gssi :: groups =>
    if gssi ∈ entry then addGroups entry groups
    else
      let r := addGroups (insert gssi entry) groups
      (r.1, gssi :: r.2)

/-- The groups without those of a list, and which of the list were there. -/
def removeGroups (entry : Finset Nat) : List Nat → Finset Nat × List Nat
  | [] => (entry, [])
  | gssi :: groups =>
    if gssi ∈ entry then
      let r := removeGroups (entry.erase gssi) groups
      (r.1, gssi :: r.2)
    else removeGroups entry groups

namespace CcBs

variable (env : Env) (s : CcBs) (issi : Nat) (groups : List Nat)

def ctx (env : Env) : Ctx where
  cell := s.cell
  dltime := s.dltime
  registry := s.registry
  subs := s.subs
  networkConnected := s.networkConnected
  order := env.order
  tx := env.tx
  newUuid := env.newUuid

def groupSide : GroupSide := ⟨s.toShared, s.toGroupTables⟩

def individualSide : IndividualSide := ⟨s.toShared, s.toIndividualTables⟩

def withGroup (g : GroupSide) : CcBs :=
  { s with toShared := g.toShared, toGroupTables := g.toGroupTables }

def withIndividual (i : IndividualSide) : CcBs :=
  { s with toShared := i.toShared, toIndividualTables := i.toIndividualTables }

/-- Handle an event in the part of the state that group calls live in. -/
def onGroup (f : GroupSide → GroupSide) : CcBs := s.withGroup (f s.groupSide)

/-- Handle an event in the part of the state that individual calls live in. -/
def onIndividual (f : IndividualSide → IndividualSide) : CcBs :=
  s.withIndividual (f s.individualSide)

def send (s : CcBs) (msgs : List Msg) : CcBs := { s with toShared := s.toShared.send msgs }

/-! Subscribers. -/

def setSubs (subs : Subscribers) : CcBs := { s with subs := subs }

def decGroupListener (gssi : Nat) : CcBs :=
  s.setSubs { s.subs with groupListeners := decListener s.subs.groupListeners gssi }

/-- A radio has left a group: it gives up the floor there. -/
def clearGroupFloorState (gssi : Nat) : CcBs :=
  s.onGroup (fun g => g.clearGroupFloorStateForDeparture (s.ctx env) issi gssi)

/-- Calls that nobody listens to any more are released. -/
def dropIfUnlistened (gssi : Nat) : CcBs :=
  s.onGroup (fun g => g.dropGroupCallsIfUnlistened (s.ctx env) gssi)

/-- All floors first, then all calls. -/
def leaveGroups : CcBs :=
  let s := groups.foldl (fun s gssi => s.clearGroupFloorState env issi gssi) s
  groups.foldl (fun s gssi => s.dropIfUnlistened env gssi) s

def releaseIndividualCallsOf : CcBs :=
  s.onIndividual (fun i =>
    (i.individualCalls.select (env.order .individualCalls) (fun _ call =>
      call.involves issi)).foldl
      (fun i callId => i.releaseIndividualCall (s.ctx env) callId .userRequestedDisconnection) i)

def groupsInOrder (groups : Finset Nat) : List Nat :=
  (env.order .subscriberGroups).visit (groups.sort (· ≤ ·))

/-- MM's updates reach the shared registry as well. -/
def syncSharedSubscribersFromMmUpdate (update : SubscriberUpdate) : CcBs :=
  let r := s.registry
  let registry :=
    match update.action with
    | .register => if r.isRegistered update.issi then r else r.register update.issi
    | .deregister => r.deregister update.issi
    | .affiliate => update.groups.foldl (fun r gssi => r.affiliate update.issi gssi) r
    | .deaffiliate => update.groups.foldl (fun r gssi => r.deaffiliate update.issi gssi) r
    | .releaseIndividualCalls => r
  { s with registry := registry }

/-- A radio leaves the cell: group after group is taken from it. -/
def deregisterLocal : CcBs :=
  match s.subs.subscriberGroups.lookup issi with
  | none => s
  | some existing =>
    (groupsInOrder env existing).foldl
      (fun s gssi =>
        ((s.decGroupListener gssi).clearGroupFloorState env issi gssi).dropIfUnlistened env gssi)
      (s.setSubs { s.subs with subscriberGroups := s.subs.subscriberGroups.erase issi })

def affiliateLocal : CcBs :=
  let r := addGroups ((s.subs.subscriberGroups.lookup issi).getD ∅) groups
  s.setSubs { s.subs with
    subscriberGroups := s.subs.subscriberGroups.insert issi r.1
    groupListeners := r.2.foldl incListener s.subs.groupListeners }

/-- The floors of a radio that is not known are cleared as well. -/
def deaffiliateLocal : CcBs :=
  match s.subs.subscriberGroups.lookup issi with
  | none => s.leaveGroups env issi groups
  | some entry =>
    let r := removeGroups entry groups
    (s.setSubs { s.subs with
      subscriberGroups := s.subs.subscriberGroups.insert issi r.1
      groupListeners := r.2.foldl decListener s.subs.groupListeners }).leaveGroups env
      issi r.2

def handleSubscriberUpdate (update : SubscriberUpdate) : CcBs :=
  let s := s.syncSharedSubscribersFromMmUpdate update
  let issi := update.issi
  match update.action with
  | .register =>
    if issi ∈ s.subs.subscriberGroups then s
    else s.setSubs { s.subs with subscriberGroups := s.subs.subscriberGroups.insert issi ∅ }
  | .deregister => (s.deregisterLocal env issi).releaseIndividualCallsOf env issi
  | .affiliate => s.affiliateLocal issi update.groups
  | .deaffiliate => s.deaffiliateLocal env issi update.groups
  | .releaseIndividualCalls => s.releaseIndividualCallsOf env issi

def deregisterExternal : CcBs :=
  match s.subs.externalSubscriberGroups.lookup issi with
  | none => s
  | some existing =>
    let groups := groupsInOrder env existing
    (s.setSubs { s.subs with
      externalSubscriberGroups := s.subs.externalSubscriberGroups.erase issi
      externalGroupListeners :=
        groups.foldl decListener s.subs.externalGroupListeners }).leaveGroups env issi
      groups

def affiliateExternal : CcBs :=
  let r := addGroups ((s.subs.externalSubscriberGroups.lookup issi).getD ∅) groups
  s.setSubs { s.subs with
    externalSubscriberGroups := s.subs.externalSubscriberGroups.insert issi r.1
    externalGroupListeners := r.2.foldl incListener s.subs.externalGroupListeners }

/-- A subscriber of the network that is left without groups is forgotten. -/
def deaffiliateExternal : CcBs :=
  match s.subs.externalSubscriberGroups.lookup issi with
  | none => s
  | some entry =>
    let r := removeGroups entry groups
    (s.setSubs { s.subs with
      externalSubscriberGroups :=
        if r.1 = ∅ then s.subs.externalSubscriberGroups.erase issi
        else s.subs.externalSubscriberGroups.insert issi r.1
      externalGroupListeners :=
        r.2.foldl decListener s.subs.externalGroupListeners }).leaveGroups env issi r.2

def handleExternalSubscriberUpdate (update : SubscriberUpdate) : CcBs :=
  let issi := update.issi
  match update.action with
  | .register =>
    if issi ∈ s.subs.externalSubscriberGroups then s
    else
      s.setSubs { s.subs with
        externalSubscriberGroups := s.subs.externalSubscriberGroups.insert issi ∅ }
  | .deregister => s.deregisterExternal env issi
  | .affiliate => s.affiliateExternal issi update.groups
  | .deaffiliate => s.deaffiliateExternal env issi update.groups
  | .releaseIndividualCalls => s

/-- An operator removes a radio: MM is asked to deregister it. -/
def kickMs : CcBs :=
  match s.subs.subscriberGroups.lookup issi with
  | none => s
  | some groups =>
    let s := s.releaseIndividualCallsOf env issi
    (s.setSubs { s.subs with
      subscriberGroups := s.subs.subscriberGroups.erase issi
      groupListeners := (groupsInOrder env groups).foldl decListener
        s.subs.groupListeners }).send [.mmDeregister issi]

end CcBs
end NexusBs.Cc
