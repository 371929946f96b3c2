import NexusBs.Cc.Run
import NexusBs.Sds.SdsBs

namespace NexusBs.Cc
open Lib

def issisOf (address : TetraAddress) : List Nat :=
  if address.ssiType = .issi then [address.ssi] else []

/-- Radios that are on the channel of a private call, or on their way onto it or off it. -/
def CcBs.busyIndividualIssis (s : CcBs) : List Nat :=
  (s.individualCalls.entries.filter (·.2.hasAssignedCircuit)).flatMap
      (fun e => issisOf e.2.callingAddr ++ issisOf e.2.calledAddr) ++
    s.pendingIndividualReleases.entries.flatMap
      (fun e => issisOf e.2.call.callingAddr ++ issisOf e.2.call.calledAddr) ++
    s.pendingIndividualDisconnectTailDrains.entries.flatMap
      (fun e => issisOf e.2.sender ++ [e.2.peerIssi]) ++
    s.pendingIndividualDisconnectDeliveries.entries.flatMap
      (fun e => [e.2.awaitingReleaseFrom, e.2.releaseToIssi]) ++
    s.pendingIndividualDisconnectReleaseAcks.entries.flatMap (fun e => [e.2.releaseToIssi]) ++
    s.pendingIndividualTxCeasedTailDrains.entries.flatMap
      (fun e => issisOf e.2.sender.addr ++ issisOf e.2.peer.addr) ++
    s.pendingNetworkIndividualConnects.entries.flatMap
      (fun e => issisOf e.2.localAddr ++ issisOf e.2.peerAddr)

end NexusBs.Cc

namespace NexusBs.Cmce
open Lib Cc Sds

/-- Call control and short data, with the configuration of the latter. Receipts of the network's
short messages are numbered as they come. -/
structure CmceBs where
  cc : CcBs
  sds : SdsBs
  featureSdsEnabled : Bool
  commandControl : Option SdsCommandControl
  wx : WxService
  nextSdsReporter : Nat
  mmUpdates : List SubscriberUpdate

/-- Commands of an operator; those that do not reach calls or short messages are left out. -/
inductive ControlCommand where
  | sds (command : SdsCommand)
  | kickMs (issi : Nat)

/-- Events of CMCE. Time and the commands that wait for it come together. -/
inductive CmceEvent where
  | cc (event : CcEvent)
  | uSdsData (ul : UlContext) (pdu : USdsData)
  | uStatus (ul : UlContext) (pdu : UStatus)
  | brewSds (sds : CmceSdsData)
  | brewStatus (status : CmceSdsStatus)
  | tick (dltime : TdmaTime) (commands : List ControlCommand)
  | wxChanged (wx : WxService)

namespace CmceBs

variable (env : Env) (s : CmceBs)

def sdsCtx : SdsCtx where
  mcc := s.cc.cell.mcc
  mnc := s.cc.cell.mnc
  featureSdsEnabled := s.featureSdsEnabled
  commandControl := s.commandControl
  wx := s.wx
  registry := s.cc.registry
  busy := s.cc.busyIndividualIssis

def newReporter (txReporter : Option Cc.TxReporter) : Option Cc.TxReporter :=
  txReporter.map (fun r => { r with handle := s.nextSdsReporter })

def rxSdsFromBrew (s : CmceBs) (sds : CmceSdsData) : CmceBs :=
  { s with
    sds := s.sds.rxSdsFromBrew s.sdsCtx { sds with txReporter := s.newReporter sds.txReporter }
    nextSdsReporter := s.nextSdsReporter + 1 }

def rxStatusFromControl (status : CmceSdsStatus) : CmceBs :=
  { s with
    sds := s.sds.routeStatusFromControlFields s.sdsCtx
      { status with txReporter := s.newReporter status.txReporter }
    nextSdsReporter := s.nextSdsReporter + 1 }

def kickMs (env : Env) (s : CmceBs) (issi : Nat) : CmceBs := { s with cc := s.cc.kickMs env issi }

def doControlCommand : ControlCommand → CmceBs
  | .sds command => { s with sds := s.sds.rxCommand s.sdsCtx command }
  | .kickMs issi =>
    let groups := CcBs.groupsInOrder env ((s.cc.subs.subscriberGroups.lookup issi).getD ∅)
    let s :=
      if groups.isEmpty then s
      else { s with mmUpdates := s.mmUpdates ++ [⟨issi, groups, .deaffiliate⟩] }
    s.kickMs env issi

def kickAll : CmceBs :=
  ((env.order .subscriberGroups).visit s.cc.subs.subscriberGroups.keys).foldl (kickMs env) s

def doPendingActions : CmceBs :=
  s.sds.pendingActions.foldl
    (fun s action => match action with
      | .kickAll => s.kickAll env)
    { s with sds := { s.sds with pendingActions := [] } }

def tickCalls (dltime : TdmaTime) : CmceBs :=
  { s with cc := s.cc.tickStart env dltime }

def flushDeferred : CmceBs :=
  { s with sds := s.sds.flushDeferredIndividualSds s.sdsCtx }

/-- Calls first, then what the operators want, then what short messages have started; held messages
come last. What is broadcast to all radios has no part in this and is left out. -/
def tickStart (dltime : TdmaTime) (commands : List ControlCommand) : CmceBs :=
  let s := commands.foldl (doControlCommand env) (s.tickCalls env dltime)
  (s.doPendingActions env).flushDeferred

def handle (env : Env) (s : CmceBs) : CmceEvent → CmceBs
  -- time and operators come with `tick`
  | .cc (.tick _) => s
  | .cc (.kickMs _) => s
  | .cc event => { s with cc := s.cc.handle env event }
  | .uSdsData ul pdu => { s with sds := s.sds.routeRfDeliver s.sdsCtx ul pdu }
  | .uStatus ul pdu => { s with sds := s.sds.routeStatusDeliver s.sdsCtx ul pdu }
  | .brewSds sds => s.rxSdsFromBrew sds
  | .brewStatus status => s.rxStatusFromControl status
  | .tick dltime commands => s.tickStart env dltime commands
  | .wxChanged wx => { s with wx := wx }

/-- The messages of the step before are gone. -/
def cleared : CmceBs :=
  { s with cc := { s.cc with sent := [] }, sds := { s.sds with sent := [] }, mmUpdates := [] }

/-- Handle one event; there is no result where the code panics on a PDU that it cannot
serialise. -/
def step (input : Env × CmceEvent) : Option CmceBs :=
  let s' := s.cleared.handle (input.1.knows s.cc.nextReporter) input.2
  if s'.cc.sent.all Msg.validate then some s' else none

def start (cc : CcBs) (featureSdsEnabled : Bool) (commandControl : Option SdsCommandControl)
    (wx : WxService) : CmceBs where
  cc := cc
  sds := .new
  featureSdsEnabled := featureSdsEnabled
  commandControl := commandControl
  wx := wx
  nextSdsReporter := 0
  mmUpdates := []

end CmceBs
end NexusBs.Cmce
