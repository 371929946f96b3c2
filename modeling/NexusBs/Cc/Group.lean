import NexusBs.Cc.State

namespace NexusBs.Cc
open Lib

def groupReleasePendingTimeoutTimeslots : Int := 360 * 4
def groupTxCeasedTailDrainTimeslots : Int := (4 - 1) * 4
def networkGroupReadyPendingTimeoutTimeslots : Int := 2 * 72

/-- Why a floor event was not acted on; what the code only logs is left out. -/
inductive GroupTransitionError where
  | unknownCall | invalidTransition | notCurrentSpeaker | missingCachedSetup

def isPreemptiveTxDemandPriority (priority : Nat) : Bool := priority == 2 || priority == 3

def isPreemptiveCallPriority (priority : Nat) : Bool := 12 ≤ priority && priority ≤ 15

namespace GroupSide

def send (g : GroupSide) (msgs : List Msg) : GroupSide :=
  { g with toShared := g.toShared.send msgs }

variable (c : Ctx) (g : GroupSide) (callId : Nat) (pending : PendingGroupFloorActivation)

variable (call : ActiveCall) (requester : TetraAddress)

def setCall : GroupSide :=
  { g with activeCalls := g.activeCalls.insert callId call }

def releasePending : Bool := decide (callId ∈ g.pendingGroupReleases)

def cancelGroupTxCeasedTailDrain : GroupSide :=
  { g with pendingGroupTxCeasedTailDrains := g.pendingGroupTxCeasedTailDrains.erase callId }

def cancelMatchingGroupTxCeasedTailDrain (senderIssi : Nat) : GroupSide :=
  if (g.pendingGroupTxCeasedTailDrains.lookup callId).any
      (fun pending => pending.sender.ssi == senderIssi) then
    g.cancelGroupTxCeasedTailDrain callId
  else g

def cancelGroupFloorActivation : GroupSide :=
  { g with pendingGroupFloorActivations := g.pendingGroupFloorActivations.erase callId }

def cancelNetworkGroupReady : GroupSide :=
  { g with pendingNetworkGroupReadies := g.pendingNetworkGroupReadies.erase callId }

/-- Hold back the end of an over until the tail of its speech has been sent. -/
def beginGroupTxCeasedTailDrain (sender : TetraAddress) (destGssi ts usage : Nat)
    (notifyBrew : Bool) : GroupSide :=
  if callId ∈ g.pendingGroupTxCeasedTailDrains then g
  else
    let g := g.cancelGroupFloorActivation callId
    { g with
      pendingGroupTxCeasedTailDrains := g.pendingGroupTxCeasedTailDrains.insert callId
        { sender := sender
          destGssi := destGssi
          ts := ts
          usage := usage
          notifyBrew := notifyBrew
          startedAt := c.dltime } }

/-- Hold back the floor message for UMAC until the grant has been sent to the radio. -/
def queueGroupFloorActivation (sourceIssi destGssi ts : Nat) (reporter : TxReporter)
    (notifyBrew : Bool) : GroupSide :=
  let fresh : PendingGroupFloorActivation :=
    { sourceIssi := sourceIssi
      destGssi := destGssi
      ts := ts
      reporters := [reporter]
      notifyBrew := notifyBrew
      startedAt := c.dltime }
  let pending :=
    match g.pendingGroupFloorActivations.lookup callId with
    | none => fresh
    | some pending =>
      if pending.sourceIssi = sourceIssi ∧ pending.destGssi = destGssi ∧ pending.ts = ts then
        { pending with
          reporters := pending.reporters ++ [reporter]
          notifyBrew := pending.notifyBrew || notifyBrew }
      else fresh
  { g with pendingGroupFloorActivations := g.pendingGroupFloorActivations.insert callId pending }

def queueNetworkGroupReady (brewUuid sourceIssi destGssi ts usage : Nat)
    (reporters : List TxReporter) : GroupSide :=
  { g with
    pendingNetworkGroupReadies := g.pendingNetworkGroupReadies.insert callId
      { brewUuid := brewUuid
        sourceIssi := sourceIssi
        destGssi := destGssi
        ts := ts
        usage := usage
        reporters := reporters
        startedAt := c.dltime } }

def resetGroupT310AfterFloorGrant : GroupSide :=
  { g with activeCalls := Table.modify g.activeCalls callId (·.resetTimeout c.dltime) }

/-- Grant the floor to a radio over the air: the grant itself, with a receipt that UMAC's floor
message waits for, and the notice to the listeners. -/
def announceFloorGrant (listenerGssi destGssi ts usage : Nat) (notifyBrew : Bool) : GroupSide :=
  let reporter := g.newReporter false
  let g := { g with
    toShared := (g.toShared.sendReported
      (dTxGrantedIndividual callId requester ts usage .granted (some reporter) ::
        c.groupListenerDTxGranted callId requester.ssi listenerGssi ts usage)
      ).refreshGroupCachedDSetupSpeaker callId requester.ssi }
  let g := g.resetGroupT310AfterFloorGrant c callId
  g.queueGroupFloorActivation c callId requester.ssi destGssi ts reporter notifyBrew

def beginGroupRelease (cause : DisconnectCause) (preclosedCircuit : Option CmceCircuit) :
    GroupSide :=
  let g := ((g.cancelGroupTxCeasedTailDrain callId).cancelGroupFloorActivation
    callId).cancelNetworkGroupReady callId
  if g.releasePending callId then g
  else
    match g.activeCalls.lookup callId with
    | none => g
    | some call =>
      let destAddr := ((g.cachedSetups.lookup callId).map (·.destAddr)).getD
        (gssiAddress call.destGssi)
      let reporter := g.newReporter false
      let pdu := g.toShared.dRelease callId cause
      { g with
        toShared := g.toShared.sendReported
          [buildSapmsgStealing pdu destAddr call.ts call.usage .dl (some reporter) none,
            buildSapmsg pdu none destAddr .unacknowledged none]
        pendingGroupReleases := g.pendingGroupReleases.insert callId
          { destGssi := call.destGssi
            ts := call.ts
            cause := cause
            reporter := reporter
            startedAt := c.dltime
            preclosedCircuit := preclosedCircuit
            isLocal := call.origin.isLocal
            networkBrewUuid := call.origin.networkUuid } }

def releaseGroupCall (cause : DisconnectCause) : GroupSide :=
  g.beginGroupRelease c callId cause none

def groupReleaseEndMsgs (pending : PendingGroupRelease) : List Msg :=
  if c.cell.isBrewGssiRoutable pending.destGssi then
    if pending.isLocal then [.brew (.callEnded callId pending.ts)]
    else
      match pending.networkBrewUuid with
      | some brewUuid => [.brew (.networkCallEnd brewUuid)]
      | none => []
  else []

def completePendingGroupRelease : GroupSide :=
  match g.pendingGroupReleases.lookup callId with
  | none => g
  | some pending =>
    let s := g.toShared
    let s :=
      match pending.preclosedCircuit with
      | some circuit => s.send [signalUmacCircuitClose circuit]
      | none => s.closeCircuit .both pending.ts
    let s := (s.send [.umac (.callEnded callId pending.ts)]).releaseTimeslot pending.ts
    let s := (s.send (groupReleaseEndMsgs c callId pending)).eraseCachedSetup callId
    { g with
      toShared := s
      pendingGroupReleases := g.pendingGroupReleases.erase callId
      activeCalls := g.activeCalls.erase callId }

def drainPendingGroupReleases : GroupSide :=
  (g.pendingGroupReleases.select (c.order .pendingGroupReleases) (fun _ pending =>
    c.isTransmitted pending.reporter ||
      pending.startedAt.age c.dltime ≥ groupReleasePendingTimeoutTimeslots)).foldl
    (fun g callId => g.completePendingGroupRelease c callId) g

/-- The radio has stopped speaking and asks again while the tail of its over is being sent. -/
def sameSpeakerTailPending (ts : Nat) : Bool :=
  (g.pendingGroupTxCeasedTailDrains.lookup callId).any
    (fun pending => pending.sender.ssi == requester.ssi && pending.ts == ts)

def fsmGroupQueueSameSpeakerRetakeDuringTxCeasedTail : GroupSide :=
  let r := call.queueTxDemandAfterCeaseTail requester
  let grant : TransmissionGrant :=
    match r.1 with
    | .queueBusy => .notGranted
    | _ => .requestQueued
  (g.setCall callId r.2).send
    [dTxGrantedIndividual callId requester call.ts call.usage grant none]

def fsmGroupReassertCurrentSpeakerFloor (speaker : TetraAddress) :
    GroupSide × Option GroupTransitionError :=
  if g.releasePending callId then (g, none)
  else
    match g.activeCalls.lookup callId with
    | none => (g, some .unknownCall)
    | some call =>
      if !call.isCurrentSpeaker speaker.ssi then (g, some .notCurrentSpeaker)
      else if !c.subscriberAffiliatedToGroup speaker.ssi call.destGssi then
        (g.send [dTxGrantedIndividual callId speaker call.ts call.usage .notGranted none], none)
      else if g.sameSpeakerTailPending callId speaker call.ts then
        (g.fsmGroupQueueSameSpeakerRetakeDuringTxCeasedTail callId call speaker, none)
      else
        match g.cachedSetups.lookup callId with
        | none => (g, some .missingCachedSetup)
        | some cached =>
          ((g.cancelMatchingGroupTxCeasedTailDrain callId speaker.ssi).announceFloorGrant c callId
            speaker cached.destAddr.ssi cached.destAddr.ssi call.ts call.usage
            (c.cell.isBrewGssiRoutable call.destGssi), none)

def fsmGroupOnTxDemand (txDemandPriority : Nat) : GroupSide × Option GroupTransitionError :=
  if g.releasePending callId then (g, none)
  else
    match g.activeCalls.lookup callId with
    | none => (g, some .unknownCall)
    | some call =>
      let notifyBrew := c.cell.isBrewGssiRoutable call.destGssi
      if !c.subscriberAffiliatedToGroup requester.ssi call.destGssi then
        (g.send [dTxGrantedIndividual callId requester call.ts call.usage .notGranted none], none)
      else if c.cell.legacyGssiGroupCall && call.origin.isLocal && !call.txActive &&
          call.sourceIssi == requester.ssi then
        (g.releaseGroupCall c callId .swmiRequestedDisconnection, none)
      else if call.sourceIssi == requester.ssi &&
          g.sameSpeakerTailPending callId requester call.ts then
        (g.fsmGroupQueueSameSpeakerRetakeDuringTxCeasedTail callId call requester, none)
      else if call.txActive && call.sourceIssi != requester.ssi &&
          c.cell.transmissionInterruptionEnabled &&
          isPreemptiveTxDemandPriority txDemandPriority then
        match g.cachedSetups.lookup callId with
        | none => (g, some .missingCachedSetup)
        | some cached =>
          let g := g.setCall callId (call.grantFloor requester.ssi)
          let g := g.cancelGroupTxCeasedTailDrain callId
          let g := g.send
            [dTxInterruptFacch callId (.issi call.sourceIssi) requester.ssi call.ts call.usage
                .grantedToOtherUser,
              dTxInterruptFacch callId cached.destAddr requester.ssi call.ts call.usage
                .grantedToOtherUser]
          (g.announceFloorGrant c callId requester cached.destAddr.ssi cached.destAddr.ssi call.ts
            call.usage notifyBrew, none)
      else if call.txActive then
        let r := call.queueTxDemand requester
        let g := g.setCall callId r.2
        match g.cachedSetups.lookup callId with
        | none => (g, some .missingCachedSetup)
        | some _ =>
          match r.1 with
          | .fromCurrentSpeaker => g.fsmGroupReassertCurrentSpeakerFloor c callId requester
          | .queueBusy =>
            (g.send [dTxGrantedIndividual callId requester call.ts call.usage .notGranted none],
              none)
          | _ =>
            (g.send [dTxGrantedIndividual callId requester call.ts call.usage .requestQueued none],
              none)
      else
        let g := g.setCall callId (call.grantFloor requester.ssi)
        match g.cachedSetups.lookup callId with
        | none => (g, some .missingCachedSetup)
        | some cached =>
          (g.announceFloorGrant c callId requester cached.destAddr.ssi cached.destAddr.ssi call.ts
            call.usage notifyBrew, none)

def fsmGroupOnTxCeased (sender : TetraAddress) : GroupSide × Option GroupTransitionError :=
  if g.releasePending callId then (g, none)
  else
    match g.activeCalls.lookup callId with
    | none => (g, some .unknownCall)
    | some call =>
      if !call.txActive then (g, some .invalidTransition)
      else if !call.isCurrentSpeaker sender.ssi then
        -- a waiting radio withdraws its request
        if sender.ssi ∈ call.queuedFloorDemands.keys then
          (g.setCall callId (call.clearQueuedTxDemandFrom sender.ssi), none)
        else (g, some .notCurrentSpeaker)
      else
        let notifyBrew := c.cell.isBrewGssiRoutable call.destGssi
        let target := (c.firstAffiliatedGroupFloorRequester call).map (·.ssi)
        match call.takeQueuedTxDemandThrough target with
        | (some requester, call') =>
          let g := g.setCall callId (call'.grantFloor requester.ssi)
          match g.cachedSetups.lookup callId with
          | none => (g, some .missingCachedSetup)
          | some cached =>
            (g.announceFloorGrant c callId requester cached.destAddr.ssi cached.destAddr.ssi
              call.ts call.usage notifyBrew, none)
        | (none, call') =>
          let g := g.setCall callId call'
          match g.cachedSetups.lookup callId with
          | none => (g, some .missingCachedSetup)
          | some cached =>
            (g.beginGroupTxCeasedTailDrain c callId sender cached.destAddr.ssi call.ts call.usage
              notifyBrew, none)

def fsmGroupOnCurrentSpeakerDeparted (speakerIssi : Nat) :
    GroupSide × Option GroupTransitionError :=
  if g.releasePending callId then (g, none)
  else
    match g.activeCalls.lookup callId with
    | none => (g, some .unknownCall)
    | some call =>
      if !call.txActive then (g, some .invalidTransition)
      else if !call.isCurrentSpeaker speakerIssi then (g, none)
      else
        let g := g.setCall callId (call.clearAllQueuedTxDemands.enterHangtime c.dltime)
        match g.cachedSetups.lookup callId with
        | none => (g, some .missingCachedSetup)
        | some cached =>
          (g.send (dTxCeasedFacch callId cached.destAddr.ssi call.ts call.usage ::
            floorMsgs (c.cell.isBrewGssiRoutable call.destGssi) (.floorReleased callId call.ts)),
            none)

/-- Tell the group that the network speaks: a set-up that names the speaker takes the place of those
that still wait to be sent, and the network is told when both messages are out. -/
def announceNetworkSpeaker (brewUuid sourceIssi : Nat) : GroupSide × Option GroupTransitionError :=
  let g := { g with
    toShared := (g.toShared.refreshGroupCachedDSetupSpeaker callId sourceIssi).send
      [.discardQueuedGroupDSetups callId (gssiAddress call.destGssi)] }
  match g.toShared.sendGroupDSetupRefreshReported callId call.ts call.usage with
  | (none, s) => ({ g with toShared := s }, some .missingCachedSetup)
  | (some setupReporter, s) =>
    let readyReporter := s.newReporter false
    let g := { g with
      toShared := s.sendReported
        [dTxGrantedFacch callId sourceIssi call.destGssi call.ts call.usage .both
          (some readyReporter)] }
    ((g.resetGroupT310AfterFloorGrant c callId).queueNetworkGroupReady c callId brewUuid sourceIssi
      call.destGssi call.ts call.usage [setupReporter, readyReporter], none)

def fsmGroupOnNetworkCallStart (brewUuid sourceIssi priority : Nat) :
    GroupSide × Option GroupTransitionError :=
  if g.releasePending callId then (g, none)
  else
    let g := g.cancelGroupTxCeasedTailDrain callId
    match g.activeCalls.lookup callId with
    | none => (g, some .unknownCall)
    | some call =>
      let preemptedLocalSpeaker := call.txActive &&
        c.subscriberAffiliatedToGroup call.sourceIssi call.destGssi && call.sourceIssi != sourceIssi
      let g := (g.setCall callId (call.grantFloorToNetwork brewUuid sourceIssi priority)).send
        (if preemptedLocalSpeaker then
          [dTxInterruptFacch callId (.issi call.sourceIssi) sourceIssi call.ts call.usage
              .grantedToOtherUser,
            dTxInterruptFacch callId (gssiAddress call.destGssi) sourceIssi call.ts call.usage
              .grantedToOtherUser]
        else [])
      g.announceNetworkSpeaker c callId call brewUuid sourceIssi

def fsmGroupOnNetworkCallEnd : GroupSide × Option GroupTransitionError :=
  if g.releasePending callId then (g, none)
  else
    let endedBeforeReady := decide (callId ∈ g.pendingNetworkGroupReadies)
    let g := g.cancelNetworkGroupReady callId
    match g.activeCalls.lookup callId with
    | none => (g, some .unknownCall)
    | some call =>
      if endedBeforeReady then (g.releaseGroupCall c callId .swmiRequestedDisconnection, none)
      else if call.txActive then
        ((g.setCall callId { call.enterHangtime c.dltime with brewUuid := none }).send
          [dTxCeasedFacch callId call.destGssi call.ts call.usage,
            .umac (.floorReleased callId call.ts)], none)
      else (g.releaseGroupCall c callId .swmiRequestedDisconnection, none)

/-- Ended by the session of the network that is stored with the call. -/
def rxNetworkCallEnd (brewUuid : Nat) : GroupSide :=
  match g.activeCalls.find (c.order .activeCalls) (fun _ call => call.brewUuid == some brewUuid) with
  | none => g
  | some (callId, _) => (g.fsmGroupOnNetworkCallEnd c callId).1

def completeGroupFloorActivation : GroupSide :=
  match g.activeCalls.lookup callId with
  | none => g
  | some call =>
    if !call.isCurrentSpeaker pending.sourceIssi || call.destGssi != pending.destGssi ||
        call.ts != pending.ts then g
    else
      g.send (.umac (.setDlMediaSource pending.ts .localLoopback) ::
        floorMsgs pending.notifyBrew
          (.floorGranted callId pending.sourceIssi pending.destGssi pending.ts))

/-- No copy of the grant was sent: the radio does not know that it has the floor. -/
def suppressGroupFloorActivation : GroupSide :=
  match g.activeCalls.lookup callId with
  | none => g
  | some call =>
    if call.isCurrentSpeaker pending.sourceIssi && call.destGssi == pending.destGssi &&
        call.ts == pending.ts then
      g.setCall callId (call.enterHangtime c.dltime)
    else g

def floorActivationTransmitted : Bool := pending.reporters.any c.isTransmitted

def floorActivationDiscarded : Bool :=
  !pending.reporters.isEmpty && pending.reporters.all c.isDiscarded

def drainGroupFloorActivation : GroupSide :=
  match g.pendingGroupFloorActivations.lookup callId with
  | none => g
  | some pending =>
    let g := g.cancelGroupFloorActivation callId
    if floorActivationTransmitted c pending then g.completeGroupFloorActivation callId pending
    else g.suppressGroupFloorActivation c callId pending

def drainPendingGroupFloorActivations : GroupSide :=
  (g.pendingGroupFloorActivations.select (c.order .pendingGroupFloorActivations)
    (fun _ pending => floorActivationTransmitted c pending ||
      floorActivationDiscarded c pending)).foldl
    (fun g callId => g.drainGroupFloorActivation c callId) g

def completeNetworkGroupReady (pending : PendingNetworkGroupReady) : GroupSide :=
  match g.activeCalls.lookup callId with
  | none => g
  | some call =>
    if !call.isCurrentSpeaker pending.sourceIssi || call.destGssi != pending.destGssi ||
        call.ts != pending.ts || call.usage != pending.usage ||
        call.brewUuid != some pending.brewUuid then g
    else
      g.send
        [.umac (.setDlMediaSource pending.ts .swMI),
          .umac (.floorGranted callId pending.sourceIssi pending.destGssi pending.ts),
          .brew (.networkCallReady pending.brewUuid callId pending.ts pending.usage)]

def networkGroupReadyTransmitted (pending : PendingNetworkGroupReady) : Bool :=
  pending.reporters.isEmpty || pending.reporters.all c.isTransmitted

def drainNetworkGroupReady : GroupSide :=
  match g.pendingNetworkGroupReadies.lookup callId with
  | none => g
  | some pending =>
    let g := g.cancelNetworkGroupReady callId
    if networkGroupReadyTransmitted c pending then g.completeNetworkGroupReady callId pending
    else g.releaseGroupCall c callId .acknowledgedServiceNotComplete

def drainPendingNetworkGroupReadies : GroupSide :=
  (g.pendingNetworkGroupReadies.select (c.order .pendingNetworkGroupReadies) (fun _ pending =>
    networkGroupReadyTransmitted c pending || pending.reporters.all c.isInFinalState ||
      pending.startedAt.age c.dltime ≥ networkGroupReadyPendingTimeoutTimeslots)).foldl
    (fun g callId => g.drainNetworkGroupReady c callId) g

/-- Modes in which a call ends with an over that nobody else waits to follow. -/
def releaseAfterNoHandoffOver : Bool :=
  c.cell.legacyGssiGroupCall && call.origin.isLocal || c.cell.isBrewGssiRoutable call.destGssi

/-- Who follows an over: the first affiliated radio that waits; in the modes that release after an
over the first one other than the last speaker, where there is one. -/
def requesterAfterTail (senderIssi : Nat) : Option TetraAddress :=
  if releaseAfterNoHandoffOver c call then
    let affiliated := call.queuedFloorDemands.items.filter (fun requester =>
      c.subscriberAffiliatedToGroup requester.ssi call.destGssi)
    (affiliated.find? (fun requester => requester.ssi != senderIssi)).or affiliated.head?
  else c.firstAffiliatedGroupFloorRequester call

def completeGroupTxCeasedTailDrain (pending : PendingGroupTxCeasedTailDrain) : GroupSide :=
  match g.activeCalls.lookup callId with
  | none => g
  | some call =>
    if !call.isCurrentSpeaker pending.sender.ssi || call.ts != pending.ts then g
    else
      let releaseAfter := releaseAfterNoHandoffOver c call
      let target := (requesterAfterTail c call pending.sender.ssi).map (·.ssi)
      let idle (call' : ActiveCall) : GroupSide :=
        let g := (g.setCall callId (call'.enterHangtime c.dltime)).send
          (dTxCeasedFacch callId pending.destGssi pending.ts pending.usage ::
            floorMsgs pending.notifyBrew (.floorReleased callId pending.ts))
        if releaseAfter then g.releaseGroupCall c callId .swmiRequestedDisconnection else g
      match call.takeQueuedTxDemandThrough target with
      | (none, call') => idle call'
      | (some requester, call') =>
        -- the last speaker alone waits: the call ends and its next over starts a new one
        if releaseAfter && requester.ssi == pending.sender.ssi then idle call'
        else
          (g.setCall callId (call'.grantFloor requester.ssi)).announceFloorGrant c callId requester
            pending.destGssi pending.destGssi pending.ts pending.usage pending.notifyBrew

def drainGroupTxCeasedTailDrain : GroupSide :=
  match g.pendingGroupTxCeasedTailDrains.lookup callId with
  | none => g
  | some pending =>
    (g.cancelGroupTxCeasedTailDrain callId).completeGroupTxCeasedTailDrain c callId pending

def drainPendingGroupTxCeasedTailDrains : GroupSide :=
  (g.pendingGroupTxCeasedTailDrains.select (c.order .pendingGroupTxCeasedTailDrains)
    (fun _ pending => pending.startedAt.age c.dltime ≥ groupTxCeasedTailDrainTimeslots)).foldl
    (fun g callId => g.drainGroupTxCeasedTailDrain c callId) g

/-- A radio leaves a group: it loses the floor of its calls, or its place among the waiters. -/
def departGroupCall (issi gssi callId : Nat) : GroupSide :=
  match g.activeCalls.lookup callId with
  | none => g
  | some call =>
    if call.isCurrentSpeaker issi && c.hasListener gssi then
      (g.fsmGroupOnCurrentSpeakerDeparted c callId issi).1
    else g.setCall callId (call.clearQueuedTxDemandFrom issi)

def clearGroupFloorStateForDeparture (issi gssi : Nat) : GroupSide :=
  (g.activeCalls.select (c.order .activeCalls) (fun _ call => call.destGssi == gssi)).foldl
    (fun g callId => g.departGroupCall c issi gssi callId) g

def dropGroupCallsIfUnlistened (gssi : Nat) : GroupSide :=
  if c.hasListener gssi then g
  else
    (g.activeCalls.select (c.order .activeCalls) (fun _ call => call.destGssi == gssi)).foldl
      (fun g callId => g.releaseGroupCall c callId .swmiRequestedDisconnection) g

def checkGroupCallTimeoutExpiry : GroupSide :=
  (g.activeCalls.select (c.order .activeCalls) (fun callId call =>
    !g.releasePending callId && call.callTimeoutExpired c.dltime)).foldl
    (fun g callId => g.releaseGroupCall c callId .expiryOfTimer) g

def checkHangtimeExpiry : GroupSide :=
  (g.activeCalls.select (c.order .activeCalls) (fun callId call =>
    match call.state with
    | .transmitting => false
    | .noActiveSpeaker since =>
      !g.releasePending callId && since.age c.dltime > (c.cell.hangtimeSecs * 18 * 4 : Nat))).foldl
    (fun g callId => g.releaseGroupCall c callId .expiryOfTimer) g

/-- No speech for a while on the slot of a call whose speaker should be heard. -/
def groupUlInactivity (ts : Nat) : GroupSide :=
  if g.releasePending callId then g
  else if callId ∈ g.pendingGroupTxCeasedTailDrains then g
  else if callId ∈ g.pendingGroupFloorActivations then g
  else
    let notifyBrew := c.cell.isBrewGssiRoutable call.destGssi
    let destAddr := ((g.cachedSetups.lookup callId).map (·.destAddr)).getD
      (gssiAddress call.destGssi)
    match c.firstAffiliatedGroupFloorRequester call with
    | some requester =>
      let call' := (call.takeQueuedTxDemandThrough (some requester.ssi)).2
      (g.setCall callId (call'.grantFloor requester.ssi)).announceFloorGrant c callId requester
        destAddr.ssi call.destGssi ts call.usage notifyBrew
    | none =>
      match call.markUlInactivityRegrantIfUnused with
      | (true, call') =>
        let g := g.setCall callId call'
        let reporter := g.newReporter false
        let g := { g with
          toShared := g.toShared.sendReported
            [dTxGrantedIndividual callId (.issi call.sourceIssi) ts call.usage .granted
              (some reporter)] }
        g.queueGroupFloorActivation c callId call.sourceIssi call.destGssi ts reporter notifyBrew
      | (false, call') =>
        (g.setCall callId (call'.clearAllQueuedTxDemands.enterHangtime c.dltime)).send
          (dTxCeasedFacch callId call.destGssi ts call.usage ::
            floorMsgs notifyBrew (.floorReleased callId ts))

def transmittingCallOn (ts : Nat) : Option (Nat × ActiveCall) :=
  g.activeCalls.find (c.order .activeCalls) (fun _ call => call.ts == ts && call.txActive)

end GroupSide
end NexusBs.Cc
