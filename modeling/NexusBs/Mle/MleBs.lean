import NexusBs.Llc.Types
import NexusBs.Pdus.Cmce
import Mathlib.Logic.Function.Basic

namespace NexusBs

/-- Handle of a layer 3 user; 32 bits without a sign. -/
abbrev MleHandle := Nat

/-- 32 bits with a sign, as casts and additions leave them. -/
def wrapI32 (n : Int) : Int := (n + 2 ^ 31) % 2 ^ 32 - 2 ^ 31

def i32Max : Int := 2 ^ 31 - 1

inductive Layer2Service where
  | todo | unacknowledged | acknowledged | acknowledgedResponse
deriving DecidableEq

inductive MleSapUser where
  | mm | cmce | sndcp | broadcast
deriving DecidableEq

structure PendingMleTransfer where
  user : MleSapUser
  upperHandle : MleHandle
deriving DecidableEq

/-! Primitives -/

def tlaReportNoSpecificReport : Todo := 0
def tlaReportFirstCompleteTransmission : Todo := 1
def tlaReportFailedTransfer : Todo := 2
def tlaReportSuccessfulTransfer : Todo := 3

structure LmmMleUnitdataReq where
  sdu : BitBuffer
  handle : MleHandle
  address : TetraAddress
  layer2service : Layer2Service
  (stealingPermission stealingRepeatsFlag txReporter : Bool)

structure LtpdMleUnitdataReq where
  sdu : BitBuffer
  handle : Todo
  address : TetraAddress
  layer2service : Layer2Service
  (unackedBlRepetitions pduPrio : Todo)
  endpointId : EndpointId
  linkId : LinkId
  (stealingPermission stealingRepeatsFlag : Bool)
  dataClassInfo : Todo
  fcsFlag : Bool
  chanAlloc : Option CmceChanAllocReq

structure LcmcMleUnitdataReq where
  sdu : BitBuffer
  handle : MleHandle
  endpointId : EndpointId
  linkId : LinkId
  layer2service : Layer2Service
  pduPrio : Todo
  (stealingPermission stealingRepeatsFlag : Bool)
  unackedBlRepetitions : Option Nat
  mainAddress : TetraAddress
  chanAlloc : Option CmceChanAllocReq
  txReporter : Bool

structure TlaTlReportInd where
  reqHandle : Option Todo
  report : Todo
  chanChangeRespReq : Option Bool
  chanChangeHandle : Option Todo

inductive MleMsg where
  | tlaTlUnitdataReqBl (req : TlaTlUnitdataReqBl)
  | tlaTlDataRespBl (resp : TlDataRespBl)
  | tlaTlDataReqBl (req : TlaTlDataReqBl)
  | lmmMleReportInd (handle : MleHandle) (transferResult : Todo)
  | lcmcMleReportInd (handle : Todo) (transferResult : Todo) (channelChangeResponseRequired : Bool)
      (channelChangeHandle : Todo)
  | ltpdMleReportInd (handle : Todo) (transferResult : Todo)
  | lmmMleUnitdataInd (sdu : BitBuffer) (handle : MleHandle) (receivedAddress : TetraAddress)
  | lcmcMleUnitdataInd (sdu : BitBuffer) (handle : MleHandle) (receivedAddress : TetraAddress)
      (endpointId : EndpointId) (linkId : LinkId)
  | ltpdMleUnitdataInd (sdu : BitBuffer) (receivedAddress : TetraAddress) (endpointId : EndpointId)
      (linkId : LinkId)
deriving DecidableEq

/-- Of the configuration, what the transfers read. -/
structure MleConfig where
  subscriberClass : Todo
  sndcpService : Bool

structure MleBs where
  config : MleConfig
  nextTlaHandle : Todo
  pendingDataTransfers : Todo → Option PendingMleTransfer
  queue : List MleMsg

namespace MleBs

def new (config : MleConfig) : MleBs := ⟨config, 1, fun _ => none, []⟩

variable (s : MleBs) (handle : Todo)

def push (msg : MleMsg) : MleBs := { s with queue := s.queue ++ [msg] }

/-! Handles -/

/-- The addition wraps to negative numbers, and those go back to 1. -/
def bumpTlaHandle : Todo :=
  let next := wrapI32 (handle + 1)
  if next ≤ 0 then 1 else next

def allocateLoop (pending : Todo → Option PendingMleTransfer) : Nat → Todo → Option (Todo × Todo)
  | 0, _ => none
  | fuel + 1, handle =>
    if 0 < handle ∧ pending handle = none then some (handle, bumpTlaHandle handle)
    else allocateLoop pending fuel (bumpTlaHandle handle)

/-- The loop goes through all positive handles in turn. After one round it would repeat itself for
ever, which is `none` here. -/
def allocateTlaHandle : Option (Todo × MleBs) :=
  (allocateLoop s.pendingDataTransfers (2 ^ 31) s.nextTlaHandle).map (fun r =>
    (r.1, { s with nextTlaHandle := r.2 }))

def trackPending (pending : PendingMleTransfer) : MleBs :=
  { s with pendingDataTransfers := Function.update s.pendingDataTransfers handle (some pending) }

def trackTlaDataRequest (user : MleSapUser) (upperHandle : MleHandle) : Option (Todo × MleBs) :=
  s.allocateTlaHandle.map (fun r => (r.1, r.2.trackPending r.1 ⟨user, upperHandle⟩))

def todoToMleHandle : MleHandle := if 0 ≤ handle then handle.toNat else 0

def mleHandleToTodo (handle : MleHandle) : Todo := if (handle : Int) ≤ i32Max then handle else i32Max

/-! Reports -/

def mleReport (pending : PendingMleTransfer) (transferResult : Todo)
    (channelChangeResponseRequired : Bool) (channelChangeHandle : Todo) : List MleMsg :=
  match pending.user with
  | .mm => [.lmmMleReportInd pending.upperHandle transferResult]
  | .cmce => [.lcmcMleReportInd (wrapI32 pending.upperHandle) transferResult
      channelChangeResponseRequired channelChangeHandle]
  | .sndcp => [.ltpdMleReportInd (wrapI32 pending.upperHandle) transferResult]
  | .broadcast => []

def pushMleReport (pending : PendingMleTransfer) (transferResult : Todo)
    (channelChangeResponseRequired : Bool) (channelChangeHandle : Todo) : MleBs :=
  let report := mleReport pending transferResult channelChangeResponseRequired channelChangeHandle
  { s with queue := s.queue ++ report }

def removePending : MleBs :=
  { s with pendingDataTransfers := Function.update s.pendingDataTransfers handle none }

def rxTlaReportInd (prim : TlaTlReportInd) : MleBs :=
  match prim.reqHandle with
  | none => s
  | some reqHandle =>
    if prim.report = tlaReportNoSpecificReport then s
    else if prim.report = tlaReportFirstCompleteTransmission then
      match s.pendingDataTransfers reqHandle with
      | none => s
      | some pending =>
        if pending.user = .sndcp then
          s.pushMleReport pending prim.report (prim.chanChangeRespReq.getD false)
            (prim.chanChangeHandle.getD 0)
        else s
    else if prim.report = tlaReportFailedTransfer ∨ prim.report = tlaReportSuccessfulTransfer then
      match s.pendingDataTransfers reqHandle with
      | none => s
      | some pending =>
        (s.removePending reqHandle).pushMleReport pending prim.report
          (prim.chanChangeRespReq.getD false) (prim.chanChangeHandle.getD 0)
    else s

/-! Indications -/

/-- The TL-SDU goes to the user that its protocol discriminator names. -/
def routePrefixedTlSdu (sdu : BitBuffer) (mainAddress : TetraAddress) (endpointId : EndpointId)
    (linkId : LinkId) (handle : MleHandle) : Option MleBs :=
  (if sdu.getPos ≠ 0 then sdu.seek 0 else some sdu).bind (fun sdu =>
    match sdu.readBits 3 with
    | none => some s
    | some (bits, sdu) =>
      match MleProtocolDiscriminator.tryFrom bits with
      | some .mm => some (s.push (.lmmMleUnitdataInd sdu handle mainAddress))
      | some .cmce => some (s.push (.lcmcMleUnitdataInd sdu handle mainAddress endpointId linkId))
      | some .sndcp => some (s.push (.ltpdMleUnitdataInd sdu mainAddress endpointId linkId))
      | some .mle | some .tetraManagementEntity | none => some s)

/-- TL-DATA confirm: the report, then the TL-SDU it may carry. -/
def rxTlaDataConfBl (reqHandle report : Todo) (conf : TlaInd) : Option MleBs :=
  let pending := s.pendingDataTransfers reqHandle
  let reported :=
    match pending with
    | some pending =>
      (s.removePending reqHandle).pushMleReport pending report conf.chanChangeRespReq
        (conf.chanChangeHandle.getD 0)
    | none => s
  match conf.tlSdu with
  | none => some reported
  | some sdu =>
    reported.routePrefixedTlSdu sdu conf.mainAddress conf.endpointId conf.linkId
      ((pending.map (·.upperHandle)).getD (todoToMleHandle reqHandle))

def rxTlaDataIndBl (reqHandle : Todo) (ind : TlaInd) : Option MleBs :=
  match ind.tlSdu with
  | none => some s
  | some sdu =>
    s.routePrefixedTlSdu sdu ind.mainAddress ind.endpointId ind.linkId (todoToMleHandle reqHandle)

def rxTlaUnitdataIndBl (ind : TlaInd) : Option MleBs :=
  match ind.tlSdu with
  | none => some s
  | some sdu => s.routePrefixedTlSdu sdu ind.mainAddress ind.endpointId ind.linkId 0

/-! Requests -/

/-- The SDU behind the protocol discriminator of its user. -/
def prefixed (discriminator : MleProtocolDiscriminator) (sdu : BitBuffer) : Option BitBuffer := do
  let pdu ← (BitBuffer.new (3 + sdu.len)).writeBits discriminator.intoRaw 3
  let (pdu, _) ← pdu.copyBits sdu sdu.len
  pdu.seek 0

def rxLmmMleUnitdataReq (prim : LmmMleUnitdataReq) : Option MleBs :=
  if prim.layer2service = .todo then some s
  else do
    let pdu ← prefixed .mm prim.sdu
    let reqHandle := mleHandleToTodo prim.handle
    match prim.layer2service with
    | .unacknowledged =>
      some (s.push (.tlaTlUnitdataReqBl
        { mainAddress := prim.address, linkId := 0, endpointId := 0, tlSdu := pdu, pduPrio := 0
          stealingPermission := prim.stealingPermission
          subscriberClass := s.config.subscriberClass
          fcsFlag := false, airInterfaceEncryption := none
          stealingRepeatsFlag := some prim.stealingRepeatsFlag
          nTlsduRepeats := none, dataClassInfo := none, reqHandle := reqHandle, chanAlloc := none }))
    | .acknowledgedResponse =>
      some (s.push (.tlaTlDataRespBl
        { mainAddress := prim.address, linkId := 0, endpointId := 0, tlSdu := pdu, pduPrio := 0
          stealingPermission := prim.stealingPermission
          subscriberClass := s.config.subscriberClass
          fcsFlag := false, airInterfaceEncryption := 0
          stealingRepeatsFlag := some prim.stealingRepeatsFlag
          dataClassInfo := none, reqHandle := reqHandle }))
    | .acknowledged => do
      let (tlaHandle, s) ← s.trackTlaDataRequest .mm prim.handle
      some (s.push (.tlaTlDataReqBl
        { mainAddress := prim.address, linkId := 0, endpointId := 0, tlSdu := pdu, pduPrio := 0
          stealingPermission := prim.stealingPermission
          subscriberClass := s.config.subscriberClass
          fcsFlag := false, airInterfaceEncryption := none
          stealingRepeatsFlag := some prim.stealingRepeatsFlag
          dataClassInfo := none, reqHandle := tlaHandle, chanAlloc := none
          txReporter := prim.txReporter }))
    | .todo => none

def ltpdTodoToOptionalU8 (value : Todo) : Option Nat :=
  if 0 ≤ value ∧ value ≤ 255 then some value.toNat else none

def ltpdTodoToOptionalTodo (value : Todo) : Option Todo := if 0 ≤ value then some value else none

/-- One slot, preferably none of the main control channel. -/
def normalizePdchTimeslotsToSingle (timeslots : Timeslots) : Timeslots :=
  if timeslots.ts2 then .single 2
  else if timeslots.ts3 then .single 3
  else if timeslots.ts4 then .single 4
  else if timeslots.ts1 then .single 1
  else .none

def normalizeSndcpPdchChanAllocToSingleSlot (chanAlloc : Option CmceChanAllocReq) :
    Option CmceChanAllocReq :=
  chanAlloc.map (fun c => { c with timeslots := normalizePdchTimeslotsToSingle c.timeslots })

def rxLtpdMleUnitdataReq (prim : LtpdMleUnitdataReq) : Option MleBs :=
  if prim.layer2service = .todo then some s
  else if !s.config.sndcpService then some s
  else do
    let pdu ← prefixed .sndcp prim.sdu
    let chanAlloc := normalizeSndcpPdchChanAllocToSingleSlot prim.chanAlloc
    match prim.layer2service with
    | .unacknowledged => do
      let (tlaHandle, s) ← s.trackTlaDataRequest .sndcp (todoToMleHandle prim.handle)
      some (s.push (.tlaTlUnitdataReqBl
        { mainAddress := prim.address, linkId := prim.linkId, endpointId := prim.endpointId
          tlSdu := pdu, pduPrio := prim.pduPrio, stealingPermission := prim.stealingPermission
          subscriberClass := s.config.subscriberClass
          fcsFlag := prim.fcsFlag, airInterfaceEncryption := none
          stealingRepeatsFlag := some prim.stealingRepeatsFlag
          nTlsduRepeats := ltpdTodoToOptionalU8 prim.unackedBlRepetitions
          dataClassInfo := ltpdTodoToOptionalTodo prim.dataClassInfo
          reqHandle := tlaHandle, chanAlloc := chanAlloc }))
    | .acknowledgedResponse =>
      some (s.push (.tlaTlDataRespBl
        { mainAddress := prim.address, linkId := prim.linkId, endpointId := prim.endpointId
          tlSdu := pdu, pduPrio := prim.pduPrio, stealingPermission := prim.stealingPermission
          subscriberClass := s.config.subscriberClass
          fcsFlag := prim.fcsFlag, airInterfaceEncryption := 0
          stealingRepeatsFlag := some prim.stealingRepeatsFlag
          dataClassInfo := ltpdTodoToOptionalTodo prim.dataClassInfo, reqHandle := prim.handle }))
    | .acknowledged => do
      let (tlaHandle, s) ← s.trackTlaDataRequest .sndcp (todoToMleHandle prim.handle)
      some (s.push (.tlaTlDataReqBl
        { mainAddress := prim.address, linkId := prim.linkId, endpointId := prim.endpointId
          tlSdu := pdu, pduPrio := prim.pduPrio, stealingPermission := prim.stealingPermission
          subscriberClass := s.config.subscriberClass
          fcsFlag := prim.fcsFlag, airInterfaceEncryption := none
          stealingRepeatsFlag := some prim.stealingRepeatsFlag
          dataClassInfo := ltpdTodoToOptionalTodo prim.dataClassInfo
          reqHandle := tlaHandle, chanAlloc := chanAlloc, txReporter := false }))
    | .todo => none

def rxLcmcMleUnitdataReq (prim : LcmcMleUnitdataReq) : Option MleBs :=
  if prim.layer2service = .todo then some s
  else do
    let pdu ← prefixed .cmce prim.sdu
    match prim.layer2service with
    | .unacknowledged => do
      let (tlaHandle, s) ← s.trackTlaDataRequest .cmce prim.handle
      some (s.push (.tlaTlUnitdataReqBl
        { mainAddress := prim.mainAddress, linkId := prim.linkId, endpointId := prim.endpointId
          tlSdu := pdu, pduPrio := prim.pduPrio, stealingPermission := prim.stealingPermission
          subscriberClass := s.config.subscriberClass
          fcsFlag := false, airInterfaceEncryption := none
          stealingRepeatsFlag := some prim.stealingRepeatsFlag
          nTlsduRepeats := prim.unackedBlRepetitions, dataClassInfo := none
          reqHandle := tlaHandle, chanAlloc := prim.chanAlloc }))
    | .acknowledgedResponse =>
      some (s.push (.tlaTlDataRespBl
        { mainAddress := prim.mainAddress, linkId := prim.linkId, endpointId := prim.endpointId
          tlSdu := pdu, pduPrio := prim.pduPrio, stealingPermission := prim.stealingPermission
          subscriberClass := s.config.subscriberClass
          fcsFlag := false, airInterfaceEncryption := 0
          stealingRepeatsFlag := some prim.stealingRepeatsFlag
          dataClassInfo := none, reqHandle := mleHandleToTodo prim.handle }))
    | .acknowledged => do
      let (tlaHandle, s) ← s.trackTlaDataRequest .cmce prim.handle
      some (s.push (.tlaTlDataReqBl
        { mainAddress := prim.mainAddress, linkId := prim.linkId, endpointId := prim.endpointId
          tlSdu := pdu, pduPrio := prim.pduPrio, stealingPermission := prim.stealingPermission
          subscriberClass := s.config.subscriberClass
          fcsFlag := false, airInterfaceEncryption := none
          stealingRepeatsFlag := some prim.stealingRepeatsFlag
          dataClassInfo := none, reqHandle := tlaHandle, chanAlloc := prim.chanAlloc
          txReporter := prim.txReporter }))
    | .todo => none

/-! Network broadcast -/

def mleBroadcastMultiframes : List Nat := [20, 50]
def mleBroadcastFrame : Nat := 1

/-- `broadcast` is the D-NWRK-BROADCAST as it is serialised at this moment; there is none without a
time zone and neighbours, or where its serialisation fails. The handle is used up either way. -/
def tickStart (ts : TdmaTime) (broadcast : Option BitBuffer) : Option MleBs :=
  if ts.m ∈ mleBroadcastMultiframes ∧ ts.f = mleBroadcastFrame ∧ ts.t = 1 then do
    let (reqHandle, s) ← s.allocateTlaHandle
    match broadcast with
    | none => some s
    | some sdu => do
      let pdu ← prefixed .mle sdu
      some ((s.push (.tlaTlUnitdataReqBl
        { mainAddress := ⟨0xFFFFFF, .gssi⟩, linkId := 0, endpointId := 0, tlSdu := pdu, pduPrio := 0
          stealingPermission := false, subscriberClass := s.config.subscriberClass
          fcsFlag := false, airInterfaceEncryption := none, stealingRepeatsFlag := none
          nTlsduRepeats := some 0, dataClassInfo := none, reqHandle := reqHandle
          chanAlloc := none })).trackPending reqHandle ⟨.broadcast, 0⟩)
  else some s

end MleBs

end NexusBs
