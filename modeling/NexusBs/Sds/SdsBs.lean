import NexusBs.Sds.Types

namespace NexusBs.Sds
open Lib Cc SdsUserData

def maxAirInterfaceSsi : Nat := 0x00FFFFFF
def sdsTlTextProtocolId : UInt8 := 0x82
def sdsTlTransferNoReportReq : UInt8 := 0x00
def sdsTlTransferWithReportReq : UInt8 := 0x04
def sdsTlTransferReportReqMask : UInt8 := 0x0C
def sdsTlTextCodingLatin1 : UInt8 := 0x01
def sdsTlTextCodingUcs2 : UInt8 := 0x1A
def sdsTlReportReceivedMask : UInt8 := 0x01
def sdsTlReportConsumedMask : UInt8 := 0x02
def sdsTlReportContextLimit : Nat := 256
def deferredIndividualSdsLimit : Nat := 64
def sdsCommandIssi : Nat := 9999

/-- What short data reads while it handles an event; `busy` are the radios that call control holds
on the channel of a private call. -/
structure SdsCtx where
  (mcc mnc : Nat)
  featureSdsEnabled : Bool
  commandControl : Option SdsCommandControl
  wx : WxService
  registry : Cc.SubscriberRegistry
  busy : List Nat

def validAirInterfaceSsi (ssi : Nat) : Bool := ssi ≤ maxAirInterfaceSsi

def isSdsTlTransportProtocolId (protocolId : UInt8) : Bool := 0x80 ≤ protocolId && protocolId ≤ 0xFE

def rfCallingPartyIssi (address : TetraAddress) : Option Nat :=
  if address.ssiType != .issi || !validAirInterfaceSsi address.ssi then none else some address.ssi

variable (c : SdsCtx)

def SdsCtx.registeredRfCallingPartyIssi (address : TetraAddress) : Option Nat :=
  (rfCallingPartyIssi address).filter c.registry.isRegistered

def SdsCtx.localMni : Nat := (c.mcc <<< 14) ||| c.mnc

/-! Delivery reports of the transport layer. -/

def clearSdsTlDeliveryReportRequest : List UInt8 → List UInt8
  | b0 :: b1 :: rest =>
    if isSdsTlTransportProtocolId b0 && b1 &&& 0xF0 == sdsTlTransferNoReportReq then
      b0 :: (b1 &&& ~~~sdsTlTransferReportReqMask) :: rest
    else b0 :: b1 :: rest
  | data => data

def sdsTlWithoutDeliveryReport : SdsUserData → SdsUserData
  | .type4 lenBits data =>
    .type4 lenBits (clearSdsTlDeliveryReportRequest
      ((canonicalType4Bytes lenBits data).getD data))
  | other => other

def sdsTlReportRequestMask (reportRequest : UInt8) : UInt8 :=
  match reportRequest &&& sdsTlTransferReportReqMask with
  | 0x04 => sdsTlReportReceivedMask
  | 0x08 => sdsTlReportConsumedMask
  | 0x0C => sdsTlReportReceivedMask ||| sdsTlReportConsumedMask
  | _ => 0

def sdsTlShortReportMask : ShortReportType → UInt8
  | .messageReceived => sdsTlReportReceivedMask
  | .messageConsumed => sdsTlReportConsumedMask
  | .destMemFull => sdsTlReportReceivedMask ||| sdsTlReportConsumedMask
  | .protOrEncodingNotSupported => sdsTlReportReceivedMask ||| sdsTlReportConsumedMask

/-- Protocol identifier, message reference and wanted reports of a transfer that asks for any. -/
def sdsTlTransferReportContext : SdsUserData → Option (UInt8 × UInt8 × UInt8)
  | .type4 lenBits data =>
    if lenBits < 24 then none
    else
      match canonicalType4Bytes lenBits data with
      | some (protocolId :: flags :: messageReference :: _) =>
        if !isSdsTlTransportProtocolId protocolId then none
        else
          let requestedReportMask := sdsTlReportRequestMask (flags &&& sdsTlTransferReportReqMask)
          if flags &&& 0xF0 == sdsTlTransferNoReportReq && requestedReportMask != 0 then
            some (protocolId, messageReference, requestedReportMask)
          else none
      | _ => none
  | _ => none

abbrev ReportContexts := AList (fun _ : SdsTlReportContextKey => SdsTlReportContext)

def evictReportContexts (key : SdsTlReportContextKey) :
    ReportContexts → List SdsTlReportContextKey → ReportContexts × List SdsTlReportContextKey
  | contexts, [] => (contexts, [])
  | contexts, oldest :: order =>
    if contexts.entries.length > sdsTlReportContextLimit then
      evictReportContexts key (if oldest ≠ key then contexts.erase oldest else contexts) order
    else (contexts, oldest :: order)

inductive SdsPendingAction where
  | kickAll

/-- The short data service of the base station. The last three fields are accounts of what it has
done: the messages of the step, the receipts that it has marked as discarded, and what became of
every message for one radio. -/
structure SdsBs where
  pendingActions : List SdsPendingAction
  sdsTlReportContext : ReportContexts
  sdsTlReportContextOrder : List SdsTlReportContextKey
  deferredIndividualSds : List PendingIndividualSds
  sdsMr : UInt8
  sent : List SdsMsg
  discarded : List Cc.TxReporter
  ledger : Lib.Ledger PendingIndividualSds

namespace SdsBs

def new : SdsBs where
  pendingActions := []
  sdsTlReportContext := ∅
  sdsTlReportContextOrder := []
  deferredIndividualSds := []
  sdsMr := 1
  sent := []
  discarded := []
  ledger := .empty

variable (s : SdsBs)

def send (msgs : List SdsMsg) : SdsBs := { s with sent := s.sent ++ msgs }

/-- The receipt of a message is new with it, and nobody else moves it before the message has been
handed down, so that it can still be marked. -/
def discardSdsReporter (txReporter : Option Cc.TxReporter) : SdsBs :=
  { s with discarded := s.discarded ++ txReporter.toList }

def rememberSdsTlReportContext (sourceIssi destSsi : Nat) (destSsiType : SsiType)
    (userDefinedData : SdsUserData) : SdsBs :=
  if destSsiType ≠ .issi then s
  else
    match sdsTlTransferReportContext userDefinedData with
    | none => s
    | some (protocolId, messageReference, requestedReportMask) =>
      let key : SdsTlReportContextKey := ⟨destSsi, sourceIssi, messageReference⟩
      let order :=
        if key ∈ s.sdsTlReportContext then s.sdsTlReportContextOrder.filter (· ≠ key)
        else s.sdsTlReportContextOrder
      let r := evictReportContexts key
        (s.sdsTlReportContext.insert key ⟨protocolId, requestedReportMask, 0⟩) (order ++ [key])
      { s with sdsTlReportContext := r.1, sdsTlReportContextOrder := r.2 }

/-- A context is kept until every report that was asked for has come, and no longer than until one
comes that was not asked for or that ends the transfer. -/
def takeSdsTlReportProtocolId (reportingIssi peerIssi : Nat) (report : SdsShortReport) :
    Option UInt8 × SdsBs :=
  let key : SdsTlReportContextKey := ⟨reportingIssi, peerIssi, report.messageReference⟩
  let reportMask := sdsTlShortReportMask report.shortReportType
  match s.sdsTlReportContext.lookup key with
  | none => (none, s)
  | some context =>
    let context :=
      { context with convertedReportMask := context.convertedReportMask ||| reportMask }
    let requestedReportsComplete :=
      context.convertedReportMask &&& context.requestedReportMask == context.requestedReportMask
    let reportWasNotRequested := reportMask &&& context.requestedReportMask == 0
    let terminalNegativeReport :=
      report.shortReportType == .destMemFull ||
        report.shortReportType == .protOrEncodingNotSupported
    let s :=
      if requestedReportsComplete || reportWasNotRequested || terminalNegativeReport then
        { s with
          sdsTlReportContext := s.sdsTlReportContext.erase key
          sdsTlReportContextOrder := s.sdsTlReportContextOrder.filter (· ≠ key) }
      else { s with sdsTlReportContext := s.sdsTlReportContext.insert key context }
    (some context.protocolId, s)

/-- A single radio acknowledges on its link, a group cannot. -/
def layer2serviceOf (destSsiType : SsiType) : Cc.Layer2Service :=
  if destSsiType = .issi then .acknowledged else .unacknowledged

def sendDSdsDataWithReporter (sourceIssi destSsi : Nat) (destSsiType : SsiType)
    (userDefinedData : SdsUserData) (txReporter : Option Cc.TxReporter) : Bool × SdsBs :=
  if !validAirInterfaceSsi sourceIssi || !validAirInterfaceSsi destSsi then
    (false, s.discardSdsReporter txReporter)
  else
    let s := s.rememberSdsTlReportContext sourceIssi destSsi destSsiType userDefinedData
    if !userDefinedData.validate then (false, s.discardSdsReporter txReporter)
    else
      (true, s.send [.dSdsData sourceIssi userDefinedData (layer2serviceOf destSsiType)
        ⟨destSsi, destSsiType⟩ txReporter])

/-! Messages for one radio, with their accounts. -/

def bookSent (m : PendingIndividualSds) : SdsBs :=
  { s with ledger := s.ledger.release m }

def bookDropped (m : PendingIndividualSds) : SdsBs :=
  { s with ledger := s.ledger.drop m }

def sendIndividualSds (m : PendingIndividualSds) : SdsBs :=
  match s.sendDSdsDataWithReporter m.sourceIssi m.destIssi .issi m.userDefinedData m.txReporter with
  | (true, s) => s.bookSent m
  | (false, s) => s.bookDropped m

def deferIndividualSds (m : PendingIndividualSds) : SdsBs :=
  if s.deferredIndividualSds.length ≥ deferredIndividualSdsLimit then
    (s.discardSdsReporter m.txReporter).bookDropped m
  else { s with deferredIndividualSds := s.deferredIndividualSds ++ [m] }

/-- A message for a radio in a private call waits, every other one is sent. -/
def sendOrDeferDSdsData (busy : List Nat) (s : SdsBs) (d : Delivery)
    (txReporter : Option Cc.TxReporter) : SdsBs :=
  if d.destSsiType = .issi then
    let m : PendingIndividualSds :=
      ⟨s.ledger.accepted.length, d.sourceIssi, d.destSsi, d.userDefinedData, txReporter⟩
    let s := { s with ledger := s.ledger.accept m }
    if busy.contains d.destSsi then s.deferIndividualSds m else s.sendIndividualSds m
  else
    (s.sendDSdsDataWithReporter d.sourceIssi d.destSsi d.destSsiType d.userDefinedData txReporter).2

def flushOne (c : SdsCtx) (s : SdsBs) (pending : PendingIndividualSds) : SdsBs :=
  if c.busy.contains pending.destIssi then
    { s with deferredIndividualSds := s.deferredIndividualSds ++ [pending] }
  else if !c.registry.isRegistered pending.destIssi then
    (s.discardSdsReporter pending.txReporter).bookDropped pending
  else s.sendIndividualSds pending

def flushDeferredIndividualSds (c : SdsCtx) (s : SdsBs) : SdsBs :=
  s.deferredIndividualSds.foldl (flushOne c) { s with deferredIndividualSds := [] }

end SdsBs

/-! Routes. -/

/-- Neither a short number nor a foreign network is supported. -/
def SdsCtx.featureCheckCalledPartyAddress (party : CalledParty) : Bool :=
  (match party.calledPartyTypeIdentifier with
    | .sna => false
    | .ssi =>
      party.calledPartyShortNumberAddress.isNone && party.calledPartyExtension.isNone &&
        party.calledPartySsi.isSome
    | .tsi =>
      party.calledPartyShortNumberAddress.isNone && party.calledPartySsi.isSome &&
        party.calledPartyExtension == some c.localMni
    | .reserved => false) &&
    party.calledPartySsi.all (· ≤ maxAirInterfaceSsi) && !party.externalSubscriberNumber &&
    !party.dmMsAddress

def isSdsTlReport (data : SdsUserData) : Bool :=
  match data.toArr with
  | b0 :: b1 :: _ :: _ :: _ => (b0 == 0x82 || b0 == 0x89) && b1 == 0x10
  | _ => false

def sdsTlMessageReference (data : SdsUserData) : Option UInt8 :=
  match data.toArr with
  | b0 :: b1 :: b2 :: _ :: _ => if (b0 == 0x82 || b0 == 0x89) && b1 != 0x10 then some b2 else none
  | _ => none

/-- A single radio of the cell, and a group with members in it; everybody is a group. -/
def SdsCtx.localDestination (destSsi : Nat) : Bool × Bool :=
  let isBroadcastGroup := destSsi == maxAirInterfaceSsi
  (!isBroadcastGroup && c.registry.isRegistered destSsi,
    isBroadcastGroup || c.registry.hasGroupMembers destSsi)

/-- Where a U-SDS-DATA goes: to the weather service, to a radio or a group of the cell, or to the
network. The weather service confirms a request here; its reply comes later, as a command. -/
def SdsCtx.rfRoute (address : TetraAddress) (pdu : USdsData) : RfRoute :=
  match c.registeredRfCallingPartyIssi address with
  | none => .ignore
  | some sourceSsi =>
    if !c.featureCheckCalledPartyAddress pdu.toCalledParty then .notSupported
    else
      match pdu.calledPartySsi with
      | none => .ignore
      | some destSsi =>
        if c.wx.enabled && destSsi == c.wx.serviceIssi then
          if isSdsTlReport pdu.userDefinedData then .ignore
          else
            match sdsTlMessageReference pdu.userDefinedData with
            | some mr => .deliver ⟨c.wx.serviceIssi, sourceSsi, .issi, .type4 32 [0x82, 0x10, 0x00, mr]⟩
            | none => .ignore
        else
          match c.localDestination destSsi with
          | (true, true) => .ignore
          | (true, false) => .deliver ⟨sourceSsi, destSsi, .issi, pdu.userDefinedData⟩
          | (false, true) => .deliver ⟨sourceSsi, destSsi, .gssi, pdu.userDefinedData⟩
          | (false, false) =>
            if c.featureSdsEnabled then
              .forward ⟨sourceSsi, destSsi, none, pdu.userDefinedData, none⟩
            else .ignore

/-- Where a short message of the network goes; one without a destination in the cell is dropped. -/
def SdsCtx.brewRoute (sds : CmceSdsData) : Option Delivery :=
  if !validAirInterfaceSsi sds.sourceIssi || !validAirInterfaceSsi sds.destIssi then none
  else if sds.destIssi = maxAirInterfaceSsi then
    some ⟨maxAirInterfaceSsi, sds.destIssi, .gssi, sdsTlWithoutDeliveryReport sds.userDefinedData⟩
  else
    let isLocalIssi := c.registry.isRegistered sds.destIssi
    let isLocalGroup := c.registry.hasGroupMembers sds.destIssi
    let deliver := fun ty => some ⟨sds.sourceIssi, sds.destIssi, ty, sds.userDefinedData⟩
    match sds.destSsiType with
    | some .issi => if isLocalIssi then deliver .issi else none
    | some .gssi => if isLocalGroup then deliver .gssi else none
    | some _ => none
    | none =>
      if isLocalIssi && isLocalGroup then none
      else if isLocalIssi then deliver .issi
      else if isLocalGroup then deliver .gssi
      else none

/-- Source and kind of the destination for a command; everybody is addressed by nobody. -/
def SdsCtx.controlSdsAirRoute (sourceSsi destSsi : Nat) (destIsGroup : Bool) :
    Option (Nat × SsiType) :=
  if !validAirInterfaceSsi sourceSsi || !validAirInterfaceSsi destSsi then none
  else if destSsi = maxAirInterfaceSsi then some (maxAirInterfaceSsi, .gssi)
  else if destIsGroup then
    if c.registry.hasGroupMembers destSsi then some (sourceSsi, .gssi) else none
  else if c.registry.isRegistered destSsi then some (sourceSsi, .issi)
  else none

def utf16BeBytes (ch : Char) : List UInt8 :=
  if ch.toNat < 0x10000 then beBytes 2 ch.toNat
  else
    let rest := ch.toNat - 0x10000
    beBytes 2 (0xD800 + rest / 0x400) ++ beBytes 2 (0xDC00 + rest % 0x400)

/-- Text is sent in the short coding where it fits; what is no text is taken for such. -/
def encodeControlTextPayload (payload : List UInt8) : List UInt8 :=
  match String.fromUTF8? ⟨payload.toArray⟩ with
  | some text =>
    if text.toList.all (fun ch => ch.toNat ≤ 0xFF) then
      sdsTlTextCodingLatin1 :: text.toList.map (fun ch => UInt8.ofNat ch.toNat)
    else sdsTlTextCodingUcs2 :: text.toList.flatMap utf16BeBytes
  | none => sdsTlTextCodingLatin1 :: payload

def u16FromBeBytes (bytes : List UInt8) : UInt16 :=
  bytes.foldl (fun n b => n <<< 8 ||| b.toUInt16) 0

def u32FromBeBytes (bytes : List UInt8) : UInt32 :=
  bytes.foldl (fun n b => n <<< 8 ||| b.toUInt32) 0

def u64FromBeBytes (bytes : List UInt8) : UInt64 :=
  bytes.foldl (fun n b => n <<< 8 ||| b.toUInt64) 0

def checkRawSdsPayload (lenBits expectedBits payloadLen expectedBytes : Nat) : Bool :=
  lenBits == expectedBits && payloadLen == expectedBytes

def rawControlSdsUserData (sdti lenBits : Nat) (payload : List UInt8) : Option SdsUserData :=
  match sdti with
  | 0 =>
    if checkRawSdsPayload lenBits 16 payload.length 2 then some (.type1 (u16FromBeBytes payload))
    else none
  | 1 =>
    if checkRawSdsPayload lenBits 32 payload.length 4 then some (.type2 (u32FromBeBytes payload))
    else none
  | 2 =>
    if checkRawSdsPayload lenBits 64 payload.length 8 then some (.type3 (u64FromBeBytes payload))
    else none
  | 3 =>
    if lenBits < type4MinBits || lenBits > type4MaxBits then none
    else (canonicalType4Bytes lenBits payload).map (.type4 lenBits)
  | _ => none

namespace SdsBs

/-- The next message reference, and the one after it; zero is left out. -/
def nextMr (mr : UInt8) : UInt8 × UInt8 := if mr = 0 then (1, 1) else (mr, mr + 1)

variable (c : SdsCtx) (s : SdsBs) (sourceSsi destSsi : Nat)

/-- A text from an operator. A reference is used up by every text of the right length. -/
def controlSds (destIsGroup : Bool) (lenBits : Nat) (payload : List UInt8) :
    Option Delivery × SdsBs :=
  match c.controlSdsAirRoute sourceSsi destSsi destIsGroup with
  | none => (none, s)
  | some (airSourceSsi, destSsiType) =>
    if lenBits ≠ payload.length * 8 then (none, s)
    else
      let mr := nextMr s.sdsMr
      let s := { s with sdsMr := mr.2 }
      let transferFlags :=
        if destIsGroup || destSsi == maxAirInterfaceSsi then sdsTlTransferNoReportReq
        else sdsTlTransferWithReportReq
      let wrappedPayload :=
        sdsTlTextProtocolId :: transferFlags :: mr.1 :: encodeControlTextPayload payload
      if wrappedPayload.length > 255 then (none, s)
      else
        (some ⟨airSourceSsi, destSsi, destSsiType, .type4 (wrappedPayload.length * 8) wrappedPayload⟩,
          s)

def controlRawSds (destIsGroup : Bool) (sdti lenBits : Nat) (payload : List UInt8) :
    Option Delivery :=
  match c.controlSdsAirRoute sourceSsi destSsi destIsGroup,
      rawControlSdsUserData sdti lenBits payload with
  | some (airSourceSsi, destSsiType), some userDefinedData =>
    some ⟨airSourceSsi, destSsi, destSsiType,
      if destSsiType = .gssi then sdsTlWithoutDeliveryReport userDefinedData else userDefinedData⟩
  | _, _ => none

/-! Status messages. -/

def sendDStatus (sourceIssi destSsi : Nat) (destSsiType : SsiType) (preCodedStatus : PreCodedStatus)
    (txReporter : Option Cc.TxReporter) : SdsBs :=
  if !validAirInterfaceSsi sourceIssi || !validAirInterfaceSsi destSsi then
    s.discardSdsReporter txReporter
  else
    s.send [.dStatus sourceIssi preCodedStatus (layer2serviceOf destSsiType) ⟨destSsi, destSsiType⟩
      txReporter]

def routeStatusFromControlFields (status : CmceSdsStatus) : SdsBs :=
  if !validAirInterfaceSsi status.sourceIssi || !validAirInterfaceSsi status.destIssi then
    s.discardSdsReporter status.txReporter
  else
    let preCodedStatus := PreCodedStatus.ofU16 status.statusNumber
    match status.destSsiType with
    | .issi =>
      if status.destIssi == maxAirInterfaceSsi || !c.registry.isRegistered status.destIssi then
        s.discardSdsReporter status.txReporter
      else s.sendDStatus status.sourceIssi status.destIssi .issi preCodedStatus status.txReporter
    | .gssi =>
      if status.destIssi != maxAirInterfaceSsi && !c.registry.hasGroupMembers status.destIssi then
        s.discardSdsReporter status.txReporter
      else
        s.sendDStatus
          (if status.destIssi = maxAirInterfaceSsi then maxAirInterfaceSsi else status.sourceIssi)
          status.destIssi .gssi preCodedStatus status.txReporter
    | _ => s.discardSdsReporter status.txReporter

/-- A status of an authorised radio may start an action; `true` where it was taken for one. -/
def handleSdsCommandStatus (status : PreCodedStatus) : Bool × SdsBs :=
  match status, c.commandControl with
  | .networkUserSpecific statusCode, some ctrl =>
    if !ctrl.authorizedIssis.contains sourceSsi then (false, s)
    else
      match (ctrl.commands.find? (fun entry => entry.1 == statusCode)).map Prod.snd with
      | some .restart => (true, s)
      | some .shutdown => (true, s)
      | some .kickAll => (true, { s with pendingActions := s.pendingActions ++ [.kickAll] })
      | some .unknown => (false, s)
      | none => (false, s)
  | _, _ => (false, s)

def deliveryStatus : ShortReportType → UInt8
  | .messageReceived => 0x00
  | .messageConsumed => 0x02
  | .destMemFull => 0x52
  | .protOrEncodingNotSupported => 0x50

/-- A short report is expanded for the network where its transfer is known. -/
def statusForBrew (status : PreCodedStatus) : SdsUserData × SdsBs :=
  match status with
  | .sdsTl report =>
    match s.takeSdsTlReportProtocolId sourceSsi destSsi report with
    | (some protocolId, s) =>
      (.type4 32 [protocolId, 0x10, deliveryStatus report.shortReportType, report.messageReference],
        s)
    | (none, s) => (.type1 status.intoRaw, s)
  | _ => (.type1 status.intoRaw, s)

def routeStatusToDestination (status : PreCodedStatus) : SdsBs :=
  match c.localDestination destSsi with
  | (true, true) => s
  | (true, false) => s.sendDStatus sourceSsi destSsi .issi status none
  | (false, true) => s.sendDStatus sourceSsi destSsi .gssi status none
  | (false, false) =>
    if c.featureSdsEnabled then
      let r := s.statusForBrew sourceSsi destSsi status
      r.2.send [.brew ⟨sourceSsi, destSsi, none, r.1, none⟩]
    else s

def routeStatusDeliver (ul : UlContext) (pdu : UStatus) : SdsBs :=
  match c.registeredRfCallingPartyIssi ul.address with
  | none => s
  | some sourceSsi =>
    if !c.featureCheckCalledPartyAddress pdu.toCalledParty then
      s.send [.cmceFunctionNotSupported .uStatus ul]
    else
      match pdu.calledPartySsi with
      | none => s
      | some destSsi =>
        if destSsi = sdsCommandIssi then
          match s.handleSdsCommandStatus c sourceSsi pdu.preCodedStatus with
          | (true, s) => s
          | (false, s) => s.routeStatusToDestination c sourceSsi destSsi pdu.preCodedStatus
        else s.routeStatusToDestination c sourceSsi destSsi pdu.preCodedStatus

/-! Short messages. -/

def routeRfDeliver (ul : UlContext) (pdu : USdsData) : SdsBs :=
  match c.rfRoute ul.address pdu with
  | .ignore => s
  | .notSupported => s.send [.cmceFunctionNotSupported .uSdsData ul]
  | .deliver d => s.sendOrDeferDSdsData c.busy d none
  | .forward sds => s.send [.brew sds]

def rxSdsFromBrew (sds : CmceSdsData) : SdsBs :=
  match c.brewRoute sds with
  | none => s.discardSdsReporter sds.txReporter
  | some d => s.sendOrDeferDSdsData c.busy d sds.txReporter

/-- The message that a command sends, and the state in which it is sent. -/
def commandDelivery : SdsCommand → Option Delivery × SdsBs
  | .sendSds sourceSsi destSsi destIsGroup lenBits payload =>
    s.controlSds c sourceSsi destSsi destIsGroup lenBits payload
  | .sendRawSds sourceSsi destSsi destIsGroup sdti lenBits payload =>
    (controlRawSds c sourceSsi destSsi destIsGroup sdti lenBits payload, s)
  | .sendStatus _ _ _ _ => (none, s)

def rxCommand (command : SdsCommand) : SdsBs :=
  match command with
  | .sendStatus sourceSsi destSsi destIsGroup statusNumber =>
    s.routeStatusFromControlFields c
      ⟨sourceSsi, destSsi,
        if destIsGroup || destSsi == maxAirInterfaceSsi then .gssi else .issi, statusNumber, none⟩
  | command =>
    match s.commandDelivery c command with
    | (some d, s) => s.sendOrDeferDSdsData c.busy d none
    | (none, s) => s

end SdsBs
end NexusBs.Sds
