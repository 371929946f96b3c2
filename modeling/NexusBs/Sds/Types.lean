import NexusBs.Cc.CircuitMgr
import NexusBs.Lib.Holding

namespace NexusBs.Sds
open Lib Cc

/-- User data of a short message: 16, 32 or 64 bits, or a number of bits in octets. -/
inductive SdsUserData where
  | type1 (value : UInt16)
  | type2 (value : UInt32)
  | type3 (value : UInt64)
  | type4 (lenBits : Nat) (data : List UInt8)
deriving DecidableEq

namespace SdsUserData

def type4MinBits : Nat := 8
def type4MaxBits : Nat := 2047

def type4DeclaredByteCount (lenBits : Nat) : Option Nat :=
  if lenBits > type4MaxBits then none else some ((lenBits + 7) / 8)

/-- The declared octets, with the bits behind the last declared one cleared. -/
def canonicalType4Bytes (lenBits : Nat) (data : List UInt8) : Option (List UInt8) :=
  match type4DeclaredByteCount lenBits with
  | none => none
  | some expectedBytes =>
    if data.length < expectedBytes then none
    else
      let out := data.take expectedBytes
      let remainingBits := lenBits % 8
      some (if remainingBits > 0 then
        out.modify (out.length - 1) (· &&& (0xff <<< UInt8.ofNat (8 - remainingBits)))
      else out)

def beBytes (octets value : Nat) : List UInt8 :=
  (List.range octets).reverse.map (fun i => UInt8.ofNat (value >>> (8 * i)))

def toArr : SdsUserData → List UInt8
  | type1 value => beBytes 2 value.toNat
  | type2 value => beBytes 4 value.toNat
  | type3 value => beBytes 8 value.toNat
  | type4 lenBits data => (canonicalType4Bytes lenBits data).getD data

/-- The data can be written into a PDU. -/
def validate : SdsUserData → Bool
  | type4 lenBits data =>
    type4MinBits ≤ lenBits && lenBits ≤ type4MaxBits && (lenBits + 7) / 8 ≤ data.length
  | _ => true

end SdsUserData

inductive ShortReportType where
  | protOrEncodingNotSupported | destMemFull | messageReceived | messageConsumed
deriving DecidableEq

namespace ShortReportType

def intoRaw : ShortReportType → Nat
  | protOrEncodingNotSupported => 0
  | destMemFull => 1
  | messageReceived => 2
  | messageConsumed => 3

/-- The two bits of a raw value. -/
def ofRaw (raw : Nat) : ShortReportType :=
  match raw % 4 with
  | 0 => protOrEncodingNotSupported
  | 1 => destMemFull
  | 2 => messageReceived
  | _ => messageConsumed

end ShortReportType

structure SdsShortReport where
  shortReportType : ShortReportType
  messageReference : UInt8

namespace SdsShortReport

def fromU16 (val : UInt16) : Option SdsShortReport :=
  if val >>> 10 = 0b011111 then
    some ⟨.ofRaw ((val >>> 8) &&& 0x3).toNat, (val &&& 0xFF).toUInt8⟩
  else none

def toU16 (report : SdsShortReport) : UInt16 :=
  ((0b011111 : UInt16) <<< 10) ||| (UInt16.ofNat report.shortReportType.intoRaw <<< 8) |||
    report.messageReference.toUInt16

end SdsShortReport

inductive PreCodedStatus where
  | emergency
  | reserved (value : UInt16)
  | sdsTl (report : SdsShortReport)
  | networkUserSpecific (value : UInt16)

namespace PreCodedStatus

def ofU16 (x : UInt16) : PreCodedStatus :=
  if x = 0 then emergency
  else if x ≤ 31743 then reserved x
  else if x ≤ 32767 then
    match SdsShortReport.fromU16 x with
    | some report => sdsTl report
    | none => reserved x
  else networkUserSpecific x

def intoRaw : PreCodedStatus → UInt16
  | emergency => 0
  | reserved value => value
  | sdsTl report => report.toU16
  | networkUserSpecific value => value

end PreCodedStatus

/-- Where a short message or a status is to go, as the parser delivers it. Type 3 elements are only
tested for presence. -/
structure CalledParty where
  calledPartyTypeIdentifier : PartyTypeIdentifier
  (calledPartyShortNumberAddress calledPartySsi calledPartyExtension : Option Nat)
  (externalSubscriberNumber dmMsAddress : Bool)

structure USdsData extends CalledParty where
  userDefinedData : SdsUserData

structure UStatus extends CalledParty where
  preCodedStatus : PreCodedStatus

structure CmceSdsData where
  (sourceIssi destIssi : Nat)
  destSsiType : Option SsiType
  userDefinedData : SdsUserData
  txReporter : Option Cc.TxReporter

structure CmceSdsStatus where
  (sourceIssi destIssi : Nat)
  destSsiType : SsiType
  statusNumber : UInt16
  txReporter : Option Cc.TxReporter

inductive SdsPduTypeUl where
  | uStatus | uSdsData

/-- What short data puts on the message queue; elements that are always the same are left out. -/
inductive SdsMsg where
  | dSdsData (callingPartyAddressSsi : Nat) (userDefinedData : SdsUserData)
      (layer2service : Cc.Layer2Service) (mainAddress : TetraAddress) (txReporter : Option Cc.TxReporter)
  | dStatus (callingPartyAddressSsi : Nat) (preCodedStatus : PreCodedStatus)
      (layer2service : Cc.Layer2Service) (mainAddress : TetraAddress) (txReporter : Option Cc.TxReporter)
  | cmceFunctionNotSupported (notSupportedPduType : SdsPduTypeUl) (ul : UlContext)
  | brew (sds : CmceSdsData)

/-- A command of an operator for short data. Its handle only returns in the answer. -/
inductive SdsCommand where
  | sendSds (sourceSsi destSsi : Nat) (destIsGroup : Bool) (lenBits : Nat) (payload : List UInt8)
  | sendRawSds (sourceSsi destSsi : Nat) (destIsGroup : Bool) (sdti lenBits : Nat)
      (payload : List UInt8)
  | sendStatus (sourceSsi destSsi : Nat) (destIsGroup : Bool) (statusNumber : UInt16)

/-- What a status for the command address may start. -/
inductive SdsCommandAction where
  | restart | shutdown | kickAll | unknown

structure SdsCommandControl where
  authorizedIssis : List Nat
  commands : List (UInt16 × SdsCommandAction)

structure WxService where
  enabled : Bool
  serviceIssi : Nat

structure SdsTlReportContextKey where
  (reportingIssi peerIssi : Nat)
  messageReference : UInt8
deriving DecidableEq

structure SdsTlReportContext where
  (protocolId requestedReportMask convertedReportMask : UInt8)

/-- A message for one radio. It is numbered when it is accepted; the code has no such number. -/
structure PendingIndividualSds where
  (number sourceIssi destIssi : Nat)
  userDefinedData : SdsUserData
  txReporter : Option Cc.TxReporter
deriving DecidableEq

/-- What a route has found: who is to get what, from whom. -/
structure Delivery where
  (sourceIssi destSsi : Nat)
  destSsiType : SsiType
  userDefinedData : SdsUserData

/-- What is done with a U-SDS-DATA. -/
inductive RfRoute where
  | ignore | notSupported
  | deliver (delivery : Delivery)
  | forward (sds : CmceSdsData)

end NexusBs.Sds
