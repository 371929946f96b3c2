import NexusBs.Pdus.Llc

namespace NexusBs
open BitBuffer PduParser

inductive MleProtocolDiscriminator where
  | mm | cmce | sndcp | mle | tetraManagementEntity
deriving DecidableEq

def MleProtocolDiscriminator.intoRaw : MleProtocolDiscriminator → Nat
  | mm => 1
  | cmce => 2
  | sndcp => 4
  | mle => 5
  | tetraManagementEntity => 6

def MleProtocolDiscriminator.tryFrom : Nat → Option MleProtocolDiscriminator
  | 1 => some mm
  | 2 => some cmce
  | 4 => some sndcp
  | 5 => some mle
  | 6 => some tetraManagementEntity
  | _ => none

inductive CmcePduTypeDl where
  | dAlert | dCallProceeding | dConnect | dConnectAcknowledge | dDisconnect | dInfo | dRelease
  | dSetup | dStatus | dTxCeased | dTxContinue | dTxGranted | dTxWait | dTxInterrupt | dCallRestore
  | dSdsData | dFacility | cmceFunctionNotSupported
deriving DecidableEq

def CmcePduTypeDl.tryFrom : Nat → Option CmcePduTypeDl
  | 0 => some dAlert
  | 1 => some dCallProceeding
  | 2 => some dConnect
  | 3 => some dConnectAcknowledge
  | 4 => some dDisconnect
  | 5 => some dInfo
  | 6 => some dRelease
  | 7 => some dSetup
  | 8 => some dStatus
  | 9 => some dTxCeased
  | 10 => some dTxContinue
  | 11 => some dTxGranted
  | 12 => some dTxWait
  | 13 => some dTxInterrupt
  | 14 => some dCallRestore
  | 15 => some dSdsData
  | 16 => some dFacility
  | 31 => some cmceFunctionNotSupported
  | _ => none

inductive TransmissionGrant where
  | granted | notGranted | requestQueued | grantedToOtherUser
deriving DecidableEq

def TransmissionGrant.intoRaw : TransmissionGrant → Nat
  | granted => 0
  | notGranted => 1
  | requestQueued => 2
  | grantedToOtherUser => 3

/-- Runs a parser for its verdict. -/
def parsed {α : Type} (p : PduParser α) (b : BitBuffer) : Option (α × BitBuffer) :=
  match p b with
  | .ok r => some r
  | .error _ => none

def parseType3Generic (obit : Bool) (expectedId : Nat) : PduParser (Option (Nat × Nat)) := fun b =>
  if obit = false then .ok (none, b)
  else
    match b.peekBits 1 with
    | none => .error (.bufferEnded "peek_type34_mbit_and_id mbit")
    | some 0 => .ok (none, b)
    | some _ =>
      match b.peekBitsStartoffset (b.getPos + 1) 4 with
      | none => .error (.bufferEnded "peek_type34_mbit_and_id id_bits")
      | some id =>
        if id ≠ expectedId then .ok (none, b)
        else
          match (b.advance 5).readBits 11 with
          | none => .error (.bufferEnded "parse_type3_generic len_bits")
          | some (lenBits, b) =>
            if lenBits ≤ b.rest.length then
              .ok (some (id, lenBits), b.advance lenBits)
            else .error (.bufferEnded "parse_type3_generic data")

def parseType2Generic (obit : Bool) (n : Nat) (name : String) : PduParser (Option Nat) :=
  if obit then do
    let p ← field 1 "pbit"
    if p = 1 then some <$> field n name else pure none
  else pure none

structure DTxGranted where
  (callIdentifier transmissionGrant : Nat)
  (transmissionRequestPermission encryptionControl : Bool)
  (notificationIndicator transmittingPartyTypeIdentifier transmittingPartyAddressSsi : Option Nat)
  transmittingPartyExtension : Option Nat

namespace DTxGranted

def partyAddr : Option Nat → PduParser (Option Nat × Option Nat)
  | none => pure (none, none)
  | some 1 => do
    let ssi ← field 24 "transmitting_party_address_ssi"
    pure (some ssi, none)
  | some 2 => do
    let ssi ← field 24 "transmitting_party_address_ssi"
    let ext ← field 24 "transmitting_party_extension"
    pure (some ssi, some ext)
  | some v => fail (.invalidValue "transmitting_party_type_identifier" v)

def fromBitbuf : PduParser DTxGranted := do
  let ty ← field 5 "pdu_type"
  if ty ≠ 11 then fail (.invalidPduType 11 ty) else do
    let callIdentifier ← field 14 "call_identifier"
    let grant ← field 2 "transmission_grant"
    let permission ← field 1 "transmission_request_permission"
    let encryption ← field 1 "encryption_control"
    let reserved ← field 1 "reserved"
    if reserved ≠ 0 then fail (.invalidValue "reserved" 1) else do
      let o ← field 1 "obit"
      let obit := o == 1
      let notification ← parseType2Generic obit 6 "notification_indicator"
      let party ← parseType2Generic obit 2 "transmitting_party_type_identifier"
      let (ssi, ext) ← partyAddr party
      -- external subscriber number, facility, DM-MS address and proprietary element
      let _ ← parseType3Generic obit 2
      let _ ← parseType3Generic obit 3
      let _ ← parseType3Generic obit 6
      let _ ← parseType3Generic obit 15
      let trailing ← if obit then field 1 "trailing_obit" else pure 0
      if trailing = 1 then fail .invalidTrailingMbitValue
      else
        pure ⟨callIdentifier, grant, permission != 0, encryption != 0, notification, party, ssi, ext⟩

end DTxGranted
end NexusBs
