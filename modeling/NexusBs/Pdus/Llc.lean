import NexusBs.Core.Parser

namespace NexusBs
open BitBuffer PduParser

inductive LlcPduType where
  | blAdata | blData | blUdata | blAck | blAdataFcs | blDataFcs | blUdataFcs | blAckFcs | alSetup
  | alDataAlFinal | alAlUdataAlUfinal | alAckAlRnr | alReconnect | suppLlcPdu | l2SigPdu | alDisc
deriving DecidableEq

def LlcPduType.tryFrom : Nat → Option LlcPduType
  | 0 => some blAdata
  | 1 => some blData
  | 2 => some blUdata
  | 3 => some blAck
  | 4 => some blAdataFcs
  | 5 => some blDataFcs
  | 6 => some blUdataFcs
  | 7 => some blAckFcs
  | 8 => some alSetup
  | 9 => some alDataAlFinal
  | 10 => some alAlUdataAlUfinal
  | 11 => some alAckAlRnr
  | 12 => some alReconnect
  | 13 => some suppLlcPdu
  | 14 => some l2SigPdu
  | 15 => some alDisc
  | _ => none

def expectValue (n : Nat) (name : String) (expected : Nat) : PduParser Unit := do
  let v ← field n name
  if v = expected then pure () else fail (.invalidValue name v)

def blHeader (blPduType : Nat) : PduParser Bool := do
  expectValue 1 "llc_link_type" 0
  let hasFcs ← field 1 "has_fcs"
  expectValue 2 "bl_pdu_type" blPduType
  pure (hasFcs != 0)

structure BlAdata where
  hasFcs : Bool
  (nr ns : Nat)

def BlAdata.fromBitbuf : PduParser BlAdata := do
  let hasFcs ← blHeader 0
  let nr ← field 1 "nr"
  let ns ← field 1 "ns"
  pure ⟨hasFcs, nr, ns⟩

def BlAdata.toBitbuf (p : BlAdata) : BitBuffer → Option BitBuffer :=
  writeFields [(0, 1), (p.hasFcs.toNat, 1), (0, 2), (p.nr, 1), (p.ns, 1)]

structure BlData where
  hasFcs : Bool
  ns : Nat

def BlData.fromBitbuf : PduParser BlData := do
  let hasFcs ← blHeader 1
  let ns ← field 1 "ns"
  pure ⟨hasFcs, ns⟩

def BlData.toBitbuf (p : BlData) : BitBuffer → Option BitBuffer :=
  writeFields [(0, 1), (p.hasFcs.toNat, 1), (1, 2), (p.ns, 1)]

structure BlUdata where
  hasFcs : Bool

def BlUdata.fromBitbuf : PduParser BlUdata := do
  let hasFcs ← blHeader 2
  pure ⟨hasFcs⟩

def BlUdata.toBitbuf (p : BlUdata) : BitBuffer → Option BitBuffer :=
  writeFields [(0, 1), (p.hasFcs.toNat, 1), (2, 2)]

structure BlAck where
  hasFcs : Bool
  nr : Nat

def BlAck.fromBitbuf : PduParser BlAck := do
  let hasFcs ← blHeader 3
  let nr ← field 1 "nr"
  pure ⟨hasFcs, nr⟩

def BlAck.toBitbuf (p : BlAck) : BitBuffer → Option BitBuffer :=
  writeFields [(0, 1), (p.hasFcs.toNat, 1), (3, 2), (p.nr, 1)]

structure AlData where
  (finalSegment acknowledgementRequested : Bool)
  (ns ss : Nat)

def AlData.fromBitbuf : PduParser AlData := do
  expectValue 4 "llc_pdu_type" 9
  let final ← field 1 "final_segment"
  let ar ← field 1 "acknowledgement_requested"
  let ns ← field 3 "ns"
  let ss ← field 8 "ss"
  pure ⟨final != 0, ar != 0, ns, ss⟩

def AlData.toBitbuf (p : AlData) : BitBuffer → Option BitBuffer :=
  writeFields [(9, 4), (p.finalSegment.toNat, 1), (p.acknowledgementRequested.toNat, 1), (p.ns, 3),
    (p.ss, 8)]

theorem BlAdata.fromBitbuf_lt (h : BlAdata.fromBitbuf b = .ok (p, b')) : p.nr < 2 ∧ p.ns < 2 := by
  obtain ⟨_, _, _, h⟩ := bind_ok h
  obtain ⟨_, _, hr, h⟩ := bind_ok h
  obtain ⟨_, _, hs, h⟩ := bind_ok h
  cases h
  exact ⟨readField_lt hr, readField_lt hs⟩

theorem BlData.fromBitbuf_lt (h : BlData.fromBitbuf b = .ok (p, b')) : p.ns < 2 := by
  obtain ⟨_, _, _, h⟩ := bind_ok h
  obtain ⟨_, _, hs, h⟩ := bind_ok h
  cases h
  exact readField_lt hs

theorem AlData.fromBitbuf_lt (h : AlData.fromBitbuf b = .ok (p, b')) : p.ns < 8 ∧ p.ss < 256 := by
  obtain ⟨_, _, _, h⟩ := bind_ok h
  obtain ⟨_, _, _, h⟩ := bind_ok h
  obtain ⟨_, _, _, h⟩ := bind_ok h
  obtain ⟨_, _, hn, h⟩ := bind_ok h
  obtain ⟨_, _, hs, h⟩ := bind_ok h
  cases h
  exact ⟨readField_lt hn, readField_lt hs⟩

def llcPduTypeOf (b : BitBuffer) : Option LlcPduType := (b.peekBits 4).bind LlcPduType.tryFrom

end NexusBs
