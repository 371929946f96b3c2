import NexusBs.Core.Types
import NexusBs.Core.BitBuffer
import Mathlib.Logic.Function.Basic

namespace NexusBs
open Function

inductive Direction where
  | dl | ul
deriving DecidableEq

inductive PhyBlockNum where
  | both | block1 | block2 | undefined
deriving DecidableEq

inductive CircuitDlMediaSource where
  | localLoopback | localParrot | swMI
deriving DecidableEq

structure Circuit where
  ts : Nat
  peerTs : Option Nat
  usage : Nat
  dlMediaSource : CircuitDlMediaSource
  activeAddr : Option TetraAddress
  activeSecondaryAddrs : List TetraAddress

namespace Circuit

def activeAddresses (c : Circuit) : List TetraAddress :=
  c.activeAddr.toList ++ c.activeSecondaryAddrs

def isActiveForAddr (c : Circuit) (addr : TetraAddress) : Bool :=
  c.activeAddresses.any (fun a => a == addr)

def isPrimaryIssiScoped (c : Circuit) : Bool := c.activeAddr.any (fun a => a.ssiType == .issi)

end Circuit

/-- History of a speech block that a radio sent: its place in the order of arrival, its uplink
timeslot, and who held the floor there. -/
structure Arrival where
  (number ulTs : Nat)
  speaker : Option TetraAddress
deriving DecidableEq

/-- Media waiting for a downlink slot: packed speech, or a received half slot. No operation reads
where it arrived. -/
inductive CircuitTxBlock where
  | acElp (sourceUlTs : Option Nat) (speakerAddr : Option TetraAddress) (arrival : Option Arrival)
      (block : List Nat)
  | rawTchSHalfSlot (sourceUlTs : Option Nat) (speakerAddr : Option TetraAddress)
      (arrival : Option Arrival) (blockNum : PhyBlockNum) (type5Bits : List Bool)

namespace CircuitTxBlock

def sourceUlTs : CircuitTxBlock → Option Nat
  | acElp src _ _ _ | rawTchSHalfSlot src _ _ _ _ => src

def speakerAddr : CircuitTxBlock → Option TetraAddress
  | acElp _ speaker _ _ | rawTchSHalfSlot _ speaker _ _ _ => speaker

def arrival : CircuitTxBlock → Option Arrival
  | acElp _ _ arrival _ | rawTchSHalfSlot _ _ arrival _ _ => arrival

end CircuitTxBlock

def maxTxDataBlocksPerTimeslot : Nat := 18

structure CircuitMgr where
  dl : Nat → Option Circuit
  ul : Nat → Option Circuit
  txData : Nat → List CircuitTxBlock

def isTimeslot (ts : Nat) : Bool := decide (1 ≤ ts) && decide (ts ≤ 4)

namespace CircuitMgr

def new : CircuitMgr := ⟨fun _ => none, fun _ => none, fun _ => []⟩

variable (c : CircuitMgr) (dir : Direction) (ts : Nat)

def circuit : Option Circuit :=
  if isTimeslot ts then (match dir with | .dl => c.dl (ts - 1) | .ul => c.ul (ts - 1)) else none

def isActive : Bool := (c.circuit dir ts).isSome

def getUsage : Option Nat := (c.circuit dir ts).map Circuit.usage

def closeCircuit : CircuitMgr :=
  if isTimeslot ts then
    match dir with
    | .dl => { c with
      txData := update c.txData (ts - 1) [], dl := update c.dl (ts - 1) none }
    | .ul => { c with ul := update c.ul (ts - 1) none }
  else c

def createCircuit (circuit : Circuit) : CircuitMgr :=
  if isTimeslot circuit.ts then
    let c := if c.isActive dir circuit.ts then c.closeCircuit dir circuit.ts else c
    match dir with
    | .dl => { c with
      txData := update c.txData (circuit.ts - 1) []
      dl := update c.dl (circuit.ts - 1) (some circuit) }
    | .ul => { c with ul := update c.ul (circuit.ts - 1) (some circuit) }
  else c

def setDlMediaSource (source : CircuitDlMediaSource) : CircuitMgr :=
  if isTimeslot ts then
    let set := Option.map (fun circuit : Circuit => { circuit with dlMediaSource := source })
    { c with
      dl := update c.dl (ts - 1) (set (c.dl (ts - 1)))
      ul := update c.ul (ts - 1) (set (c.ul (ts - 1))) }
  else c

/-- A full media queue gives up its oldest block. -/
def pushTxDataBounded (block : CircuitTxBlock) : CircuitMgr :=
  let queue := c.txData (ts - 1)
  let queue := if queue.length ≥ maxTxDataBlocksPerTimeslot then queue.drop 1 else queue
  { c with txData := update c.txData (ts - 1) (queue ++ [block]) }

/-- Media is only taken for a timeslot with an open downlink circuit. -/
def putBlock (block : CircuitTxBlock) : CircuitMgr :=
  if isTimeslot ts ∧ c.isActive .dl ts then c.pushTxDataBounded ts block else c

def clearTxData : CircuitMgr :=
  if isTimeslot ts then { c with txData := update c.txData (ts - 1) [] } else c

def matchesSource (sourceUlTs : Nat) (sourceAddr : TetraAddress) (block : CircuitTxBlock) : Bool :=
  block.sourceUlTs == some sourceUlTs && block.speakerAddr.all (fun a => a == sourceAddr)

def clearTxDataExceptSource (sourceUlTs : Nat) (sourceAddr : TetraAddress) : CircuitMgr :=
  if isTimeslot ts then
    let queue := (c.txData (ts - 1)).filter (matchesSource sourceUlTs sourceAddr)
    { c with txData := update c.txData (ts - 1) queue }
  else c

def takeBlock : Option CircuitTxBlock × CircuitMgr :=
  if c.isActive .dl ts then
    ((c.txData (ts - 1)).head?,
      { c with txData := update c.txData (ts - 1) ((c.txData (ts - 1)).drop 1) })
  else (none, c)

end CircuitMgr
end NexusBs
