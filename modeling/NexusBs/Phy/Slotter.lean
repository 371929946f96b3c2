import NexusBs.Core.BitBuffer

namespace NexusBs

inductive BurstType where
  | cub | nub | ndb | sdb

inductive TrainingSequence where
  | normalTrainSeq1 | normalTrainSeq2 | normalTrainSeq3 | extendedTrainSeq | syncTrainSeq | notFound
deriving DecidableEq

namespace Slotter

/-- Bits of a downlink burst. -/
def timeslotType4Bits : Nat := 510

def bits (n : Nat) (v : Nat) : List Bool := Lib.toBits n v

/-- Normal training sequence 1. -/
def seqN : List Bool := bits 22 0b1101000011101001110100

/-- Normal training sequence 2. -/
def seqP : List Bool := bits 22 0b0111101001000011011110

/-- Normal training sequence 3, which runs on from one burst into the next. -/
def seqQ : List Bool := bits 22 0b1011011100000110101101

/-- Synchronisation training sequence. -/
def seqY : List Bool := bits 38 0b11000001100111001110100111000001100111

/-- Frequency correction field. -/
def seqF : List Bool := List.replicate 8 true ++ List.replicate 64 false ++ List.replicate 8 true

inductive PhaseAdjustBits where
  | ha | hb | hc | hd

/-- First and last symbol of the window a phase adjustment makes up for. -/
def PhaseAdjustBits.window : PhaseAdjustBits → Nat × Nat
  | ha => (8, 122)
  | hb => (123, 249)
  | hc => (8, 108)
  | hd => (109, 249)

/-- Phase step of a symbol, its first bit in the lower place. -/
def bits2Phase : Bool → Bool → Int
  | false, false => 1
  | true, false => -1
  | false, true => 3
  | true, true => -3

def sumUpPhase (burst : List Bool) (startSymbol nSymbols : Nat) : Int :=
  ((List.range nSymbols).map (fun k =>
    bits2Phase (burst.getD (2 * (startSymbol + k)) false)
      (burst.getD (2 * (startSymbol + k) + 1) false))).sum

def calcPhaseAdj (phase : Int) : Int :=
  let adjPhase := -(phase.tmod 8)
  if adjPhase > 3 then adjPhase - 8 else if adjPhase < -3 then adjPhase + 8 else adjPhase

/-- Even adjustments have no symbol and leave the two bits at zero. -/
def phase2Bits (adj : Int) : List Bool :=
  if adj = -3 then [true, true]
  else if adj = -1 then [false, true]
  else if adj = 3 then [true, false]
  else [false, false]

def computePhaseAdjBits (burst : List Bool) (pan : PhaseAdjustBits) : List Bool :=
  let (n1, n2) := pan.window
  phase2Bits (calcPhaseAdj (sumUpPhase burst (n1 - 1) (n2 - n1 + 1)))

/-- The burst around its phase adjustment bits. -/
def sdbWith (blk1 bbk blk2 fc1 fc2 : List Bool) : List Bool :=
  seqQ.drop 10 ++ fc1 ++ seqF ++ blk1 ++ seqY ++ bbk ++ blk2 ++ fc2 ++ seqQ.take 10

def buildSdb (blk1 bbk blk2 : List Bool) : List Bool :=
  let burst := sdbWith blk1 bbk blk2 [false, false] [false, false]
  sdbWith blk1 bbk blk2 (computePhaseAdjBits burst .hc) (computePhaseAdjBits burst .hd)

/-- Only the first two training sequences are put into a burst. -/
def trainBits : TrainingSequence → List Bool
  | .normalTrainSeq1 => seqN
  | .normalTrainSeq2 => seqP
  | _ => List.replicate 22 false

def ndbWith (trainSeq : TrainingSequence) (blk1 bbk blk2 fc1 fc2 : List Bool) : List Bool :=
  seqQ.drop 10 ++ fc1 ++ blk1 ++ bbk.take 14 ++ trainBits trainSeq ++ bbk.drop 14 ++ blk2 ++ fc2 ++
    seqQ.take 10

def buildNdb (trainSeq : TrainingSequence) (blk1 bbk blk2 : List Bool) : List Bool :=
  let burst := ndbWith trainSeq blk1 bbk blk2 [false, false] [false, false]
  ndbWith trainSeq blk1 bbk blk2 (computePhaseAdjBits burst .ha) (computePhaseAdjBits burst .hb)

theorem length_computePhaseAdjBits : (computePhaseAdjBits burst pan).length = 2 := by
  unfold computePhaseAdjBits phase2Bits
  dsimp only
  repeat' split
  all_goals rfl

theorem length_seqQ : seqQ.length = 22 := by simp [seqQ, bits]

theorem length_trainBits : (trainBits t).length = 22 := by
  cases t <;> simp [trainBits, seqN, seqP, bits]

theorem length_buildSdb (h1 : blk1.length = 120) (hb : bbk.length = 30) (h2 : blk2.length = 216) :
    (buildSdb blk1 bbk blk2).length = timeslotType4Bits := by
  have hf : seqF.length = 80 := rfl
  have hy : seqY.length = 38 := by simp [seqY, bits]
  simp only [buildSdb, sdbWith, List.length_append, length_computePhaseAdjBits, List.length_take,
    List.length_drop, length_seqQ, hf, hy, h1, hb, h2, timeslotType4Bits]
  rfl

theorem length_buildNdb (h1 : blk1.length = 216) (hb : bbk.length = 30) (h2 : blk2.length = 216) :
    (buildNdb t blk1 bbk blk2).length = timeslotType4Bits := by
  simp only [buildNdb, ndbWith, List.length_append, length_computePhaseAdjBits, length_seqQ,
    length_trainBits, List.length_take, List.length_drop, h1, hb, h2, timeslotType4Bits]
  omega

end Slotter
end NexusBs
