import NexusBs.Phy.Slotter
import NexusBs.Sched.Finalize

namespace NexusBs
open BitBuffer Slotter List Option

namespace LogicalChannel

def isTraffic : LogicalChannel → Bool
  | tchS | tch24 | tch48 | tch72 => true
  | _ => false

def isControlChannel : LogicalChannel → Bool
  | aach | bsch | bnch | schHd | schF | stch | schHu => true
  | _ => false

end LogicalChannel

/-- Block sizes of a logical channel before and after coding, and how its bits are spread. -/
structure ErrorControlParams where
  (type345Bits type2Bits type1Bits interleaveA : Nat)
  haveCrc16 : Bool

def getParams : LogicalChannel → Option ErrorControlParams
  | .bsch => some ⟨120, 80, 60, 11, true⟩
  | .schHd | .stch | .bnch => some ⟨216, 144, 124, 101, true⟩
  | .aach => some ⟨30, 30, 14, 0, false⟩
  | .schF => some ⟨432, 288, 268, 103, true⟩
  | .schHu => some ⟨168, 112, 92, 13, true⟩
  | .tchS => some ⟨432, 288, 274, 103, false⟩
  | .tch24 | .tch48 | .tch72 | .blch | .clch => none

/-- The channel coders, from type-1 to type-5 bits under a scrambling code. Each of
them fills an array of the size its channel has. -/
structure ChannelCoding where
  control : LogicalChannel → Nat → List Bool → List Bool
  speech : Nat → List Bool → List Bool
  accessAssign : Nat → List Bool → List Bool
  length_control : ∀ c p code type1, getParams c = some p →
    (control c code type1).length = p.type345Bits
  length_speech : ∀ code type1, (speech code type1).length = 432
  length_accessAssign : ∀ code type1, (accessAssign code type1).length = 30

structure TpUnitdataReqSlot where
  trainType : TrainingSequence
  burstType : BurstType
  (bbk blk1 blk2 : Option BitBuffer)

namespace LmacBs

variable (coding : ChannelCoding)

/-- `none` where the assertion on the length fails. -/
def encodeAach (buf : BitBuffer) (scramblingCode : Nat) : Option BitBuffer :=
  if buf.lenRemaining = 14 then some (fromBitarr (coding.accessAssign scramblingCode buf.rest))
  else none

/-- `none` for a block that is not coded. -/
def encodeCp (prim : TmvUnitdataReq) : Option BitBuffer :=
  let lchan := prim.logicalChannel
  if lchan.isControlChannel = false ∨ lchan = .aach then none
  else
    (getParams lchan).bind (fun params =>
      if prim.macBlock.len ≠ params.type1Bits then none
      else if params.haveCrc16 = false then none
      else some (fromBitarr (coding.control lchan prim.scramblingCode prim.macBlock.window)))

/-- Speech for a full slot, or only its second half. -/
def encodeTp (prim : TmvUnitdataReq) (blkNum : Nat) : Option BitBuffer :=
  if prim.logicalChannel ≠ .tchS then none
  else
    (getParams prim.logicalChannel).map (fun params =>
      let type1Len := min prim.macBlock.len params.type1Bits
      let type5 := coding.speech prim.scramblingCode (prim.macBlock.window.take type1Len)
      fromBitarr (if blkNum = 1 then type5 else type5.drop 216))

/-- The burst a first block is sent in, none for a slot that is dropped. -/
def burstOf (blk1 : TmvUnitdataReq) (blk2 : Option TmvUnitdataReq) :
    Option (BurstType × TrainingSequence) :=
  match blk1.logicalChannel with
  | .bsch => if blk2.isNone then none else some (.sdb, .syncTrainSeq)
  | .schF | .tchS => some (.ndb, .normalTrainSeq1)
  | .schHd | .stch | .bnch => if blk2.isNone then none else some (.ndb, .normalTrainSeq2)
  | _ => none

def encodeBlk1 (blk1 : TmvUnitdataReq) : Option BitBuffer :=
  if blk1.logicalChannel.isTraffic then encodeTp coding blk1 1 else encodeCp coding blk1

/-- A received half slot is coded already and passes as it is. -/
def encodeBlk2 (blk2 : TmvUnitdataReq) : Option BitBuffer :=
  if blk2.logicalChannel.isTraffic then
    if blk2.logicalChannel = .tchS ∧ blk2.macBlock.len = 216 then some blk2.macBlock
    else encodeTp coding blk2 2
  else encodeCp coding blk2

/-- Outer `none` where an assertion fails, inner `none` for a slot that is dropped. -/
def rxTmvUnitdataReqSlot (prim : TmvUnitdataReqSlot) : Option (Option TpUnitdataReqSlot) :=
  match prim.bbk, prim.blk1 with
  | some bbk, some blk1 =>
    match burstOf blk1 prim.blk2 with
    | none => some none
    | some (burstType, trainType) =>
      (encodeAach coding bbk.macBlock bbk.scramblingCode).map (fun bbk =>
        match encodeBlk1 coding blk1, prim.blk2 with
        | none, _ => none
        | some blk1, none => some ⟨trainType, burstType, some bbk, some blk1, none⟩
        | some blk1, some blk2 =>
          (encodeBlk2 coding blk2).map (fun blk2 =>
            ⟨trainType, burstType, some bbk, some blk1, some blk2⟩))
  | _, _ => some none

end LmacBs

namespace PhyBs

/-- Reads an array full of bits; `none` where the buffer has too few. -/
def toBitarr (n : Nat) (b : BitBuffer) : Option (List Bool × BitBuffer) :=
  if n ≤ b.lenRemaining then some (b.rest.take n, b.advance n) else none

/-- The burst for the transmitter. Outer `none` where an assertion fails, inner
`none` for a slot that is dropped. -/
def rxTpsapPrim (prim : TpUnitdataReqSlot) : Option (Option (List Bool)) := do
  let bbk ← prim.bbk
  let (bbk, _) ← toBitarr 30 bbk
  match prim.burstType with
  | .sdb =>
    if prim.trainType ≠ .syncTrainSeq then none
    else
      let blk1 ← prim.blk1
      let blk2 ← prim.blk2
      let (blk1, _) ← toBitarr 120 blk1
      let (blk2, _) ← toBitarr 216 blk2
      some (some (buildSdb blk1 bbk blk2))
  | .ndb =>
    match prim.trainType with
    | .normalTrainSeq1 =>
      let src ← prim.blk1
      if prim.blk2.isSome then none
      else
        let (blk1, src) ← toBitarr 216 src
        let (blk2, _) ← toBitarr 216 src
        some (some (buildNdb prim.trainType blk1 bbk blk2))
    | .normalTrainSeq2 =>
      let blk1 ← prim.blk1
      let blk2 ← prim.blk2
      let (blk1, _) ← toBitarr 216 blk1
      let (blk2, _) ← toBitarr 216 blk2
      some (some (buildNdb prim.trainType blk1 bbk blk2))
    | _ => some none
  | _ => none

end PhyBs

/-- What becomes of a finalised slot: `none` where a layer drops it or an assertion
fails. -/
def onAir (coding : ChannelCoding) (slot : TmvUnitdataReqSlot) : Option (List Bool) :=
  (LmacBs.rxTmvUnitdataReqSlot coding slot).join.bind (fun prim => (PhyBs.rxTpsapPrim prim).join)

def TmvUnitdataReq.Sized (blk : TmvUnitdataReq) : Prop :=
  blk.macBlock.done = [] ∧
    ∃ p, getParams blk.logicalChannel = some p ∧ blk.macBlock.rest.length = p.type1Bits

def LogicalChannel.callsForSecond : LogicalChannel → Bool
  | bsch | schHd | stch | bnch => true
  | _ => false

/-- The shape all layers below agree on. -/
structure WellFormedSlot (slot : TmvUnitdataReqSlot) : Prop where
  bbk : ∃ b, slot.bbk = some b ∧ b.logicalChannel = .aach ∧ b.Sized
  blk1 : ∃ b, slot.blk1 = some b ∧ b.Sized ∧
    b.logicalChannel ∈ [LogicalChannel.bsch, .schHd, .schF, .stch, .tchS] ∧
    (slot.blk2.isSome = b.logicalChannel.callsForSecond)
  blk2 : ∀ b, slot.blk2 = some b →
    b.logicalChannel ∈ [LogicalChannel.bnch, .stch, .tchS] ∧
    (b.Sized ∨ b.logicalChannel = .tchS ∧ b.macBlock.done = [] ∧ b.macBlock.rest.length = 216)

section Sizes

variable (coding : ChannelCoding)

variable {b : TmvUnitdataReq}

theorem encodeAach_sized (hc : b.logicalChannel = .aach) (h : b.Sized) :
    ∃ b', LmacBs.encodeAach coding b.macBlock b.scramblingCode = some b' ∧ b'.rest.length = 30 := by
  obtain ⟨-, p, hp, hlen⟩ := h
  rw [hc] at hp
  cases hp
  exact ⟨_, if_pos hlen, coding.length_accessAssign _ _⟩

theorem encodeCp_sized {p : ErrorControlParams} (h : b.Sized)
    (hp : getParams b.logicalChannel = some p) (hcrc : p.haveCrc16 = true) :
    ∃ b', LmacBs.encodeCp coding b = some b' ∧ b'.rest.length = p.type345Bits := by
  obtain ⟨hdone, p', hp', hlen⟩ := h
  rw [hp] at hp'
  cases hp'
  have hcc : ¬(b.logicalChannel.isControlChannel = false ∨ b.logicalChannel = .aach) := by
    cases hb : b.logicalChannel <;> rw [hb] at hp <;> cases hp
    all_goals first | exact absurd hcrc Bool.false_ne_true | simp [LogicalChannel.isControlChannel]
  refine ⟨fromBitarr (coding.control b.logicalChannel b.scramblingCode b.macBlock.window), ?_,
    coding.length_control b.logicalChannel p b.scramblingCode b.macBlock.window hp⟩
  simp [LmacBs.encodeCp, hcc, hp, BitBuffer.len, hdone, hlen, hcrc]

theorem encodeTp_sized (hc : b.logicalChannel = .tchS) (n : Nat) :
    ∃ b', LmacBs.encodeTp coding b n = some b' ∧
      b'.rest.length = if n = 1 then 432 else 216 := by
  simp only [LmacBs.encodeTp, hc, ne_eq, not_true, if_false, getParams, map_some,
    Option.some.injEq, exists_eq_left', fromBitarr]
  split
  · exact coding.length_speech _ _
  · rw [length_drop, coding.length_speech]

theorem encodeBlk2_sized (hc : b.logicalChannel ∈ [LogicalChannel.bnch, .stch, .tchS])
    (h : b.Sized ∨ b.logicalChannel = .tchS ∧ b.macBlock.done = [] ∧ b.macBlock.rest.length = 216) :
    ∃ b', LmacBs.encodeBlk2 coding b = some b' ∧ b'.rest.length = 216 := by
  simp only [mem_cons, not_mem_nil, or_false] at hc
  unfold LmacBs.encodeBlk2
  by_cases ht : b.logicalChannel = .tchS
  · rw [if_pos (by rw [ht]; rfl)]
    split
    · rename_i hraw
      rcases h with ⟨hdone, p, hp, hlen⟩ | ⟨-, -, hlen⟩
      · rw [ht] at hp
        cases hp
        simp only [BitBuffer.len, hdone, length_nil, Nat.zero_add, hlen] at hraw
        exact absurd hraw.2 (by decide)
      · exact ⟨_, rfl, hlen⟩
    · obtain ⟨b', hb', hlen⟩ := encodeTp_sized coding ht 2
      exact ⟨b', hb', hlen⟩
  · have hs : b.Sized := by
      rcases h with h | h
      · exact h
      · exact absurd h.1 ht
    have hp : getParams b.logicalChannel = some ⟨216, 144, 124, 101, true⟩ := by
      rcases hc with hc | hc | hc
      · rw [hc]
        rfl
      · rw [hc]
        rfl
      · exact absurd hc ht
    have hnt : b.logicalChannel.isTraffic = false := by
      rcases hc with hc | hc | hc
      · rw [hc]
        rfl
      · rw [hc]
        rfl
      · exact absurd hc ht
    rw [hnt]
    exact encodeCp_sized coding hs hp rfl

theorem toBitarr_some {b : BitBuffer} (h : n ≤ b.rest.length) :
    PhyBs.toBitarr n b = some (b.rest.take n, b.advance n) := if_pos h

theorem length_take_of_eq {b : BitBuffer} (h : b.rest.length = n) : (b.rest.take n).length = n := by
  rw [length_take, h, Nat.min_self]

theorem onAir_halves {slot : TmvUnitdataReqSlot} {bbk blk1 : TmvUnitdataReq} {bb b1 b2 : BitBuffer}
    (hbbk : slot.bbk = some bbk) (hblk1 : slot.blk1 = some blk1) (hblk2 : slot.blk2 = some blk2)
    (hc : blk1.logicalChannel = .schHd ∨ blk1.logicalChannel = .stch)
    (hbb : LmacBs.encodeAach coding bbk.macBlock bbk.scramblingCode = some bb)
    (hb1 : LmacBs.encodeBlk1 coding blk1 = some b1) (hb2 : LmacBs.encodeBlk2 coding blk2 = some b2)
    (hlb : bb.rest.length = 30) (hl1 : b1.rest.length = 216) (hl2 : b2.rest.length = 216) :
    ∃ burst, onAir coding slot = some burst ∧ burst.length = timeslotType4Bits := by
  have hburst : LmacBs.burstOf blk1 (some blk2) = some (.ndb, .normalTrainSeq2) := by
    rcases hc with hc | hc <;> simp [LmacBs.burstOf, hc]
  refine ⟨buildNdb .normalTrainSeq2 (b1.rest.take 216) (bb.rest.take 30)
    (b2.rest.take 216), ?_, length_buildNdb (length_take_of_eq hl1)
      (length_take_of_eq hlb) (length_take_of_eq hl2)⟩
  simp [onAir, LmacBs.rxTmvUnitdataReqSlot, hbbk, hblk1, hblk2, hburst, hbb, hb1, hb2,
    PhyBs.rxTpsapPrim, bind, toBitarr_some (Nat.le_of_eq hlb.symm),
    toBitarr_some (Nat.le_of_eq hl1.symm), toBitarr_some (Nat.le_of_eq hl2.symm)]

theorem onAir_full {slot : TmvUnitdataReqSlot} {bbk blk1 : TmvUnitdataReq} {bb b1 : BitBuffer}
    (hbbk : slot.bbk = some bbk) (hblk1 : slot.blk1 = some blk1) (hblk2 : slot.blk2 = none)
    (hc : blk1.logicalChannel = .schF ∨ blk1.logicalChannel = .tchS)
    (hbb : LmacBs.encodeAach coding bbk.macBlock bbk.scramblingCode = some bb)
    (hb1 : LmacBs.encodeBlk1 coding blk1 = some b1) (hlb : bb.rest.length = 30)
    (hl1 : b1.rest.length = 432) :
    ∃ burst, onAir coding slot = some burst ∧ burst.length = timeslotType4Bits := by
  have hburst : LmacBs.burstOf blk1 none = some (.ndb, .normalTrainSeq1) := by
    rcases hc with hc | hc <;> simp [LmacBs.burstOf, hc]
  have hfirst : (b1.rest.take 216).length = 216 := by
    rw [length_take, hl1]
    rfl
  have hsecond : ((b1.advance 216).rest.take 216).length = 216 := by
    rw [advance_rest, length_take, length_drop, hl1]
    rfl
  refine ⟨buildNdb .normalTrainSeq1 (b1.rest.take 216) (bb.rest.take 30)
    ((b1.advance 216).rest.take 216), ?_, length_buildNdb hfirst
      (length_take_of_eq hlb) hsecond⟩
  have hr1 := toBitarr_some (n := 216) (b := b1) (by omega)
  have hr2 := toBitarr_some (n := 216) (b := b1.advance 216)
    (by rw [advance_rest, length_drop]; omega)
  simp [onAir, LmacBs.rxTmvUnitdataReqSlot, hbbk, hblk1, hblk2, hburst, hbb, hb1, PhyBs.rxTpsapPrim,
    bind, toBitarr_some (Nat.le_of_eq hlb.symm), hr1, hr2]

/-- A slot of the agreed shape becomes one burst. -/
theorem WellFormedSlot.onAir (h : WellFormedSlot slot) :
    ∃ burst, onAir coding slot = some burst ∧ burst.length = timeslotType4Bits := by
  obtain ⟨bbk, hbbk, hac, hsb⟩ := h.bbk
  obtain ⟨blk1, hblk1, hs1, hc1, hsecond⟩ := h.blk1
  obtain ⟨bb, hbb, hlb⟩ := encodeAach_sized coding hac hsb
  have hhalves : blk1.logicalChannel = .schHd ∨ blk1.logicalChannel = .stch →
      ∃ burst, NexusBs.onAir coding slot = some burst ∧ burst.length = timeslotType4Bits := by
    intro hc
    have hcall : slot.blk2.isSome = true := by
      rw [hsecond]
      rcases hc with hc | hc <;> rw [hc] <;> rfl
    obtain ⟨blk2, hblk2⟩ := isSome_iff_exists.mp hcall
    obtain ⟨b2, hb2, hl2⟩ := encodeBlk2_sized coding (h.blk2 blk2 hblk2).1 (h.blk2 blk2 hblk2).2
    obtain ⟨b1, hb1, hl1⟩ := encodeCp_sized coding hs1 (p := ⟨216, 144, 124, 101, true⟩)
      (by rcases hc with hc | hc <;> rw [hc] <;> rfl) rfl
    refine onAir_halves coding hbbk hblk1 hblk2 hc hbb ?_ hb2 hlb hl1 hl2
    rcases hc with hc | hc <;> rw [LmacBs.encodeBlk1, hc] <;> exact hb1
  simp only [mem_cons, not_mem_nil, or_false] at hc1
  rcases hc1 with hc | hc | hc | hc | hc
  · have hcall : slot.blk2.isSome = true := by
      rw [hsecond, hc]
      rfl
    obtain ⟨blk2, hblk2⟩ := isSome_iff_exists.mp hcall
    obtain ⟨b2, hb2, hl2⟩ := encodeBlk2_sized coding (h.blk2 blk2 hblk2).1 (h.blk2 blk2 hblk2).2
    obtain ⟨b1, hb1, hl1⟩ :=
      encodeCp_sized coding hs1 (p := ⟨120, 80, 60, 11, true⟩) (by rw [hc]; rfl) rfl
    have he1 : LmacBs.encodeBlk1 coding blk1 = some b1 := by
      rw [LmacBs.encodeBlk1, hc]
      exact hb1
    refine ⟨buildSdb (b1.rest.take 120) (bb.rest.take 30) (b2.rest.take 216), ?_,
      length_buildSdb (length_take_of_eq hl1) (length_take_of_eq hlb)
        (length_take_of_eq hl2)⟩
    simp [NexusBs.onAir, LmacBs.rxTmvUnitdataReqSlot, hbbk, hblk1, hblk2, LmacBs.burstOf, hc, hbb,
      he1, hb2, PhyBs.rxTpsapPrim, bind, toBitarr_some (Nat.le_of_eq hlb.symm),
      toBitarr_some (Nat.le_of_eq hl1.symm), toBitarr_some (Nat.le_of_eq hl2.symm)]
  · exact hhalves (.inl hc)
  · obtain ⟨b1, hb1, hl1⟩ :=
      encodeCp_sized coding hs1 (p := ⟨432, 288, 268, 103, true⟩) (by rw [hc]; rfl) rfl
    refine onAir_full coding hbbk hblk1 ?_ (.inl hc) hbb ?_ hlb hl1
    · rw [hc] at hsecond
      exact isNone_iff_eq_none.mp (isSome_eq_false_iff.mp hsecond)
    · rw [LmacBs.encodeBlk1, hc]
      exact hb1
  · exact hhalves (.inr hc)
  · obtain ⟨b1, hb1, hl1⟩ := encodeTp_sized coding hc 1
    refine onAir_full coding hbbk hblk1 ?_ (.inr hc) hbb ?_ hlb hl1
    · rw [hc] at hsecond
      exact isNone_iff_eq_none.mp (isSome_eq_false_iff.mp hsecond)
    · rw [LmacBs.encodeBlk1, hc]
      exact hb1

end Sizes

end NexusBs
