import NexusBs.Lmac.ErrorControl

namespace NexusBs.Lmac

open Lib BitBuffer List Option

/-- One step of the division by `1 + X³ + X⁷`, for the degree `d`. -/
def speechCrcReduce (w : List Bool) (d : Nat) : List Bool :=
  if w[d]? = some true then ((w.modify d not).modify (d - 4) not).modify (d - 7) not else w

/-- Seven parity bits of the class 2 bits, and the parity of them all. -/
def speechCrc (class2Bits : List Bool) : List Bool :=
  let w := List.replicate 7 false ++ class2Bits.take 60
  let result := ((List.range' 7 60).reverse.foldl speechCrcReduce w).take 7
  result ++ [(class2Bits ++ result).foldl xor false]

def class0Bits : Nat := 102
def class1Bits : Nat := 112
def class2Bits : Nat := 60
def class2Type2 : Nat := 72
def class1Type3 : Nat := 168
def class2Type3 : Nat := 162

def class2Block (data : List Bool) : List Bool := data ++ speechCrc data ++ List.replicate 4 false

/-- From type-1 bits in the order of the channel to type-3 bits. The register of the encoder is not
reset between class 1 and class 2. -/
def speechType3 (type1 : List Bool) : Option (List Bool) := do
  let class1 := (type1.drop class0Bits).take class1Bits
  let class2 := class2Block ((type1.drop (class0Bits + class1Bits)).take class2Bits)
  let punct1 ← getPuncturedRate .rate112_168 (({} : ConvEncState).speechEncode class1) class1Type3
  let punct2 ← getPuncturedRate .rate72_162
    ((({} : ConvEncState).after class1).speechEncode class2) class2Type3
  return type1.take class0Bits ++ punct1 ++ punct2

/-- Speech for a full slot, or its second half. Outer `none` where an assertion or an index fails. -/
def encodeTp (prim : TmvUnitdataReq) (blkNum : Nat) : Option (Option BitBuffer) :=
  if prim.logicalChannel ≠ .tchS then some none
  else
    match getParams prim.logicalChannel with
    | none => some none
    | some params => do
      let macBlock ← prim.macBlock.seek 0
      let type1Len := min macBlock.len params.type1Bits
      let (bits, _) ← PhyBs.toBitarr type1Len macBlock
      let type1 ← if type1Len = 274 then codecToChannel bits else some (padded maxType1Bits bits)
      let type3 ← speechType3 type1
      let type4 ← matrixInterleave 24 18 type3 (List.replicate maxType345Bits false)
      let type5 := tetraScrambBits prim.scramblingCode (fromBitarr (type4.take params.type345Bits))
      if blkNum = 1 then some (some type5)
      else
        let type5 ← type5.seek 0
        let (full, _) ← PhyBs.toBitarr params.type345Bits type5
        some (some (fromBitarr (full.drop maxType345HalfslotBits)))

/-- From type-3 bits to type-1 bits in the order of the channel, and whether the CRC is right. -/
def speechType1 (type3 : List Bool) : Option (List Bool × Bool) := do
  let mother1 ← tetraRcpcDepunct .rate112_168 ((type3.drop class0Bits).take class1Type3) class1Type3
    (List.replicate (class1Bits * 3) none)
  let mother2 ← tetraRcpcDepunct .rate72_162
    ((type3.drop (class0Bits + class1Type3)).take class2Type3) class2Type3
    (List.replicate (class2Type2 * 3) none)
  let decoded := TetraCodecViterbiDecoder.new.decode ((mother1 ++ mother2).map softBit)
  let class2 := decoded.drop class1Bits
  let data := class2.take class2Bits
  let receivedCrc := (class2.drop class2Bits).take 8
  return (type3.take class0Bits ++ decoded.take class1Bits ++ data, speechCrc data = receivedCrc)

/-- The type-1 bits in the order of the codec, and whether their CRC is right. -/
def decodeTp (lchan : LogicalChannel) (type5Block : BitBuffer) (scramblingCode : Nat) :
    Option (Option BitBuffer × Bool) :=
  if lchan ≠ .tchS then some (none, false)
  else
    match getParams lchan with
    | none => some (none, false)
    | some params => do
      let type4 ← (tetraScrambBits scramblingCode type5Block).seek 0
      let (type4, _) ← PhyBs.toBitarr params.type345Bits type4
      let type3 ← matrixDeinterleave 24 18 (padded maxType345Bits type4)
        (List.replicate maxType345Bits false)
      let (channelBits, crcOk) ← speechType1 type3
      let codecBits ← channelToCodec channelBits
      some (some (fromBitarr codecBits), crcOk)

theorem length_speechCrcReduce (w : List Bool) : (speechCrcReduce w d).length = w.length := by
  unfold speechCrcReduce
  split <;> simp

theorem length_speechCrc (h : data.length = 60) : (speechCrc data).length = 8 := by
  have hfold : ∀ (ds : List Nat) (w : List Bool), (ds.foldl speechCrcReduce w).length = w.length := by
    intro ds
    induction ds with
    | nil => intro w; rfl
    | cons d ds ih => intro w; rw [foldl_cons, ih, length_speechCrcReduce]
  have hlen : ((List.range' 7 60).reverse.foldl speechCrcReduce
      (List.replicate 7 false ++ data.take 60)).length = 67 := by
    rw [hfold, length_append, length_take, length_replicate, h]
    rfl
  simp only [speechCrc, length_append, length_take, hlen]
  rfl

theorem length_class2Block {data : List Bool} (h : data.length = 60) :
    (class2Block data).length = 72 := by
  simp [class2Block, h, length_speechCrc h]

theorem length_speechEncode (s : ConvEncState) (bits : List Bool) :
    (s.speechEncode bits).length = 3 * bits.length :=
  ConvEncState.length_symbols (e := ConvEncState.speechEncodeBit) (fun _ _ => rfl) s bits

/-- One class: what is sent of its mother code, and what a receiver makes of that. -/
theorem punct_heard (h : (getPuncturer mode).Regular 3 m) (s : ConvEncState) {bits : List Bool}
    (hlen : bits.length = m * k) :
    ∃ sent, getPuncturedRate mode (s.speechEncode bits) ((getPuncturer mode).t * k) = some sent ∧
      sent.length = (getPuncturer mode).t * k ∧
      ∃ mother, tetraRcpcDepunct mode sent ((getPuncturer mode).t * k)
          (List.replicate (bits.length * 3) none) = some mother ∧
        ∃ stream, stream.flatten = mother.map softBit ∧
          ViterbiDecoder.Stream tetraCodecPolynomials s bits stream := by
  have hl := length_speechEncode s bits
  obtain ⟨sent, hs⟩ := exists_gather (s.speechEncode bits)
    ((getPuncturer mode).places ((getPuncturer mode).t * k)) (fun p hp => by
      have := h.places_lt p hp
      rw [hl, hlen]
      exact this)
  have hsent : sent.length = (getPuncturer mode).t * k := by
    rw [length_gather hs, Puncturer.places, length_map, length_range']
  have hdep := depunct_punct hs (Nat.le_of_eq hsent.symm)
    (take_of_length_le (Nat.le_of_eq hsent))
  rw [hl, Nat.mul_comm 3] at hdep
  refine ⟨sent, hs, hsent, _, hdep, ?_⟩
  exact ViterbiDecoder.stream_of_heard ViterbiDecoder.speechEncodeBit_eq (by decide) s bits _
    (fun i hi => by
    rw [decide_eq_true_eq]
    exact h.mem_places (by omega))

theorem exists_classes {type1 : List Bool} (h : type1.length = 274) :
    ∃ class0 class1 data, type1 = class0 ++ (class1 ++ data) ∧ class0.length = class0Bits ∧
      class1.length = class1Bits ∧ data.length = class2Bits := by
  refine ⟨type1.take 102, (type1.drop 102).take 112, (type1.drop 102).drop 112, ?_, ?_, ?_, ?_⟩
  · rw [take_append_drop, take_append_drop]
  all_goals simp [h, class0Bits, class1Bits, class2Bits]

/-- A block in three parts is read back by their lengths. -/
theorem parts {a b c : List Bool} (ha : a.length = m) (hb : b.length = n) (hc : c.length = l) :
    (a ++ (b ++ c)).take m = a ∧ ((a ++ (b ++ c)).drop m).take n = b ∧
      ((a ++ (b ++ c)).drop (m + n)).take l = c := by
  refine ⟨take_left' ha, ?_, ?_⟩
  · rw [drop_left' ha, take_left' hb]
  · rw [← drop_drop, drop_left' ha, drop_left' hb,
      take_of_length_le (Nat.le_of_eq hc)]

section Classes

variable {class1 data : List Bool}

/-- The tail of class 2 empties the register that class 1 and class 2 went through. -/
theorem after_classes : ({} : ConvEncState).after (class1 ++ class2Block data) = {} := by
  rw [class2Block, ← append_assoc, ConvEncState.after_append, ConvEncState.after_tail]

theorem class2Block_data (h : data.length = class2Bits) :
    (class2Block data).take class2Bits = data ∧
      ((class2Block data).drop class2Bits).take 8 = speechCrc data := by
  rw [class2Block, append_assoc]
  refine ⟨take_left' h, ?_⟩
  rw [drop_left' h, take_left' (length_speechCrc h)]

end Classes

theorem speechType3_round_trip {type1 : List Bool} (h : type1.length = 274) :
    ∃ type3, speechType3 type1 = some type3 ∧ type3.length = 432 ∧
      speechType1 type3 = some (type1, true) := by
  obtain ⟨c0, c1, data, rfl, h0, h1, h2⟩ := exists_classes h
  have hblock : (class2Block data).length = class2Type2 := length_class2Block h2
  -- what is sent of each class, and heard of it
  obtain ⟨sent1, hs1, hl1, mother1, hm1, stream1, hf1, hst1⟩ :=
    punct_heard (k := 56) regular_rate112_168 {} h1
  obtain ⟨sent2, hs2, hl2, mother2, hm2, stream2, hf2, hst2⟩ :=
    punct_heard (k := 18) regular_rate72_162 (({} : ConvEncState).after c1) hblock
  rw [h1] at hm1
  rw [hblock] at hm2
  change getPuncturedRate .rate112_168 _ class1Type3 = _ at hs1
  change getPuncturedRate .rate72_162 _ class2Type3 = _ at hs2
  change sent1.length = class1Type3 at hl1
  change sent2.length = class2Type3 at hl2
  change tetraRcpcDepunct .rate112_168 sent1 class1Type3 _ = _ at hm1
  change tetraRcpcDepunct .rate72_162 sent2 class2Type3 _ = _ at hm2
  refine ⟨c0 ++ (sent1 ++ sent2), ?_, ?_, ?_⟩
  · obtain ⟨hp0, hp1, hp2⟩ := parts h0 h1 h2
    simp [speechType3, hp0, hp1, hp2, hs1, hs2]
  · rw [length_append, length_append, h0, hl1, hl2]
    rfl
  · obtain ⟨hp0, hp1, hp2⟩ := parts h0 hl1 hl2
    -- one pass over both classes
    have hdec : TetraCodecViterbiDecoder.new.decode ((mother1 ++ mother2).map softBit) =
        c1 ++ class2Block data := by
      rw [map_append, ← hf1, ← hf2, ← flatten_append]
      refine ViterbiDecoder.decode_stream (by decide) (by decide) (by decide) (hst1.append hst2)
        ?_ after_classes
      rw [length_append, h1, hblock]
      decide
    obtain ⟨hdata, hcrc⟩ := class2Block_data h2
    simp only [speechType1, hp0, hp1, hp2, hm1, hm2, bind_eq_bind, bind_some, hdec,
      take_left' h1, drop_left' h1, hdata, hcrc, decide_true, Option.pure_def,
      append_assoc]

theorem matrix_round_trip (h : type3.length = 432) :
    ∃ type4, matrixInterleave 24 18 type3 (List.replicate maxType345Bits false) = some type4 ∧
      type4.length = 432 ∧
      matrixDeinterleave 24 18 type4 (List.replicate maxType345Bits false) = some type3 := by
  have hfull : 24 * 18 ≤ (List.replicate maxType345Bits false).length := by
    rw [length_replicate]
    decide
  have hall : 24 * 18 ≤ type3.length := Nat.le_of_eq h.symm
  obtain ⟨type4, h4, hl4, h3⟩ := matrixDeinterleave_matrixInterleave hall hfull hfull
  refine ⟨type4, h4, hl4.trans length_replicate, ?_⟩
  rw [h3, take_of_length_le (by omega), drop_eq_nil_of_le (by rw [length_replicate]; decide),
    append_nil]

/-- For every pair of speech frames and every scrambling code, what is sent is received as it was,
its CRC right. -/
theorem speech_channel_round_trip (macBlock : BitBuffer) (hlen : macBlock.len = 274) (code : Nat) :
    ∃ type5, encodeTp ⟨.tchS, macBlock, code⟩ 1 = some (some type5) ∧ type5.len = 432 ∧
      decodeTp .tchS type5 code = some (some (fromBitarr macBlock.window), true) := by
  have hw : macBlock.window.length = 274 := by
    rw [BitBuffer.window, length_append, ← hlen, BitBuffer.len]
  obtain ⟨b', hseek, b'', hbits⟩ := seek_zero_toBitarr hlen
  have hlen' : b'.len = 274 := by
    rw [BitBuffer.seek_zero, Option.some.injEq] at hseek
    rw [← hseek, ← hw]
    exact Nat.zero_add _
  obtain ⟨channel, hchannel, hlc, hcodec⟩ := channelToCodec_codecToChannel hw
  obtain ⟨type3, h3, hl3, h1⟩ := speechType3_round_trip hlc
  obtain ⟨type4, h4, hl4, h3'⟩ := matrix_round_trip hl3
  have htake : type4.take 432 = type4 := take_of_length_le (Nat.le_of_eq hl4)
  refine ⟨tetraScrambBits code (fromBitarr type4), ?_, ?_, ?_⟩
  · simp [encodeTp, getParams, hseek, hlen', hbits, hchannel, h3, h4, htake]
  · simp [tetraScrambBits, fromBitarr, BitBuffer.len, hl4]
  · -- scrambling twice with one code is the identity
    have hback : tetraScrambBits code (tetraScrambBits code (fromBitarr type4)) =
        fromBitarr type4 := by
      simp [tetraScrambBits]
    obtain ⟨b4, hseek4, b4', hbits4⟩ := seek_zero_toBitarr (b := fromBitarr type4) (n := 432)
      (by simp [fromBitarr, BitBuffer.len, hl4])
    have hpad : padded maxType345Bits (fromBitarr type4).window = type4 := by
      simp [padded, fromBitarr, BitBuffer.window, hl4, maxType345Bits]
    simp [decodeTp, getParams, hback, hseek4, hbits4, hpad, h3', h1, hcodec]

/-- A pair of frames of ones. -/
theorem speech_channel_round_trip_ones :
    ∃ type5, encodeTp ⟨.tchS, fromBitarr (List.replicate 274 true), 0x1234567⟩ 1 =
        some (some type5) ∧ type5.len = 432 ∧
      decodeTp .tchS type5 0x1234567 =
        some (some (fromBitarr (fromBitarr (List.replicate 274 true)).window), true) :=
  speech_channel_round_trip (fromBitarr (List.replicate 274 true))
    (by rw [fromBitarr, BitBuffer.len, length_replicate]; rfl) 0x1234567

/-! ### The coders of the base station -/

def rm3014RowsPrecomputed : List (BitVec 32) :=
  [0x20009b60, 0x10002de0, 0x0800fc20, 0x0400e03c, 0x0200983a, 0x01005436, 0x00802c2e, 0x0040ffdf,
    0x00208339, 0x001042b5, 0x000821ad, 0x00041273, 0x0002096b, 0x000104e7]

def tetraRm3014Compute (input : List Bool) : BitVec 32 :=
  (input.zip rm3014RowsPrecomputed).foldl (fun val p => if p.1 then val ^^^ p.2 else val) 0

/-- The bits of a coded block, in an array of `n`. -/
def codedBits (n : Nat) (coded : Option (Option BitBuffer)) : List Bool :=
  (padded n (coded.join.elim [] (·.rest))).take n

theorem length_codedBits : (codedBits n coded).length = n := by
  rw [codedBits, padded, length_take, length_append, length_replicate]
  omega

def errorControl : ChannelCoding where
  control lchan code type1 := codedBits (((getParams lchan).map (·.type345Bits)).getD 0)
    (encodeCp ⟨lchan, fromBitarr type1, code⟩)
  speech code type1 := codedBits 432 (encodeTp ⟨.tchS, fromBitarr type1, code⟩ 1)
  accessAssign code type1 :=
    scramble (BitVec.ofNat 32 code) (toBits 30 (tetraRm3014Compute type1).toNat)
  length_control lchan p code type1 hp := by
    rw [hp]
    exact length_codedBits
  length_speech _ _ := length_codedBits
  length_accessAssign _ _ := by rw [length_scramble, length_toBits]

end NexusBs.Lmac
