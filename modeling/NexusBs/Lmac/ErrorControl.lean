import NexusBs.Lmac.BitCoding
import NexusBs.Lmac.LmacBs
import NexusBs.Lmac.Viterbi

namespace NexusBs.Lmac

open Lib BitBuffer ConvEncState List Option

def maxType1Bits : Nat := 274
def maxType2Bits : Nat := 288
def maxType345Bits : Nat := 432
def maxType345HalfslotBits : Nat := 216

inductive PhyBlockType where
  | bbk | sb1 | sb2 | ndb | nub | ssn1 | ssn2
deriving DecidableEq

structure TpUnitdataInd where
  blockType : PhyBlockType
  block : BitBuffer

def padded (n : Nat) (bits : List Bool) : List Bool := bits ++ List.replicate (n - bits.length) false

/-- From the position to the end of the buffer; the position stays. -/
def tetraScrambBits (code : Nat) (buf : BitBuffer) : BitBuffer :=
  { buf with rest := scramble (BitVec.ofNat 32 code) buf.rest }

/-- From type-1 to type-5 bits of a control channel; `none` where an index is out of bounds. -/
def controlType5 (params : ErrorControlParams) (code : Nat) (type1 : List Bool) :
    Option BitBuffer := do
  let crc := ~~~ crc16CcittBits type1 params.type1Bits
  let type2 := (padded maxType2Bits (type1 ++ crcBits crc)).take params.type2Bits
  let type3dp := padded (maxType345Bits * 4) (({} : ConvEncState).encode type2)
  let type3 ← getPuncturedRate .rate2_3 type3dp maxType345Bits
  let type4 ← blockInterleave params.type345Bits params.interleaveA type3
    (List.replicate maxType345Bits false)
  return tetraScrambBits code (fromBitarr (type4.take params.type345Bits))

/-- Outer `none` where an assertion or an index fails, inner `none` for a block that is dropped. -/
def encodeCp (prim : TmvUnitdataReq) : Option (Option BitBuffer) :=
  let lchan := prim.logicalChannel
  if lchan.isControlChannel = false ∨ lchan = .aach then some none
  else
    match getParams lchan with
    | none => some none
    | some params =>
      if prim.macBlock.len ≠ params.type1Bits then some none
      else do
        let macBlock ← prim.macBlock.seek 0
        let (type1, _) ← PhyBs.toBitarr params.type1Bits macBlock
        if params.haveCrc16 = false then some none
        else (controlType5 params prim.scramblingCode type1).map some

def controlType2 (params : ErrorControlParams) (type4 : List Bool) : Option (List Bool) := do
  let type3 ← blockDeinterleave params.type345Bits params.interleaveA (padded maxType345Bits type4)
    (List.replicate maxType345Bits false)
  let type3dp ← tetraRcpcDepunct .rate2_3 type3 params.type345Bits
    (List.replicate (maxType345Bits * 4) none)
  let type2 ← decSb1 type3dp params.type2Bits
  return padded maxType2Bits type2

def receivedScramblingCode (blockType : PhyBlockType) (defaultScrambCode : Option Nat) : Option Nat :=
  if blockType = .sb1 then some scrambInit else defaultScrambCode

/-- The type-1 bits and whether their CRC is right. -/
def decodeCp (lchan : LogicalChannel) (prim : TpUnitdataInd) (defaultScrambCode : Option Nat) :
    Option (Option BitBuffer × Bool) :=
  if lchan.isControlChannel = false ∨ lchan = .aach then some (none, false)
  else
    match getParams lchan, receivedScramblingCode prim.blockType defaultScrambCode with
    | none, _ => some (none, false)
    | _, none => some (none, false)
    | some params, some scramblingCode => do
      let (type4, _) ← PhyBs.toBitarr params.type345Bits (tetraScrambBits scramblingCode prim.block)
      let type2 ← controlType2 params type4
      if params.haveCrc16 = false then some (none, false)
      else
        let crc := crc16CcittBits type2 (params.type1Bits + 16)
        some (some (fromBitarr (type2.take params.type1Bits)), crc = tetraCrcOk)

/-- What is punctured or interleaved comes back to where it was. -/
theorem puncture_and_interleave_invert :
    (∀ mode len, ((getPuncturer mode).places len).Pairwise (· < ·) ∧
      ∀ j, 1 ≤ j → (getPuncturer mode).iFunc j ≤ (getPuncturer mode).place j + 1) ∧
    (∀ mode mother len, (getPuncturedRate mode mother len).isSome ↔
      ∀ p ∈ (getPuncturer mode).places len, p < mother.length) ∧
    (∀ mode mother len sent, getPuncturedRate mode mother len = some sent →
      List.Forall₂ (fun p bit => mother[p]? = some bit) ((getPuncturer mode).places len) sent ∧
      tetraRcpcDepunct mode sent len (List.replicate mother.length none) =
        some (heard (fun i => decide (i ∈ (getPuncturer mode).places len)) mother)) ∧
    (∀ k a input output output', Nat.Coprime a k → a * k < 2 ^ 32 → k ≤ input.length →
      k ≤ output.length → k ≤ output'.length → ∃ sent, blockInterleave k a input output = some sent ∧
        blockDeinterleave k a sent output' = some (input.take k ++ output'.drop k)) ∧
    ∀ lines columns input output output', lines * columns ≤ input.length →
      lines * columns ≤ output.length → lines * columns ≤ output'.length →
      ∃ sent, matrixInterleave lines columns input output = some sent ∧
        matrixDeinterleave lines columns sent output' =
          some (input.take (lines * columns) ++ output'.drop (lines * columns)) := by
  refine ⟨fun mode len => ⟨(ascending mode).pairwise_places len, fun j => (ascending mode).iFunc_le⟩,
    fun mode mother len => ⟨fun hsome p hp => ?_, fun hlt => ?_⟩,
    fun mode mother len sent hp => ⟨gather_eq_some.mp hp, ?_⟩,
    fun k a input output output' hc hs hi ho ho' => ?_,
    fun lines columns input output output' hi ho ho' => ?_⟩
  · obtain ⟨sent, hsent⟩ := Option.isSome_iff_exists.mp hsome
    exact lt_of_gather hsent hp
  · obtain ⟨sent, hsent⟩ := exists_gather mother _ hlt
    exact Option.isSome_iff_exists.mpr ⟨sent, hsent⟩
  · have hlen : sent.length = len := by
      rw [length_gather hp, Puncturer.places, length_map, length_range']
    exact depunct_punct hp (by omega) (take_of_length_le (by omega))
  · obtain ⟨sent, hsent, hlen, hback⟩ := blockDeinterleave_blockInterleave hc hs hi ho
    exact ⟨sent, hsent, hback sent output' (by omega) ho' rfl⟩
  · obtain ⟨sent, hsent, -, hback⟩ := matrixDeinterleave_matrixInterleave hi ho ho'
    exact ⟨sent, hsent, hback⟩

/-! ### Control channels -/

/-- Sizes with which a control channel can be decoded: the tail bits empty the register, whole
periods of the pattern are sent, and no two bits share a place. -/
structure Decodable (params : ErrorControlParams) (k : Nat) : Prop where
  crc : params.haveCrc16 = true
  tail : params.type2Bits = params.type1Bits + 20
  type2 : params.type2Bits = 2 * k
  type3 : params.type345Bits = 3 * k
  size : 0 < k ∧ k ≤ 144
  spread : Nat.Coprime params.interleaveA params.type345Bits
  small : params.interleaveA * params.type345Bits < 2 ^ 32

theorem decodable_of_control {lchan : LogicalChannel} (hc : lchan.isControlChannel = true)
    (ha : lchan ≠ .aach) (hp : getParams lchan = some params) : ∃ k, Decodable params k := by
  cases lchan with
  | aach => exact absurd rfl ha
  | bsch =>
    cases hp
    exact ⟨40, rfl, rfl, rfl, rfl, by decide, by decide, by decide⟩
  | bnch | schHd | stch =>
    cases hp
    exact ⟨72, rfl, rfl, rfl, rfl, by decide, by decide, by decide⟩
  | schF =>
    cases hp
    exact ⟨144, rfl, rfl, rfl, rfl, by decide, by decide, by decide⟩
  | schHu =>
    cases hp
    exact ⟨56, rfl, rfl, rfl, rfl, by decide, by decide, by decide⟩
  | tchS | tch24 | tch48 | tch72 | blch | clch => cases hc

@[simp] theorem length_crcBits : (crcBits crc).length = 16 := by
  rw [crcBits, length_map, length_range]

theorem length_encode (s : ConvEncState) (bits : List Bool) :
    (s.encode bits).length = 4 * bits.length :=
  ConvEncState.length_symbols (e := encodeBit) (fun _ _ => rfl) s bits

def controlBits (type1 : List Bool) : List Bool :=
  type1 ++ crcBits (~~~ crc16CcittBits type1 type1.length) ++ List.replicate 4 false

theorem length_controlBits (type1 : List Bool) : (controlBits type1).length = type1.length + 20 := by
  simp [controlBits]

theorem padded_controlBits {type1 : List Bool} (h : type1.length + 20 ≤ maxType2Bits) :
    (padded maxType2Bits (type1 ++ crcBits (~~~ crc16CcittBits type1 type1.length))).take
      (type1.length + 20) = controlBits type1 := by
  have hsplit : List.replicate (maxType2Bits - (type1.length + 16)) false =
      List.replicate 4 false ++ List.replicate (maxType2Bits - (type1.length + 20)) false := by
    rw [replicate_append_replicate]
    congr 1
    omega
  rw [padded, length_append, length_crcBits, hsplit, ← append_assoc]
  exact take_left' (length_controlBits type1)

theorem after_controlBits : ({} : ConvEncState).after (controlBits type1) = {} := by
  rw [controlBits, after_append, after_tail]

/-- The mother code of type-2 bits, of which every symbol is heard, is decoded. -/
theorem decSb1_heard {type2 : List Bool} {sent : Nat → Bool} {rest : List (Option Bool)}
    (hlen : type2.length ≤ 288) (hend : ({} : ConvEncState).after type2 = {})
    (hsent : ∀ i < type2.length, sent (4 * i) = true) :
    decSb1 (heard sent (({} : ConvEncState).encode type2) ++ rest) type2.length = some type2 := by
  have hl : (heard sent (({} : ConvEncState).encode type2)).length = type2.length * 4 := by
    rw [length_heard, length_encode, Nat.mul_comm]
  rw [decSb1, if_pos ⟨by omega, by rw [length_append]; omega⟩, take_left' hl]
  obtain ⟨stream, hflat, hstream⟩ := ViterbiDecoder.stream_of_heard
    ViterbiDecoder.encodeBit_eq (by decide) {} type2 sent hsent
  have hdec : TetraViterbiDecoder.new.decode stream.flatten = type2 :=
    ViterbiDecoder.decode_stream (by decide) (by decide) (by decide) hstream (by omega) hend
  rw [encode, ← hflat, hdec, take_length]

section Control

variable {params : ErrorControlParams} {k : Nat} {type1 : List Bool}

/-- What puncturing and interleaving make of a mother code, and the receiver of that. -/
theorem punct_interleave (h : Decodable params k) {mother : List Bool}
    (hm : mother.length = maxType345Bits * 4) :
    ∃ type3 type4, getPuncturedRate .rate2_3 mother maxType345Bits = some type3 ∧
      blockInterleave params.type345Bits params.interleaveA type3
        (List.replicate maxType345Bits false) = some type4 ∧ type4.length = maxType345Bits ∧
      ∃ type3', blockDeinterleave params.type345Bits params.interleaveA
          (padded maxType345Bits (type4.take params.type345Bits))
          (List.replicate maxType345Bits false) = some type3' ∧
        tetraRcpcDepunct .rate2_3 type3' params.type345Bits
          (List.replicate (maxType345Bits * 4) none) =
        some (heard (fun i => decide (i ∈ (getPuncturer .rate2_3).places params.type345Bits))
          mother) := by
  have hmax : maxType345Bits = 432 := rfl
  have hk := h.size
  have hL : params.type345Bits ≤ maxType345Bits := by rw [h.type3, hmax]; omega
  have hplaces : (getPuncturer .rate2_3).places maxType345Bits =
      (getPuncturer .rate2_3).places (3 * 144) := rfl
  -- puncturing reads inside the mother code
  obtain ⟨type3, h3⟩ := exists_gather mother
    ((getPuncturer .rate2_3).places maxType345Bits) (fun p hp => by
      rw [hplaces] at hp
      have := regular_rate2_3.places_lt p hp
      omega)
  have hlen3 : type3.length = maxType345Bits := by
    rw [length_gather h3, Puncturer.places, length_map, length_range']
  have hsent : gather mother ((getPuncturer .rate2_3).places params.type345Bits) =
      some (type3.take params.type345Bits) := by
    have htake := gather_take params.type345Bits h3
    rwa [Puncturer.take_places hL] at htake
  obtain ⟨type4, h4, hlen4, hback⟩ := blockDeinterleave_blockInterleave h.spread h.small
    (by rw [hlen3]; exact hL) (show _ ≤ (List.replicate maxType345Bits false).length by simpa using hL)
  rw [length_replicate] at hlen4
  have htaken : (type3.take params.type345Bits).length = params.type345Bits := by
    rw [length_take]
    omega
  refine ⟨type3, type4, h3, h4, hlen4, _, hback _ _ ?_ (by simpa using hL) ?_, ?_⟩
  · rw [padded, length_append, length_take]
    omega
  · rw [padded, take_append_of_le_length (by rw [length_take]; omega), take_take, Nat.min_self]
  · have hfull : params.type345Bits ≤ (type3.take params.type345Bits ++
        (List.replicate maxType345Bits false).drop params.type345Bits).length := by
      rw [length_append]
      omega
    have hdep := depunct_punct hsent hfull (take_left' htaken)
    rwa [hm] at hdep

/-- A block that is coded and not disturbed is decoded. -/
theorem controlType5_round_trip (h : Decodable params k) (code : Nat)
    (hlen : type1.length = params.type1Bits) :
    ∃ type5, controlType5 params code type1 = some (fromBitarr type5) ∧
      type5.length = params.type345Bits ∧
      controlType2 params (scramble (BitVec.ofNat 32 code) type5) =
        some (padded maxType2Bits (controlBits type1)) := by
  have hk := h.size
  have h2 := h.type2
  have htail := h.tail
  have hm2 : maxType2Bits = 288 := rfl
  have hm3 : maxType345Bits = 432 := rfl
  have hl2 : (controlBits type1).length = params.type2Bits := by
    rw [length_controlBits]
    omega
  have hpad : (padded maxType2Bits
      (type1 ++ crcBits (~~~ crc16CcittBits type1 type1.length))).take (type1.length + 20) =
      controlBits type1 := padded_controlBits (by omega)
  have hlm : (padded (maxType345Bits * 4)
      (({} : ConvEncState).encode (controlBits type1))).length = maxType345Bits * 4 := by
    rw [padded, length_append, length_replicate, length_encode]
    omega
  obtain ⟨type3, type4, hp3, hp4, hlen4, type3', hd3, hdp⟩ := punct_interleave h hlm
  have htype4 : (type4.take params.type345Bits).length = params.type345Bits := by
    rw [length_take, hlen4]
    have := h.type3
    omega
  refine ⟨scramble (BitVec.ofNat 32 code) (type4.take params.type345Bits), ?_, ?_, ?_⟩
  · rw [controlType5, ← hlen, htail, ← hlen, hpad, hp3]
    simp only [bind_eq_bind, bind_some]
    rw [hp4]
    simp [tetraScrambBits, fromBitarr]
  · rw [length_scramble, htype4]
  · rw [scramble_scramble, controlType2, hd3]
    simp only [bind_eq_bind, bind_some]
    rw [hdp]
    simp only [bind_some]
    have hevery : ∀ i < (controlBits type1).length,
        decide (4 * i ∈ (getPuncturer .rate2_3).places params.type345Bits) = true := by
      intro i hi
      rw [decide_eq_true_eq, h.type3]
      exact regular_rate2_3.mem_places (by omega)
    rw [padded, heard_append, ← hl2, decSb1_heard (by omega) after_controlBits hevery]
    rfl

theorem toBitarr_of_le {b : BitBuffer} (h : n ≤ b.rest.length) :
    PhyBs.toBitarr n b = some (b.rest.take n, b.advance n) := if_pos h

theorem seek_zero_toBitarr {b : BitBuffer} (h : b.len = n) :
    ∃ b', b.seek 0 = some b' ∧ ∃ b'', PhyBs.toBitarr n b' = some (b.window, b'') := by
  refine ⟨{ b with done := [], rest := b.window }, ?_, ?_⟩
  · simp [BitBuffer.seek]
  · have hw : b.window.length = n := by
      rw [BitBuffer.window, length_append, ← h, BitBuffer.len]
    have htake : b.window.take n = b.window := take_of_length_le (Nat.le_of_eq hw)
    have hread := toBitarr_of_le (b := { b with done := [], rest := b.window })
      (Nat.le_of_eq hw.symm)
    simp only [htake] at hread
    exact ⟨_, hread⟩

end Control

/-- For every control channel that `encodeCp` codes, every block of its size and every scrambling
code, what is sent is received as it was, its CRC right, by a receiver that takes it to be scrambled
with that code. The access assignment channel has a code of its own and is not coded here. -/
theorem control_channel_round_trip (lchan : LogicalChannel) (params : ErrorControlParams)
    (hc : lchan.isControlChannel = true) (hp : getParams lchan = some params)
    (macBlock : BitBuffer) (hlen : macBlock.len = params.type1Bits) (code : Nat)
    (blockType : PhyBlockType) (defaultScrambCode : Option Nat)
    (hcode : blockType = .sb1 ∧ code = scrambInit ∨
      blockType ≠ .sb1 ∧ defaultScrambCode = some code) :
    (lchan = .aach → encodeCp ⟨lchan, macBlock, code⟩ = some none) ∧
    (lchan ≠ .aach → ∃ type5, encodeCp ⟨lchan, macBlock, code⟩ = some (some type5) ∧
      decodeCp lchan ⟨blockType, type5⟩ defaultScrambCode =
        some (some (fromBitarr macBlock.window), true)) := by
  constructor
  · intro ha
    simp [encodeCp, ha]
  · intro ha
    obtain ⟨k, h⟩ := decodable_of_control hc ha hp
    obtain ⟨b', hseek, b'', hbits⟩ := seek_zero_toBitarr hlen
    have hw : macBlock.window.length = params.type1Bits := by
      rw [BitBuffer.window, length_append, ← hlen, BitBuffer.len]
    obtain ⟨type5, h5, hl5, h2⟩ := controlType5_round_trip h code hw
    have hguard : ¬ (lchan.isControlChannel = false ∨ lchan = .aach) := by simp [hc, ha]
    have hreceived : receivedScramblingCode blockType defaultScrambCode = some code := by
      unfold receivedScramblingCode
      rcases hcode with ⟨hb, rfl⟩ | ⟨hb, hd⟩
      · rw [if_pos hb]
      · rw [if_neg hb, hd]
    have hcrc : ¬ params.haveCrc16 = false := by simp [h.crc]
    refine ⟨fromBitarr type5, ?_, ?_⟩
    · simp [encodeCp, if_neg hguard, hp, hlen, hseek, hbits, if_neg hcrc, h5]
    · have htype4 : PhyBs.toBitarr params.type345Bits (tetraScrambBits code (fromBitarr type5)) =
          some (scramble (BitVec.ofNat 32 code) type5,
            (tetraScrambBits code (fromBitarr type5)).advance params.type345Bits) := by
        have hrest : (tetraScrambBits code (fromBitarr type5)).rest.length = params.type345Bits := by
          rw [tetraScrambBits, length_scramble, fromBitarr, hl5]
        rw [toBitarr_of_le (Nat.le_of_eq hrest.symm), ← hrest, take_length]
        rfl
      have hgood : crc16CcittBits (padded maxType2Bits (controlBits macBlock.window))
          (params.type1Bits + 16) = tetraCrcOk := by
        rw [padded, controlBits, append_assoc _ (List.replicate 4 false), ← hw]
        exact crc16_of_good macBlock.window _
      have htake : (padded maxType2Bits (controlBits macBlock.window)).take params.type1Bits =
          macBlock.window := by
        rw [padded, controlBits, append_assoc, append_assoc, ← hw, take_left' rfl]
      simp [decodeCp, if_neg hguard, hp, hreceived, htype4, h2, if_neg hcrc, hgood, htake]

/-- A broadcast block of zeros, and a half slot of ones under the code of a cell. -/
theorem control_channel_round_trip_blocks :
    (∃ type5, encodeCp ⟨.bsch, fromBitarr (List.replicate 60 false), scrambInit⟩ =
        some (some type5) ∧
      decodeCp .bsch ⟨.sb1, type5⟩ none =
        some (some (fromBitarr (fromBitarr (List.replicate 60 false)).window), true)) ∧
    (∃ type5, encodeCp ⟨.schHd, fromBitarr (List.replicate 124 true), 0x1234567⟩ =
        some (some type5) ∧
      decodeCp .schHd ⟨.ndb, type5⟩ (some 0x1234567) =
        some (some (fromBitarr (fromBitarr (List.replicate 124 true)).window), true)) :=
  ⟨(control_channel_round_trip .bsch ⟨120, 80, 60, 11, true⟩ rfl rfl
      (fromBitarr (List.replicate 60 false)) (by simp [fromBitarr, BitBuffer.len]) scrambInit .sb1
      none (.inl ⟨rfl, rfl⟩)).2 (by decide),
    (control_channel_round_trip .schHd ⟨216, 144, 124, 101, true⟩ rfl rfl
      (fromBitarr (List.replicate 124 true)) (by simp [fromBitarr, BitBuffer.len]) 0x1234567 .ndb
      (some 0x1234567) (.inr ⟨by decide, rfl⟩)).2 (by decide)⟩

end NexusBs.Lmac
