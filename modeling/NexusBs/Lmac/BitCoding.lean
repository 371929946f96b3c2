import Mathlib.Data.Nat.ModEq
import NexusBs.Lib.Crc
import NexusBs.Lib.Scatter

namespace NexusBs.Lmac

open Lib List

/-! ### CRC -/

def genPoly : BitVec 16 := 0x1021#16
def tetraCrcOk : BitVec 16 := 0x1d0f#16

/-- The register moved by one place. -/
def crcShift (crc : BitVec 16) : BitVec 16 :=
  if crc &&& 0x8000#16 ≠ 0 then (crc <<< 1) ^^^ genPoly else crc <<< 1

def crcStep (crc : BitVec 16) (bit : Bool) : BitVec 16 :=
  crcShift (crc ^^^ ((BitVec.ofBool bit).setWidth 16 <<< 15))

def crc16ItutBits (crc : BitVec 16) (input : List Bool) (numberBits : Nat) : BitVec 16 :=
  (input.take numberBits).foldl crcStep crc

def crc16CcittBits (input : List Bool) (len : Nat) : BitVec 16 := crc16ItutBits 0xffff#16 input len

/-- `none` where the byte is outside. -/
def getNthBit (input : List (BitVec 8)) (bit : Nat) : Option Bool :=
  input[bit / 8]?.map (fun (byte : BitVec 8) => (byte >>> (7 - bit % 8)).getLsbD 0)

def crc16ItutBytes (crc : BitVec 16) (input : List (BitVec 8)) (numberBits : Nat) :
    Option (BitVec 16) :=
  (List.range numberBits).foldlM (fun crc i => (getNthBit input i).map (crcStep crc)) crc

/-- The bits of a register, the highest first. -/
def crcBits (crc : BitVec 16) : List Bool := (List.range 16).map (fun i => (crc >>> (15 - i)).getLsbD 0)

theorem crcStep_eq : crcStep = Crc.turn genPoly := by
  funext crc bit
  have htop : ∀ x : BitVec 16, x &&& 0x8000#16 = if x.msb then 0x8000#16 else 0#16 := fun x =>
    BitVec.and_twoPow x 15
  have hgone : ((BitVec.ofBool bit).setWidth 16 <<< 15) <<< 1 = 0#16 := by cases bit <;> decide
  have hbit : ((BitVec.ofBool bit).setWidth 16 <<< 15).msb = bit := by cases bit <;> decide
  rw [crcStep, crcShift, htop, BitVec.msb_xor, hbit, BitVec.shiftLeft_xor_distrib, hgone,
    BitVec.xor_zero, Crc.turn, Bool.xor_comm]
  cases bit ^^ crc.msb <;> rfl

/-- Bits followed by the complement of their CRC give the residue of a good block. -/
theorem crc16_of_good (bits rest : List Bool) :
    crc16CcittBits (bits ++ crcBits (~~~ crc16CcittBits bits bits.length) ++ rest)
      (bits.length + 16) = tetraCrcOk := by
  have hmsb : ∀ crc : BitVec 16, crcBits crc = (List.range 16).map (fun i => crc.getMsbD i) := by
    intro crc
    refine map_congr_left fun i hi => ?_
    have hlt : i < 16 := by simpa using hi
    simp [BitVec.getMsbD_eq_getLsbD, hlt]
  rw [crc16CcittBits, crc16ItutBits, take_left' (by simp [crcBits]), foldl_append, hmsb,
    crc16CcittBits, crc16ItutBits, take_length, crcStep_eq, Crc.foldl_turn_complement]
  decide +kernel

def unpacked (bytes : List (BitVec 8)) : List Bool :=
  bytes.flatMap (fun (byte : BitVec 8) => (List.range 8).map (fun i => (byte >>> (7 - i)).getLsbD 0))

theorem getNthBit_eq (bytes : List (BitVec 8)) (i : Nat) : getNthBit bytes i = (unpacked bytes)[i]? := by
  induction bytes generalizing i with
  | nil => simp [getNthBit, unpacked]
  | cons byte bytes ih =>
    rw [unpacked, flatMap_cons]
    by_cases hi : i < 8
    · rw [List.getElem?_append_left (by simpa using hi)]
      simp [getNthBit, Nat.div_eq_of_lt hi, Nat.mod_eq_of_lt hi, hi]
    · rw [List.getElem?_append_right (by simp; omega)]
      obtain ⟨j, rfl⟩ : ∃ j, i = j + 8 := ⟨i - 8, by omega⟩
      simpa [getNthBit, unpacked] using ih j

/-- Byte by byte and bit by bit the register ends the same. -/
theorem crc16ItutBytes_eq (crc : BitVec 16) {bytes : List (BitVec 8)} (h : n ≤ 8 * bytes.length) :
    crc16ItutBytes crc bytes n = some (crc16ItutBits crc (unpacked bytes) n) := by
  have hlen : (unpacked bytes).length = 8 * bytes.length := by
    simp [unpacked, length_flatMap, Nat.mul_comm]
  unfold crc16ItutBytes crc16ItutBits
  induction n with
  | zero => rfl
  | succ n ih =>
    have hn : n < (unpacked bytes).length := by omega
    rw [range_succ, foldlM_append, ih (by omega), take_add_one, foldl_append]
    simp [getNthBit_eq, hn]

/-- A CRC is right where it was put, wrong after a short burst of errors, and the same whichever
routine computes it. -/
theorem crc16_protects :
    (∀ bits : List Bool,
      ∃ word, word = bits ++ crcBits (~~~ crc16CcittBits bits bits.length) ∧
      crc16CcittBits word word.length = tetraCrcOk ∧
      ∀ err, err.length = word.length → Crc.Burst 16 err →
        crc16CcittBits (zipWith xor word err) word.length ≠ tetraCrcOk) ∧
    ∀ crc bytes n, n ≤ 8 * bytes.length →
      crc16ItutBytes crc bytes n = some (crc16ItutBits crc (unpacked bytes) n) := by
  refine ⟨fun bits => ⟨_, rfl, ?_⟩, fun crc bytes n => crc16ItutBytes_eq crc⟩
  generalize hw : bits ++ crcBits (~~~ crc16CcittBits bits bits.length) = word
  have hgood : crc16CcittBits word word.length = tetraCrcOk := by
    have := crc16_of_good bits []
    rwa [append_nil, hw, show bits.length + 16 = word.length by simp [← hw, crcBits]] at this
  refine ⟨hgood, fun err hl hb hbad => ?_⟩
  have hboth := hbad.trans hgood.symm
  rw [crc16CcittBits, crc16CcittBits, crc16ItutBits, crc16ItutBits, take_length,
    take_of_length_le (by simp [hl]), crcStep_eq] at hboth
  exact hb.detected (by decide) hl.symm hboth

/-! ### Scrambling -/

/-- The next bit of the scrambling sequence and the register after it. -/
def nextLfsrBit (x : BitVec 32) : Bool × BitVec 32 :=
  let bit := (x ^^^ (x >>> 6) ^^^ (x >>> 9) ^^^ (x >>> 10) ^^^ (x >>> 16) ^^^ (x >>> 20) ^^^
    (x >>> 21) ^^^ (x >>> 22) ^^^ (x >>> 24) ^^^ (x >>> 25) ^^^ (x >>> 27) ^^^ (x >>> 28) ^^^
    (x >>> 30) ^^^ (x >>> 31)).getLsbD 0
  (bit, (x >>> 1) ||| ((BitVec.ofBool bit).setWidth 32 <<< 31))

def scramble : BitVec 32 → List Bool → List Bool
  | _, [] => []
  | lfsr, bit :: bits => (bit ^^ (nextLfsrBit lfsr).1) :: scramble (nextLfsrBit lfsr).2 bits

@[simp] theorem length_scramble (lfsr : BitVec 32) (bits : List Bool) :
    (scramble lfsr bits).length = bits.length := by
  induction bits generalizing lfsr with
  | nil => rfl
  | cons bit bits ih => rw [scramble, length_cons, ih, length_cons]

/-- Scrambling twice is not scrambling. -/
@[simp] theorem scramble_scramble : scramble lfsr (scramble lfsr bits) = bits := by
  induction bits generalizing lfsr with
  | nil => rfl
  | cons bit bits ih => rw [scramble, scramble, ih, Bool.xor_assoc, Bool.xor_self, Bool.xor_false]

/-! ### Interleaving -/

def blockInterlFunc (k a i : Nat) : Nat := 1 + (a * i % 2 ^ 32) % k

def blockPlaces (k a : Nat) : List Nat := (List.range' 1 k).map (fun i => blockInterlFunc k a i - 1)

/-- `none` where the assertion on the lengths fails. -/
def blockInterleave (k a : Nat) (input output : List Bool) : Option (List Bool) :=
  if k ≤ input.length ∧ k ≤ output.length then
    scatter output ((blockPlaces k a).zip (input.take k))
  else none

def blockDeinterleave (k a : Nat) (input output : List Bool) : Option (List Bool) :=
  if k ≤ input.length ∧ k ≤ output.length then
    (gather input (blockPlaces k a)).map (fun values => values ++ output.drop k)
  else none

theorem length_blockPlaces (k a : Nat) : (blockPlaces k a).length = k := by
  rw [blockPlaces, length_map, length_range']

theorem blockPlaces_lt (hk : 0 < k) : ∀ p ∈ blockPlaces k a, p < k := by
  intro p hp
  obtain ⟨i, -, rfl⟩ := List.mem_map.mp hp
  rw [blockInterlFunc, Nat.add_sub_cancel_left]
  exact Nat.mod_lt _ hk

/-- With a step that is prime to the length every bit has a place of its own. -/
theorem nodup_blockPlaces (hc : Nat.Coprime a k) (hs : a * k < 2 ^ 32) :
    (blockPlaces k a).Nodup := by
  refine (nodup_range' 1 (by decide)).map_on fun i hi j hj h => ?_
  obtain ⟨hi1, hik⟩ : 1 ≤ i ∧ i < 1 + k := by simpa using hi
  obtain ⟨hj1, hjk⟩ : 1 ≤ j ∧ j < 1 + k := by simpa using hj
  have hsmall : ∀ n, n < 1 + k → a * n % 2 ^ 32 = a * n := fun n hn =>
    Nat.mod_eq_of_lt (Nat.lt_of_le_of_lt (Nat.mul_le_mul_left a (by omega)) hs)
  simp only [blockInterlFunc, Nat.add_sub_cancel_left, hsmall i hik, hsmall j hjk] at h
  have hmod : i ≡ j [MOD k] := Nat.ModEq.cancel_left_of_coprime hc.symm h
  have hlt : i - 1 = j - 1 := by
    have := (Nat.ModEq.add_right_cancel' 1 (a := i - 1) (b := j - 1) (n := k) (by
      rwa [Nat.sub_add_cancel hi1, Nat.sub_add_cancel hj1]))
    exact Nat.ModEq.eq_of_lt_of_lt this (by omega) (by omega)
  omega

def matrixPlaces (lines columns : Nat) : List Nat :=
  (List.range columns).flatMap (fun i => (List.range lines).map (fun j => j * columns + i))

theorem mem_matrixPlaces_lt (h : p ∈ matrixPlaces lines columns) : p < lines * columns := by
  obtain ⟨i, hi, hp⟩ := mem_flatMap.mp h
  obtain ⟨j, hj, rfl⟩ := List.mem_map.mp hp
  rw [mem_range] at hi hj
  calc j * columns + i < j * columns + columns := by omega
    _ = (j + 1) * columns := by rw [Nat.succ_mul]
    _ ≤ lines * columns := Nat.mul_le_mul_right _ hj

theorem length_matrixPlaces (lines columns : Nat) :
    (matrixPlaces lines columns).length = lines * columns := by
  simp [matrixPlaces, length_flatMap, Nat.mul_comm]

theorem nodup_matrixPlaces : (matrixPlaces lines columns).Nodup := by
  -- the column is the remainder of the place, the line its quotient
  refine nodup_flatMap.mpr ⟨fun i hi => ?_, ?_⟩
  · rw [mem_range] at hi
    refine nodup_range.map_on fun j _ j' _ h => ?_
    exact Nat.eq_of_mul_eq_mul_right (by omega) (Nat.add_right_cancel h)
  · refine List.Pairwise.imp_of_mem ?_ nodup_range
    intro i i' hi hi' hne x hx hx'
    obtain ⟨j, -, rfl⟩ := List.mem_map.mp hx
    obtain ⟨j', -, h⟩ := List.mem_map.mp hx'
    rw [mem_range] at hi hi'
    have hmod := congrArg (· % columns) h
    simp only [Nat.mul_add_mod_self_right, Nat.mod_eq_of_lt hi, Nat.mod_eq_of_lt hi'] at hmod
    exact hne hmod.symm

def matrixInterleave (lines columns : Nat) (input output : List Bool) : Option (List Bool) :=
  if lines * columns ≤ input.length ∧ lines * columns ≤ output.length then
    (gather input (matrixPlaces lines columns)).map
      (fun values => values ++ output.drop (lines * columns))
  else none

def matrixDeinterleave (lines columns : Nat) (input output : List Bool) : Option (List Bool) :=
  if lines * columns ≤ input.length ∧ lines * columns ≤ output.length then
    scatter output ((matrixPlaces lines columns).zip (input.take (lines * columns)))
  else none

/-- Bits that a block interleaver spread are read back from the bits of the block. -/
theorem blockDeinterleave_blockInterleave (hc : Nat.Coprime a k) (hs : a * k < 2 ^ 32)
    (hi : k ≤ input.length) (ho : k ≤ output.length) :
    ∃ sent, blockInterleave k a input output = some sent ∧ sent.length = output.length ∧
      ∀ block output', k ≤ block.length → k ≤ output'.length → block.take k = sent.take k →
        blockDeinterleave k a block output' = some (input.take k ++ output'.drop k) := by
  have hin : ∀ p ∈ blockPlaces k a, p < k := by
    intro p hp
    refine blockPlaces_lt (Nat.pos_of_ne_zero ?_) p hp
    rintro rfl
    cases hp
  obtain ⟨sent, hsent⟩ := exists_scatter output ((blockPlaces k a).zip (input.take k))
    (fun w hw => Nat.lt_of_lt_of_le (hin _ (of_mem_zip hw).1) ho)
  have hread := gather_scatter (nodup_blockPlaces hc hs) (by simp [length_blockPlaces, hi]) hsent
  refine ⟨sent, by rw [blockInterleave, if_pos ⟨hi, ho⟩, hsent], length_scatter hsent, ?_⟩
  intro block output' hb ho' htake
  have hsame : gather block (blockPlaces k a) = gather sent (blockPlaces k a) := by
    refine gather_congr fun p hp => ?_
    have := congrArg (·[p]?) htake
    simpa [List.getElem?_take, hin p hp] using this
  rw [blockDeinterleave, if_pos ⟨hb, ho'⟩, hsame, hread, Option.map_some]

/-- A matrix that was read by columns is written back by columns. -/
theorem matrixDeinterleave_matrixInterleave (hi : lines * columns ≤ input.length)
    (ho : lines * columns ≤ output.length) (ho' : lines * columns ≤ output'.length) :
    ∃ sent, matrixInterleave lines columns input output = some sent ∧ sent.length = output.length ∧
      matrixDeinterleave lines columns sent output' =
        some (input.take (lines * columns) ++ output'.drop (lines * columns)) := by
  have hlen := length_matrixPlaces lines columns
  obtain ⟨values, hv⟩ := exists_gather input (matrixPlaces lines columns)
    (fun p hp => Nat.lt_of_lt_of_le (mem_matrixPlaces_lt hp) hi)
  have hvl : values.length = lines * columns := (length_gather hv).trans hlen
  obtain ⟨back, hb, hget⟩ := exists_scatter_gather id nodup_matrixPlaces hv
    (fun p hp => Nat.lt_of_lt_of_le (mem_matrixPlaces_lt hp) ho')
  refine ⟨values ++ output.drop (lines * columns), ?_, by simp; omega, ?_⟩
  · rw [matrixInterleave, if_pos ⟨hi, ho⟩, hv, Option.map_some]
  rw [map_id] at hb
  rw [matrixDeinterleave, if_pos ⟨by simp; omega, ho'⟩, take_left' hvl, hb, Option.some.injEq]
  refine List.ext_getElem? fun i => ?_
  rw [hget]
  by_cases hlt : i < lines * columns
  · rw [if_pos (mem_of_nodup_range nodup_matrixPlaces (fun p => mem_matrixPlaces_lt) hlen hlt),
      List.getElem?_append_left (by simp; omega), List.getElem?_take, if_pos hlt, Option.map_id_fun,
      id]
  · rw [if_neg fun h => hlt (mem_matrixPlaces_lt h), List.getElem?_append_right (by simp; omega),
      length_take, Nat.min_eq_left hi, getElem?_drop, Nat.add_sub_cancel' (by omega)]

/-! ### Order of the speech bits -/

def class0Pos : List Nat :=
  [35, 36, 37, 38, 39, 40, 41, 42, 43, 47, 48, 56, 61, 62, 63, 64, 65, 66, 67, 68, 69, 70, 74, 75,
    83, 88, 89, 90, 91, 92, 93, 94, 95, 96, 97, 101, 102, 110, 115, 116, 117, 118, 119, 120, 121,
    122, 123, 124, 128, 129, 137]

def class1Pos : List Nat :=
  [58, 85, 112, 54, 81, 108, 135, 50, 77, 104, 131, 45, 72, 99, 126, 55, 82, 109, 136, 5, 13, 34, 8,
    16, 17, 22, 23, 24, 25, 26, 6, 14, 7, 15, 60, 87, 114, 46, 73, 100, 127, 44, 71, 98, 125, 33,
    49, 76, 103, 130, 59, 86, 113, 57, 84, 111]

def class2Pos : List Nat :=
  [18, 19, 20, 21, 31, 32, 53, 80, 107, 134, 1, 2, 3, 4, 9, 10, 11, 12, 27, 28, 29, 30, 52, 79, 106,
    133, 51, 78, 105, 132]

def numAcelpBits : Nat := 137

/-- Where the bits on the channel stand in the two subframes of the codec. -/
def reorderPlaces : List Nat :=
  (class0Pos ++ class1Pos ++ class2Pos).flatMap
    (fun pos => [0 * numAcelpBits + (pos - 1), 1 * numAcelpBits + (pos - 1)])

def codecToChannel (codecBits : List Bool) : Option (List Bool) := gather codecBits reorderPlaces

def channelToCodec (channelBits : List Bool) : Option (List Bool) :=
  scatter (List.replicate 274 false) (reorderPlaces.zip channelBits)

theorem nodup_classPos : (class0Pos ++ class1Pos ++ class2Pos).Nodup := by decide +kernel

theorem classPos_bounds (h : pos ∈ class0Pos ++ class1Pos ++ class2Pos) :
    1 ≤ pos ∧ pos ≤ numAcelpBits := by
  have hall : ∀ pos ∈ class0Pos ++ class1Pos ++ class2Pos, 1 ≤ pos ∧ pos ≤ numAcelpBits := by
    decide +kernel
  exact hall pos h

theorem nodup_reorderPlaces : reorderPlaces.Nodup := by
  refine nodup_flatMap.mpr ⟨fun pos hpos => ?_, ?_⟩
  · simp [numAcelpBits]
  · refine List.Pairwise.imp_of_mem ?_ nodup_classPos
    intro p q hp hq hne x hx hx'
    obtain ⟨hp1, hp2⟩ := classPos_bounds hp
    obtain ⟨hq1, hq2⟩ := classPos_bounds hq
    simp only [mem_cons, not_mem_nil, or_false, numAcelpBits] at hx hx' hp2 hq2
    omega

theorem length_reorderPlaces : reorderPlaces.length = 274 := by decide +kernel

theorem mem_reorderPlaces : i ∈ reorderPlaces ↔ i < 274 := by
  have hin : ∀ p ∈ reorderPlaces, p < 274 := by
    intro p hp
    obtain ⟨pos, hpos, hp⟩ := mem_flatMap.mp hp
    obtain ⟨h1, h2⟩ := classPos_bounds hpos
    simp only [mem_cons, not_mem_nil, or_false, numAcelpBits] at hp h2
    omega
  exact ⟨hin i, mem_of_nodup_range nodup_reorderPlaces hin length_reorderPlaces⟩

theorem channelToCodec_codecToChannel (h : codec.length = 274) :
    ∃ channel, codecToChannel codec = some channel ∧ channel.length = 274 ∧
      channelToCodec channel = some codec := by
  obtain ⟨channel, hc⟩ := exists_gather codec reorderPlaces
    (fun p hp => by rw [h]; exact mem_reorderPlaces.mp hp)
  have hlen := length_gather hc
  refine ⟨channel, hc, hlen.trans length_reorderPlaces, ?_⟩
  have hin : ∀ p ∈ reorderPlaces, p < (List.replicate 274 false).length := fun p hp => by
    rw [length_replicate]
    exact mem_reorderPlaces.mp hp
  obtain ⟨codec', hs, hget⟩ := exists_scatter_gather id nodup_reorderPlaces hc hin
  rw [map_id] at hs
  rw [channelToCodec, hs, Option.some.injEq]
  refine List.ext_getElem? fun i => ?_
  rw [hget, Option.map_id_fun, id]
  split
  · rfl
  · rename_i hi
    rw [mem_reorderPlaces] at hi
    rw [List.getElem?_eq_none (by rw [length_replicate]; omega), List.getElem?_eq_none (by omega)]

end NexusBs.Lmac
