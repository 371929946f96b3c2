import NexusBs.Lib.Bits

namespace NexusBs
open Lib List

/-- Reasons a PDU parser gives up, with the field it was reading. -/
inductive PduParseErr where
  | invalidPduType (expected found : Nat)
  | bufferEnded (field : String)
  | invalidTrailingMbitValue
  | invalidElemId (found : Nat)
  | fieldNotPresent (field : String)
  | invalidValue (field : String) (value : Nat)
  | inconsistentLength (expected found : Nat)
  | inconsistency (field reason : String)
  | notImplemented (field : String)

/-- A windowed bit string. The four lists are the raw bits before `start`,
from `start` to `pos`, from `pos` to `end`, and from `end` to the capacity, so
`start ≤ pos ≤ end ≤ capacity` holds of every value. -/
structure BitBuffer where
  (head done rest tail : List Bool)
  autoexpand : Bool
deriving DecidableEq

namespace BitBuffer

/-- Zero bits that complete `n` bits to whole bytes. -/
def padding (n : Nat) : List Bool := List.replicate ((8 - n % 8) % 8) false

def new (lenBits : Nat) : BitBuffer :=
  ⟨[], [], List.replicate lenBits false, padding lenBits, false⟩

def newAutoexpand (initialMaxLenBits : Nat) : BitBuffer :=
  ⟨[], [], [], List.replicate (8 * ((initialMaxLenBits + 7) / 8)) false, true⟩

/-- A buffer that holds exactly the given bits (one per array entry). -/
def fromBitarr (bits : List Bool) : BitBuffer :=
  ⟨[], [], bits, padding bits.length, false⟩

section

variable (b : BitBuffer)

def rawStart : Nat := b.head.length
def rawPos : Nat := b.head.length + b.done.length
def rawEnd : Nat := b.head.length + b.done.length + b.rest.length
def capacity : Nat :=
  b.head.length + b.done.length + b.rest.length + b.tail.length

def len : Nat := b.done.length + b.rest.length
def lenRemaining : Nat := b.rest.length
def lenWritten : Nat := b.done.length
def getPos : Nat := b.done.length

def window : List Bool := b.done ++ b.rest

/-- A copy of the window, from the byte that holds its first bit on. -/
def fromBitbuffer : BitBuffer :=
  ⟨b.head.drop (8 * (b.rawStart / 8)), [], b.done ++ b.rest,
    b.tail.take ((8 - b.rawEnd % 8) % 8), false⟩

/-- A copy of what is left to read, from the byte that holds its first bit on. -/
def fromBitbufferPos : BitBuffer :=
  ⟨(b.head ++ b.done).drop (8 * (b.rawPos / 8)), [], b.rest,
    b.tail.take ((8 - b.rawEnd % 8) % 8), false⟩

def peekBits (n : Nat) : Option Nat :=
  if n ≤ 64 ∧ n ≤ b.rest.length then some (ofBits (b.rest.take n)) else none

def peekBitsStartoffset (offset n : Nat) : Option Nat :=
  if n ≤ 64 ∧ offset + n ≤ b.len then some (ofBits ((b.window.drop offset).take n)) else none

def advance (n : Nat) : BitBuffer :=
  { b with done := b.done ++ b.rest.take n, rest := b.rest.drop n }

def readBits (n : Nat) : Option (Nat × BitBuffer) :=
  (b.peekBits n).map (fun v => (v, b.advance n))

def readField (n : Nat) (field : String) : Except PduParseErr (Nat × BitBuffer) :=
  match b.readBits n with
  | some r => .ok r
  | none => .error (.bufferEnded field)

/-- Moves `end` by `n` bits, reallocating (at least doubling) when the capacity
does not hold them. -/
def moveEnd (n : Nat) : BitBuffer :=
  let newCap := max (b.rawEnd + n) (2 * b.capacity)
  let tail :=
    if n > b.tail.length then
      b.tail ++ List.replicate (8 * ((newCap + 7) / 8) - b.capacity) false
    else b.tail
  { b with rest := b.rest ++ tail.take n, tail := tail.drop n }

/-- Overwrites the bits at `pos`; `none` is the panic of a write past `end`. -/
def put (bits : List Bool) : Option BitBuffer :=
  if bits.length ≤ b.rest.length then
    some { b with done := b.done ++ bits, rest := b.rest.drop bits.length }
  else if b.autoexpand then
    let b := b.moveEnd bits.length
    some { b with done := b.done ++ bits, rest := b.rest.drop bits.length }
  else none

def writeBit (value : Nat) : Option BitBuffer :=
  if value = 0 ∨ value = 1 then b.put (toBits 1 value) else none

def writeBits (value n : Nat) : Option BitBuffer :=
  if n ≤ 64 ∧ value < 2 ^ n then b.put (toBits n value) else none

end

def writeFields : List (Nat × Nat) → BitBuffer → Option BitBuffer
  | [], b => some b
  | (v, n) :: fs, b => (b.writeBits v n).bind (writeFields fs)

def writeZeroesLoop : Nat → BitBuffer → Nat → Option BitBuffer
  | 0, b, _ => some b
  | fuel + 1, b, remaining =>
    if remaining = 0 then some b
    else (b.writeBits 0 (min remaining 64)).bind
      (fun b => writeZeroesLoop fuel b (remaining - min remaining 64))

def writeZeroes (b : BitBuffer) (n : Nat) : Option BitBuffer := writeZeroesLoop n b n

def copyBitsLoop : Nat → BitBuffer → BitBuffer → Nat → Option (BitBuffer × BitBuffer)
  | 0, dst, src, _ => some (dst, src)
  | fuel + 1, dst, src, remaining =>
    if remaining = 0 then some (dst, src)
    else if src.lenRemaining < min remaining 64 then none
    else (src.readBits (min remaining 64)).bind (fun (v, src) =>
      (dst.writeBits v (min remaining 64)).bind (fun dst =>
        copyBitsLoop fuel dst src (remaining - min remaining 64)))

def copyBits (dst src : BitBuffer) (n : Nat) : Option (BitBuffer × BitBuffer) :=
  copyBitsLoop n dst src n

def seek (b : BitBuffer) (offset : Nat) : Option BitBuffer :=
  if offset ≤ b.len then
    some { b with done := b.window.take offset, rest := b.window.drop offset }
  else none

def setRawStart (b : BitBuffer) (s : Nat) : Option BitBuffer :=
  if s ≤ b.rawEnd ∧ s ≤ b.rawPos then
    some { b with head := (b.head ++ b.done).take s, done := (b.head ++ b.done).drop s }
  else none

def setRawEnd (b : BitBuffer) (e : Nat) : Option BitBuffer :=
  if e ≤ b.capacity ∧ b.rawStart ≤ e ∧ b.rawPos ≤ e then
    some { b with
      rest := (b.rest ++ b.tail).take (e - b.rawPos)
      tail := (b.rest ++ b.tail).drop (e - b.rawPos) }
  else none

def setRawPos (b : BitBuffer) (p : Nat) : Option BitBuffer :=
  if b.rawStart ≤ p ∧ p ≤ b.rawEnd then
    some { b with
      done := b.window.take (p - b.rawStart)
      rest := b.window.drop (p - b.rawStart) }
  else none

/-! Window -/

theorem setRawStart_rawPos (b : BitBuffer) :
    b.setRawStart b.rawPos = some ⟨b.head ++ b.done, [], b.rest, b.tail, b.autoexpand⟩ := by
  have hl : b.rawPos = (b.head ++ b.done).length := (length_append ..).symm
  have hle : b.rawPos ≤ b.rawEnd := Nat.le_add_right _ _
  rw [setRawStart, if_pos ⟨hle, Nat.le_refl _⟩, hl, take_length, drop_length]

theorem seek_zero (b : BitBuffer) :
    b.seek 0 = some ⟨b.head, [], b.done ++ b.rest, b.tail, b.autoexpand⟩ := by
  simp [seek, window]

/-! Reading -/

@[simp] theorem len_new : (new n).len = n := by simp [new, len]

section

variable (b : BitBuffer)

@[simp] theorem advance_head : (b.advance n).head = b.head := rfl
@[simp] theorem advance_tail : (b.advance n).tail = b.tail := rfl
@[simp] theorem advance_rest (n : Nat) :
    (b.advance n).rest = b.rest.drop n := rfl
@[simp] theorem advance_done : (b.advance n).done = b.done ++ b.rest.take n := rfl
@[simp] theorem advance_autoexpand : (b.advance n).autoexpand = b.autoexpand := rfl

theorem advance_advance (m n : Nat) :
    (b.advance m).advance n = b.advance (m + n) := by
  simp only [advance, append_assoc, drop_drop, mk.injEq, true_and, and_true]
  rw [take_add]

@[simp] theorem advance_zero : b.advance 0 = b := by simp [advance]

end

variable {b : BitBuffer} {n : Nat}

/-- A field that was read took its bits off the front. -/
theorem readField_ok (h : b.readField n f = .ok (v, b')) :
    n ≤ b.rest.length ∧ v = ofBits (b.rest.take n) ∧ b' = b.advance n := by
  unfold readField readBits peekBits at h
  split at h
  · rename_i r hr
    split at hr
    · rename_i hn
      simp only [Option.map_some, Option.some.injEq] at hr
      cases h
      cases hr
      exact ⟨hn.2, rfl, rfl⟩
    · simp at hr
  · cases h

theorem readField_lt (h : b.readField n f = .ok (v, b')) : v < 2 ^ n := by
  obtain ⟨hn, hv, _⟩ := readField_ok h
  have hl := ofBits_lt (b.rest.take n)
  rw [length_take, Nat.min_eq_left hn] at hl
  exact hv ▸ hl

/-- A number is read back from where it was written. -/
theorem readField_toBits (f : String) (hn : n ≤ 64) (hv : v < 2 ^ n) :
    readField ⟨H, D, toBits n v ++ r, T, a⟩ n f = .ok (v, ⟨H, D ++ toBits n v, r, T, a⟩) := by
  have ht : (toBits n v ++ r).take n = toBits n v := take_left' length_toBits
  have hd : (toBits n v ++ r).drop n = r := drop_left' length_toBits
  simp [readField, readBits, peekBits, advance, hn, ht, hd, ofBits_toBits hv]

theorem peekBits_toBits (hn : n ≤ 64) (hv : v < 2 ^ n) :
    peekBits ⟨H, D, toBits n v ++ r, T, a⟩ n = some v := by
  have ht : (toBits n v ++ r).take n = toBits n v := take_left' length_toBits
  simp [peekBits, hn, ht, ofBits_toBits hv]

/-! Writing -/

/-- Bits that fit overwrite what is there. -/
theorem put_eq (h : bits.length ≤ b.rest.length) :
    b.put bits = some { b with done := b.done ++ bits, rest := b.rest.drop bits.length } := by
  simp [put, h]

/-- Bits fit, or the buffer grows at its end. -/
theorem put_room (bits : List Bool)
    (h : bits.length ≤ b.rest.length ∨ b.autoexpand = true ∧ b.rest = []) :
    ∃ tail, (bits.length ≤ b.rest.length → tail = b.tail) ∧ b.put bits = some { b with
      done := b.done ++ bits, rest := b.rest.drop bits.length, tail := tail } := by
  by_cases hle : bits.length ≤ b.rest.length
  · exact ⟨b.tail, fun _ => rfl, put_eq hle⟩
  · obtain ⟨ha, hr⟩ := h.resolve_left hle
    refine ⟨(b.moveEnd bits.length).tail, fun h => absurd h hle, ?_⟩
    rw [put, if_neg hle, if_pos ha]
    simp [moveEnd, hr, ha]

theorem writeBits_eq (hn : n ≤ 64) (hv : v < 2 ^ n) (h : n ≤ b.rest.length) :
    b.writeBits v n = some { b with done := b.done ++ toBits n v, rest := b.rest.drop n } := by
  rw [writeBits, if_pos ⟨hn, hv⟩, put_eq (by simpa using h), length_toBits]

def fieldBits (fs : List (Nat × Nat)) : List Bool := fs.flatMap (fun f => toBits f.2 f.1)

def FieldsFit (fs : List (Nat × Nat)) : Prop := ∀ f ∈ fs, f.2 ≤ 64 ∧ f.1 < 2 ^ f.2

instance (fs : List (Nat × Nat)) : Decidable (FieldsFit fs) :=
  inferInstanceAs (Decidable (∀ f ∈ fs, f.2 ≤ 64 ∧ f.1 < 2 ^ f.2))

theorem FieldsFit.append (hf : FieldsFit fs) (hg : FieldsFit gs) : FieldsFit (fs ++ gs) := by
  intro f h
  rcases mem_append.mp h with h | h
  · exact hf f h
  · exact hg f h

@[simp] theorem fieldBits_nil : fieldBits [] = [] := rfl

@[simp] theorem fieldBits_cons : fieldBits ((v, n) :: fs) = toBits n v ++ fieldBits fs := rfl

@[simp] theorem fieldBits_append :
    fieldBits (fs ++ gs) = fieldBits fs ++ fieldBits gs := flatMap_append

theorem length_fieldBits (fs : List (Nat × Nat)) :
    (fieldBits fs).length = (fs.map Prod.snd).sum := by
  induction fs with
  | nil => rfl
  | cons f fs ih =>
    obtain ⟨v, n⟩ := f
    simp [ih]

/-- Fields that fit are written one behind the other. -/
theorem writeFields_eq (hf : FieldsFit fs) (h : (fieldBits fs).length ≤ b.rest.length) :
    writeFields fs b = some { b with
      done := b.done ++ fieldBits fs, rest := b.rest.drop (fieldBits fs).length } := by
  induction fs generalizing b with
  | nil => simp [writeFields]
  | cons f fs ih =>
    obtain ⟨v, n⟩ := f
    obtain ⟨hn, hv⟩ := hf (v, n) mem_cons_self
    simp only [fieldBits_cons, length_append, length_toBits] at h
    rw [writeFields, writeBits_eq hn hv (by omega), Option.bind_some,
      ih (fun g hg => hf g (mem_cons_of_mem _ hg)) (by simp; omega)]
    simp [drop_drop]

theorem writeZeroesLoop_eq (fuel : Nat) (b : BitBuffer) (n : Nat) (hf : n ≤ fuel)
    (h : n ≤ b.rest.length) :
    writeZeroesLoop fuel b n = some { b with
      done := b.done ++ List.replicate n false, rest := b.rest.drop n } := by
  induction fuel generalizing b n with
  | zero =>
    have h0 : n = 0 := by omega
    simp [h0, writeZeroesLoop]
  | succ fuel ih =>
    unfold writeZeroesLoop
    split
    · rename_i h0
      simp [h0]
    have hz : toBits (min n 64) 0 = List.replicate (min n 64) false := by
      have := toBits_ofBits (List.replicate (min n 64) false)
      rwa [length_replicate, ofBits_replicate_false] at this
    rw [writeBits_eq (by omega) (Nat.two_pow_pos _) (by omega), Option.bind_some,
      ih _ _ (by omega) (by simp; omega), hz]
    simp only [append_assoc, drop_drop, Option.some.injEq, mk.injEq, true_and,
      and_true]
    rw [replicate_append_replicate, show min n 64 + (n - min n 64) = n by omega]
    exact ⟨rfl, rfl⟩

theorem writeZeroes_eq (h : n ≤ b.rest.length) :
    b.writeZeroes n = some { b with
      done := b.done ++ List.replicate n false, rest := b.rest.drop n } :=
  writeZeroesLoop_eq n b n (Nat.le_refl n) h

/-- Where there is room for the bits, or the buffer expands, copying appends them. -/
theorem copyBitsLoop_room (fuel : Nat) (dst src : BitBuffer) (n : Nat) (hf : n ≤ fuel)
    (hd : n ≤ dst.rest.length ∨ dst.autoexpand = true ∧ dst.rest = [])
    (hs : n ≤ src.rest.length) :
    ∃ tail, (n ≤ dst.rest.length → tail = dst.tail) ∧ copyBitsLoop fuel dst src n = some ({ dst with
      done := dst.done ++ src.rest.take n, rest := dst.rest.drop n, tail := tail },
        src.advance n) := by
  induction fuel generalizing dst src n with
  | zero =>
    have h0 : n = 0 := by omega
    exact ⟨dst.tail, fun _ => rfl, by simp [h0, copyBitsLoop]⟩
  | succ fuel ih =>
    unfold copyBitsLoop
    split
    · rename_i h0
      exact ⟨dst.tail, fun _ => rfl, by simp [h0]⟩
    have hl : (src.rest.take (min n 64)).length = min n 64 := by simp; omega
    have hlt := ofBits_lt (src.rest.take (min n 64))
    have hb := toBits_ofBits (src.rest.take (min n 64))
    rw [hl] at hlt hb
    have hread : src.readBits (min n 64) =
        some (ofBits (src.rest.take (min n 64)), src.advance (min n 64)) := by
      unfold readBits peekBits
      rw [if_pos (by omega)]
      rfl
    obtain ⟨t, ht, hput⟩ := put_room (b := dst) (src.rest.take (min n 64))
      (hd.imp (fun h => by omega) id)
    rw [hl] at ht hput
    obtain ⟨t', ht', hloop⟩ := ih { dst with
      done := dst.done ++ src.rest.take (min n 64), rest := dst.rest.drop (min n 64), tail := t }
      (src.advance (min n 64)) (n - min n 64) (by omega)
      (hd.imp (fun h => by simp; omega) (fun h => ⟨h.1, by simp [h.2]⟩)) (by simp; omega)
    refine ⟨t', fun h => (ht' (by simp; omega)).trans (ht (by omega)), ?_⟩
    rw [if_neg (by unfold lenRemaining; omega), hread, Option.bind_some]
    simp only [writeBits, if_pos (And.intro (Nat.min_le_right n 64) hlt), hb, hput,
      Option.bind_some, hloop, advance_advance, show min n 64 + (n - min n 64) = n by omega]
    simp only [advance_rest, append_assoc, drop_drop, Option.some.injEq, Prod.mk.injEq,
      mk.injEq, true_and, and_true]
    rw [← take_add, show min n 64 + (n - min n 64) = n by omega]
    exact ⟨rfl, rfl⟩

/-- Copying moves both cursors. -/
theorem copyBits_eq {dst src : BitBuffer} (hd : n ≤ dst.rest.length) (hs : n ≤ src.rest.length) :
    dst.copyBits src n = some ({ dst with
      done := dst.done ++ src.rest.take n, rest := dst.rest.drop n }, src.advance n) := by
  obtain ⟨tail, ht, h⟩ := copyBitsLoop_room n dst src n (Nat.le_refl n) (.inl hd) hs
  rw [copyBits, h, ht hd]

/-- Copying to the end of an expanding buffer appends the copied bits. -/
theorem copyBits_expand (dst src : BitBuffer) (n : Nat) (ha : dst.autoexpand = true)
    (hr : dst.rest = []) (hs : n ≤ src.rest.length) :
    ∃ tail, dst.copyBits src n = some ({ dst with
      done := dst.done ++ src.rest.take n, rest := [], tail := tail }, src.advance n) := by
  obtain ⟨tail, -, h⟩ := copyBitsLoop_room n dst src n (Nat.le_refl n) (.inr ⟨ha, hr⟩) hs
  exact ⟨tail, by rw [copyBits, h, hr, drop_nil]⟩

end BitBuffer
end NexusBs
