import NexusBs.Core.BitBuffer

namespace NexusBs.Fcs
open Lib BitBuffer

/-- One turn of the checksum register. -/
def shiftIn (crc : BitVec 32) (bit : Bool) : BitVec 32 :=
  if bit ^^ crc.msb then (crc <<< 1) ^^^ 0x04C11DB7#32 else crc <<< 1

/-- Start value: all ones, shifted out on the left where there are fewer than 32 bits. -/
def initial (len : Nat) : BitVec 32 :=
  if len < 32 then 0xFFFFFFFF#32 <<< (32 - len) else 0xFFFFFFFF#32

def ofList (bits : List Bool) : BitVec 32 := ~~~(bits.foldl shiftIn (initial bits.length))

/-- Checksum of the bits from `start` to `stop` of the window. The shift of the start value
by all 32 places, for an empty range, is an overflow. -/
def computeFcs (b : BitBuffer) (start stop : Nat) : Option (BitVec 32) :=
  if start ≤ stop ∧ stop ≤ b.len ∧ stop - start ≠ 0 then
    some (ofList ((b.window.drop start).take (stop - start)))
  else none

/-- Compares the last 32 bits with the checksum of the bits from `pos` up to them. -/
def checkFcs (b : BitBuffer) : Option Bool :=
  if b.lenRemaining < 32 then some false
  else
    (computeFcs b b.getPos (b.len - 32)).bind (fun computed =>
      (b.peekBitsStartoffset (b.len - 32) 32).map (fun extracted => computed.toNat == extracted))

theorem window_drop_getPos (b : BitBuffer) : b.window.drop b.getPos = b.rest := by
  simp [window, getPos]

theorem checkFcs_eq (b : BitBuffer) :
    checkFcs b =
      if b.rest.length < 32 then some false
      else if b.rest.length = 32 then none
      else some ((ofList (b.rest.take (b.rest.length - 32))).toNat ==
        ofBits (b.rest.drop (b.rest.length - 32))) := by
  unfold checkFcs lenRemaining
  split
  · rfl
  rename_i h
  have hlen : b.len = b.done.length + b.rest.length := rfl
  have hpos : b.getPos = b.done.length := rfl
  split
  · rename_i h32
    rw [computeFcs, if_neg (by omega)]
    rfl
  rename_i h32
  have hd : b.window.drop (b.len - 32) = b.rest.drop (b.rest.length - 32) := by
    rw [window, hlen, show b.done.length + b.rest.length - 32 =
      b.done.length + (b.rest.length - 32) by omega, List.drop_append]
    simp
  have ht : (b.rest.drop (b.rest.length - 32)).take 32 = b.rest.drop (b.rest.length - 32) :=
    List.take_of_length_le (by simp; omega)
  rw [computeFcs, if_pos (by omega), Option.bind_some, peekBitsStartoffset,
    if_pos (by omega), Option.map_some, hd, ht, window_drop_getPos,
    show b.len - 32 - b.getPos = b.rest.length - 32 by omega]

end NexusBs.Fcs
