import NexusBs.Core.Parser

namespace NexusBs.FillBits
open Lib BitBuffer List

/-! Removal -/

/-- Scans down from bit `i - 1` of the window for the last set bit behind `pos`.
`none` is the panic of a look outside the window. -/
def scan (b : BitBuffer) (pduLenBits : Nat) : Nat → Option Nat
  | 0 => some 0
  | i + 1 =>
    if i < b.getPos then some 0
    else (b.peekBitsStartoffset i 1).bind (fun bit =>
      if bit = 0 then scan b pduLenBits i else some (pduLenBits - i))

def getNumFillBits (b : BitBuffer) (pduLenBits : Nat) : Option Nat := scan b pduLenBits pduLenBits

/-! Addition -/

def computeRequiredBytealigned (totalPduSduLenBits : Nat) : Nat := (8 - totalPduSduLenBits % 8) % 8

/-- Fill bits up to the next byte boundary or the end of the slot, whichever comes
first. -/
def computeRequired (totalPduSduLenBits destCapLeft : Nat) : Nat :=
  if totalPduSduLenBits ≥ destCapLeft then 0
  else if totalPduSduLenBits + computeRequiredBytealigned totalPduSduLenBits ≤ destCapLeft then
    computeRequiredBytealigned totalPduSduLenBits
  else destCapLeft - totalPduSduLenBits

/-- A set bit, then zeroes. -/
def write (numFillBits : Option Nat) (b : BitBuffer) : Option BitBuffer :=
  match numFillBits with
  | some n =>
    if n > 0 then (b.writeBit 1).bind (fun b => b.writeZeroes (n - 1)) else some b
  | none =>
    if b.lenRemaining > 0 then (b.writeBit 1).bind (fun b => b.writeZeroes b.lenRemaining)
    else some b

/-- The bits `write` appends for `n` fill bits. -/
def fillPattern : Nat → List Bool
  | 0 => []
  | n + 1 => true :: List.replicate n false

@[simp] theorem length_fillPattern (n : Nat) : (fillPattern n).length = n := by
  cases n <;> simp [fillPattern]

theorem writes_fill : Writes (write (some n)) (fillPattern n) := by
  cases n with
  | zero => exact Writes.nothing
  | succ n => exact Writes.andThen (Writes.bit 1 (by decide)) Writes.zeroes

variable {n : Nat}

theorem computeRequired_le (h : n ≤ cap) : n + computeRequired n cap ≤ cap := by
  unfold computeRequired
  split
  · omega
  · split <;> omega

/-- The padded length is a whole number of bytes or the whole slot. -/
theorem computeRequired_aligned (h : n ≤ cap) :
    (n + computeRequired n cap) % 8 = 0 ∨ n + computeRequired n cap = cap := by
  unfold computeRequired computeRequiredBytealigned
  split
  · omega
  · split <;> omega

/-- Where the next byte boundary is inside the slot, the padding ends there. -/
theorem computeRequired_of_fits (h : 8 * ((n + 7) / 8) ≤ cap) :
    n + computeRequired n cap = 8 * ((n + 7) / 8) := by
  unfold computeRequired computeRequiredBytealigned
  split
  · omega
  · split <;> omega

/-- Where it is not, the padded PDU ends with the slot, inside a byte. -/
theorem computeRequired_of_not_fits (h : n ≤ cap) (hc : cap < 8 * ((n + 7) / 8)) :
    8 * ((n + computeRequired n cap) / 8) < n := by
  unfold computeRequired computeRequiredBytealigned
  split
  · omega
  · split <;> omega

/-! What the scan finds -/

theorem peek_bit {b : BitBuffer} (h : i < b.len) :
    b.peekBitsStartoffset i 1 = some (ofBits ((b.window.drop i).take 1)) := by
  rw [peekBitsStartoffset, if_pos ⟨by decide, by omega⟩]

/-- A scan inside the window returns, and never reaches below `pos`. -/
theorem scan_some (b : BitBuffer) (hi : i ≤ n) (hn : n ≤ b.len) :
    ∃ k, scan b n i = some k ∧ k ≤ n ∧ (b.getPos ≤ n → b.getPos ≤ n - k) := by
  induction i with
  | zero => exact ⟨0, rfl, Nat.zero_le n, by simp⟩
  | succ i ih =>
    unfold scan
    split
    · exact ⟨0, rfl, Nat.zero_le n, by simp⟩
    rw [peek_bit (by omega), Option.bind_some]
    split
    · exact ih (by omega)
    · exact ⟨n - i, rfl, by omega, by omega⟩

theorem getNumFillBits_some (b : BitBuffer) (hn : n ≤ b.len) :
    ∃ k, getNumFillBits b n = some k ∧ k ≤ n ∧ (b.getPos ≤ n → b.getPos ≤ n - k) :=
  scan_some b (Nat.le_refl n) hn

theorem scan_zeroes {b : BitBuffer} {xs : List Bool}
    (hw : b.window = xs ++ (true :: List.replicate m false) ++ ys) (hp : b.getPos ≤ xs.length)
    (hj : j ≤ m) : scan b n (xs.length + 1 + j) = some (n - xs.length) := by
  have hlen : b.len = xs.length + 1 + m + ys.length := by
    have := congrArg List.length hw
    simp only [window, length_append, length_cons, length_replicate] at this
    simp only [len]
    omega
  induction j with
  | zero =>
    unfold scan
    rw [if_neg (by omega), peek_bit (by omega), hw]
    simp [ofBits]
  | succ j ih =>
    rw [← Nat.add_assoc, scan, if_neg (by omega), peek_bit (by omega), hw]
    have hbit : ((xs ++ (true :: List.replicate m false) ++ ys).drop (xs.length + 1 + j)).take 1 =
        [false] := by
      rw [append_assoc, Nat.add_assoc, drop_append, drop_eq_nil_of_le (by omega)]
      rw [show xs.length + (1 + j) - xs.length = j + 1 by omega]
      rw [cons_append, drop_succ_cons, nil_append,
        drop_append_of_le_length (by simp; omega), drop_replicate,
        take_append_of_le_length (by simp; omega)]
      obtain ⟨k, hk⟩ : ∃ k, m - j = k + 1 := ⟨m - j - 1, by omega⟩
      simp [hk, replicate_succ]
    simp only [hbit, Option.bind_some]
    exact ih (by omega)

/-- The fill bits a sender appended are the ones the receiver finds. -/
theorem getNumFillBits_fillPattern (h0 : 0 < n) (hw : b.window = xs ++ fillPattern n ++ ys)
    (hp : b.getPos ≤ xs.length) : getNumFillBits b (xs.length + n) = some n := by
  obtain ⟨m, rfl⟩ : ∃ m, n = m + 1 := ⟨n - 1, by omega⟩
  have := scan_zeroes (n := xs.length + (m + 1)) hw hp (Nat.le_refl m)
  rw [getNumFillBits, show xs.length + (m + 1) = xs.length + 1 + m by omega] at *
  rw [this]
  congr 1
  omega

/-- The bits that a receiver takes off the end of a PDU: `fillBits` is the header's flag. -/
def removed (fillBits : Bool) (b : BitBuffer) (pduLenBits : Nat) : Option Nat :=
  if fillBits then getNumFillBits b pduLenBits else some 0

/-- What a sender filled up, a receiver that is told whether there are fill bits takes off. -/
theorem fill_removed (payload : List Bool) (cap : Nat) (sdu : BitBuffer) (h : payload.length ≤ cap)
    (hs : sdu.rest = payload) :
    let n := computeRequired payload.length cap
    ∃ b b' b0 k, (BitBuffer.new cap).copyBits sdu payload.length = some (b, sdu.advance payload.length) ∧
      write (some n) b = some b' ∧ b'.seek 0 = some b0 ∧
      removed (n > 0) b0 (payload.length + n) = some k ∧
      b0.window.take (payload.length + n - k) = payload ∧
      ((payload.length + n) % 8 = 0 ∨ payload.length + n = cap) := by
  intro n
  have hle : payload.length + n ≤ cap := computeRequired_le h
  let b : BitBuffer := ⟨[], payload, List.replicate (cap - payload.length) false, padding cap, false⟩
  have hcopy : (BitBuffer.new cap).copyBits sdu payload.length =
      some (b, sdu.advance payload.length) := by
    rw [copyBits_eq (by simpa [BitBuffer.new] using h) (by rw [hs])]
    simp [BitBuffer.new, hs, b]
  have hwrite := writes_fill (n := n) b (by simp [b]; omega)
  refine ⟨b, _, _, n, hcopy, hwrite, seek_zero _, ?_, by simp [window, b], computeRequired_aligned h⟩
  by_cases h0 : 0 < n
  · simp only [removed, h0, decide_true, if_true]
    exact getNumFillBits_fillPattern h0 (by simp [window, b]; rfl) (by simp [getPos])
  · simp [removed, h0]; omega

/-- A receiver that is not told takes a payload that ends at the slot's end for fill bits. -/
theorem unfilled_payload_removed : computeRequired 8 8 = 0 ∧
    getNumFillBits (.fromBitarr (true :: List.replicate 7 false)) 8 = some 8 := by decide +kernel

theorem fill_removed_one_bit : ∃ b b0 k, write (some (computeRequired 1 6)) b = some b0 ∧
    b0.window.take (6 - k) = [true] := by
  obtain ⟨b, b', b0, k, -, hw, h0, -, hk, -⟩ :=
    fill_removed [true] 6 (.fromBitarr [true]) (by decide) rfl
  refine ⟨b, b', k, hw, ?_⟩
  obtain rfl : b0 = _ := Option.some.inj (h0.symm.trans (seek_zero b'))
  exact hk

end NexusBs.FillBits
