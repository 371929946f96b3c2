import NexusBs.Umac.FillBits
import NexusBs.Pdus.Downlink

namespace NexusBs
open Lib BitBuffer FillBits PduParser List Option

/-- The states a late report does not leave. -/
def TxState.tryMarkTransmitted : TxState → TxState
  | .pending => .transmitted
  | s => s

structure BsFragger where
  resource : MacResource
  (macHdrIsWritten isFullyTransmitted : Bool)
  sdu : BitBuffer
  fragmentedChanAlloc : Option ChanAllocElement
  txReporter : Option TxState
  requiresPacketDataOwner : Bool
deriving DecidableEq

namespace BsFragger

/-- Fragmentation does not start in fewer free bits than this. -/
def minSlotCapForResFragStart : Nat := 32

/-- A fragment is not put into fewer free bits than this. -/
def minSlotCapForFrag : Nat := 16

/-- Type-1 bits of a full downlink signalling slot, the largest block there is. -/
def schFCap : Nat := 268

def new (resource : MacResource) (sdu : BitBuffer) (txReporter : Option TxState) :
    Option BsFragger :=
  if sdu.getPos = 0 then some ⟨resource, false, false, sdu, none, txReporter, false⟩ else none

def carriesChannelAllocation (f : BsFragger) : Bool :=
  f.resource.chanAllocElement.isSome || f.fragmentedChanAlloc.isSome

/-- Header, `n` bits of the SDU, then fill bits. -/
def emit (hdr : BitBuffer → Option BitBuffer) (sdu : BitBuffer) (n fill : Nat) (b : BitBuffer) :
    Option (BitBuffer × BitBuffer) :=
  (hdr b).bind (fun b => (b.copyBits sdu n).bind (fun (b, sdu) =>
    (write (some fill) b).map (fun b => (b, sdu))))

/-- MAC-RESOURCE with all of the SDU, or with as much as the slot takes; the flag
says that nothing is left to send. -/
def getResourceChunk (f : BsFragger) (b : BitBuffer) : Option (BsFragger × BitBuffer × Bool) :=
  if f.sdu.getPos ≠ 0 ∨ f.macHdrIsWritten ∨ (f.resource.isNullPdu ∧ f.sdu.lenRemaining > 0) then none
  else
    let fullHdrLenBits := f.resource.computeHeaderLen
    let sduLenBits := f.sdu.lenRemaining
    let slotCapBits := b.lenRemaining
    let numFillBits := computeRequired (fullHdrLenBits + sduLenBits) slotCapBits
    let totalLenBits := fullHdrLenBits + sduLenBits + numFillBits
    if totalLenBits ≤ slotCapBits then
      if totalLenBits % 8 ≠ 0 ∧ totalLenBits ≠ slotCapBits then none
      else
        -- the byte count is rounded down and cast to a byte
        let resource := { f.resource with
          lengthInd := totalLenBits / 8 % 256, fillBits := decide (numFillBits > 0) }
        (emit resource.toBitbuf f.sdu sduLenBits numFillBits b).map (fun (b, sdu) =>
          ({ f with resource := resource, sdu := sdu, macHdrIsWritten := true }, b, true))
    else
      let allocLen := (f.resource.chanAllocElement.map ChanAllocElement.computeLen).getD 0
      -- an arithmetic underflow counts as a panic
      if fullHdrLenBits < allocLen then none
      else if slotCapBits < minSlotCapForResFragStart ∨ slotCapBits < fullHdrLenBits - allocLen then
        some (f, b, false)
      else
        let start := { f.resource with chanAllocElement := none }
        let hdrLenBits := start.computeHeaderLen
        let sduBits := min (slotCapBits - hdrLenBits) f.sdu.lenRemaining
        let fill := slotCapBits - hdrLenBits - sduBits
        let resource := { start with lengthInd := 63, fillBits := decide (fill > 0) }
        (emit resource.toBitbuf f.sdu sduBits fill b).map (fun (b, sdu) =>
          ({ f with
            resource := resource, sdu := sdu, macHdrIsWritten := true
            fragmentedChanAlloc := f.resource.chanAllocElement }, b, false))

/-- The rest of the SDU in a MAC-END where that fits, else what fits in a MAC-FRAG. -/
def getFragOrEndChunk (f : BsFragger) (b : BitBuffer) : Option (BsFragger × BitBuffer × Bool) :=
  if f.macHdrIsWritten = false then none
  else
    let sduBits := f.sdu.lenRemaining
    let macendLenBits := MacEndDl.computeHdrLen false f.fragmentedChanAlloc + sduBits
    let macendLenBytes := (macendLenBits + 7) / 8
    let slotCapBits := b.lenRemaining
    if macendLenBytes * 8 ≤ slotCapBits then
      let fill := computeRequired macendLenBits slotCapBits
      let pdu : MacEndDl :=
        ⟨decide (fill > 0), 0, macendLenBytes % 256, none, f.fragmentedChanAlloc⟩
      (emit pdu.toBitbuf f.sdu sduBits fill b).map (fun (b, sdu) =>
        ({ f with sdu := sdu, fragmentedChanAlloc := none }, b, true))
    else if slotCapBits < minSlotCapForFrag ∨ sduBits = 0 then some (f, b, false)
    else
      let sduBitsInFrag := min (slotCapBits - 4) sduBits
      let fill := slotCapBits - 4 - sduBitsInFrag
      (emit (MacFragDl.toBitbuf ⟨decide (fill > 0)⟩) f.sdu sduBitsInFrag fill b).map
        (fun (b, sdu) => ({ f with sdu := sdu }, b, false))

/-- Puts the next chunk into the block if there is room for one. -/
def getNextChunk (f : BsFragger) (b : BitBuffer) : Option (BsFragger × BitBuffer × Bool) :=
  if f.isFullyTransmitted ∨ (b.lenWritten % 8 ≠ 0 ∧ b.lenRemaining ≠ 0) then none
  else
    (if f.macHdrIsWritten then f.getFragOrEndChunk b else f.getResourceChunk b).map
      (fun (f, b, done) =>
        ({ f with
          isFullyTransmitted := done
          txReporter := if done then f.txReporter.map TxState.tryMarkTransmitted
            else f.txReporter }, b, done))

variable {b : BitBuffer} {f : BsFragger} {t : MacResourceAddrType}

theorem emit_eq {hdr : BitBuffer → Option BitBuffer} {sdu : BitBuffer} {bits : List Bool}
    (hh : Writes hdr bits) (hn : n ≤ sdu.rest.length) (hb : bits.length + n + fill ≤ b.rest.length) :
    emit hdr sdu n fill b = some ({ b with
      done := b.done ++ (bits ++ sdu.rest.take n ++ fillPattern fill)
      rest := b.rest.drop (bits.length + n + fill) }, sdu.advance n) := by
  unfold emit
  rw [hh b (by omega), bind_some, copyBits_eq (by simp only [length_drop]; omega) hn]
  simp only [bind_some]
  rw [writes_fill _ (by simp only [length_drop, length_fillPattern]; omega)]
  simp [drop_drop, Nat.add_assoc]

/-- Before anything was sent. -/
structure Fresh (f : BsFragger) (t : MacResourceAddrType) : Prop where
  valid : f.resource.Valid t
  hdr : f.macHdrIsWritten = false
  sdu : f.sdu.done = []
  payload : f.resource.isNullPdu = true → f.sdu.rest = []

theorem computeHeaderLen_ge (m : MacResource) : 16 ≤ m.computeHeaderLen := by
  unfold MacResource.computeHeaderLen
  split <;> omega

/-- An SDU that fits behind its header goes out in one MAC-RESOURCE. -/
theorem getResourceChunk_single (hf : f.Fresh t) (hcap : b.rest.length ≤ schFCap)
    (hn : n = f.resource.computeHeaderLen + f.sdu.rest.length) (hfit : n ≤ b.rest.length)
    (hfill : fill = computeRequired n b.rest.length) :
    ∃ m bits, m = { f.resource with lengthInd := (n + fill) / 8, fillBits := decide (fill > 0) } ∧
      bits.length = f.resource.computeHeaderLen ∧ Decodes MacResource.fromBitbuf bits m.onAir ∧
      f.getResourceChunk b = some (
        { f with resource := m, sdu := f.sdu.advance f.sdu.rest.length, macHdrIsWritten := true },
        { b with
          done := b.done ++ (bits ++ f.sdu.rest ++ fillPattern fill)
          rest := b.rest.drop (n + fill) }, true) := by
  have h16 := computeHeaderLen_ge f.resource
  have hle := computeRequired_le hfit
  have hal := computeRequired_aligned hfit
  rw [← hfill] at hle hal
  have h256 : (n + fill) / 8 % 256 = (n + fill) / 8 := by
    simp only [schFCap] at hcap
    omega
  obtain ⟨bits, hlen, hw, hd⟩ := MacResource.encodes
    (hf.valid.withLen ((n + fill) / 8) (decide (fill > 0)))
    (by simp only [schFCap] at hcap; dsimp only; omega)
  refine ⟨_, bits, rfl, hlen, hd, ?_⟩
  have hlen' : bits.length = f.resource.computeHeaderLen := hlen
  have hpay : ¬(f.resource.isNullPdu = true ∧ f.sdu.rest.length > 0) := by
    rintro ⟨hnull, hpos⟩
    rw [hf.payload hnull] at hpos
    exact Nat.lt_irrefl 0 hpos
  unfold getResourceChunk
  simp only [getPos, hf.sdu, hf.hdr, lenRemaining, length_nil, ne_eq, not_true, false_or,
    Bool.false_eq_true, hpay, if_false, ← hn, ← hfill, hle, if_true, h256]
  rw [if_neg (by omega), emit_eq hw (Nat.le_refl _) (by omega), hlen', ← hn, take_length]
  rfl

/-- What a call that is done at once says about its input. -/
theorem getResourceChunk_true (hv : f.resource.Valid t)
    (h : f.getResourceChunk b = some (f', b', true)) :
    f.Fresh t ∧ f.resource.computeHeaderLen + f.sdu.rest.length ≤ b.rest.length := by
  unfold getResourceChunk at h
  split at h
  · cases h
  rename_i hok
  simp only [not_or, not_and, Nat.not_lt, ne_eq, Decidable.not_not] at hok
  obtain ⟨hpos, hhdr, hpay⟩ := hok
  refine ⟨⟨hv, by simpa using hhdr, length_eq_zero_iff.mp hpos, ?_⟩, ?_⟩
  · intro hn
    exact length_eq_zero_iff.mp (Nat.le_zero.mp (hpay hn))
  · dsimp only at h
    split at h
    · rename_i hle
      simp only [lenRemaining] at hle
      omega
    exfalso
    split at h
    · cases h
    split at h
    · cases h
    · obtain ⟨r, _, hr⟩ := map_eq_some_iff.mp h
      cases hr

def fragStart (m : MacResource) (fill : Nat) : MacResource :=
  { m with chanAllocElement := none, lengthInd := 63, fillBits := decide (fill > 0) }

theorem Fresh.not_refused (hf : f.Fresh t) :
    ¬(f.sdu.getPos ≠ 0 ∨ f.macHdrIsWritten = true ∨
      (f.resource.isNullPdu = true ∧ f.sdu.lenRemaining > 0)) := by
  rintro (h | h | ⟨hnull, hpos⟩)
  · exact h (by simp [getPos, hf.sdu])
  · rw [hf.hdr] at h
    cases h
  · rw [lenRemaining, hf.payload hnull] at hpos
    exact Nat.lt_irrefl 0 hpos

/-- Leaving the channel allocation out shortens the header by its length. -/
theorem computeHeaderLen_withoutAlloc {m : MacResource} (hn : m.isNullPdu = false)
    (ha : ∀ c, m.chanAllocElement = some c → c.Valid) :
    { m with chanAllocElement := none }.computeHeaderLen +
      (m.chanAllocElement.map ChanAllocElement.computeLen).getD 0 = m.computeHeaderLen := by
  have hn' : { m with chanAllocElement := none }.isNullPdu = false := hn
  unfold MacResource.computeHeaderLen
  rw [hn, hn']
  cases hc : m.chanAllocElement with
  | none => simp [MacResource.allocLen]
  | some c => simp [MacResource.allocLen, (ha c hc).supported]

/-- What a call does when the SDU does not fit behind its header: nothing in a short
slot, else it fills the slot with the start of the SDU. -/
theorem getResourceChunk_split (hf : f.Fresh t) (hnull : f.resource.isNullPdu = false)
    (hfit : b.rest.length < f.resource.computeHeaderLen + f.sdu.rest.length)
    (hh : h = { f.resource with chanAllocElement := none }.computeHeaderLen)
    (hk : k = min (b.rest.length - h) f.sdu.rest.length) (hfill : fill = b.rest.length - h - k) :
    (b.rest.length < max minSlotCapForResFragStart h ∧ f.getResourceChunk b = some (f, b, false)) ∨
    (max minSlotCapForResFragStart h ≤ b.rest.length ∧ ∃ bits, bits.length = h ∧
      Decodes MacResource.fromBitbuf bits (fragStart f.resource fill).onAir ∧
      f.getResourceChunk b = some (
        { f with
          resource := fragStart f.resource fill, sdu := f.sdu.advance k, macHdrIsWritten := true
          fragmentedChanAlloc := f.resource.chanAllocElement },
        { b with
          done := b.done ++ (bits ++ f.sdu.rest.take k ++ fillPattern fill), rest := [] },
        false)) := by
  have hlen := computeHeaderLen_withoutAlloc hnull hf.valid.alloc
  rw [← hh] at hlen
  have hreq : computeRequired (f.resource.computeHeaderLen + f.sdu.rest.length) b.rest.length = 0 := by
    rw [computeRequired, if_pos (by omega)]
  have hstart : f.getResourceChunk b =
      if b.rest.length < minSlotCapForResFragStart ∨ b.rest.length < h then some (f, b, false)
      else (emit (fragStart f.resource fill).toBitbuf f.sdu k fill b).map (fun (b, sdu) =>
        ({ f with
          resource := fragStart f.resource fill, sdu := sdu, macHdrIsWritten := true
          fragmentedChanAlloc := f.resource.chanAllocElement }, b, false)) := by
    unfold getResourceChunk
    rw [if_neg hf.not_refused]
    simp only [lenRemaining, hreq, Nat.add_zero]
    rw [if_neg (by omega), if_neg (by omega),
      show f.resource.computeHeaderLen -
        (f.resource.chanAllocElement.map ChanAllocElement.computeLen).getD 0 = h by omega]
    subst hfill hk hh
    rfl
  by_cases hc : b.rest.length < minSlotCapForResFragStart ∨ b.rest.length < h
  · left
    exact ⟨by omega, by rw [hstart, if_pos hc]⟩
  · right
    obtain ⟨bits, hbits, hw, hd⟩ := MacResource.encodes
      (hf.valid.withoutAlloc.withLen 63 (decide (fill > 0))) (by dsimp only; omega)
    have hbits' : bits.length = h := hbits.trans hh.symm
    refine ⟨by omega, bits, hbits', hd, ?_⟩
    rw [hstart, if_neg hc, fragStart, emit_eq hw (by omega) (by omega), map_some,
      drop_eq_nil_of_le (by omega)]

/-- Between the start of fragmentation and the MAC-END. -/
structure Fragmenting (f : BsFragger) : Prop where
  hdr : f.macHdrIsWritten = true
  alloc : ∀ c, f.fragmentedChanAlloc = some c → c.Valid

/-- What a later call does: the rest of the SDU in a MAC-END, nothing, or a MAC-FRAG
that fills the slot. -/
theorem getFragOrEndChunk_cases (hf : f.Fragmenting) (hcap : b.rest.length ≤ schFCap)
    (hh : h = MacEndDl.computeHdrLen false f.fragmentedChanAlloc) (hn : n = h + f.sdu.rest.length)
    (hk : k = min (b.rest.length - 4) f.sdu.rest.length) (hfill : fill = b.rest.length - 4 - k) :
    (8 * ((n + 7) / 8) ≤ b.rest.length ∧ ∃ (e : MacEndDl) (bits : List Bool),
      e = ⟨decide (computeRequired n b.rest.length > 0), 0, (n + 7) / 8, none,
        f.fragmentedChanAlloc⟩ ∧
      bits.length = h ∧ Decodes MacEndDl.fromBitbuf bits e.onAir ∧
      f.getFragOrEndChunk b = some (
        { f with sdu := f.sdu.advance f.sdu.rest.length, fragmentedChanAlloc := none },
        { b with
          done := b.done ++
            (bits ++ f.sdu.rest ++ fillPattern (computeRequired n b.rest.length))
          rest := b.rest.drop (8 * ((n + 7) / 8)) }, true)) ∨
    (b.rest.length < 8 * ((n + 7) / 8) ∧ (b.rest.length < minSlotCapForFrag ∨ f.sdu.rest = []) ∧
      f.getFragOrEndChunk b = some (f, b, false)) ∨
    (b.rest.length < 8 * ((n + 7) / 8) ∧ minSlotCapForFrag ≤ b.rest.length ∧ ∃ bits,
      bits.length = 4 ∧ Decodes MacFragDl.fromBitbuf bits ⟨decide (fill > 0)⟩ ∧
      f.getFragOrEndChunk b = some ({ f with sdu := f.sdu.advance k },
        { b with
          done := b.done ++ (bits ++ f.sdu.rest.take k ++ fillPattern fill), rest := [] },
        false)) := by
  have h13 : 13 ≤ h := by
    rw [hh, MacEndDl.computeHdrLen]
    omega
  simp only [schFCap] at hcap
  unfold getFragOrEndChunk
  rw [if_neg (by simp [hf.hdr])]
  simp only [lenRemaining, ← hh, ← hn]
  by_cases hend : 8 * ((n + 7) / 8) ≤ b.rest.length
  · left
    have hreq := computeRequired_of_fits hend
    obtain ⟨bits, hbits, hw, hd⟩ := MacEndDl.encodes
      (m := ⟨decide (computeRequired n b.rest.length > 0), 0, (n + 7) / 8, none,
        f.fragmentedChanAlloc⟩) Nat.zero_lt_two (by dsimp only; omega) rfl hf.alloc
    have hbits' : bits.length = h := hbits.trans hh.symm
    refine ⟨hend, _, bits, rfl, hbits', hd, ?_⟩
    rw [if_pos (by omega), show (n + 7) / 8 % 256 = (n + 7) / 8 by omega,
      emit_eq hw (Nat.le_refl _) (by omega), map_some, take_length]
    simp only [Option.some.injEq, Prod.mk.injEq, true_and, and_true]
    rw [hbits', ← hn, hreq]
  · right
    rw [if_neg (by omega)]
    by_cases hno : b.rest.length < minSlotCapForFrag ∨ f.sdu.rest.length = 0
    · left
      refine ⟨by omega, ?_, by simp only [hno, if_true]⟩
      rcases hno with h | h
      · exact .inl h
      · exact .inr (length_eq_zero_iff.mp h)
    · right
      have h16 : minSlotCapForFrag ≤ b.rest.length := by omega
      simp only [minSlotCapForFrag] at h16
      obtain ⟨bits, hbits, hw, hd⟩ := MacFragDl.encodes ⟨decide (fill > 0)⟩
      refine ⟨by omega, by omega, bits, hbits, hd, ?_⟩
      simp only [hno, if_false, ← hk, ← hfill]
      rw [emit_eq hw (by omega) (by omega), map_some, drop_eq_nil_of_le (by omega)]

end BsFragger
end NexusBs
