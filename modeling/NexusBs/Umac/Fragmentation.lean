import NexusBs.Lib.Run
import NexusBs.Umac.Transfer

namespace NexusBs.Fragmentation
open Lib BitBuffer FillBits PduParser BsFragger UmacMs Transfer MsDefrag MacResource List Option

/-- A downlink PDU that carries part of a TM-SDU. -/
inductive DlPdu where
  | resource (m : MacResource)
  | frag (m : MacFragDl)
  | last (m : MacEndDl)

def payload (b : BitBuffer) (fill : Bool) : Option (List Bool) :=
  (fillOf b fill b.len).map (fun n => b.rest.take (b.rest.length - n))

/-- An emitted chunk read back: which PDU it is, and its SDU bits. -/
def readChunk (chunk : List Bool) : Option (DlPdu × List Bool) :=
  let b := fromBitarr chunk
  match b.peekBits 3 with
  | none => none
  | some bits =>
    if bits / 2 = 0 then
      match MacResource.fromBitbuf b with
      | .ok (m, b) => (payload b m.fillBits).map (fun p => (.resource m, p))
      | .error _ => none
    else if bits / 2 = 1 then
      if bits % 2 = 0 then
        match MacFragDl.fromBitbuf b with
        | .ok (m, b) => (payload b m.fillBits).map (fun p => (.frag m, p))
        | .error _ => none
      else
        match MacEndDl.fromBitbuf b with
        | .ok (m, b) => (payload b m.fillBits).map (fun p => (.last m, p))
        | .error _ => none
    else none

/-- A downlink slot: the block with what was put into it before, the bits others put
behind our chunk, and when it is received. -/
structure Slot where
  block : BitBuffer
  others : Nat → Bool
  time : TdmaTime
  scramblingCode : Nat

namespace Slot

def cap (s : Slot) : Nat := s.block.rest.length

def received (s : Slot) (after : BitBuffer) : TmvUnitdataInd :=
  ⟨⟨s.block.done, [], after.done.drop s.block.done.length ++
    (List.range after.rest.length).map s.others, [], false⟩, .schF, s.scramblingCode⟩

/-- A block of at most one slot, byte aligned or full, in the given timeslot. -/
structure Ok (ts : Fin 4) (s : Slot) : Prop where
  time : tsIndex s.time = ts
  size : s.block.rest.length ≤ schFCap
  aligned : s.block.done.length % 8 = 0 ∨ s.block.rest.length = 0

end Slot

/-- Sender and receiver of one TM-SDU, what the receiver delivered, and what went over
the air. -/
structure Link where
  fragger : BsFragger
  ms : UmacMs
  queue : Queue
  chunks : List (List Bool)

/-- One slot: the fragger is offered the block until it is done, and the receiver takes
what it put there. -/
def Link.step (l : Link) (s : Slot) : Option Link :=
  if l.fragger.isFullyTransmitted then some l
  else
    (l.fragger.getNextChunk s.block).bind (fun (f, b, _) =>
      if b.done.length = s.block.done.length then some { l with fragger := f }
      else
        (rxTmvSchPdu { l.ms with dltime := s.time } l.queue (s.received b)).map (fun (u, q, _) =>
          ⟨f, u, q, l.chunks ++ [b.done.drop s.block.done.length]⟩))

/-! Type bits -/

theorem take_three {bits : List Bool} (h : 3 ≤ bits.length) :
    ofBits ((bits ++ more).take 3) = 2 * ofBits (bits.take 2) + ofBits ((bits.drop 2).take 1) := by
  have hs : (bits ++ more).take 3 = bits.take 2 ++ (bits.drop 2).take 1 := by
    rw [take_append_of_le_length h, show 3 = 2 + 1 from rfl, take_add]
  have hl : ((bits.drop 2).take 1).length = 1 := by
    simp only [length_take, length_drop]
    omega
  rw [hs, ofBits_append, hl, Nat.pow_one, Nat.mul_comm]

theorem peek_three {bits : List Bool} (h : 3 ≤ bits.length) :
    peekBits ⟨H, [], bits ++ more, T, a⟩ 3 =
      some (2 * ofBits (bits.take 2) + ofBits ((bits.drop 2).take 1)) := by
  rw [peekBits, if_pos ⟨by decide, by simp only [length_append]; omega⟩, take_three h]

theorem ofBits_one_lt (bits : List Bool) : ofBits ((bits.drop 2).take 1) < 2 := by
  have := ofBits_lt ((bits.drop 2).take 1)
  have hl : ((bits.drop 2).take 1).length ≤ 1 := length_take_le 1 _
  exact Nat.lt_of_lt_of_le this (Nat.pow_le_pow_right (by decide) hl)

section Read

variable {bits sdu : List Bool} {n : Nat}

theorem payload_eq : payload ⟨H, bits, sdu ++ fillPattern n, T, a⟩ (decide (n > 0)) = some sdu := by
  have := fillOf_pattern H bits sdu [] T a n
  rw [append_nil] at this
  rw [payload, len, length_append, length_fillPattern, ← Nat.add_assoc, this]
  simp

theorem readChunk_resource (hd : Decodes MacResource.fromBitbuf bits m) (hb : 3 ≤ bits.length)
    (hf : m.fillBits = decide (n > 0)) :
    readChunk (bits ++ sdu ++ fillPattern n) = some (.resource m, sdu) := by
  have h0 := MacResource.type_of_decodes hd
  have h1 := ofBits_one_lt bits
  have hp := hd [] [] (sdu ++ fillPattern n) (padding (bits ++ (sdu ++ fillPattern n)).length) false
  rw [append_assoc]
  simp only [readChunk, fromBitarr, peek_three hb, h0, hp, hf, nil_append, payload_eq,
    map_some]
  rw [if_pos (by omega)]

theorem readChunk_frag (hd : Decodes MacFragDl.fromBitbuf bits m) (hb : 3 ≤ bits.length)
    (hf : m.fillBits = decide (n > 0)) :
    readChunk (bits ++ sdu ++ fillPattern n) = some (.frag m, sdu) := by
  obtain ⟨h0, h1⟩ := MacFragDl.type_of_decodes hd
  have hp := hd [] [] (sdu ++ fillPattern n) (padding (bits ++ (sdu ++ fillPattern n)).length) false
  rw [append_assoc]
  simp only [readChunk, fromBitarr, peek_three hb, h0, h1, hp, hf, nil_append, payload_eq,
    map_some]
  rfl

theorem readChunk_last (hd : Decodes MacEndDl.fromBitbuf bits m) (hb : 3 ≤ bits.length)
    (hf : m.fillBits = decide (n > 0)) :
    readChunk (bits ++ sdu ++ fillPattern n) = some (.last m, sdu) := by
  obtain ⟨h0, h1⟩ := MacEndDl.type_of_decodes hd
  have hp := hd [] [] (sdu ++ fillPattern n) (padding (bits ++ (sdu ++ fillPattern n)).length) false
  rw [append_assoc]
  simp only [readChunk, fromBitarr, peek_three hb, h0, h1, hp, hf, nil_append, payload_eq,
    map_some]
  rfl

end Read

section Dispatch

variable {u : UmacMs} {q : Queue} {prim : TmvUnitdataInd} {H bits more T : List Bool} {a : Bool}

variable (hp : prim.pdu = ⟨H, [], bits ++ more, T, a⟩)
include hp

theorem rxTmvSchPdu_resource (hd : Decodes MacResource.fromBitbuf bits m) (hb : 3 ≤ bits.length) :
    u.rxTmvSchPdu q prim = u.rxMacResource q prim := by
  have h0 := MacResource.type_of_decodes hd
  have h1 := ofBits_one_lt bits
  simp only [rxTmvSchPdu, hp, peek_three hb, h0]
  rw [if_pos (by omega)]

theorem rxTmvSchPdu_frag (hd : Decodes MacFragDl.fromBitbuf bits m) (hb : 3 ≤ bits.length) :
    u.rxTmvSchPdu q prim = u.rxMacFrag q prim := by
  obtain ⟨h0, h1⟩ := MacFragDl.type_of_decodes hd
  simp only [rxTmvSchPdu, hp, peek_three hb, h0, h1]
  rfl

theorem rxTmvSchPdu_last (hd : Decodes MacEndDl.fromBitbuf bits m) (hb : 3 ≤ bits.length) :
    u.rxTmvSchPdu q prim = u.rxMacEnd q prim := by
  obtain ⟨h0, h1⟩ := MacEndDl.type_of_decodes hd
  simp only [rxTmvSchPdu, hp, peek_three hb, h0, h1]
  rfl

end Dispatch

/-! One slot -/

section Step

variable {l : Link} {s : Slot} {ts : Fin 4} {f : BsFragger} {b : BitBuffer} {d : Bool}

/-- The bookkeeping of `get_next_chunk` around the chunk it emits. -/
def finish (f : BsFragger) (done : Bool) : BsFragger :=
  { f with
    isFullyTransmitted := done
    txReporter := if done then f.txReporter.map TxState.tryMarkTransmitted else f.txReporter }

section

variable (hn : l.fragger.isFullyTransmitted = false)
include hn

theorem getNextChunk_eq (hs : s.Ok ts)
    (hc : (if l.fragger.macHdrIsWritten then l.fragger.getFragOrEndChunk s.block
      else l.fragger.getResourceChunk s.block) = some (f, b, d)) :
    l.fragger.getNextChunk s.block = some (finish f d, b, d) := by
  have ha := hs.aligned
  unfold getNextChunk
  rw [if_neg (by simp only [hn, lenWritten, lenRemaining, Bool.false_eq_true, false_or]; omega), hc]
  rfl

theorem step_nothing (hs : s.Ok ts)
    (hc : (if l.fragger.macHdrIsWritten then l.fragger.getFragOrEndChunk s.block
      else l.fragger.getResourceChunk s.block) = some (l.fragger, s.block, false)) :
    l.step s = some l := by
  have hfin : finish l.fragger false = l.fragger := by
    simp only [finish, Bool.false_eq_true, if_false]
    rw [← hn]
  unfold Link.step
  rw [getNextChunk_eq hn hs hc, hfin]
  simp [hn]

/-- A call that emits a chunk hands it to the receiver. -/
theorem step_chunk (hs : s.Ok ts)
    (hc : (if l.fragger.macHdrIsWritten then l.fragger.getFragOrEndChunk s.block
      else l.fragger.getResourceChunk s.block) = some (f, b, d))
    (hb : b.done = s.block.done ++ chunk) (hne : chunk ≠ [])
    (hrx : rxTmvSchPdu { l.ms with dltime := s.time } l.queue (s.received b) = some (u, q, prim)) :
    l.step s = some ⟨finish f d, u, q, l.chunks ++ [chunk]⟩ := by
  have hlen : (s.block.done ++ chunk).length ≠ s.block.done.length := by
    have := length_pos_iff.mpr hne
    rw [length_append]
    omega
  unfold Link.step
  rw [getNextChunk_eq hn hs hc]
  simp only [hn, Bool.false_eq_true, if_false, bind_some, hrx, map_some, hb,
    drop_left, hlen]

end

/-- What is received reads on from our chunk, with other blocks behind it. -/
theorem received_chunk {r : Option (BsFragger × BitBuffer × Bool)} (_ : r = some (f, b, d))
    (hb : b.done = s.block.done ++ (bits ++ msg ++ fill)) :
    (s.received b).pdu = ⟨s.block.done, [],
      bits ++ (msg ++ fill ++ (List.range b.rest.length).map s.others), [], false⟩ := by
  simp [Slot.received, hb]

end Step

/-- What went over the air so far: a start of fragmentation without a channel allocation,
then MAC-FRAGs, then `tail`; their SDU bits are `sent`, in this order. -/
structure Emitted (chunks : List (List Bool)) (tail : List (DlPdu × List Bool))
    (sent : List Bool) : Prop where
  pdus : ∃ m p frags, chunks.map readChunk = some (.resource m, p) :: (frags ++ tail).map some ∧
    m.lengthInd = 63 ∧ m.chanAllocElement = none ∧ (∀ x ∈ frags, ∃ g, x.1 = .frag g) ∧
    p ++ ((frags ++ tail).map Prod.snd).flatten = sent

/-- Between the start of fragmentation and the MAC-END: the receiver holds what was
sent. -/
structure Sending (f0 : BsFragger) (addr : TetraAddress) (ts : Fin 4) (l : Link) : Prop where
  fragmenting : l.fragger.Fragmenting
  open_ : l.fragger.isFullyTransmitted = false
  alloc : l.fragger.fragmentedChanAlloc = f0.resource.chanAllocElement
  split : l.fragger.sdu.done ++ l.fragger.sdu.rest = f0.sdu.rest
  holds : Holds (l.ms.defrag.buffers ts) (airAddr addr) l.fragger.sdu.done
  queue : l.queue = []
  emitted : Emitted l.chunks [] l.fragger.sdu.done

/-- After the MAC-END: it had the channel allocation, and the SDU was delivered. -/
structure Sent (f0 : BsFragger) (addr : TetraAddress) (l : Link) : Prop where
  closed : l.fragger.isFullyTransmitted = true
  sdu : l.fragger.sdu.done = f0.sdu.rest
  queue : l.queue.map content = [(some (airAddr addr), some f0.sdu.rest)]
  emitted : ∃ e p, e.chanAllocElement = f0.resource.chanAllocElement.map ChanAllocElement.onAir ∧
    Emitted l.chunks [(.last e, p)] f0.sdu.rest

theorem isNullPdu_of_addr {m : MacResource} (h : m.addr = some a) : m.isNullPdu = false := by
  simp [MacResource.isNullPdu, h]

def startLen (f : BsFragger) : Nat :=
  { f.resource with chanAllocElement := none }.computeHeaderLen

variable {addr : TetraAddress}

/-- A slot that is too short to start in is left alone. -/
theorem step_early {l : Link} {s : Slot} {t : MacResourceAddrType} (hf : l.fragger.Fresh t)
    (hn : l.fragger.isFullyTransmitted = false) (ha : l.fragger.resource.addr = some addr)
    (hs : s.Ok ts) (hfit : s.cap < l.fragger.resource.computeHeaderLen + l.fragger.sdu.rest.length)
    (hshort : s.cap < max minSlotCapForResFragStart (startLen l.fragger)) : l.step s = some l := by
  rcases getResourceChunk_split hf (isNullPdu_of_addr ha) hfit rfl rfl rfl with ⟨_, hc⟩ | ⟨hge, _⟩
  · exact step_nothing hn hs (by rw [hf.hdr]; exact hc)
  · exact absurd hshort (Nat.not_lt.mpr hge)

theorem step_start {l : Link} {s : Slot} {t : MacResourceAddrType} (hf : l.fragger.Fresh t)
    (hn : l.fragger.isFullyTransmitted = false) (ha : l.fragger.resource.addr = some addr)
    (hs : s.Ok ts) (hfit : s.cap < l.fragger.resource.computeHeaderLen + l.fragger.sdu.rest.length)
    (hstart : max minSlotCapForResFragStart (startLen l.fragger) ≤ s.cap)
    (hidle : Idle (l.ms.defrag.buffers ts)) (hq : l.queue = []) (hch : l.chunks = []) :
    ∃ l', l.step s = some l' ∧ Sending l.fragger addr ts l' := by
  obtain ⟨k, hk⟩ : ∃ k, k = min (s.block.rest.length - startLen l.fragger)
    l.fragger.sdu.rest.length := ⟨_, rfl⟩
  obtain ⟨fill, hfill⟩ : ∃ fill, fill = s.block.rest.length - startLen l.fragger - k := ⟨_, rfl⟩
  rcases getResourceChunk_split hf (isNullPdu_of_addr ha) hfit rfl hk hfill with
    ⟨hlt, _⟩ | ⟨_, bits, hlen, hd, hc⟩
  · exact absurd hlt (Nat.not_lt.mpr hstart)
  have h16 : 16 ≤ bits.length := hlen ▸ computeHeaderLen_ge _
  have hnull : (fragStart l.fragger.resource fill).isNullPdu = false := isNullPdu_of_addr ha
  have hfl : (fragStart l.fragger.resource fill).onAir.fillBits = decide (fill > 0) := by
    rw [onAir_fillBits (by rw [hnull]; exact fun h => by cases h)]
    rfl
  have hclear : (fragStart l.fragger.resource fill).onAir.encryptionMode = 0 :=
    (hf.valid.withoutAlloc.withLen 63 (decide (fill > 0))).onAir_clear
  have haddr : (fragStart l.fragger.resource fill).onAir.addr =
      some (airAddr addr) := by
    rw [onAir_addr, fragStart, ha]
    rfl
  have halloc : (fragStart l.fragger.resource fill).onAir.chanAllocElement = none := by
    rw [MacResource.onAir, if_neg (by rw [hnull]; exact Bool.false_ne_true)]
    rfl
  have hpdu := received_chunk hc rfl
  obtain ⟨d, prim', hh, hrx⟩ := rxMacResource_starts (u := { l.ms with dltime := s.time })
    (q := l.queue) hpdu hd hfl (by simp [fragStart]) haddr hclear (by rw [hs.time]; exact hidle)
  rw [← rxTmvSchPdu_resource hpdu hd (by omega)] at hrx
  refine ⟨_, step_chunk hn hs (by rw [hf.hdr]; exact hc) rfl ?_ hrx, ?_⟩
  · intro h
    rw [append_assoc] at h
    have := congrArg List.length h
    simp only [length_append, length_nil] at this
    omega
  · have hsd : l.fragger.sdu.done = [] := hf.sdu
    refine ⟨⟨rfl, hf.valid.alloc⟩, rfl, rfl, ?_, ?_, hq, ?_⟩
    · simp [finish, advance, hsd]
    · simpa [finish, advance, hsd, hs.time] using hh
    · refine ⟨(fragStart l.fragger.resource fill).onAir, l.fragger.sdu.rest.take k, [], ?_, ?_,
        halloc, (fun _ h => by cases h), ?_⟩
      · rw [hch]
        simp only [nil_append, map_cons, map_nil, append_nil]
        rw [readChunk_resource hd (by omega) hfl]
      · simp [fragStart]
      · simp [finish, advance, hsd]

theorem Emitted.frag (h : Emitted chunks [] sent) (hc : readChunk chunk = some (.frag g, p)) :
    Emitted (chunks ++ [chunk]) [] (sent ++ p) := by
  obtain ⟨m, p0, frags, hpdus, hli, ha, hfr, hsent⟩ := h.pdus
  refine ⟨m, p0, frags ++ [(.frag g, p)], ?_, hli, ha, ?_, ?_⟩
  · simp [hpdus, hc]
  · intro x hx
    rcases mem_append.mp hx with hx | hx
    · exact hfr x hx
    · simp only [mem_cons, not_mem_nil, or_false] at hx
      exact ⟨g, by rw [hx]⟩
  · simp [← hsent]

theorem Emitted.last (h : Emitted chunks [] sent) (hc : readChunk chunk = some (.last e, p)) :
    Emitted (chunks ++ [chunk]) [(.last e, p)] (sent ++ p) := by
  obtain ⟨m, p0, frags, hpdus, hli, ha, hfr, hsent⟩ := h.pdus
  refine ⟨m, p0, frags, ?_, hli, ha, hfr, ?_⟩
  · simp [hpdus, hc]
  · simp [← hsent]

theorem computeHdrLen_le (c : Option ChanAllocElement) : MacEndDl.computeHdrLen false c ≤ 40 := by
  cases c with
  | none => exact Nat.le_of_ble_eq_true rfl
  | some c =>
    simp only [MacEndDl.computeHdrLen, allocLen, ChanAllocElement.computeLen,
      Bool.false_eq_true, if_false]
    by_cases hs : c.isSupportedByThisStack = true <;> by_cases hm : c.monPattern = 0 <;>
      simp [hs, hm]

/-- A later slot: the transfer goes on or comes to its end. A slot that takes any
MAC-END brings it nearer to the end. -/
theorem step_sending (hl : Sending f0 addr ts l) (hs : s.Ok ts)
    (hmax : f0.sdu.rest.length ≤ defragBufMaxLen) :
    ∃ l', l.step s = some l' ∧ (Sent f0 addr l' ∨
      (Sending f0 addr ts l' ∧ l'.fragger.sdu.rest.length ≤ l.fragger.sdu.rest.length ∧
        (64 ≤ s.cap → l'.fragger.sdu.rest.length < l.fragger.sdu.rest.length))) := by
  obtain ⟨k, hk⟩ : ∃ k, k = min (s.block.rest.length - 4) l.fragger.sdu.rest.length := ⟨_, rfl⟩
  obtain ⟨fill, hfill⟩ : ∃ fill, fill = s.block.rest.length - 4 - k := ⟨_, rfl⟩
  obtain ⟨n, hn⟩ : ∃ n, n = MacEndDl.computeHdrLen false l.fragger.fragmentedChanAlloc +
    l.fragger.sdu.rest.length := ⟨_, rfl⟩
  have hsplit := congrArg List.length hl.split
  rw [length_append] at hsplit
  have hholds : Holds (UmacMs.defrag { l.ms with dltime := s.time } |>.buffers
      (tsIndex s.time)) (airAddr addr) l.fragger.sdu.done := by
    rw [hs.time]
    exact hl.holds
  have hcall : ∀ r, l.fragger.getFragOrEndChunk s.block = r →
      (if l.fragger.macHdrIsWritten then l.fragger.getFragOrEndChunk s.block
        else l.fragger.getResourceChunk s.block) = r := by
    intro r hr
    rw [hl.fragmenting.hdr]
    exact hr
  rcases getFragOrEndChunk_cases hl.fragmenting hs.size rfl hn hk hfill with
    ⟨_, e, bits, he, hlen, hd, hc⟩ | ⟨hbig, hno, hc⟩ | ⟨hbig, h16, bits, hlen, hd, hc⟩
  · have hsum := computeRequired_of_fits ‹_›
    have hfl : e.onAir.fillBits = decide (computeRequired n s.block.rest.length > 0) := by
      rw [he]
      rfl
    have hli : e.onAir.lengthInd * 8 = bits.length + l.fragger.sdu.rest.length +
        computeRequired n s.block.rest.length := by
      have : e.onAir.lengthInd = (n + 7) / 8 := by rw [he]; rfl
      omega
    have hpdu := received_chunk hc rfl
    have h13 : 13 ≤ bits.length := by
      rw [hlen, MacEndDl.computeHdrLen]
      omega
    obtain ⟨c, prim', hdone, hrest, hrx⟩ := rxMacEnd_delivers
      (u := { l.ms with dltime := s.time }) (q := l.queue) hpdu hd hfl hli hholds (by omega)
    rw [← rxTmvSchPdu_last hpdu hd (by omega)] at hrx
    refine ⟨_, step_chunk hl.open_ hs (hcall _ hc) rfl ?_ hrx, .inl ⟨rfl, ?_, ?_, ?_⟩⟩
    · intro h
      have := congrArg List.length h
      simp only [length_append, length_nil] at this
      omega
    · simp [finish, hl.split]
    · simp [hl.queue, content, window, hdone, hrest, hl.split]
    · refine ⟨e.onAir, l.fragger.sdu.rest, ?_, ?_⟩
      · rw [he]
        simp [MacEndDl.onAir, hl.alloc]
      · rw [← hl.split]
        exact hl.emitted.last (readChunk_last hd (by omega) hfl)
  · refine ⟨l, step_nothing hl.open_ hs (hcall _ hc), .inr ⟨hl, Nat.le_refl _, ?_⟩⟩
    intro h64
    exfalso
    have h40 := computeHdrLen_le l.fragger.fragmentedChanAlloc
    simp only [Slot.cap] at h64
    rcases hno with h | h
    · simp only [minSlotCapForFrag] at h
      omega
    · rw [h, length_nil] at hn
      omega
  · have hpdu := received_chunk hc rfl
    have hkl : (l.fragger.sdu.rest.take k).length = k := by
      rw [length_take]
      omega
    obtain ⟨d, prim', hh, hrx⟩ := rxMacFrag_extends (u := { l.ms with dltime := s.time })
      (q := l.queue) hpdu hd hholds (by omega)
    rw [← rxTmvSchPdu_frag hpdu hd (by omega)] at hrx
    refine ⟨_, step_chunk hl.open_ hs (hcall _ hc) rfl ?_ hrx, .inr ⟨?_, ?_, ?_⟩⟩
    · intro h
      have := congrArg List.length h
      simp only [length_append, length_nil] at this
      omega
    · refine ⟨⟨hl.fragmenting.hdr, hl.fragmenting.alloc⟩, rfl, hl.alloc, ?_, ?_, hl.queue, ?_⟩
      · simp [finish, advance, hl.split]
      · simpa [finish, advance, hs.time] using hh
      · exact hl.emitted.frag (readChunk_frag hd (by omega) rfl)
    · simp [finish]
    · intro h64
      have h40 := computeHdrLen_le l.fragger.fragmentedChanAlloc
      simp only [Slot.cap] at h64
      simp only [finish, advance_rest, length_drop]
      omega

/-! Whole transfers -/

theorem step_sent (h : Sent f0 addr l) : l.step s = some l := by
  rw [Link.step, if_pos h.closed]

theorem run_sent (h : Sent f0 addr l) (slots : List Slot) : run Link.step l slots = some l := by
  induction slots with
  | nil => rfl
  | cons s slots ih => rw [run_cons, step_sent h, bind_some, ih]

/-- After the start, every slot that takes any MAC-END counts towards the end. -/
theorem run_sending {f0 : BsFragger} {l : Link} {slots : List Slot} (hl : Sending f0 addr ts l)
    (hs : ∀ s ∈ slots, s.Ok ts) (hmax : f0.sdu.rest.length ≤ defragBufMaxLen) :
    ∃ l', run Link.step l slots = some l' ∧ (Sent f0 addr l' ∨ (Sending f0 addr ts l' ∧
      l'.fragger.sdu.rest.length + slots.countP (fun s => decide (64 ≤ s.cap)) ≤
        l.fragger.sdu.rest.length)) := by
  induction slots generalizing l with
  | nil => exact ⟨l, rfl, .inr ⟨hl, Nat.le_refl _⟩⟩
  | cons s slots ih =>
    obtain ⟨l', hstep, hsent | ⟨hl', hle, hlt⟩⟩ := step_sending hl (hs s mem_cons_self) hmax
    · exact ⟨l', by rw [run_cons, hstep, bind_some, run_sent hsent], .inl hsent⟩
    · obtain ⟨l'', hrun, h⟩ := ih hl' (fun x hx => hs x (mem_cons_of_mem _ hx))
      refine ⟨l'', by rw [run_cons, hstep, bind_some, hrun], ?_⟩
      rcases h with h | ⟨h, hcount⟩
      · exact .inl h
      · refine .inr ⟨h, ?_⟩
        rw [countP_cons]
        by_cases h64 : 64 ≤ s.cap
        · have := hlt h64
          simp only [h64, decide_true, if_true]
          omega
        · simp only [h64, decide_false, Bool.false_eq_true, if_false]
          omega

/-- From the slot on that starts the fragmentation, neither side panics, and in every
state reached the receiver holds exactly the SDU bits sent so far or, once the MAC-END
was sent, has delivered exactly the SDU. Enough slots bring the transfer to its end. -/
theorem reassembles {f : BsFragger} {t : MacResourceAddrType} {addr : TetraAddress} {u : UmacMs}
    {ts : Fin 4} {early later : List Slot} {first : Slot} (hf : f.Fresh t)
    (hn : f.isFullyTransmitted = false) (ha : f.resource.addr = some addr)
    (hmax : f.sdu.rest.length ≤ defragBufMaxLen) (hidle : u.defrag.AllIdle)
    (hs : ∀ s ∈ early ++ first :: later, s.Ok ts)
    (hearly : ∀ s ∈ early, s.cap < f.resource.computeHeaderLen + f.sdu.rest.length ∧
      s.cap < max minSlotCapForResFragStart (startLen f))
    (hfirst : first.cap < f.resource.computeHeaderLen + f.sdu.rest.length ∧
      max minSlotCapForResFragStart (startLen f) ≤ first.cap) :
    ∃ l, run Link.step ⟨f, u, [], []⟩ (early ++ first :: later) = some l ∧
      (Sent f addr l ∨ Sending f addr ts l) ∧
      (f.sdu.rest.length < later.countP (fun s => decide (64 ≤ s.cap)) → Sent f addr l) := by
  have hskip : run Link.step ⟨f, u, [], []⟩ early = some ⟨f, u, [], []⟩ := by
    clear hfirst
    induction early with
    | nil => rfl
    | cons s early ih =>
      have hstep := step_early (l := ⟨f, u, [], []⟩) hf hn ha (hs s mem_cons_self)
        (hearly s mem_cons_self).1 (hearly s mem_cons_self).2
      rw [run_cons, hstep, bind_some]
      exact ih (fun x hx => hs x (mem_cons_of_mem _ hx))
        (fun x hx => hearly x (mem_cons_of_mem _ hx))
  obtain ⟨l1, hstart, hl1⟩ := step_start (l := ⟨f, u, [], []⟩) hf hn ha
    (hs first (mem_append_right _ mem_cons_self)) hfirst.1 hfirst.2 (hidle ts) rfl rfl
  obtain ⟨l, hrun, hl⟩ := run_sending hl1
    (fun x hx => hs x (mem_append_right _ (mem_cons_of_mem _ hx))) hmax
  refine ⟨l, ?_, ?_, ?_⟩
  · rw [run_append, hskip, bind_some, run_cons, hstart, bind_some, hrun]
  · rcases hl with h | ⟨h, _⟩
    · exact .inl h
    · exact .inr h
  · intro hcount
    rcases hl with h | ⟨_, hle⟩
    · exact h
    · have hlen : l1.fragger.sdu.done.length + l1.fragger.sdu.rest.length = f.sdu.rest.length := by
        rw [← length_append, hl1.split]
      omega

def emptySlot (n : Nat) : Slot := ⟨BitBuffer.new n, fun _ => false, TdmaTime.default, 0⟩

theorem ok_emptySlot (h : n ≤ schFCap) : (emptySlot n).Ok 0 :=
  ⟨rfl, by simpa [emptySlot, BitBuffer.new] using h, .inl rfl⟩

theorem reassembles_thirty_bits : ∃ l, run Link.step
      ⟨sending (plainHeader (TetraAddress.issi 1)) (List.replicate 30 true), idleMs, [], []⟩
      (emptySlot 64 :: List.replicate 31 (emptySlot 268)) = some l ∧
    Sent (sending (plainHeader (TetraAddress.issi 1)) (List.replicate 30 true))
      (TetraAddress.issi 1) l := by
  have hf := fresh_sending (a := TetraAddress.issi 1) (.inr (.inr rfl)) (by decide)
    (List.replicate 30 true)
  have hok : ∀ s ∈ [] ++ emptySlot 64 :: List.replicate 31 (emptySlot 268), s.Ok 0 := by
    intro s hs
    rcases mem_cons.mp hs with rfl | hs
    · exact ok_emptySlot (by decide)
    · rw [eq_of_mem_replicate hs]
      exact ok_emptySlot (by decide)
  obtain ⟨l, hrun, _, hsent⟩ := reassembles (u := idleMs) hf rfl rfl (by decide +kernel)
    allIdle_new hok (fun _ h => by cases h) (by decide +kernel)
  exact ⟨l, hrun, hsent (by decide +kernel)⟩

def answers : BsFragger → List BitBuffer → Option (List (Nat × Bool))
  | _, [] => some []
  | f, b :: bs => (f.getNextChunk b).bind (fun (f, _, done) =>
    (answers f bs).map (fun as => (f.sdu.lenRemaining, done) :: as))

/-- The last SDU bit goes out in a MAC-FRAG, where the longer MAC-END header does not fit;
the call that is done sends none. -/
theorem last_bit_before_done :
    answers (sending (plainHeader (TetraAddress.issi 1)) (List.replicate 30 true))
      [BitBuffer.new 64, BitBuffer.new 16, BitBuffer.new 268] =
        some [(9, false), (0, false), (0, true)] := by
  decide +kernel

end NexusBs.Fragmentation
