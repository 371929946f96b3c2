import NexusBs.Umac.FillBits
import NexusBs.Umac.MsDefrag
import NexusBs.Pdus.Downlink

namespace NexusBs
open Lib BitBuffer FillBits PduParser List Option

/-- A received block, read position and window start at the PDU to be taken next. -/
structure TmvUnitdataInd where
  pdu : BitBuffer
  logicalChannel : LogicalChannel
  scramblingCode : Nat

structure TmaUnitdataInd where
  pdu : Option BitBuffer
  mainAddress : TetraAddress
  (scramblingCode endpointId airInterfaceEncryption : Nat)

structure UmacMs where
  dltime : TdmaTime
  defrag : MsDefrag

namespace UmacMs

/-- Bits of the PDU by its length indication in a block of `len` bits; `none` where
the value is reserved. -/
def resourceLenBits (lengthInd len : Nat) : Option Nat :=
  if 1 ≤ lengthInd ∧ lengthInd < 58 then some (lengthInd * 8)
  else if lengthInd = 62 ∨ lengthInd = 63 then some len
  else none

/-- Fill bits of a PDU of `len` bits, where its header announces some. -/
def fillOf (b : BitBuffer) (flag : Bool) (len : Nat) : Option Nat :=
  if flag then getNumFillBits b len else some 0

/-- Reopens the window to `origEnd` and moves its start behind the `len` bits of the
PDU, for the PDU that may follow. -/
def skipPdu (b : BitBuffer) (origEnd len : Nat) : Option BitBuffer :=
  (b.setRawEnd origEnd).bind (fun b =>
    (b.setRawPos (b.rawStart + len)).bind (fun b => b.setRawStart b.rawPos))

abbrev Queue := List TmaUnitdataInd

/-- A handler returns the entity, its message queue and the block; `none` is a panic.
Where a handler gives a block up, the source leaves the read position where the
parser stopped; nothing reads the block after that. -/
abbrev Result := Option (UmacMs × Queue × TmvUnitdataInd)

section

variable (u : UmacMs) (q : Queue) (prim : TmvUnitdataInd)

/-- A complete TM-SDU goes to the LLC, a first fragment to the reassembly. -/
def takeResource (pdu : MacResource)
    (addr : TetraAddress) (b : BitBuffer) : Option (UmacMs × Queue × BitBuffer) :=
  if pdu.lengthInd = 63 then
    (u.defrag.insertFirst b u.dltime addr none).map (fun (d, b) => ({ u with defrag := d }, q, b))
  else if pdu.lengthInd = 62 then some (u, q, b)
  else if b.lenRemaining = 0 then some (u, q, b)
  else some (u, q ++ [⟨some b.fromBitbufferPos, addr, prim.scramblingCode, 0,
    pdu.encryptionMode⟩], b)

def rxMacResource : Result :=
  if prim.pdu.getPos ≠ 0 then none
  else match MacResource.fromBitbuf prim.pdu with
  | .error _ => some (u, q, prim)
  | .ok (pdu, b) =>
    match resourceLenBits pdu.lengthInd b.len with
    | none => some (u, q, { prim with pdu := b })
    | some len =>
      if len > b.len then some (u, q, { prim with pdu := b })
      else
        (fillOf b pdu.fillBits len).bind (fun fill =>
          (b.setRawEnd (b.rawStart + (len - fill))).bind (fun c =>
            match pdu.addr with
            -- null PDUs and PDUs with only an event label go no further
            | none => some (u, q, { prim with pdu := c })
            | some addr =>
              if pdu.encryptionMode > 0 then some (u, q, { prim with pdu := c })
              else
                (u.takeResource q prim pdu addr c).bind (fun (u, q, c) =>
                  (skipPdu c b.rawEnd (len - fill + fill)).map
                    (fun c => (u, q, { prim with pdu := c })))))

def rxMacFrag : Result :=
  if prim.pdu.getPos ≠ 0 then none
  else match MacFragDl.fromBitbuf prim.pdu with
  | .error _ => some (u, q, prim)
  | .ok (pdu, b) =>
    (fillOf b pdu.fillBits b.len).bind (fun fill =>
      (b.setRawEnd (b.rawStart + (b.len - fill))).bind (fun c =>
        if (u.defrag.buffers (tsIndex u.dltime)).aieInfo.isSome then
          some (u, q, { prim with pdu := c })
        else
          (u.defrag.insertNext c u.dltime).map (fun (d, c) =>
            ({ u with defrag := d }, q, { prim with pdu := c }))))

def rxMacEnd : Result :=
  if prim.pdu.getPos ≠ 0 then none
  else match MacEndDl.fromBitbuf prim.pdu with
  | .error _ => some (u, q, prim)
  | .ok (pdu, b) =>
    let len := pdu.lengthInd * 8
    if len > b.len then some (u, q, { prim with pdu := b })
    else
      (fillOf b pdu.fillBits len).bind (fun fill =>
        (b.setRawEnd (b.rawStart + (len - fill))).bind (fun c =>
          if (u.defrag.buffers (tsIndex u.dltime)).aieInfo.isSome then
            some (u, q, { prim with pdu := c })
          else
            (u.defrag.insertLast c u.dltime).bind (fun (d, c) =>
              (d.takeDefraggedBuf u.dltime).bind (fun (d, taken) =>
                match taken with
                | none => some ({ u with defrag := d }, q, { prim with pdu := c })
                | some sdu =>
                  (skipPdu c b.rawEnd (len - fill + fill)).map (fun c =>
                    ({ u with defrag := d },
                      q ++ [⟨some sdu.buffer, sdu.addr, prim.scramblingCode, 0, 0⟩],
                      { prim with pdu := c }))))))

/-- One turn of the loop over the PDUs of a block. Broadcast and supplementary PDUs
touch neither the reassembly nor the LLC. -/
def rxTmvSchPdu : Result :=
  match prim.pdu.peekBits 3 with
  | none => some (u, q, prim)
  | some bits =>
    if bits / 2 = 0 then u.rxMacResource q prim
    else if bits / 2 = 1 then
      if bits % 2 = 0 then u.rxMacFrag q prim else u.rxMacEnd q prim
    else some (u, q, prim)

end

/-! The window around one PDU -/

theorem fillOf_pattern (H D xs ys T : List Bool) (a : Bool) (n : Nat) :
    fillOf ⟨H, D, xs ++ fillPattern n ++ ys, T, a⟩ (decide (n > 0)) (D.length + xs.length + n) =
      some n := by
  cases n with
  | zero => rfl
  | succ n =>
    have hw : window ⟨H, D, xs ++ fillPattern (n + 1) ++ ys, T, a⟩ =
        D ++ xs ++ fillPattern (n + 1) ++ ys := by simp [window]
    have := getNumFillBits_fillPattern (Nat.succ_pos n) hw (by simp [getPos])
    rw [length_append] at this
    simpa [fillOf] using this

theorem setRawEnd_cut :
    setRawEnd ⟨H, D, xs ++ ys, T, a⟩ (H.length + (D.length + xs.length)) =
      some ⟨H, D, xs, ys ++ T, a⟩ := by
  rw [setRawEnd, if_pos (by simp only [capacity, rawStart, rawPos, length_append]; omega)]
  simp [rawPos,
    show H.length + (D.length + xs.length) - (H.length + D.length) = xs.length     by omega]

/-- The fill bits of a PDU and what follows it are cut off. -/
theorem setRawEnd_sdu (H hdr sdu more T : List Bool) (a : Bool) (n : Nat) :
    setRawEnd ⟨H, hdr, sdu ++ fillPattern n ++ more, T, a⟩ (H.length + (hdr.length + sdu.length)) =
      some ⟨H, hdr, sdu, fillPattern n ++ more ++ T, a⟩ := by
  rw [append_assoc]
  exact setRawEnd_cut

theorem skipPdu_eq (hT : T = ys ++ zs) (len : Nat) (hlen : len ≤ D.length + R.length + ys.length) :
    skipPdu ⟨H, D, R, T, a⟩ (H.length + D.length + R.length + ys.length) len =
      some ⟨H ++ (D ++ R ++ ys).take len, [], (D ++ R ++ ys).drop len, zs, a⟩ := by
  subst hT
  have hend : setRawEnd ⟨H, D, R, ys ++ zs, a⟩ (H.length + D.length + R.length + ys.length) =
      some ⟨H, D, R ++ ys, zs, a⟩ := by
    rw [setRawEnd, if_pos (by simp only [capacity, rawStart, rawPos, length_append]; omega)]
    simp only [rawPos]
    rw [show H.length + D.length + R.length + ys.length - (H.length + D.length) =
      (R ++ ys).length by simp; omega, ← append_assoc, take_left, drop_left]
  rw [skipPdu, hend, bind_some, setRawPos, if_pos (by
    simp only [rawStart, rawEnd, length_append]; omega)]
  simp only [bind_some, rawStart, Nat.add_sub_cancel_left, window, ← append_assoc]
  rw [setRawStart, if_pos (by simp only [rawEnd, rawPos]; omega)]
  simp only [rawPos, ← length_append, take_length, drop_length]

theorem skipPdu_read (H hdr sdu more T : List Bool) (a : Bool) (n : Nat) :
    ∃ c, skipPdu ⟨H, hdr ++ sdu, [], fillPattern n ++ more ++ T, a⟩
      (H.length + hdr.length + (sdu ++ fillPattern n ++ more).length)
      (hdr.length + sdu.length + n) = some c := by
  have h := skipPdu_eq (H := H) (D := hdr ++ sdu) (R := []) (T := fillPattern n ++ more ++ T)
    (a := a) rfl (hdr.length + sdu.length + n) (by simp)
  simp only [length_append, length_nil, Nat.add_zero, Nat.add_assoc] at h ⊢
  exact ⟨_, h⟩

/-! What the handlers do with a PDU that a sender put together -/

section Pdu

variable {u : UmacMs} {q : Queue} {prim : TmvUnitdataInd}
variable {H hdr sdu more T : List Bool} {a : Bool} {n : Nat}

/-- Up to the address check, the window is cut to the SDU of the PDU. -/
theorem rxMacResource_cut (hp : prim.pdu = ⟨H, [], hdr ++ (sdu ++ fillPattern n ++ more), T, a⟩)
    (hd : Decodes MacResource.fromBitbuf hdr m) (hfill : m.fillBits = decide (n > 0))
    (hlen : resourceLenBits m.lengthInd (hdr.length + (sdu ++ fillPattern n ++ more).length) =
      some (hdr.length + sdu.length + n)) :
    u.rxMacResource q prim = match m.addr with
      | none => some (u, q, { prim with pdu := ⟨H, hdr, sdu, fillPattern n ++ more ++ T, a⟩ })
      | some addr =>
        if m.encryptionMode > 0 then
          some (u, q, { prim with pdu := ⟨H, hdr, sdu, fillPattern n ++ more ++ T, a⟩ })
        else
          (u.takeResource q prim m addr ⟨H, hdr, sdu, fillPattern n ++ more ++ T, a⟩).bind
            (fun (u, q, c) =>
              (skipPdu c (H.length + hdr.length + (sdu ++ fillPattern n ++ more).length)
                (hdr.length + sdu.length + n)).map (fun c => (u, q, { prim with pdu := c }))) := by
  have hparse := hd H [] (sdu ++ fillPattern n ++ more) T a
  unfold rxMacResource
  rw [if_neg (by simp [hp, getPos]), hp, hparse]
  simp only [nil_append, len, hlen]
  rw [if_neg (by simp only [length_append, length_fillPattern]; omega), hfill, fillOf_pattern]
  simp only [bind_some, rawStart, Nat.add_sub_cancel, setRawEnd_sdu, rawEnd]

variable {addr : TetraAddress}

/-- A complete SDU is delivered once, bit for bit. -/
theorem rxMacResource_delivers
    (hp : prim.pdu = ⟨H, [], hdr ++ (sdu ++ fillPattern n ++ more), T, a⟩)
    (hd : Decodes MacResource.fromBitbuf hdr m) (hfill : m.fillBits = decide (n > 0))
    (hli : 1 ≤ m.lengthInd ∧ m.lengthInd < 58)
    (hlen : m.lengthInd * 8 = hdr.length + sdu.length + n) (haddr : m.addr = some addr)
    (henc : m.encryptionMode = 0) :
    ∃ c prim', c.done = [] ∧ c.rest = sdu ∧ u.rxMacResource q prim =
      some (u, q ++ (if sdu = [] then []
        else [⟨some c, addr, prim.scramblingCode, 0, 0⟩]), prim') := by
  have hcut := rxMacResource_cut (u := u) (q := q) hp hd hfill
    (by rw [resourceLenBits, if_pos hli, hlen])
  obtain ⟨c, hskip⟩ : ∃ c, skipPdu ⟨H, hdr, sdu, fillPattern n ++ more ++ T, a⟩
      (H.length + hdr.length + (sdu ++ fillPattern n ++ more).length)
      (hdr.length + sdu.length + n) = some c := by
    rw [append_assoc sdu, length_append, ← Nat.add_assoc]
    exact ⟨_, skipPdu_eq rfl _ (by simp only [length_append, length_fillPattern]; omega)⟩
  rw [haddr] at hcut
  simp only [henc, Nat.lt_irrefl, gt_iff_lt, if_false, takeResource,
    show ¬m.lengthInd = 63 by omega, show ¬m.lengthInd = 62 by omega] at hcut
  refine ⟨fromBitbufferPos ⟨H, hdr, sdu, fillPattern n ++ more ++ T, a⟩, { prim with pdu := c },
    rfl, rfl, ?_⟩
  rw [hcut]
  by_cases hs : sdu = []
  · simp only [lenRemaining, hs, length_nil, if_true, bind_some, append_nil]
    simp only [hs, length_nil] at hskip
    simp only [hskip, map_some]
  · simp only [lenRemaining, length_eq_zero_iff, hs, if_false, bind_some, hskip,
      map_some]

section

variable (hp : prim.pdu = ⟨H, [], hdr ++ (sdu ++ fillPattern n ++ []), T, a⟩)
include hp

theorem rxMacResource_starts (hd : Decodes MacResource.fromBitbuf hdr m)
    (hfill : m.fillBits = decide (n > 0)) (hli : m.lengthInd = 63) (haddr : m.addr = some addr)
    (henc : m.encryptionMode = 0) (hidle : MsDefrag.Idle (u.defrag.buffers (tsIndex u.dltime))) :
    ∃ d prim', MsDefrag.Holds d addr sdu ∧ u.rxMacResource q prim =
      some ({ u with defrag := u.defrag.set (tsIndex u.dltime) d }, q, prim') := by
  have hcut := rxMacResource_cut (u := u) (q := q) hp hd hfill
    (by simp [resourceLenBits, hli, Nat.add_assoc])
  obtain ⟨d, hins, hh⟩ := MsDefrag.insertFirst_holds
    (b := ⟨H, hdr, sdu, fillPattern n ++ [] ++ T, a⟩) hidle
  obtain ⟨c, hskip⟩ := skipPdu_read H hdr sdu [] T a n
  refine ⟨d, { prim with pdu := c }, hh, ?_⟩
  rw [hcut, haddr]
  simp only [henc, Nat.lt_irrefl, gt_iff_lt, if_false, takeResource, hli, if_true, hins,
    map_some, bind_some]
  simp only [advance, take_length, drop_length, hskip, map_some]

theorem rxMacFrag_extends (hd : Decodes MacFragDl.fromBitbuf hdr ⟨decide (n > 0)⟩)
    (hh : MsDefrag.Holds (u.defrag.buffers (tsIndex u.dltime)) addr bits)
    (hl : bits.length + sdu.length ≤ MsDefrag.defragBufMaxLen) :
    ∃ d prim', MsDefrag.Holds d addr (bits ++ sdu) ∧ u.rxMacFrag q prim =
      some ({ u with defrag := u.defrag.set (tsIndex u.dltime) d }, q, prim') := by
  have hparse := hd H [] (sdu ++ fillPattern n ++ []) T a
  obtain ⟨d, hins, hs, hh'⟩ := MsDefrag.insertInto_holds
    (b := ⟨H, hdr, sdu, fillPattern n ++ [] ++ T, a⟩) .active hh hl
  have hd' : { d with state := .active } = d := by rw [← hs]
  have hlen : hdr.length + (sdu ++ fillPattern n ++ []).length = hdr.length + sdu.length + n := by
    simp only [length_append, length_fillPattern, length_nil]
    omega
  refine ⟨d, { prim with pdu :=
    (BitBuffer.mk H hdr sdu (fillPattern n ++ [] ++ T) a).advance sdu.length },
    hd' ▸ hh', ?_⟩
  unfold rxMacFrag
  rw [if_neg (by simp [hp, getPos]), hp, hparse]
  simp only [nil_append, len, hlen, fillOf_pattern, bind_some, rawStart,
    Nat.add_sub_cancel, setRawEnd_sdu, hh.clear, isSome_none, Bool.false_eq_true, if_false,
    MsDefrag.insertNext, hins, map_some]

end

/-- The last fragment completes the reassembly, which is delivered once. -/
theorem rxMacEnd_delivers (hp : prim.pdu = ⟨H, [], hdr ++ (sdu ++ fillPattern n ++ more), T, a⟩)
    (hd : Decodes MacEndDl.fromBitbuf hdr m) (hfill : m.fillBits = decide (n > 0))
    (hlen : m.lengthInd * 8 = hdr.length + sdu.length + n)
    (hh : MsDefrag.Holds (u.defrag.buffers (tsIndex u.dltime)) addr bits)
    (hl : bits.length + sdu.length ≤ MsDefrag.defragBufMaxLen) :
    ∃ c prim', c.done = [] ∧ c.rest = bits ++ sdu ∧ u.rxMacEnd q prim =
      some ({ u with defrag := u.defrag.set (tsIndex u.dltime) DefragBuffer.new },
        q ++ [⟨some c, addr, prim.scramblingCode, 0, 0⟩], prim') := by
  have hparse := hd H [] (sdu ++ fillPattern n ++ more) T a
  obtain ⟨d, hins, hs, hh'⟩ := MsDefrag.insertInto_holds
    (b := ⟨H, hdr, sdu, fillPattern n ++ more ++ T, a⟩) .complete hh hl
  obtain ⟨e, htake, he, hdone, hrest⟩ := MsDefrag.takeDefraggedBuf_holds
    (MsDefrag.set_self u.defrag (tsIndex u.dltime) d) hs hh'
  obtain ⟨c, hskip⟩ := skipPdu_read H hdr sdu more T a n
  refine ⟨e.buffer, { prim with pdu := c }, hdone, hrest, ?_⟩
  unfold rxMacEnd
  rw [if_neg (by simp [hp, getPos]), hp, hparse]
  simp only [nil_append, len, hlen]
  rw [if_neg (by simp only [length_append, length_fillPattern]; omega), hfill, fillOf_pattern]
  simp only [bind_some, rawStart, Nat.add_sub_cancel, setRawEnd_sdu, rawEnd, hh.clear,
    isSome_none, Bool.false_eq_true, if_false, MsDefrag.insertLast, hins, htake, he]
  simp only [advance, take_length, drop_length, hskip, map_some,
    MsDefrag.set_set]

/-- A length indication that ends inside the SDU: the handler panics, or what it
delivers is shorter than the SDU. -/
theorem rxMacResource_short (hp : prim.pdu = ⟨H, [], hdr ++ (sdu ++ fillPattern n ++ more), T, a⟩)
    (hd : Decodes MacResource.fromBitbuf hdr m) (hli : 1 ≤ m.lengthInd ∧ m.lengthInd < 58)
    (hlen : m.lengthInd * 8 < hdr.length + sdu.length) (hr : u.rxMacResource q prim = some r) :
    sdu ≠ [] ∧ (r.2.1 = q ∨ ∃ c i, r.2.1 = q ++ [i] ∧ i.pdu = some c ∧
      c.window.length < sdu.length) := by
  have hparse := hd H [] (sdu ++ fillPattern n ++ more) T a
  have hwin : m.lengthInd * 8 ≤
      len ⟨H, hdr, sdu ++ fillPattern n ++ more, T, a⟩ := by
    simp only [len, length_append, length_fillPattern]
    omega
  obtain ⟨k, hk, hkle, hpos⟩ := getNumFillBits_some _ hwin
  obtain ⟨j, hj, hjle⟩ : ∃ j, fillOf ⟨H, hdr, sdu ++ fillPattern n ++ more, T, a⟩ m.fillBits
      (m.lengthInd * 8) = some j ∧ j ≤ m.lengthInd * 8 := by
    unfold fillOf
    split
    · exact ⟨k, hk, hkle⟩
    · exact ⟨0, rfl, Nat.zero_le _⟩
  unfold rxMacResource at hr
  rw [if_neg (by simp [hp, getPos]), hp, hparse] at hr
  simp only [nil_append, resourceLenBits, hli, and_self, if_true,
    Nat.not_lt.mpr hwin, gt_iff_lt, if_false, hj, bind_some] at hr
  obtain ⟨c, hc, hr⟩ := bind_eq_some_iff.mp hr
  obtain ⟨hge, hrest⟩ : hdr.length ≤ m.lengthInd * 8 - j ∧
      c.rest.length = m.lengthInd * 8 - j - hdr.length := by
    unfold setRawEnd at hc
    split at hc
    · rename_i hcond
      simp only [rawStart, rawPos, capacity, length_append, length_fillPattern] at hcond
      simp only [Option.some.injEq] at hc
      subst hc
      simp only [rawStart, rawPos, length_take, length_append, length_fillPattern]
      omega
    · cases hc
  have hne : sdu ≠ [] := by
    rintro rfl
    simp only [length_nil] at hlen
    omega
  refine ⟨hne, ?_⟩
  split at hr
  · cases hr
    exact .inl rfl
  rename_i addr _
  split at hr
  · cases hr
    exact .inl rfl
  obtain ⟨⟨u', q', c'⟩, ht, hr⟩ := bind_eq_some_iff.mp hr
  obtain ⟨c'', _, rfl⟩ := map_eq_some_iff.mp hr
  unfold takeResource at ht
  rw [if_neg (by omega), if_neg (by omega)] at ht
  split at ht
  · cases ht
    exact .inl rfl
  cases ht
  refine .inr ⟨c.fromBitbufferPos, _, rfl, rfl, ?_⟩
  simp only [fromBitbufferPos, window, nil_append, hrest]
  omega

end Pdu

end UmacMs
end NexusBs
