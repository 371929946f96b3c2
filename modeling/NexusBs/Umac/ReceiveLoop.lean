import NexusBs.Umac.UmacMs
import NexusBs.Lib.Run

namespace NexusBs
open Lib BitBuffer FillBits PduParser List Option

/-! Headers -/

theorem BasicSlotgrant.advances : Advances BasicSlotgrant.fromBitbuf := by
  unfold fromBitbuf
  repeat' first
    | exact .field _ _ | exact .fail _ | exact .pure _ | refine .bind ?_ (fun _ => ?_) | split

theorem ChanAllocElement.advances : Advances ChanAllocElement.fromBitbuf := by
  unfold fromBitbuf
  repeat' first
    | exact .field _ _ | exact .fail _ | exact .pure _ | exact .map _ (.field _ _)
    | refine .bind ?_ (fun _ => ?_) | split

theorem MacResource.readAddr_advances : Advances (readAddr t) := by
  cases t
  all_goals repeat' first | exact .field _ _ | exact .pure _ | refine .bind ?_ (fun _ => ?_)

theorem MacResource.advances : Advances MacResource.fromBitbuf := by
  unfold fromBitbuf
  repeat' first
    | exact .field _ _ | exact .fail _ | exact .pure _ | exact readAddr_advances
    | exact .flagged _ (.field _ _) | exact .flagged _ BasicSlotgrant.advances
    | exact .flagged _ ChanAllocElement.advances | refine .bind ?_ (fun _ => ?_) | split

theorem MacFragDl.advances : Advances MacFragDl.fromBitbuf := by
  unfold fromBitbuf
  repeat' first
    | exact .field _ _ | exact .fail _ | exact .pure _ | refine .bind ?_ (fun _ => ?_) | split

theorem MacEndDl.advances : Advances MacEndDl.fromBitbuf := by
  unfold fromBitbuf
  repeat' first
    | exact .field _ _ | exact .fail _ | exact .pure _ | exact .flagged _ BasicSlotgrant.advances
    | exact .flagged _ ChanAllocElement.advances | refine .bind ?_ (fun _ => ?_) | split

/-! Reassembly -/

namespace MsDefrag

variable {m : MsDefrag} {d : DefragBuffer} {t : TdmaTime}

/-- A buffer that takes whatever is written behind its end. -/
def Open (d : DefragBuffer) : Prop := d.buffer.autoexpand = true ∧ d.buffer.rest = []

/-- All buffers are open, as the constructor makes them. -/
def Expands (m : MsDefrag) : Prop := ∀ i, Open (m.buffers i)

theorem open_new : Open .new := ⟨rfl, rfl⟩

theorem expands_new : MsDefrag.new.Expands := fun _ => open_new

theorem Expands.set (h : m.Expands) (hd : Open d) (ts : Fin 4) : (m.set ts d).Expands := by
  intro i
  simp only [MsDefrag.set]
  split
  · exact hd
  · exact h i

theorem Open.append (h : Open d) (b : BitBuffer) :
    ∃ d', d.append b = some (d', b.advance b.rest.length) ∧ Open d' := by
  obtain ⟨tail, hc⟩ := copyBits_expand d.buffer b b.rest.length h.1 h.2 (Nat.le_refl _)
  refine ⟨{ d with buffer := { d.buffer with
    done := d.buffer.done ++ b.rest.take b.rest.length, rest := [], tail := tail } }, ?_, h.1, rfl⟩
  rw [DefragBuffer.append, lenRemaining, hc]
  rfl

theorem Expands.insertFirst (h : m.Expands) (b : BitBuffer) (addr : TetraAddress)
    (aieInfo : Option Nat) :
    ∃ m', m.insertFirst b t addr aieInfo = some (m', b.advance b.rest.length) ∧ m'.Expands := by
  have ho : Open (if (m.buffers (tsIndex t)).state ≠ .inactive then (m.buffers (tsIndex t)).reset
      else m.buffers (tsIndex t)) := by
    split
    · exact open_new
    · exact h _
  obtain ⟨d', ha, hd⟩ := Open.append (d := ⟨.active, addr, t, t, 1, aieInfo, _⟩) ho b
  exact ⟨m.set (tsIndex t) d', by rw [MsDefrag.insertFirst, ha, map_some], h.set hd _⟩

theorem Expands.insertInto (h : m.Expands) (b : BitBuffer) (state : DefragBufferState) :
    ∃ m' i, m.insertInto b t state = some (m', b.advance i) ∧ m'.Expands := by
  unfold MsDefrag.insertInto
  dsimp only
  split
  · exact ⟨m, 0, by rw [advance_zero], h⟩
  split
  · exact ⟨_, 0, by rw [advance_zero], h.set open_new _⟩
  · obtain ⟨d', ha, hd⟩ := Open.append (d := { m.buffers (tsIndex t) with
      state := state, tLast := t, numFrags := (m.buffers (tsIndex t)).numFrags + 1 }) (h _) b
    exact ⟨m.set (tsIndex t) d', _, by rw [ha, map_some], h.set hd _⟩

theorem Expands.takeDefraggedBuf (h : m.Expands) :
    ∃ m' taken, m.takeDefraggedBuf t = some (m', taken) ∧ m'.Expands := by
  unfold MsDefrag.takeDefraggedBuf
  dsimp only
  split
  · exact ⟨m, none, rfl, h⟩
  · rw [setRawEnd, if_pos (by simp only [capacity, rawStart, rawPos]; omega), bind_some,
      seek_zero]
    exact ⟨_, _, rfl, h.set open_new _⟩

end MsDefrag

namespace UmacMs

/-! The loop over the PDUs of a block -/

inductive Outcome where
  | returned (u : UmacMs) (q : Queue)
  | panicked
  | running

/-- Another PDU follows if the start of the block moved and a null PDU still fits. -/
def continues (prim prim' : TmvUnitdataInd) : Prop :=
  prim'.pdu.rawStart ≠ prim.pdu.rawStart ∧ 16 ≤ prim'.pdu.len

instance (prim prim' : TmvUnitdataInd) : Decidable (continues prim prim') :=
  inferInstanceAs (Decidable (_ ∧ _))

/-- The loop, for a number of turns. -/
def rxTmvSch : Nat → UmacMs → Queue → TmvUnitdataInd → Outcome
  | 0, _, _, _ => .running
  | turns + 1, u, q, prim =>
    match u.rxTmvSchPdu q prim with
    | none => .panicked
    | some (u', q', prim') =>
      if continues prim prim' then rxTmvSch turns u' q' prim' else .returned u' q'

/-- The next turn of the loop, if there is one. -/
def next (s : UmacMs × Queue × TmvUnitdataInd) (_ : Unit) :
    Option (UmacMs × Queue × TmvUnitdataInd) :=
  (s.1.rxTmvSchPdu s.2.1 s.2.2).bind (fun s' => if continues s.2.2 s'.2.2 then some s' else none)

/-- If the PDU is read and the length that it announces is inside the block, its header is too. -/
def HeaderFits {α : Type} (p : PduParser α) (announced : α → Nat → Option Nat) (b : BitBuffer) : Prop :=
  ∀ pdu c, p b = .ok (pdu, c) → ∀ len, announced pdu c.len = some len → len ≤ c.len → c.getPos ≤ len

/-- The PDU at the start of a block does not announce less than its own header. -/
def Roomy (b : BitBuffer) : Prop :=
  match b.peekBits 3 with
  | none => True
  | some bits =>
    if bits / 2 = 0 then
      HeaderFits MacResource.fromBitbuf (fun pdu => resourceLenBits pdu.lengthInd) b
    else if bits / 2 = 1 then
      if bits % 2 = 0 then True
      else HeaderFits MacEndDl.fromBitbuf (fun pdu _ => some (pdu.lengthInd * 8)) b
    else True

/-- After a turn: the reassembly takes what comes, and the block is where it was or at a later PDU. -/
structure Leads (prim : TmvUnitdataInd) (s : UmacMs × Queue × TmvUnitdataInd) : Prop where
  expands : s.1.defrag.Expands
  moved : s.2.2.pdu.rawStart = prim.pdu.rawStart ∨ s.2.2.pdu.done = [] ∧ s.2.2.pdu.len < prim.pdu.len

section Turn

variable {u : UmacMs} {q : Queue} {prim : TmvUnitdataInd} {H R T : List Bool} {a : Bool} {k len : Nat}

/-- The fill bits end behind the header, and so does the window without them if its length allows. -/
theorem cut_window (hk : k ≤ R.length) (hlen : len ≤ R.length) :
    ∃ j, fillOf ⟨H, R.take k, R.drop k, T, a⟩ flag len = some j ∧ j ≤ len ∧
      (k ≤ len → ∃ n, setRawEnd ⟨H, R.take k, R.drop k, T, a⟩ (H.length + (len - j)) =
        some ⟨H, R.take k, (R.drop k).take n, (R.drop k).drop n ++ T, a⟩) ∧
      (len < k → setRawEnd ⟨H, R.take k, R.drop k, T, a⟩ (H.length + (len - j)) = none) := by
  have hD : (R.take k).length = k := by simp [hk]
  obtain ⟨j, hj, hle, hpos⟩ : ∃ j, fillOf ⟨H, R.take k, R.drop k, T, a⟩ flag len = some j ∧ j ≤ len ∧
      (k ≤ len → k ≤ len - j) := by
    unfold fillOf
    split
    · obtain ⟨j, hj, hle, hpos⟩ := getNumFillBits_some (n := len) ⟨H, R.take k, R.drop k, T, a⟩
        (by simp only [BitBuffer.len, hD, length_drop]; omega)
      simp only [getPos, hD] at hpos
      exact ⟨j, hj, hle, hpos⟩
    · exact ⟨0, rfl, Nat.zero_le _, fun h => h⟩
  refine ⟨j, hj, hle, fun hkl => ⟨len - j - k, ?_⟩, fun hkl => ?_⟩
  · have hn : ((R.drop k).take (len - j - k)).length = len - j - k := by
      rw [length_take, length_drop]
      omega
    have hcut : setRawEnd ⟨H, R.take k, (R.drop k).take (len - j - k) ++
      (R.drop k).drop (len - j - k), T, a⟩ _ = some _ := setRawEnd_cut
    rw [take_append_drop, hD, hn, show k + (len - j - k) = len - j by have := hpos hkl; omega]
      at hcut
    exact hcut
  · rw [setRawEnd, if_neg]
    simp only [rawPos, hD]
    omega

/-- Behind the PDU the next one is to be read, or the block did not move. -/
theorem skipPdu_moves (hw : D ++ X ++ ys = R) (hlen : len ≤ R.length) :
    ∃ c, skipPdu ⟨H, D, X, ys ++ T, a⟩ (H.length + R.length) len = some c ∧
      (c.rawStart = H.length ∨ c.done = [] ∧ c.len < R.length) := by
  have hR : R.length = D.length + X.length + ys.length := by
    rw [← hw, length_append, length_append]
  have hs := skipPdu_eq (H := H) (D := D) (R := X) (a := a) (rfl : ys ++ T = ys ++ T) len
    (by rw [← hR]; exact hlen)
  rw [show H.length + D.length + X.length + ys.length = H.length + R.length by omega, hw] at hs
  refine ⟨_, hs, ?_⟩
  cases len with
  | zero => exact .inl (by simp [rawStart])
  | succ =>
    refine .inr ⟨rfl, ?_⟩
    simp only [BitBuffer.len, length_nil, length_drop]
    omega

/-- What a handler comes to: a turn of the loop where there is room, else a panic. -/
def Turn (prim : TmvUnitdataInd) (roomy : Prop) (r : Result) : Prop :=
  (∃ s, r = some s ∧ Leads prim s) ∧ roomy ∨ r = none ∧ ¬roomy

theorem Turn.stays (hr : roomy) (he : u.defrag.Expands) (hb : b.rawStart = prim.pdu.rawStart) :
    Turn prim roomy (some (u, q, { prim with pdu := b })) :=
  .inl ⟨⟨_, rfl, he, .inl hb⟩, hr⟩

theorem Turn.skips (hr : roomy) (he : u.defrag.Expands) (hp : prim.pdu = ⟨H, [], R, T, a⟩)
    (hw : D ++ X ++ ys = R) (hlen : len ≤ R.length) (q : Queue) :
    Turn prim roomy ((skipPdu ⟨H, D, X, ys ++ T, a⟩ (H.length + R.length) len).map
      (fun c => (u, q, { prim with pdu := c }))) := by
  obtain ⟨c, hc, hmoved⟩ := skipPdu_moves (H := H) (T := T) (a := a) hw hlen
  rw [hc]
  refine .inl ⟨⟨_, rfl, he, ?_⟩, hr⟩
  rw [hp]
  simpa [BitBuffer.len, rawStart] using hmoved

/-- A handler behind its header, which takes the cut window and the number of fill bits. -/
theorem Turn.cut (hk : k ≤ R.length) (hlen : len ≤ R.length) (hr : roomy ↔ k ≤ len)
    (f : Nat → BitBuffer → Result)
    (hf : roomy → ∀ j n, j ≤ len →
      Turn prim roomy (f j ⟨H, R.take k, (R.drop k).take n, (R.drop k).drop n ++ T, a⟩)) :
    Turn prim roomy ((fillOf ⟨H, R.take k, R.drop k, T, a⟩ flag len).bind (fun fill =>
      (setRawEnd ⟨H, R.take k, R.drop k, T, a⟩ (H.length + (len - fill))).bind (f fill))) := by
  obtain ⟨j, hj, hle, hsome, hnone⟩ := cut_window (H := H) (T := T) (a := a) hk hlen
  rw [hj, bind_some]
  by_cases hkl : k ≤ len
  · obtain ⟨n, hn⟩ := hsome hkl
    rw [hn]
    exact hf (hr.mpr hkl) j n hle
  · rw [hnone (by omega)]
    exact .inr ⟨rfl, fun h => hkl (hr.mp h)⟩

theorem window_parts : R.take k ++ (R.drop k).take n ++ (R.drop k).drop n = R := by
  rw [append_assoc, take_append_drop, take_append_drop]

theorem read_parts :
    R.take k ++ ((R.drop k).take n).take i ++ ((R.drop k).take n).drop i ++ (R.drop k).drop n = R := by
  rw [append_assoc (R.take k), take_append_drop, window_parts]

theorem rawEnd_advance (hk : k ≤ R.length) :
    rawEnd ⟨H, R.take k, R.drop k, T, a⟩ = H.length + R.length := by
  simp only [rawEnd, length_take, length_drop]
  omega

theorem len_advance (hk : k ≤ R.length) : BitBuffer.len ⟨H, R.take k, R.drop k, T, a⟩ = R.length := by
  simp only [BitBuffer.len, length_take, length_drop]
  omega

variable {α : Type} {p : PduParser α} {pdu : α} {b : BitBuffer} {announced : α → Nat → Option Nat}

theorem parsed (hp : prim.pdu = ⟨H, [], R, T, a⟩) (ha : Advances p) (h : p prim.pdu = .ok (pdu, b)) :
    ∃ k ≤ R.length, b = ⟨H, R.take k, R.drop k, T, a⟩ := by
  obtain ⟨k, hk, rfl⟩ := ha _ _ _ h
  rw [hp] at hk ⊢
  exact ⟨k, hk, rfl⟩

theorem headerFits_error (h : p prim.pdu = .error e) : HeaderFits p announced prim.pdu := by
  intro pdu c hc
  rw [h] at hc
  cases hc

theorem headerFits_iff (hk : k ≤ R.length) (h : p prim.pdu = .ok (pdu, ⟨H, R.take k, R.drop k, T, a⟩)) :
    HeaderFits p announced prim.pdu ↔
      ∀ len, announced pdu R.length = some len → len ≤ R.length → k ≤ len := by
  have hl := len_advance (H := H) (T := T) (a := a) hk
  have hg : getPos ⟨H, R.take k, R.drop k, T, a⟩ = k := length_take_of_le hk
  refine ⟨fun hf => ?_, fun hf pdu' c hc => ?_⟩
  · simpa only [hl, hg] using hf pdu _ h
  · cases h.symm.trans hc
    simpa only [hl, hg] using hf

section

variable (hp : prim.pdu = ⟨H, [], R, T, a⟩)
include hp

theorem rxMacResource_turn (he : u.defrag.Expands) :
    Turn prim (HeaderFits MacResource.fromBitbuf (fun pdu => resourceLenBits pdu.lengthInd) prim.pdu)
      (u.rxMacResource q prim) := by
  have hstart : prim.pdu.rawStart = H.length := by rw [hp]; rfl
  unfold rxMacResource
  rw [if_neg (by simp [hp, getPos])]
  cases hparse : MacResource.fromBitbuf prim.pdu with
  | error => exact .stays (headerFits_error hparse) he rfl
  | ok r =>
    obtain ⟨pdu, b⟩ := r
    obtain ⟨k, hk, rfl⟩ := parsed hp MacResource.advances hparse
    rw [headerFits_iff hk hparse]
    dsimp only
    rw [len_advance hk]
    cases hlen : resourceLenBits pdu.lengthInd R.length with
    | none => exact .stays (fun _ h => by cases h) he hstart.symm
    | some len =>
      dsimp only
      split
      · exact .stays (fun _ h hle => by cases h; omega) he hstart.symm
      rename_i hle
      refine .cut hk (by omega) (by simp [show len ≤ R.length by omega]) _ (fun hr j n hj => ?_)
      split
      · exact .stays hr he hstart.symm
      rename_i addr _
      split
      · exact .stays hr he hstart.symm
      rw [rawEnd_advance hk, Nat.sub_add_cancel hj]
      unfold takeResource
      split
      · obtain ⟨d, hd, hde⟩ := he.insertFirst (t := u.dltime)
          ⟨H, R.take k, (R.drop k).take n, (R.drop k).drop n ++ T, a⟩ addr none
        rw [hd]
        exact .skips (u := { u with defrag := d }) hr hde hp read_parts (by omega) q
      split
      · exact .skips hr he hp window_parts (by omega) q
      split
      · exact .skips hr he hp window_parts (by omega) q
      · exact .skips hr he hp window_parts (by omega) _

theorem rxMacFrag_turn (he : u.defrag.Expands) : Turn prim True (u.rxMacFrag q prim) := by
  have hstart : prim.pdu.rawStart = H.length := by rw [hp]; rfl
  unfold rxMacFrag
  rw [if_neg (by simp [hp, getPos])]
  cases hparse : MacFragDl.fromBitbuf prim.pdu with
  | error => exact .stays trivial he rfl
  | ok r =>
    obtain ⟨pdu, b⟩ := r
    obtain ⟨k, hk, rfl⟩ := parsed hp MacFragDl.advances hparse
    dsimp only
    rw [len_advance hk]
    refine .cut hk (Nat.le_refl _) (by simp [hk]) _ (fun hr j n hj => ?_)
    split
    · exact .stays hr he hstart.symm
    · obtain ⟨d, i, hd, hde⟩ := he.insertInto (t := u.dltime)
        ⟨H, R.take k, (R.drop k).take n, (R.drop k).drop n ++ T, a⟩ .active
      rw [MsDefrag.insertNext, hd]
      exact .stays (u := { u with defrag := d }) hr hde hstart.symm

theorem rxMacEnd_turn (he : u.defrag.Expands) :
    Turn prim (HeaderFits MacEndDl.fromBitbuf (fun pdu _ => some (pdu.lengthInd * 8)) prim.pdu)
      (u.rxMacEnd q prim) := by
  have hstart : prim.pdu.rawStart = H.length := by rw [hp]; rfl
  unfold rxMacEnd
  rw [if_neg (by simp [hp, getPos])]
  cases hparse : MacEndDl.fromBitbuf prim.pdu with
  | error => exact .stays (headerFits_error hparse) he rfl
  | ok r =>
    obtain ⟨pdu, b⟩ := r
    obtain ⟨k, hk, rfl⟩ := parsed hp MacEndDl.advances hparse
    rw [headerFits_iff hk hparse]
    dsimp only
    rw [len_advance hk]
    split
    · exact .stays (fun _ h hle => by cases h; omega) he hstart.symm
    rename_i hle
    refine .cut hk (by omega) (by simp [show pdu.lengthInd * 8 ≤ R.length by omega]) _
      (fun hr j n hj => ?_)
    split
    · exact .stays hr he hstart.symm
    obtain ⟨d, i, hd, hde⟩ := he.insertInto (t := u.dltime)
      ⟨H, R.take k, (R.drop k).take n, (R.drop k).drop n ++ T, a⟩ .complete
    obtain ⟨d', taken, ht, hte⟩ := hde.takeDefraggedBuf (t := u.dltime)
    rw [MsDefrag.insertLast, hd]
    dsimp only [bind_some]
    rw [ht, rawEnd_advance hk, Nat.sub_add_cancel hj]
    dsimp only [bind_some]
    split
    · exact .stays (u := { u with defrag := d' }) hr hte hstart.symm
    · exact .skips (u := { u with defrag := d' }) hr hte hp read_parts (by omega) _

end

/-- One turn of the loop, from a read position at the start of a PDU. -/
theorem rxTmvSchPdu_turn (hp : prim.pdu.done = []) (he : u.defrag.Expands) :
    Turn prim (Roomy prim.pdu) (u.rxTmvSchPdu q prim) := by
  have hp' : prim.pdu = ⟨prim.pdu.head, [], prim.pdu.rest, prim.pdu.tail, prim.pdu.autoexpand⟩ := by
    rw [← hp]
  unfold rxTmvSchPdu Roomy
  cases prim.pdu.peekBits 3 with
  | none => exact .stays trivial he rfl
  | some bits =>
    dsimp only
    by_cases h0 : bits / 2 = 0
    · rw [if_pos h0, if_pos h0]
      exact rxMacResource_turn hp' he
    rw [if_neg h0, if_neg h0]
    by_cases h1 : bits / 2 = 1
    · rw [if_pos h1, if_pos h1]
      by_cases h2 : bits % 2 = 0
      · rw [if_pos h2, if_pos h2]
        exact rxMacFrag_turn hp' he
      · rw [if_neg h2, if_neg h2]
        exact rxMacEnd_turn hp' he
    · rw [if_neg h1, if_neg h1]
      exact .stays trivial he rfl

end Turn

/-- For every block read from its start and every state of the reassembly the loop ends, after at
most one turn for each bit and one more. It returns exactly if no PDU that it comes to announces
less than its own header; else a handler panics. -/
theorem rxTmvSch_returns_iff (u : UmacMs) (q : Queue) (prim : TmvUnitdataInd)
    (hp : prim.pdu.done = []) (he : u.defrag.Expands) (turns : Nat) (ht : prim.pdu.len < turns) :
    rxTmvSch turns u q prim ≠ .running ∧
    ((∃ u' q', rxTmvSch turns u q prim = .returned u' q') ↔
      Along next (fun s _ => Roomy s.2.2.pdu) (u, q, prim) (List.replicate turns ())) := by
  induction turns generalizing u q prim with
  | zero => omega
  | succ turns ih =>
    rw [rxTmvSch, replicate_succ, Along]
    rcases rxTmvSchPdu_turn (q := q) hp he with ⟨⟨⟨u', q', prim'⟩, hr, hl⟩, hroomy⟩ | ⟨hr, hroomy⟩
    · have hnext : next (u, q, prim) () =
          if continues prim prim' then some (u', q', prim') else none := by
        rw [next, hr, bind_some]
      rw [hr, hnext]
      by_cases hc : continues prim prim'
      · obtain ⟨hdone, hlen⟩ := hl.moved.resolve_left hc.1
        have hrest := ih u' q' prim' hdone hl.expands (by dsimp only at hlen; omega)
        simpa [hc, hroomy] using hrest
      · simp [hc, hroomy]
    · simp [hr, hroomy]

/-- A half slot of null bits. -/
theorem rxTmvSch_returns_nullBits :
    rxTmvSch 125 ⟨.default, .new⟩ [] ⟨.fromBitarr (List.replicate 124 false), .schHd, 0⟩ ≠ .running :=
  (rxTmvSch_returns_iff _ _ _ rfl MsDefrag.expands_new 125 (by decide +kernel)).1

/-- A MAC-RESOURCE for one radio, and a MAC-END, that announce one octet: either is longer. -/
theorem rxTmvSch_short_length_panics :
    rxTmvSch 269 ⟨.default, .new⟩ [] ⟨.fromBitarr (toBits 16 0b0000000000001001 ++
      List.replicate 252 false), .schF, 0⟩ = .panicked ∧
    rxTmvSch 269 ⟨.default, .new⟩ [] ⟨.fromBitarr (toBits 11 0b01100000001 ++
      List.replicate 257 false), .schF, 0⟩ = .panicked := by
  have hresource : (rxTmvSchPdu ⟨.default, .new⟩ [] ⟨.fromBitarr (toBits 16 0b0000000000001001 ++
      List.replicate 252 false), .schF, 0⟩).isNone = true := by decide +kernel
  have hend : (rxTmvSchPdu ⟨.default, .new⟩ [] ⟨.fromBitarr (toBits 11 0b01100000001 ++
      List.replicate 257 false), .schF, 0⟩).isNone = true := by decide +kernel
  rw [isNone_iff_eq_none] at hresource hend
  constructor
  · rw [rxTmvSch, hresource]
  · rw [rxTmvSch, hend]

end UmacMs
end NexusBs
