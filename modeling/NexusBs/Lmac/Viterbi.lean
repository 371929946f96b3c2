import Mathlib
import NexusBs.Lib.Trellis
import NexusBs.Lmac.Convenc

namespace NexusBs.Lmac
open List hiding Vector

open Lib

/-- A received bit: -1 for a zero, 1 for a one, 0 for a bit that was not sent. -/
abbrev SoftBit := Int

/-- Arithmetic on metrics is that of 16-bit integers. -/
def i16 (x : Int) : Int := x.bmod (2 ^ 16)

/-- Products of received and expected bits are 8-bit integers. -/
def i8 (x : Int) : Int := x.bmod (2 ^ 8)

theorem i16_eq (h : -32768 ≤ x) (h' : x ≤ 32767) : i16 x = x :=
  Int.bmod_eq_of_le (by omega) (by omega)

theorem i8_eq (h : -128 ≤ x) (h' : x ≤ 127) : i8 x = x :=
  Int.bmod_eq_of_le (by omega) (by omega)

/-- The coefficients of a generator, from the present bit to the oldest. -/
abbrev Generator := Vector Bool 5

structure ViterbiDecoder where
  /-- For each generator the bit that is sent on the way into each state, where the oldest bit is
  zero. -/
  expected0 : List (Vector SoftBit 16)

def signOf (bit : Bool) : SoftBit := if bit then 1 else -1

/-- The part of a generator's output that the bits of a state make up. -/
def statePart (poly : Generator) (state : Fin 16) : Bool :=
  (List.finRange 4).foldl (fun output i =>
    if state.val.testBit (3 - i.val) && poly.get i.castSucc then !output else output) false

namespace ViterbiDecoder

def newWithPolynomials (polys : List Generator) : ViterbiDecoder where
  expected0 := polys.map (fun poly => Vector.ofFn (fun state => signOf (statePart poly state)))

def predecessor (state : Fin 16) (oldest : Bool) : Fin 16 :=
  ⟨state.val * 2 % 16 + oldest.toNat, by cases oldest <;> simp <;> omega⟩

/-- Branch metrics where the oldest bit is zero. -/
def branchMetrics0 (d : ViterbiDecoder) (received : List SoftBit) : Vector Int 16 :=
  Vector.ofFn (fun state =>
    (received.zip d.expected0).foldl
      (fun metric re => i16 (metric - i8 (re.1 * re.2.get state))) 0)

/-- The metric of the way into a state from one of its predecessors. -/
def candidate (metrics branch : Vector Int 16) (state : Fin 16) : Bool → Int
  | false => i16 (metrics.get (predecessor state false) + branch.get state)
  | true => i16 (metrics.get (predecessor state true) - branch.get state)

def decide1 (metrics branch : Vector Int 16) : Vector Bool 16 :=
  Vector.ofFn (fun state =>
    decide (candidate metrics branch state true < candidate metrics branch state false))

def newMetrics (metrics branch : Vector Int 16) : Vector Int 16 :=
  Vector.ofFn (fun state =>
    candidate metrics branch state ((decide1 metrics branch).get state))

def trellisDecisions (d : ViterbiDecoder) : Vector Int 16 → List (List SoftBit) → List (Vector Bool 16)
  | _, [] => []
  | metrics, received :: rest =>
    let branch := d.branchMetrics0 received
    decide1 metrics branch :: d.trellisDecisions (newMetrics metrics branch) rest

/-- The bits on the way back from a state, the last one first. -/
def traceback : Fin 16 → List (Vector Bool 16) → List Bool
  | _, [] => []
  | state, decisions :: rest =>
    state.val.testBit 3 :: traceback (predecessor state (decisions.get state)) rest

/-- State 0 starts at 0, every other state at half of the largest metric. -/
def initialMetrics : Vector Int 16 := Vector.ofFn (fun state => if state = 0 then 0 else 16383)

/-- The symbols of `n` bits that a list is made of, without what is left over at its end. -/
def chunksExact (n : Nat) (l : List SoftBit) : List (List SoftBit) :=
  (List.range (l.length / n)).map (fun i => (l.drop (i * n)).take n)

def decode (d : ViterbiDecoder) (receivedBits : List SoftBit) : List Bool :=
  let decisions := d.trellisDecisions initialMetrics (chunksExact d.expected0.length receivedBits)
  (traceback 0 decisions.reverse).reverse

end ViterbiDecoder

def tetraPolynomials : List Generator :=
  [#v[true, true, false, false, true], #v[true, false, true, true, true],
    #v[true, true, true, false, true], #v[true, true, false, true, true]]

def tetraCodecPolynomials : List Generator :=
  [#v[true, true, true, true, true], #v[true, true, false, true, true],
    #v[true, false, true, false, true]]

def TetraViterbiDecoder.new : ViterbiDecoder := .newWithPolynomials tetraPolynomials

def TetraCodecViterbiDecoder.new : ViterbiDecoder := .newWithPolynomials tetraCodecPolynomials

def softBit : Option Bool → SoftBit
  | some false => -1
  | some true => 1
  | none => 0

/-- `none` where an assertion fails. -/
def decSb1 (inBuf : List (Option Bool)) (symCount : Nat) : Option (List Bool) :=
  if symCount ≤ 864 ∧ symCount * 4 ≤ inBuf.length then
    some ((TetraViterbiDecoder.new.decode ((inBuf.take (symCount * 4)).map softBit)).take symCount)
  else none

/-! ### What the decoder makes of bits that were sent -/

/-- The number by which the decoder knows a register. -/
def ConvEncState.index (s : ConvEncState) : Fin 16 :=
  ⟨8 * s.d0.toNat + 4 * s.d1.toNat + 2 * s.d2.toNat + s.d3.toNat, by
    have h0 := s.d0.toNat_le
    have h1 := s.d1.toNat_le
    have h2 := s.d2.toNat_le
    have h3 := s.d3.toNat_le
    omega⟩

namespace ViterbiDecoder

theorem predecessor_shift (s : ConvEncState) (b : Bool) :
    predecessor (s.shift b).index s.d3 = s.index := by
  obtain ⟨d0, d1, d2, d3⟩ := s
  cases b <;> cases d0 <;> cases d1 <;> cases d2 <;> cases d3 <;> decide

variable {polys : List Generator} {s : ConvEncState} {received : List SoftBit}
  {stream : List (List SoftBit)}

/-- A register has two successors. -/
theorem eq_shift_of_predecessor (h : predecessor t i = s.index) :
    i = s.d3 ∧ ∃ b, t = (s.shift b).index := by
  obtain ⟨d0, d1, d2, d3⟩ := s
  revert t i
  cases d0 <;> cases d1 <;> cases d2 <;> cases d3 <;> decide

theorem testBit_index :
    s.index.val.testBit 3 = s.d0 ∧ s.index.val.testBit 2 = s.d1 ∧ s.index.val.testBit 1 = s.d2 ∧
      s.index.val.testBit 0 = s.d3 := by
  obtain ⟨d0, d1, d2, d3⟩ := s
  cases d0 <;> cases d1 <;> cases d2 <;> cases d3 <;> decide

theorem flip_eq_xor : (if c = true then !x else x) = (c ^^ x) := by
  cases c <;> cases x <;> rfl

theorem statePart_index (poly : Generator) : statePart poly s.index =
      ((s.d3 && poly.get 3) ^^ ((s.d2 && poly.get 2) ^^ ((s.d1 && poly.get 1) ^^
        (s.d0 && poly.get 0)))) := by
  have hr : List.finRange 4 = [0, 1, 2, 3] := by decide
  obtain ⟨h3, h2, h1, h0⟩ := testBit_index
  simp only [statePart, hr, foldl_cons, foldl_nil, flip_eq_xor]
  change ((s.index.val.testBit 0 && poly.get 3) ^^ ((s.index.val.testBit 1 && poly.get 2) ^^
    ((s.index.val.testBit 2 && poly.get 1) ^^ ((s.index.val.testBit 3 && poly.get 0) ^^ false)))) = _
  rw [h3, h2, h1, h0, Bool.xor_false]

/-- The bits that the generators send on the way from a register, each with a coefficient for the
oldest bit. -/
def outputs (polys : List Generator) (s : ConvEncState) (bit : Bool) : List Bool :=
  polys.map (fun poly => statePart poly (s.shift bit).index ^^ s.d3)

theorem encodeBit_eq (s : ConvEncState) (bit : Bool) :
    s.encodeBit bit = outputs tetraPolynomials s bit := by
  obtain ⟨d0, d1, d2, d3⟩ := s
  cases bit <;> cases d0 <;> cases d1 <;> cases d2 <;> cases d3 <;> decide

theorem speechEncodeBit_eq (s : ConvEncState) (bit : Bool) :
    s.speechEncodeBit bit = outputs tetraCodecPolynomials s bit := by
  obtain ⟨d0, d1, d2, d3⟩ := s
  cases bit <;> cases d0 <;> cases d1 <;> cases d2 <;> cases d3 <;> decide

/-- The other bit turns every output round. -/
theorem statePart_shift_not (h : poly.get 0 = true) :
    statePart poly (s.shift (!bit)).index = !statePart poly (s.shift bit).index := by
  rw [statePart_index, statePart_index]
  simp [ConvEncState.shift, h]

/-- How well received bits fit the way into a state. -/
def gain (polys : List Generator) (received : List SoftBit) (t : Fin 16) (oldest : Bool) : Int :=
  ((received.zip polys).map (fun rp => rp.1 * signOf (statePart rp.2 t ^^ oldest))).sum

/-- How many bits were received. -/
def weight (received : List SoftBit) : Int := (received.map (fun r => (r.natAbs : Int))).sum

theorem signOf_not : signOf (!b) = -signOf b := by
  cases b <;> rfl

theorem mul_signOf_le (r : Int) (b : Bool) :
    r * signOf b ≤ r.natAbs ∧ -(r.natAbs : Int) ≤ r * signOf b := by
  cases b with
  | false =>
    have hs : r * signOf false = -r := by rw [show signOf false = -1 from rfl, Int.mul_neg, Int.mul_one]
    omega
  | true =>
    have hs : r * signOf true = r := Int.mul_one r
    omega

theorem signOf_mul_self : signOf b * signOf b = (signOf b).natAbs := by
  cases b <;> rfl

theorem natAbs_signOf : (signOf b).natAbs = 1 := by
  cases b <;> rfl

theorem gain_true : gain polys received t true = -gain polys received t false := by
  unfold gain
  induction received.zip polys with
  | nil => rfl
  | cons rp rest ih =>
    simp only [map_cons, sum_cons, Bool.xor_true, Bool.xor_false, signOf_not] at ih ⊢
    rw [ih, Int.mul_neg]
    omega

theorem weight_nonneg (received : List SoftBit) : 0 ≤ weight received := by
  unfold weight
  induction received with
  | nil => exact Int.le_refl 0
  | cons =>
    rw [map_cons, sum_cons]
    omega

theorem gain_le_weight (polys : List Generator) (received : List SoftBit) (t : Fin 16)
    (oldest : Bool) :
    gain polys received t oldest ≤ weight received ∧
      -weight received ≤ gain polys received t oldest := by
  unfold gain weight
  induction received generalizing polys with
  | nil => simp
  | cons r received ih =>
    cases polys with
    | nil =>
      have := weight_nonneg (r :: received)
      simp only [weight] at this
      simp only [zip_nil_right, map_nil, sum_nil]
      omega
    | cons poly polys =>
      obtain ⟨h, h'⟩ := ih polys
      have hr := mul_signOf_le r (statePart poly t ^^ oldest)
      simp only [zip_cons_cons, map_cons, sum_cons]
      omega

/-- What may be received where bits were sent: every bit right, or nothing in its place, and not
nothing at all. -/
def Received (sent : List Bool) (received : List SoftBit) : Prop :=
  List.Forall₂ (fun bit r => r = 0 ∨ r = signOf bit) sent received ∧ 0 < weight received

theorem gain_of_received
    (h : List.Forall₂ (fun bit r => r = 0 ∨ r = signOf bit) (outputs polys s bit) received) :
    gain polys received (s.shift bit).index s.d3 = weight received := by
  unfold gain weight
  induction polys generalizing received with
  | nil =>
    cases h
    rfl
  | cons poly polys ih =>
    obtain ⟨r, rest, hr, hrest, rfl⟩ := List.forall₂_cons_left_iff.mp h
    rw [zip_cons_cons, map_cons, sum_cons, ih hrest, map_cons, sum_cons]
    rcases hr with rfl | rfl
    · simp
    · rw [signOf_mul_self]

theorem gain_of_other (hp : ∀ poly ∈ polys, poly.get 0 = true) :
    gain polys received (s.shift (!bit)).index s.d3 =
      -gain polys received (s.shift bit).index s.d3 := by
  unfold gain
  induction polys generalizing received with
  | nil => simp
  | cons poly polys ih =>
    cases received with
    | nil => rfl
    | cons =>
      rw [zip_cons_cons, map_cons, sum_cons,
        ih (fun q hq => hp q (mem_cons_of_mem _ hq)), map_cons, sum_cons]
      simp only [statePart_shift_not (hp poly mem_cons_self), Bool.not_xor, signOf_not]
      rw [Int.mul_neg]
      omega

section

variable (h : List.Forall₂ (fun bit r => r = 0 ∨ r = signOf bit) sent received)
include h

theorem weight_le_length : weight received ≤ received.length := by
  unfold weight
  induction h with
  | nil => exact Int.le_refl 0
  | cons hr =>
    rw [map_cons, sum_cons, length_cons]
    rcases hr with rfl | rfl
    · rw [Int.natAbs_zero]
      omega
    · rw [natAbs_signOf]
      omega

theorem natAbs_le_one : ∀ r ∈ received, r.natAbs ≤ 1 := by
  induction h with
  | nil => intro r hr; cases hr
  | cons hr _ ih =>
    intro x hx
    rcases mem_cons.mp hx with rfl | hx
    · rcases hr with rfl | rfl
      · exact Nat.zero_le 1
      · rw [natAbs_signOf]
    · exact ih x hx

end

theorem get_ofFn {α : Type} (f : Fin n → α) (t : Fin n) : (Vector.ofFn f).get t = f t := by
  change (Vector.ofFn f)[t.val] = f t
  rw [Vector.getElem_ofFn]

/-- Without overflow the branch metric of a state is what speaks against the way into it. -/
theorem branchMetrics0_eq (hr : ∀ r ∈ received, r.natAbs ≤ 1) (hl : received.length ≤ 1000) :
    ((newWithPolynomials polys).branchMetrics0 received).get t = -gain polys received t false := by
  -- the sum so far, and room for what is still to come
  have hfold : ∀ (l : List (SoftBit × Generator)) (acc : Int), (∀ x ∈ l, x.1.natAbs ≤ 1) →
      acc.natAbs + l.length ≤ 32767 →
      (l.map (fun x => (x.1, Vector.ofFn (fun state => signOf (statePart x.2 state))))).foldl
        (fun metric re => i16 (metric - i8 (re.1 * re.2.get t))) acc =
      acc - (l.map (fun x => x.1 * signOf (statePart x.2 t ^^ false))).sum := by
    intro l
    induction l with
    | nil => intro acc _ _; simp
    | cons x l ih =>
      intro acc hx hacc
      have hone := hx x mem_cons_self
      have hprod := mul_signOf_le x.1 (statePart x.2 t)
      rw [length_cons] at hacc
      simp only [map_cons, foldl_cons, sum_cons, get_ofFn, Bool.xor_false] at ih ⊢
      rw [i8_eq (by omega) (by omega), i16_eq (by omega) (by omega),
        ih _ (fun y hy => hx y (mem_cons_of_mem _ hy)) (by omega)]
      omega
  have hzip : received.zip ((newWithPolynomials polys).expected0) =
      (received.zip polys).map
        (fun x => (x.1, Vector.ofFn (fun state => signOf (statePart x.2 state)))) := by
    rw [newWithPolynomials, zip_map_right]
    rfl
  have hmem : ∀ x ∈ received.zip polys, x.1.natAbs ≤ 1 := fun x hx => hr x.1 (of_mem_zip hx).1
  have hlen : (received.zip polys).length ≤ received.length := by
    rw [length_zip]
    omega
  have hsum := hfold (received.zip polys) 0 hmem (by simp only [Int.natAbs_zero]; omega)
  rw [branchMetrics0, get_ofFn, hzip, hsum, gain]
  omega

/-- All metrics keep their distance from the ends of the 16-bit range. -/
def InRange (metrics : Vector Int 16) (b : Int) : Prop :=
  ∀ t : Fin 16, -b ≤ metrics.get t ∧ metrics.get t ≤ 16383 + b

section Step

variable {polys : List Generator} {received : List SoftBit} {metrics : Vector Int 16} {b : Int}

/-- Without overflow the way into a state has the metric of the state before, less the gain. -/
theorem candidate_eq (hr : ∀ r ∈ received, r.natAbs ≤ 1) (hl : received.length ≤ 1000)
    (hm : InRange metrics b) (hb : b + weight received ≤ 16384) (t : Fin 16) (i : Bool) :
    candidate metrics ((newWithPolynomials polys).branchMetrics0 received) t i =
      metrics.get (predecessor t i) + -gain polys received t i := by
  have hg := gain_le_weight polys received t false
  have hp := hm (predecessor t i)
  cases i with
  | false =>
    rw [candidate, branchMetrics0_eq hr hl, i16_eq (by omega) (by omega)]
  | true =>
    rw [candidate, branchMetrics0_eq hr hl, gain_true, i16_eq (by omega) (by omega)]
    omega

theorem InRange.step (hr : ∀ r ∈ received, r.natAbs ≤ 1) (hl : received.length ≤ 1000)
    (hm : InRange metrics b) (hb : b + weight received ≤ 16384) :
    InRange (newMetrics metrics ((newWithPolynomials polys).branchMetrics0 received))
      (b + weight received) := by
  intro t
  rw [newMetrics, get_ofFn, candidate_eq hr hl hm hb]
  generalize (decide1 metrics _).get t = i
  have hp := hm (predecessor t i)
  have hg := gain_le_weight polys received t i
  omega

/-- One symbol: the register of the sender stays ahead, and its state remembers the way. -/
theorem leads_step (hpoly : ∀ poly ∈ polys, poly.get 0 = true)
    (hrec : Received (outputs polys s bit) received) (hl : received.length ≤ 1000)
    (hm : InRange metrics b) (hb : b + weight received ≤ 16384) (h : Leads metrics.get s.index c) :
    Leads (newMetrics metrics ((newWithPolynomials polys).branchMetrics0 received)).get
        (s.shift bit).index (c - weight received) ∧
      (decide1 metrics ((newWithPolynomials polys).branchMetrics0 received)).get
        (s.shift bit).index = s.d3 := by
  obtain ⟨hsent, hpos⟩ := hrec
  have hr := natAbs_le_one hsent
  have hcand : ∀ t i, candidate metrics ((newWithPolynomials polys).branchMetrics0 received) t i =
      metrics.get (predecessor t i) + -gain polys received t i := candidate_eq hr hl hm hb
  refine h.step predecessor (fun t i => -gain polys received t i)
    (decide1 metrics ((newWithPolynomials polys).branchMetrics0 received)).get
    ?_ ?_ (predecessor_shift s bit) ?_ ?_ ?_
  · -- the decision takes the smaller of the two candidates
    intro t j
    rw [← hcand, ← hcand, decide1, get_ofFn]
    by_cases hlt : candidate metrics ((newWithPolynomials polys).branchMetrics0 received) t true <
        candidate metrics ((newWithPolynomials polys).branchMetrics0 received) t false
    · rw [decide_eq_true hlt]
      cases j with
      | false => exact Int.le_of_lt hlt
      | true => exact Int.le_refl _
    · rw [decide_eq_false hlt]
      cases j with
      | false => exact Int.le_refl _
      | true => exact Int.not_lt.mp hlt
  · intro t
    rw [newMetrics, get_ofFn, hcand]
  · rw [gain_of_received hsent]
  · intro t j
    have hg := gain_le_weight polys received t j
    omega
  · intro t j hbefore hne
    obtain ⟨rfl, bit', rfl⟩ := eq_shift_of_predecessor hbefore
    have hbit : bit' = !bit := by
      cases bit <;> cases bit' <;> simp_all
    rw [hbit, gain_of_other hpoly, gain_of_received hsent]
    omega

end Step

/-- Symbols as they were received, one for each bit sent. -/
def Stream (polys : List Generator) : ConvEncState → List Bool → List (List SoftBit) → Prop
  | _, [], [] => True
  | s, bit :: bits, received :: rest =>
    Received (outputs polys s bit) received ∧ Stream polys (s.shift bit) bits rest
  | _, _, _ => False

/-- Decisions that remember the way of the sender's register. -/
def Remembers : ConvEncState → List Bool → List (Vector Bool 16) → Prop
  | _, [], [] => True
  | s, bit :: bits, decisions :: rest =>
    decisions.get (s.shift bit).index = s.d3 ∧ Remembers (s.shift bit) bits rest
  | _, _, _ => False

theorem trellisDecisions_remembers (hpoly : ∀ poly ∈ polys, poly.get 0 = true)
    (hn : polys.length ≤ 4) (hs : Stream polys s bits stream) (hm : InRange metrics b)
    (hb : b + 4 * bits.length ≤ 16384) (h : Leads metrics.get s.index c) :
    Remembers s bits ((newWithPolynomials polys).trellisDecisions metrics stream) := by
  induction bits generalizing s stream metrics b c with
  | nil =>
    cases stream with
    | nil => trivial
    | cons => exact hs
  | cons bit bits ih =>
    cases stream with
    | nil => exact hs
    | cons received =>
      obtain ⟨hrec, hrest⟩ := hs
      have hlen : received.length = polys.length := by
        rw [← hrec.1.length_eq, outputs, length_map]
      have hw := weight_le_length hrec.1
      rw [length_cons] at hb
      have hb' : b + weight received ≤ 16384 := by omega
      obtain ⟨hlead, hdec⟩ := leads_step hpoly hrec (by omega) hm hb' h
      have hrange : InRange (newMetrics metrics ((newWithPolynomials polys).branchMetrics0 received))
          (b + weight received) := hm.step (natAbs_le_one hrec.1) (by omega) hb'
      exact ⟨hdec, ih hrest hrange (by omega) hlead⟩

def tracebackEnd : Fin 16 → List (Vector Bool 16) → Fin 16
  | state, [] => state
  | state, decisions :: rest => tracebackEnd (predecessor state (decisions.get state)) rest

theorem traceback_append :
    traceback t (ds ++ es) = traceback t ds ++ traceback (tracebackEnd t ds) es := by
  induction ds generalizing t with
  | nil => rfl
  | cons d ds ih => simp [traceback, tracebackEnd, ih]

theorem tracebackEnd_append (t : Fin 16) (ds es : List (Vector Bool 16)) :
    tracebackEnd t (ds ++ es) = tracebackEnd (tracebackEnd t ds) es := by
  induction ds generalizing t with
  | nil => rfl
  | cons d ds ih => exact ih _

theorem traceback_of_remembers (h : Remembers s bits ds) :
    traceback (s.after bits).index ds.reverse = bits.reverse ∧
      tracebackEnd (s.after bits).index ds.reverse = s.index := by
  induction bits generalizing s ds with
  | nil =>
    cases ds with
    | nil => exact ⟨rfl, rfl⟩
    | cons => exact h.elim
  | cons bit bits ih =>
    cases ds with
    | nil => exact h.elim
    | cons d =>
      obtain ⟨hd, hrest⟩ := h
      obtain ⟨htrace, hend⟩ := ih hrest
      have hback : predecessor (s.shift bit).index (d.get (s.shift bit).index) = s.index := by
        rw [hd, predecessor_shift]
      rw [reverse_cons, reverse_cons, traceback_append, tracebackEnd_append,
        ConvEncState.after, htrace, hend]
      simp only [traceback, tracebackEnd, hback, and_true]
      rw [(testBit_index).1, ConvEncState.shift]

theorem chunksExact_cons (hn : 0 < n) (hc : c.length = n) :
    chunksExact n (c ++ l) = c :: chunksExact n l := by
  have hlen : (c ++ l).length / n = l.length / n + 1 := by
    rw [length_append, hc, Nat.add_div_left _ hn]
  rw [chunksExact, hlen, range_succ_eq_map, map_cons, List.map_map]
  congr 1
  · rw [Nat.zero_mul, drop_zero, take_left' hc]
  · refine map_congr_left fun i _ => ?_
    simp only [Function.comp_apply, Nat.succ_mul]
    rw [Nat.add_comm, ← hc, drop_length_add_append]

theorem chunksExact_flatten (hn : 0 < n) (h : ∀ c ∈ cs, c.length = n) :
    chunksExact n cs.flatten = cs := by
  induction cs with
  | nil => simp [chunksExact]
  | cons c cs ih =>
    rw [flatten_cons, chunksExact_cons hn (h c mem_cons_self),
      ih (fun d hd => h d (mem_cons_of_mem _ hd))]

theorem Stream.length_eq (h : Stream polys s bits stream) :
    ∀ c ∈ stream, c.length = polys.length := by
  induction bits generalizing s stream with
  | nil =>
    cases stream with
    | nil => intro c hc; cases hc
    | cons => exact h.elim
  | cons bit bits ih =>
    cases stream with
    | nil => exact h.elim
    | cons =>
      intro c hc
      rcases mem_cons.mp hc with rfl | hc
      · rw [← h.1.1.length_eq, outputs, length_map]
      · exact ih h.2 c hc

/-- Whatever bits are missing, as long as some bit of every symbol is there and none is wrong, the
decoder finds the bits that were sent, if they leave the register empty. -/
theorem decode_stream (hpoly : ∀ poly ∈ polys, poly.get 0 = true) (hpos : 0 < polys.length)
    (hn : polys.length ≤ 4) (hs : Stream polys {} bits stream) (hlen : bits.length ≤ 4096)
    (hend : ({} : ConvEncState).after bits = {}) :
    (newWithPolynomials polys).decode stream.flatten = bits := by
  have hchunks : chunksExact (newWithPolynomials polys).expected0.length stream.flatten = stream := by
    refine chunksExact_flatten ?_ ?_
    · rwa [newWithPolynomials, length_map]
    · rw [newWithPolynomials, length_map]
      exact hs.length_eq
  have hrange : InRange initialMetrics 0 := by
    intro t
    rw [initialMetrics, get_ofFn]
    split <;> omega
  have hlead : Leads initialMetrics.get ({} : ConvEncState).index 0 := by
    have hzero : ({} : ConvEncState).index = 0 := rfl
    rw [hzero]
    refine ⟨rfl, fun t ht => ?_⟩
    rw [initialMetrics, get_ofFn, if_neg ht]
    decide
  have hrem := trellisDecisions_remembers hpoly hn hs hrange (by omega) hlead
  have htrace := (traceback_of_remembers hrem).1
  rw [hend] at htrace
  rw [decode, hchunks]
  change (traceback ({} : ConvEncState).index _).reverse = bits
  rw [htrace, reverse_reverse]

theorem Stream.append (h : Stream polys s xs us) (h' : Stream polys (s.after xs) ys vs) :
    Stream polys s (xs ++ ys) (us ++ vs) := by
  induction xs generalizing s us with
  | nil =>
    cases us with
    | nil => exact h'
    | cons => exact h.elim
  | cons x xs ih =>
    cases us with
    | nil => exact h.elim
    | cons => exact ⟨h.1, ih h.2 h'⟩

theorem received_of_heard (h0 : sent 0 = true) (hne : symbol ≠ []) :
    Received symbol ((heard sent symbol).map softBit) := by
  have hbit : ∀ (p : Nat → Bool) (l : List Bool),
      List.Forall₂ (fun bit r => r = 0 ∨ r = signOf bit) l ((heard p l).map softBit) := by
    intro p l
    induction l generalizing p with
    | nil => exact .nil
    | cons b l ih =>
      rw [heard, mapIdx_cons, map_cons]
      refine .cons ?_ (ih (fun i => p (i + 1)))
      cases p 0 <;> cases b <;> simp [softBit, signOf]
  refine ⟨hbit sent symbol, ?_⟩
  cases symbol with
  | nil => exact absurd rfl hne
  | cons b l =>
    have hrest := weight_nonneg ((heard (fun i => sent (i + 1)) l).map softBit)
    have hfirst : weight ((heard sent (b :: l)).map softBit) =
        1 + weight ((heard (fun i => sent (i + 1)) l).map softBit) := by
      rw [heard, mapIdx_cons, h0, weight, map_cons, map_cons, sum_cons]
      congr 1
      cases b <;> simp [softBit]
    omega

/-- The symbols of a code of which the receiver has every first bit. -/
theorem stream_of_heard (he : ∀ s b, e s b = outputs polys s b) (hpos : 0 < polys.length)
    (s : ConvEncState) (bits : List Bool) (sent : Nat → Bool)
    (h : ∀ i < bits.length, sent (polys.length * i) = true) :
    ∃ stream, stream.flatten = (heard sent (ConvEncState.symbols e s bits).flatten).map softBit ∧
      Stream polys s bits stream := by
  induction bits generalizing s sent with
  | nil => exact ⟨[], rfl, trivial⟩
  | cons bit bits ih =>
    have hlen : (e s bit).length = polys.length := by rw [he, outputs, length_map]
    obtain ⟨stream, hflat, hstream⟩ := ih (s.shift bit)
      (fun i => sent (i + (e s bit).length)) (fun i hi => by
        have hnext := h (i + 1) (by rw [length_cons]; omega)
        rw [hlen]
        exact hnext)
    refine ⟨(heard sent (e s bit)).map softBit :: stream, ?_, ?_, hstream⟩
    · rw [flatten_cons, hflat, ConvEncState.symbols, flatten_cons, heard_append,
        map_append]
    · rw [← he]
      refine received_of_heard (by simpa using h 0 (by simp)) ?_
      intro hnil
      rw [hnil] at hlen
      simp at hlen
      omega

open ConvEncState

theorem Stream.of_received {e : ConvEncState → Bool → List Bool} (he : ∀ s b, e s b = outputs polys s b)
    (h : Forall₂ Received (symbols e s bits) soft) : Stream polys s bits soft := by
  induction bits generalizing s soft with
  | nil =>
    cases h
    trivial
  | cons bit bits ih =>
    obtain ⟨received, rest, hr, hrest, rfl⟩ := forall₂_cons_left_iff.mp h
    exact ⟨he s bit ▸ hr, ih hrest⟩

/-- Whatever soft bits are missing, as long as none is wrong and every symbol has one left, the
decoders of both mother codes find the bits that were sent with a tail of four zeros. -/
theorem decoders_fill_erasures (bits : List Bool) (soft : List (List SoftBit))
    (hlen : bits.length + 4 ≤ 4096) :
    (Forall₂ Received (symbols encodeBit {} (bits ++ replicate 4 false)) soft →
      TetraViterbiDecoder.new.decode soft.flatten = bits ++ replicate 4 false) ∧
    (Forall₂ Received (symbols speechEncodeBit {} (bits ++ replicate 4 false)) soft →
      TetraCodecViterbiDecoder.new.decode soft.flatten = bits ++ replicate 4 false) := by
  have hlen : (bits ++ replicate 4 false).length ≤ 4096 := by simpa using hlen
  have hend : ({} : ConvEncState).after (bits ++ replicate 4 false) = {} := by
    rw [after_append, after_tail]
  constructor
  · intro h
    exact decode_stream (by decide) (by decide) (by decide) (.of_received encodeBit_eq h) hlen hend
  · intro h
    exact decode_stream (by decide) (by decide) (by decide) (.of_received speechEncodeBit_eq h) hlen
      hend

/-- One bit of each symbol is left, each time another one. -/
theorem decoders_fill_erasures_one_left :
    TetraViterbiDecoder.new.decode [1, 0, 0, 0, 0, -1, 0, 0, 0, 0, 1, 0, 0, 0, 0, 1, 1, 0, 0, 0] =
      [true, false, false, false, false] := by
  refine (decoders_fill_erasures [true] [[1, 0, 0, 0], [0, -1, 0, 0], [0, 0, 1, 0], [0, 0, 0, 1],
    [1, 0, 0, 0]] (by decide)).1 ?_
  simp [symbols, encodeBit, shift, Received, signOf, weight]

end ViterbiDecoder

end NexusBs.Lmac
