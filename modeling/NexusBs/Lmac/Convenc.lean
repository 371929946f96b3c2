import NexusBs.Lib.Scatter

namespace NexusBs.Lmac

open Lib List

/-- The shift register of an encoder: the last four bits, the latest first. -/
structure ConvEncState where
  d0 : Bool := false
  d1 : Bool := false
  d2 : Bool := false
  d3 : Bool := false

namespace ConvEncState

def shift (s : ConvEncState) (bit : Bool) : ConvEncState := ⟨bit, s.d0, s.d1, s.d2⟩

/-- The four bits that the mother code of the control channels sends for one. -/
def encodeBit (s : ConvEncState) (bit : Bool) : List Bool :=
  let g1 := bit ^^ s.d0 ^^ s.d3
  let g2 := bit ^^ s.d1 ^^ s.d2 ^^ s.d3
  let g3 := bit ^^ s.d0 ^^ s.d1 ^^ s.d3
  let g4 := bit ^^ s.d0 ^^ s.d2 ^^ s.d3
  [g1, g2, g3, g4]

/-- The three bits that the mother code of speech sends for one. -/
def speechEncodeBit (s : ConvEncState) (bit : Bool) : List Bool :=
  let g1 := bit ^^ s.d0 ^^ s.d1 ^^ s.d2 ^^ s.d3
  let g2 := bit ^^ s.d0 ^^ s.d2 ^^ s.d3
  let g3 := bit ^^ s.d1 ^^ s.d3
  [g1, g2, g3]

/-- The register after a list of bits. -/
def after (s : ConvEncState) : List Bool → ConvEncState
  | [] => s
  | bit :: bits => (s.shift bit).after bits

def symbols (encodeBit : ConvEncState → Bool → List Bool) (s : ConvEncState) :
    List Bool → List (List Bool)
  | [] => []
  | bit :: bits => encodeBit s bit :: symbols encodeBit (s.shift bit) bits

def encode (s : ConvEncState) (input : List Bool) : List Bool := (symbols encodeBit s input).flatten

def speechEncode (s : ConvEncState) (input : List Bool) : List Bool :=
  (symbols speechEncodeBit s input).flatten

variable {e : ConvEncState → Bool → List Bool}

/-- A mother code sends the same number of bits for each one. -/
theorem length_symbols (he : ∀ s bit, (e s bit).length = n) (s : ConvEncState) (bits : List Bool) :
    (symbols e s bits).flatten.length = n * bits.length := by
  induction bits generalizing s with
  | nil => rfl
  | cons bit bits ih => rw [symbols, flatten_cons, length_append, he, ih, length_cons, Nat.mul_succ,
      Nat.add_comm]

theorem after_append (s : ConvEncState) : s.after (xs ++ ys) = (s.after xs).after ys := by
  induction xs generalizing s with
  | nil => rfl
  | cons x xs ih => exact ih (s.shift x)

/-- Four zeros empty the register. -/
theorem after_tail (s : ConvEncState) : s.after (List.replicate 4 false) = {} := rfl

end ConvEncState

inductive RcpcPunctMode where
  | rate2_3 | rate1_3 | rate292_432 | rate148_432 | rate112_168 | rate72_162 | rate38_80

structure Puncturer where
  p : List Nat
  (t period : Nat)
  iFunc : Nat → Nat

def iEquals (j : Nat) : Nat := j
def i292 (j : Nat) : Nat := j + (j - 1) / 65
def i148 (j : Nat) : Nat := j + (j - 1) / 35

def pRate2_3 : List Nat := [0, 1, 2, 5]
def pRate1_3 : List Nat := [0, 1, 2, 3, 5, 6, 7]
def pRate8_12 : List Nat := [0, 1, 2, 4]
def pRate8_18 : List Nat := [0, 1, 2, 3, 4, 5, 7, 8, 10, 11]
def pRate8_17 : List Nat := [0, 1, 2, 3, 4, 5, 7, 8, 10, 11, 13, 14, 16, 17, 19, 20, 22, 23]

def getPuncturer : RcpcPunctMode → Puncturer
  | .rate2_3 => ⟨pRate2_3, 3, 8, iEquals⟩
  | .rate1_3 => ⟨pRate1_3, 6, 8, iEquals⟩
  | .rate292_432 => ⟨pRate2_3, 3, 8, i292⟩
  | .rate148_432 => ⟨pRate1_3, 6, 8, i148⟩
  | .rate112_168 => ⟨pRate8_12, 3, 6, iEquals⟩
  | .rate72_162 => ⟨pRate8_18, 9, 12, iEquals⟩
  | .rate38_80 => ⟨pRate8_17, 17, 24, iEquals⟩

namespace Puncturer

/-- The row of the pattern for the `j`-th bit that is sent. -/
def row (u : Puncturer) (j : Nat) : Nat := u.iFunc j - u.t * ((u.iFunc j - 1) / u.t)

/-- Which bit of the mother code is sent as the `j`-th, counted from zero. -/
def place (u : Puncturer) (j : Nat) : Nat :=
  u.period * ((u.iFunc j - 1) / u.t) + u.p.getD (u.row j) 0 - 1

def places (u : Puncturer) (len : Nat) : List Nat := (List.range' 1 len).map u.place

theorem take_places {u : Puncturer} (h : len ≤ n) : (u.places n).take len = u.places len := by
  have hsplit : List.range' 1 n = List.range' 1 len ++ List.range' (1 + len) (n - len) := by
    rw [range'_append_1, Nat.add_sub_cancel' h]
  rw [places, ← map_take, hsplit, take_left' length_range']
  rfl

end Puncturer

/-- Where the row `r` of block `b` is. -/
theorem Puncturer.place_eq {u : Puncturer} (hr : r < u.t) (hp : 1 ≤ u.p.getD (r + 1) 0)
    (hj : u.iFunc j = u.t * b + r + 1) : u.place j + 1 = u.period * b + u.p.getD (r + 1) 0 := by
  have hdiv : (u.t * b + r + 1 - 1) / u.t = b := by
    rw [Nat.add_sub_cancel, Nat.mul_add_div (by omega), Nat.div_eq_of_lt hr, Nat.add_zero]
  unfold Puncturer.place Puncturer.row
  rw [hj, hdiv, show u.t * b + r + 1 - u.t * b = r + 1 by omega]
  omega

/-- A pattern whose rows go up, read at indices that go up. -/
structure Puncturer.Ascending (u : Puncturer) : Prop where
  rows : 0 < u.t
  inside : ∀ r < u.t, r < u.p.getD (r + 1) 0 ∧ u.p.getD (r + 1) 0 ≤ u.period
  above : ∀ r < u.t - 1, u.p.getD (r + 1) 0 < u.p.getD (r + 2) 0
  wider : u.t ≤ u.period
  index : ∀ j, 1 ≤ j → 1 ≤ u.iFunc j ∧ u.iFunc j < u.iFunc (j + 1)

theorem ascending (mode : RcpcPunctMode) : (getPuncturer mode).Ascending := by
  have hindex : ∀ j, 1 ≤ j → 1 ≤ (getPuncturer mode).iFunc j ∧
      (getPuncturer mode).iFunc j < (getPuncturer mode).iFunc (j + 1) := by
    intro j hj
    cases mode <;> simp only [getPuncturer, iEquals, i292, i148] <;> omega
  cases mode <;> exact ⟨by decide, by decide, by decide, by decide, hindex⟩

namespace Puncturer.Ascending

variable {u : Puncturer} (h : u.Ascending)
include h

theorem exists_row (hj : 1 ≤ j) : ∃ b, ∃ r < u.t, u.iFunc j = u.t * b + r + 1 := by
  refine ⟨(u.iFunc j - 1) / u.t, (u.iFunc j - 1) % u.t, Nat.mod_lt _ h.rows, ?_⟩
  rw [Nat.div_add_mod]
  have := (h.index j hj).1
  omega

/-- No number that is computed on the way to a place is larger than the place. -/
theorem iFunc_le (hj : 1 ≤ j) : u.iFunc j ≤ u.place j + 1 := by
  obtain ⟨b, r, hr, heq⟩ := h.exists_row hj
  have hmul : u.t * b ≤ u.period * b := Nat.mul_le_mul_right b h.wider
  have hin := h.inside r hr
  rw [place_eq hr (by omega) heq, heq]
  omega

/-- Rows of one block go up, and so do the blocks. -/
theorem getD_lt (hr : r < r') (hr' : r' < u.t) : u.p.getD (r + 1) 0 < u.p.getD (r' + 1) 0 := by
  induction r', hr using Nat.le_induction with
  | base => exact h.above r (by omega)
  | succ k hk ih => exact Nat.lt_trans (ih (by omega)) (h.above k (by omega))

theorem place_lt (hj : 1 ≤ j) : u.place j < u.place (j + 1) := by
  obtain ⟨b, r, hr, heq⟩ := h.exists_row hj
  obtain ⟨b', r', hr', heq'⟩ := h.exists_row (j := j + 1) (by omega)
  have hin := h.inside r hr
  have hin' := h.inside r' hr'
  have hp := place_eq hr (by omega) heq
  have hp' := place_eq hr' (by omega) heq'
  have hlt := (h.index j hj).2
  rcases Nat.lt_trichotomy b b' with hb | rfl | hb
  · have : u.period * b + u.period ≤ u.period * b' := by
      rw [← Nat.mul_succ]
      exact Nat.mul_le_mul_left _ hb
    omega
  · have : u.p.getD (r + 1) 0 < u.p.getD (r' + 1) 0 := h.getD_lt (by omega) hr'
    omega
  · have : u.t * b' + u.t ≤ u.t * b := by
      rw [← Nat.mul_succ]
      exact Nat.mul_le_mul_left _ hb
    omega

theorem pairwise_places (len : Nat) : (u.places len).Pairwise (· < ·) := by
  have hmono : ∀ j j', 1 ≤ j → j < j' → u.place j < u.place j' := by
    intro j j' hj hlt
    induction j', hlt using Nat.le_induction with
    | base => exact h.place_lt hj
    | succ k hk ih => exact Nat.lt_trans ih (h.place_lt (by omega))
  rw [places, List.pairwise_map]
  refine List.Pairwise.imp_of_mem ?_ (List.pairwise_lt_range' (s := 1) (n := len))
  intro j j' hj _ hlt
  exact hmono j j' (by simp at hj; omega) hlt

end Puncturer.Ascending

/-- A pattern that repeats itself after `m` symbols of `n` bits each and has the first bit of each
of them. -/
structure Puncturer.Regular (u : Puncturer) (n m : Nat) : Prop where
  plain : ∀ j, u.iFunc j = j
  rows : 0 < u.t ∧ u.p.length = u.t + 1
  symbols : u.period = n * m
  inside : ∀ r < u.t, 1 ≤ u.p.getD (r + 1) 0 ∧ u.p.getD (r + 1) 0 ≤ u.period
  first : ∀ c < m, ∃ r < u.t, u.p.getD (r + 1) 0 = n * c + 1

theorem regular_rate2_3 : (getPuncturer .rate2_3).Regular 4 2 :=
  ⟨fun _ => rfl, by decide, rfl, by decide, by decide⟩

theorem regular_rate112_168 : (getPuncturer .rate112_168).Regular 3 2 :=
  ⟨fun _ => rfl, by decide, rfl, by decide, by decide⟩

theorem regular_rate72_162 : (getPuncturer .rate72_162).Regular 3 4 :=
  ⟨fun _ => rfl, by decide, rfl, by decide, by decide⟩

namespace Puncturer.Regular

variable {u : Puncturer} {n m k : Nat}

variable (h : u.Regular n m)
include h

/-- The `r`-th bit sent of block `b`. -/
theorem place_eq (hr : r < u.t) (b : Nat) :
    u.place (u.t * b + r + 1) + 1 = u.period * b + u.p.getD (r + 1) 0 :=
  Puncturer.place_eq hr (h.inside r hr).1 (h.plain _)

/-- The blocks and rows of the first `u.t * k` bits that are sent. -/
theorem exists_row (hj : j ∈ List.range' 1 (u.t * k)) :
    ∃ b < k, ∃ r < u.t, j = u.t * b + r + 1 := by
  obtain ⟨h1, hk⟩ : 1 ≤ j ∧ j < 1 + u.t * k := by simpa using hj
  have hlt : j - 1 < u.t * k := by omega
  refine ⟨(j - 1) / u.t, Nat.div_lt_of_lt_mul hlt, (j - 1) % u.t, Nat.mod_lt _ h.rows.1, ?_⟩
  rw [Nat.div_add_mod]
  omega

theorem places_lt : ∀ p ∈ u.places (u.t * k), p < n * (m * k) := by
  intro p hp
  obtain ⟨j, hj, rfl⟩ := List.mem_map.mp hp
  obtain ⟨b, hbk, r, hr, rfl⟩ := h.exists_row hj
  have hplace := h.place_eq hr b
  have hin := h.inside r hr
  have hle : u.period * b + u.period ≤ n * (m * k) := by
    rw [← Nat.mul_succ, ← Nat.mul_assoc, ← h.symbols]
    exact Nat.mul_le_mul_left _ hbk
  omega

/-- Every symbol is heard. -/
theorem mem_places (hi : i < m * k) : n * i ∈ u.places (u.t * k) := by
  have hm : 0 < m := Nat.pos_of_lt_mul_right hi
  obtain ⟨r, hr, hpr⟩ := h.first (i % m) (Nat.mod_lt _ hm)
  have hb : i / m < k := Nat.div_lt_of_lt_mul hi
  refine List.mem_map.mpr ⟨u.t * (i / m) + r + 1, ?_, ?_⟩
  · have hle : u.t * (i / m) + u.t ≤ u.t * k := by
      rw [← Nat.mul_succ]
      exact Nat.mul_le_mul_left _ hb
    simp only [mem_range'_1]
    omega
  · have hplace := h.place_eq hr (i / m)
    have hsplit : u.period * (i / m) + n * (i % m) = n * i := by
      rw [h.symbols, Nat.mul_assoc, ← Nat.mul_add, Nat.div_add_mod]
    omega

end Puncturer.Regular

/-- The bits of the mother code that are sent; `none` where the mother code is too short. -/
def getPuncturedRate (mode : RcpcPunctMode) (input : List Bool) (len : Nat) : Option (List Bool) :=
  gather input ((getPuncturer mode).places len)

/-- The mother code with what was received; what was not sent stays as it is in `output`. -/
def tetraRcpcDepunct (mode : RcpcPunctMode) (input : List Bool) (len : Nat)
    (output : List (Option Bool)) : Option (List (Option Bool)) :=
  if len ≤ input.length then
    scatter output (((getPuncturer mode).places len).zip ((input.take len).map some))
  else none

/-- What a receiver knows of the mother code: the bits that were sent, and nothing else. -/
def heard (sent : Nat → Bool) (mother : List Bool) : List (Option Bool) :=
  mother.mapIdx (fun i bit => if sent i then some bit else none)

@[simp] theorem length_heard (sent : Nat → Bool) (mother : List Bool) :
    (heard sent mother).length = mother.length := by
  rw [heard, length_mapIdx]

theorem getElem?_heard (sent : Nat → Bool) :
    (heard sent mother)[i]? = mother[i]?.map (fun bit => if sent i then some bit else none) := by
  rw [heard, List.getElem?_mapIdx]

theorem heard_append (sent : Nat → Bool) (xs : List Bool) :
    heard sent (xs ++ ys) = heard sent xs ++ heard (fun i => sent (i + xs.length)) ys := by
  rw [heard, mapIdx_append]
  rfl

/-- Depuncturing what was punctured leaves the bits that were sent, each in its place. -/
theorem depunct_punct (hp : gather mother ((getPuncturer mode).places len) = some sent)
    (hi : len ≤ input.length) (ht : input.take len = sent) :
    tetraRcpcDepunct mode input len (List.replicate mother.length none) =
      some (heard (fun i => decide (i ∈ (getPuncturer mode).places len)) mother) := by
  have hn : ((getPuncturer mode).places len).Nodup :=
    ((ascending mode).pairwise_places len).imp Nat.ne_of_lt
  have hin : ∀ p ∈ (getPuncturer mode).places len,
      p < (List.replicate mother.length (none : Option Bool)).length := fun p hpl => by
    simpa using lt_of_gather hp hpl
  obtain ⟨output, ho, hget⟩ := exists_scatter_gather some hn hp hin
  rw [tetraRcpcDepunct, if_pos hi, ht, ho, Option.some.injEq]
  refine List.ext_getElem? fun i => ?_
  rw [getElem?_heard, hget]
  by_cases hm : i < mother.length
  · split <;> simp_all
  · simp [hm]

end NexusBs.Lmac
