import NexusBs.Umac.MsDefrag
import NexusBs.Lib.Run
import Mathlib.Data.List.Induction

namespace NexusBs
open Lib BitBuffer Option

/-- Reassemblies of the uplink by timeslot and full address, so that several radios may send
fragments in one timeslot. -/
structure BsDefrag where
  buffers : Fin 4 → TetraAddress → Option DefragBuffer

namespace BsDefrag

def defragBufMaxLen : Nat := 4096

/-- Timeslots without a fragment after which a reassembly is given up. -/
def defragTsBeforeTimeout : Int := 9 * 4

def new : BsDefrag := ⟨fun _ _ => none⟩

def put (m : BsDefrag) (ts : Fin 4) (addr : TetraAddress) (d : Option DefragBuffer) : BsDefrag :=
  ⟨fun i a => if (i, a) = (ts, addr) then d else m.buffers i a⟩

def timedOut (t : TdmaTime) (d : DefragBuffer) : Bool :=
  d.state ≠ .inactive && defragTsBeforeTimeout ≤ t.diff d.tLast

def ageBuffers (m : BsDefrag) (t : TdmaTime) : BsDefrag :=
  ⟨fun ts addr => (m.buffers ts addr).filter (fun d => !timedOut t d)⟩

def discardIncompleteForAddr (m : BsDefrag) (t : TdmaTime) (addr : TetraAddress) :
    Bool × BsDefrag :=
  match m.buffers (tsIndex t) addr with
  | none => (false, m)
  | some d => if d.state = .inactive then (false, m) else (true, m.put (tsIndex t) addr none)

/-- Starts a reassembly with the first fragment; one under way is lost. -/
def insertFirst (m : BsDefrag) (b : BitBuffer) (t : TdmaTime) (addr : TetraAddress)
    (aieInfo : Option Nat) : Option (BsDefrag × BitBuffer) :=
  let d :=
    match m.buffers (tsIndex t) addr with
    | some d => d.reset
    | none => .new
  (DefragBuffer.append ⟨.active, addr, t, t, 1, aieInfo, d.buffer⟩ b).map
    (fun (d, b) => (m.put (tsIndex t) addr d, b))

def insertNext (m : BsDefrag) (b : BitBuffer) (addr : TetraAddress) (t : TdmaTime) :
    Option (BsDefrag × BitBuffer) :=
  match m.buffers (tsIndex t) addr with
  | none => some (m, b)
  | some d =>
    if d.state ≠ .active then some (m, b)
    -- the entry is reset where it is, not taken out of the map
    else if d.buffer.len + b.lenRemaining > defragBufMaxLen then
      some (m.put (tsIndex t) addr d.reset, b)
    else
      ({ d with tLast := t, numFrags := d.numFrags + 1 }.append b).map
        (fun (d, b) => (m.put (tsIndex t) addr (some d), b))

/-- The last fragment; the reassembly leaves the map and is handed over if it is complete. -/
def insertLast (m : BsDefrag) (b : BitBuffer) (addr : TetraAddress) (t : TdmaTime) :
    Option (BsDefrag × BitBuffer × Option DefragBuffer) :=
  (m.insertNext b addr t).bind (fun (m, b) =>
    match m.buffers (tsIndex t) addr with
    | none => some (m, b, none)
    | some d =>
      let m := m.put (tsIndex t) addr none
      if d.state ≠ .active then some (m, b, none)
      else (d.buffer.setRawPos 0).map
        (fun buffer => (m, b, some { d with state := .complete, buffer := buffer })))

inductive Call where
  | insertFirst (b : BitBuffer) (t : TdmaTime) (addr : TetraAddress) (aieInfo : Option Nat)
  | insertNext (b : BitBuffer) (addr : TetraAddress) (t : TdmaTime)
  | insertLast (b : BitBuffer) (addr : TetraAddress) (t : TdmaTime)
  | ageBuffers (t : TdmaTime)
  | discardIncompleteForAddr (t : TdmaTime) (addr : TetraAddress)

def step (m : BsDefrag) : Call → Option BsDefrag
  | .insertFirst b t addr aieInfo => (m.insertFirst b t addr aieInfo).map Prod.fst
  | .insertNext b addr t => (m.insertNext b addr t).map Prod.fst
  | .insertLast b addr t => (m.insertLast b addr t).map Prod.fst
  | .ageBuffers t => some (m.ageBuffers t)
  | .discardIncompleteForAddr t addr => some (m.discardIncompleteForAddr t addr).2

/-! The reassembly of one pair as its calls alone give it -/

abbrev Pair := Fin 4 × TetraAddress

def Call.pair : Call → Option Pair
  | .insertFirst _ t addr _ | .insertNext _ addr t | .insertLast _ addr t
  | .discardIncompleteForAddr t addr => some (tsIndex t, addr)
  | .ageBuffers _ => none

def Call.fragment (p : Pair) : Call → List Bool
  | .insertNext b addr t => if (tsIndex t, addr) = p then b.rest else []
  | _ => []

/-- The bits gathered for a pair and the time of their last fragment, after a call that loses
nothing of them. -/
def accepted (p : Pair) (g : List Bool × TdmaTime) : Call → Option (List Bool × TdmaTime)
  | .insertNext b addr t =>
    if (tsIndex t, addr) ≠ p then some g
    else if g.1.length + b.rest.length ≤ defragBufMaxLen then some (g.1 ++ b.rest, t)
    else none
  | .ageBuffers t => if t.diff g.2 < defragTsBeforeTimeout then some g else none
  | call => if call.pair = some p then none else some g

def Call.start (p : Pair) : Call → Option (List Bool × TdmaTime)
  | .insertFirst b t addr _ => if (tsIndex t, addr) = p then some (b.rest, t) else none
  | _ => none

/-- What is gathered for a pair after one more call. -/
def gather (p : Pair) (g : Option (List Bool × TdmaTime)) (call : Call) :
    Option (List Bool × TdmaTime) :=
  (call.start p).or (g.bind (fun g => accepted p g call))

theorem accepted_bits {g g' : List Bool × TdmaTime} {call : Call} (h : accepted p g call = some g') :
    g'.1 = g.1 ++ call.fragment p := by
  cases call with
  | insertNext b addr t =>
    simp only [accepted] at h
    by_cases hp : (tsIndex t, addr) = p
    · rw [if_neg (not_not.mpr hp)] at h
      split at h <;> cases h
      simp [Call.fragment, hp]
    · rw [if_pos hp] at h
      cases h
      simp [Call.fragment, hp]
  | _ =>
    simp only [accepted] at h
    split at h <;> cases h
    simp [Call.fragment]

/-- Without loss, what is gathered is the first fragment and the others in the order of their
calls. -/
theorem foldlM_accepted_bits {g g' : List Bool × TdmaTime} {calls : List Call}
    (h : calls.foldlM (accepted p) g = some g') :
    g'.1 = g.1 ++ calls.flatMap (Call.fragment p) := by
  induction calls generalizing g with
  | nil =>
    cases h
    simp
  | cons call calls ih =>
    obtain ⟨k, hk, h⟩ := bind_eq_some_iff.mp h
    rw [ih h, accepted_bits hk, List.flatMap_cons, List.append_assoc]

/-- Something is gathered for a pair only since an `insertFirst` after which nothing was lost. -/
theorem foldl_gather_some {p : Pair} {calls : List Call} (h : calls.foldl (gather p) none = some g) :
    ∃ before b t aieInfo after, calls = before ++ .insertFirst b t p.2 aieInfo :: after ∧
      tsIndex t = p.1 ∧ after.foldlM (accepted p) (b.rest, t) = some g := by
  induction calls using List.reverseRecOn generalizing g with
  | nil => cases h
  | append_singleton calls call ih =>
    rw [List.foldl_append, List.foldl_cons, List.foldl_nil] at h
    rcases or_eq_some_iff.mp h with h | ⟨-, h⟩
    · cases call with
      | insertFirst b t addr aieInfo =>
        simp only [Call.start, ite_none_right_eq_some, Option.some.injEq] at h
        obtain ⟨rfl, rfl⟩ := h
        exact ⟨calls, b, t, aieInfo, [], rfl, rfl, rfl⟩
      | _ => cases h
    · obtain ⟨k, hk, hg⟩ := bind_eq_some_iff.mp h
      obtain ⟨before, b, t, aieInfo, after, rfl, ht, hf⟩ := ih hk
      refine ⟨before, b, t, aieInfo, after ++ [call], by simp, ht, ?_⟩
      simp [List.foldlM_append, hf, hg]

/-! The map keeps what the calls give -/

/-- An entry of the map stands for what is gathered; the only entry without bits is one that was
reset. -/
def Agrees (addr : TetraAddress) (entry : Option DefragBuffer) :
    Option (List Bool × TdmaTime) → Prop
  | none => entry = none ∨ entry = some .new
  | some g => ∃ n first aieInfo tail, entry =
      some ⟨.active, addr, first, g.2, n, aieInfo, ⟨[], g.1, [], tail, true⟩⟩

theorem append_eq (addr : TetraAddress) (first last : TdmaTime) (n : Nat) (aieInfo : Option Nat)
    (bits tail : List Bool) (b : BitBuffer) : ∃ tail',
    DefragBuffer.append ⟨.active, addr, first, last, n, aieInfo, ⟨[], bits, [], tail, true⟩⟩ b =
      some (⟨.active, addr, first, last, n, aieInfo, ⟨[], bits ++ b.rest, [], tail', true⟩⟩,
        b.advance b.rest.length) := by
  obtain ⟨tail', h⟩ := copyBits_expand ⟨[], bits, [], tail, true⟩ b b.rest.length rfl rfl le_rfl
  exact ⟨tail', by simp [DefragBuffer.append, lenRemaining, h]⟩

theorem put_self (m : BsDefrag) : m.put ts addr (m.buffers ts addr) = m := by
  simp only [put]
  congr
  funext i a
  split
  · rename_i h
    cases h
    rfl
  · rfl

variable {m : BsDefrag} {b : BitBuffer} {addr : TetraAddress} {t : TdmaTime}
  {g : Option (List Bool × TdmaTime)}

theorem insertFirst_agrees : ∃ d b',
    m.insertFirst b t addr aieInfo = some (m.put (tsIndex t) addr d, b') ∧
      Agrees addr d (some (b.rest, t)) := by
  obtain ⟨tail, h⟩ := append_eq addr t t 1 aieInfo []
    (List.replicate (8 * ((DefragBuffer.defragBufInitialLen + 7) / 8)) false) b
  have hd : (match m.buffers (tsIndex t) addr with
      | some d => d.reset
      | none => .new) = DefragBuffer.new := by
    split <;> rfl
  refine ⟨_, b.advance b.rest.length, ?_, 1, t, aieInfo, tail, rfl⟩
  unfold insertFirst
  rw [hd]
  exact congrArg (Option.map _) h

section

variable (h : Agrees addr (m.buffers (tsIndex t) addr) g)
include h

/-- A further fragment is added, or what was gathered is lost with it. -/
theorem insertNext_agrees : ∃ d b', m.insertNext b addr t = some (m.put (tsIndex t) addr d, b') ∧
      Agrees addr d (gather (tsIndex t, addr) g (.insertNext b addr t)) := by
  unfold insertNext
  cases g with
  | none =>
    refine ⟨m.buffers (tsIndex t) addr, b, ?_, h⟩
    rw [put_self]
    rcases h with h | h <;> rw [h]
    rfl
  | some g =>
    obtain ⟨n, first, aieInfo, tail, h⟩ := h
    have hg : gather (tsIndex t, addr) (some g) (.insertNext b addr t) =
        if g.1.length + b.rest.length ≤ defragBufMaxLen then some (g.1 ++ b.rest, t) else none := by
      simp [gather, accepted, Call.start]
    rw [h, hg]
    by_cases hl : g.1.length + b.rest.length ≤ defragBufMaxLen
    · obtain ⟨tail', ha⟩ := append_eq addr first t (n + 1) aieInfo g.1 tail b
      rw [if_pos hl]
      refine ⟨_, b.advance b.rest.length, ?_, n + 1, first, aieInfo, tail', rfl⟩
      simp [len, lenRemaining, ha, Nat.not_lt.mpr hl]
    · rw [if_neg hl]
      refine ⟨some .new, b, ?_, .inr rfl⟩
      simp [len, lenRemaining, Nat.lt_of_not_le hl, DefragBuffer.reset]

/-- The last fragment hands over all bits of its pair, or nothing. -/
theorem insertLast_agrees :
    ∃ b' r, m.insertLast b addr t = some (m.put (tsIndex t) addr none, b', r) ∧
      (r.map fun d => (d.addr, d.buffer.done, d.buffer.rest)) =
        (gather (tsIndex t, addr) g (.insertNext b addr t)).map fun g => (addr, [], g.1) := by
  obtain ⟨d, b', hn, ha⟩ := insertNext_agrees (b := b) h
  have hget : (m.put (tsIndex t) addr d).buffers (tsIndex t) addr = d := if_pos rfl
  have hput : (m.put (tsIndex t) addr d).put (tsIndex t) addr none =
      m.put (tsIndex t) addr none := by
    simp only [put]
    congr
    funext i a
    split <;> rfl
  simp only [insertLast, hn, bind_some, hget, hput]
  generalize gather (tsIndex t, addr) g (.insertNext b addr t) = g' at ha ⊢
  cases g' with
  | none => rcases ha with rfl | rfl <;> exact ⟨b', none, rfl, rfl⟩
  | some =>
    obtain ⟨n, first, aieInfo, tail, rfl⟩ := ha
    exact ⟨b', some _, rfl, by simp [window, rawStart]⟩

theorem discardIncompleteForAddr_agrees :
    ∃ d, (m.discardIncompleteForAddr t addr).2 = m.put (tsIndex t) addr d ∧ Agrees addr d none := by
  unfold discardIncompleteForAddr
  cases g with
  | none =>
    refine ⟨m.buffers (tsIndex t) addr, ?_, h⟩
    rw [put_self]
    rcases h with h | h <;> rw [h]
    rfl
  | some =>
    obtain ⟨n, first, aieInfo, tail, h⟩ := h
    rw [h]
    exact ⟨none, rfl, .inl rfl⟩

end

/-- A call for a pair touches the entry of that pair alone, as its calls say. -/
theorem step_put {call : Call} {p : Pair} (hp : call.pair = some p)
    (h : Agrees p.2 (m.buffers p.1 p.2) g) :
    ∃ d, m.step call = some (m.put p.1 p.2 d) ∧ Agrees p.2 d (gather p g call) := by
  cases call with
  | insertFirst b t addr aieInfo =>
    cases hp
    obtain ⟨d, b', hi, hd⟩ := insertFirst_agrees (m := m) (b := b) (t := t)
    exact ⟨d, by rw [step, hi]; rfl, by simpa [gather, Call.start] using hd⟩
  | insertNext b =>
    cases hp
    obtain ⟨d, b', hi, hd⟩ := insertNext_agrees (b := b) h
    exact ⟨d, by rw [step, hi]; rfl, hd⟩
  | insertLast b =>
    cases hp
    obtain ⟨b', r, hi, -⟩ := insertLast_agrees (b := b) h
    refine ⟨none, by rw [step, hi]; rfl, ?_⟩
    cases g <;> simp [gather, accepted, Call.start, Call.pair, Agrees]
  | discardIncompleteForAddr =>
    cases hp
    obtain ⟨d, hi, hd⟩ := discardIncompleteForAddr_agrees h
    refine ⟨d, by rw [step, hi], ?_⟩
    cases g <;> simpa [gather, accepted, Call.start, Call.pair] using hd
  | ageBuffers => cases hp

theorem ageBuffers_agrees {p : Pair} (h : Agrees p.2 (m.buffers p.1 p.2) g) :
    Agrees p.2 ((m.ageBuffers t).buffers p.1 p.2) (gather p g (.ageBuffers t)) := by
  dsimp only [ageBuffers]
  cases g with
  | none =>
    rcases h with h | h <;> rw [h]
    · exact .inl rfl
    · exact .inr rfl
  | some g =>
    obtain ⟨n, first, aieInfo, tail, h⟩ := h
    rw [h]
    by_cases ht : t.diff g.2 < defragTsBeforeTimeout
    · simp [gather, Call.start, accepted, ht, Agrees, timedOut, Int.not_le.mpr ht]
    · simp [gather, Call.start, accepted, ht, Agrees, timedOut, Int.not_lt.mp ht]

theorem gather_other {call : Call} (hq : call.pair = some q) (hp : p ≠ q) :
    gather p g call = g := by
  cases call with
  | ageBuffers => cases hq
  | _ =>
    cases hq
    cases g <;> simp [gather, accepted, Call.start, Call.pair, hp.symm]

/-- Over every run, the map stands for what the calls of each pair give. -/
theorem run_agrees (calls : List Call) {h : Pair → Option (List Bool × TdmaTime)}
    (hm : ∀ p : Pair, Agrees p.2 (m.buffers p.1 p.2) (h p)) :
    ∃ m', run step m calls = some m' ∧
      ∀ p : Pair, Agrees p.2 (m'.buffers p.1 p.2) (calls.foldl (gather p) (h p)) := by
  induction calls generalizing m h with
  | nil => exact ⟨m, rfl, hm⟩
  | cons call calls ih =>
    have hstep : ∃ m', m.step call = some m' ∧
        ∀ p : Pair, Agrees p.2 (m'.buffers p.1 p.2) (gather p (h p) call) := by
      cases hq : call.pair with
      | none =>
        cases call with
        | ageBuffers => exact ⟨_, rfl, fun p => ageBuffers_agrees (hm p)⟩
        | _ => cases hq
      | some q =>
        obtain ⟨d, hs, hd⟩ := step_put hq (hm q)
        refine ⟨_, hs, fun p => ?_⟩
        by_cases hp : p = q
        · subst hp
          simpa [put] using hd
        · have hget : (m.put q.1 q.2 d).buffers p.1 p.2 = m.buffers p.1 p.2 := if_neg hp
          rw [hget, gather_other hq hp]
          exact hm p
    obtain ⟨m1, hs, ha⟩ := hstep
    obtain ⟨m', hr, hm'⟩ := ih ha
    exact ⟨m', by rw [run_cons, hs, bind_some, hr], hm'⟩

/-- In every state that calls lead to, `insertLast` hands a reassembly over only if nothing of its
pair was lost since the latest `insertFirst`, and it then holds the fragments since that call in
their order. A call for one pair leaves the entries of others alone. An entry that times out leaves
the map; one that a further fragment would make too long stays in it, inactive and empty. -/
theorem insertLast_concatenates_fragments (calls : List Call) :
    ∃ m, run step new calls = some m ∧
      (∀ b addr t, ∃ m' b' r, m.insertLast b addr t = some (m', b', r) ∧
        m'.buffers (tsIndex t) addr = none ∧
        ∀ d, r = some d → ∃ before b0 t0 aieInfo after last,
          calls = before ++ .insertFirst b0 t0 addr aieInfo :: after ∧ tsIndex t0 = tsIndex t ∧
          (after ++ [Call.insertNext b addr t]).foldlM (accepted (tsIndex t, addr)) (b0.rest, t0) =
            some (d.buffer.rest, last) ∧
          d.buffer.rest = b0.rest ++ after.flatMap (Call.fragment (tsIndex t, addr)) ++ b.rest ∧
          d.buffer.done = [] ∧ d.addr = addr) ∧
      (∀ call m' q, m.step call = some m' → call.pair = some q → ∀ p : Pair, p ≠ q →
        m'.buffers p.1 p.2 = m.buffers p.1 p.2) ∧
      (∀ ts addr d t, m.buffers ts addr = some d → d.state = .active →
        defragTsBeforeTimeout ≤ t.diff d.tLast → (m.ageBuffers t).buffers ts addr = none) ∧
      ∀ b addr t d, m.buffers (tsIndex t) addr = some d → d.state = .active →
        defragBufMaxLen < d.buffer.len + b.lenRemaining →
        m.insertNext b addr t = some (m.put (tsIndex t) addr (some .new), b) := by
  obtain ⟨m, hr, ha⟩ := run_agrees calls (m := new) (h := fun _ => none) (fun _ => .inl rfl)
  refine ⟨m, hr, fun b addr t => ?_, ?_, ?_, ?_⟩
  · obtain ⟨b', r, hl, hd⟩ := insertLast_agrees (b := b) (ha (tsIndex t, addr))
    refine ⟨_, b', r, hl, if_pos rfl, fun d hrd => ?_⟩
    subst hrd
    obtain ⟨g, hg, heq⟩ := map_eq_some_iff.mp hd.symm
    simp only [Prod.mk.injEq] at heq
    obtain ⟨k, hk, hkg⟩ := bind_eq_some_iff.mp hg
    obtain ⟨before, b0, t0, aieInfo, after, rfl, ht, hf⟩ := foldl_gather_some hk
    have hbits : g.1 = k.1 ++ b.rest := by
      simpa [Call.fragment] using accepted_bits hkg
    refine ⟨before, b0, t0, aieInfo, after, g.2, rfl, ht, ?_, ?_, heq.2.1.symm, heq.1.symm⟩
    · rw [List.foldlM_append, hf, ← heq.2.2]
      simpa using hkg
    · rw [← heq.2.2, hbits, foldlM_accepted_bits hf]
  · intro call m' q hs hq p hp
    obtain ⟨d, hd, -⟩ := step_put hq (ha q)
    cases hs.symm.trans hd
    exact if_neg hp
  · intro ts addr d t hd hactive ht
    simp [ageBuffers, hd, Option.filter, timedOut, hactive, ht]
  · intro b addr t d hd hactive hl
    simp [insertNext, hd, hactive, hl, DefragBuffer.reset]

/-- A second fragment of one bit after 4096 overflows the reassembly, and its entry stays. -/
theorem insertNext_overflow_leaves_entry :
    ∃ m, run step new [
        .insertFirst (fromBitarr (List.replicate 4096 true)) .default (.issi 1001) none,
        .insertNext (fromBitarr [true]) (.issi 1001) .default] = some m ∧
      (m.buffers (tsIndex .default) (.issi 1001)).map (·.state) = some .inactive := by
  have h : (run step new [
      .insertFirst (fromBitarr (List.replicate 4096 true)) .default (.issi 1001) none,
      .insertNext (fromBitarr [true]) (.issi 1001) .default]).map
        (fun m => (m.buffers (tsIndex .default) (.issi 1001)).map (·.state)) =
      some (some .inactive) := by decide +kernel
  exact map_eq_some_iff.mp h

end BsDefrag
end NexusBs
