import Mathlib.Data.List.Nodup
import NexusBs.Lib.Ring
import NexusBs.Sched.Types

namespace NexusBs
open Lib Function List Option

def macschedNumFrames : Nat := 90
def numTimeslots : Nat := 4

/-- The reservation ring of each timeslot, by timeslot number less one and frame index. -/
abbrev UlSched := Nat × Nat → TimeslotSchedule

namespace UlSched

def empty : UlSched := fun _ => emptySchedElem

def ulTsToSchedIndex (ts : TdmaTime) : Nat :=
  ((ts.f - 1) + (ts.m - 1) * 18 + ts.h * 18 * 60) % macschedNumFrames

def key (ts : TdmaTime) : Nat × Nat := (ts.t - 1, ulTsToSchedIndex ts)

def get (s : UlSched) (ts : TdmaTime) : TimeslotSchedule := s (key ts)

/-- Whether the slot can be added to a grant: free, already held whole by the
owner that may reuse it, or with a free half where half a slot is asked for. -/
def grantable (elem : TimeslotSchedule) (isHalfslot : Bool) (reusableOwner : Option Nat) : Bool :=
  (elem.ul1.isNone && elem.ul2.isNone) ||
    reusableOwner.any (fun owner =>
      !isHalfslot && elem.ul1 == some owner && elem.ul2 == some owner) ||
    (isHalfslot && (elem.ul1.isNone || elem.ul2.isNone))

/-- The search loop from distance `dist`, with the opportunities skipped so far
and the run of slots collected. -/
def findFrom (s : UlSched) (first : TdmaTime) (channel : List Nat) (numSlots : Nat)
    (isHalfslot : Bool) (reusableOwner : Option Nat) :
    Nat → Nat → Nat → List TdmaTime → Option (Nat × List TdmaTime)
  | 0, _, _, _ => none
  | fuel + 1, dist, skipped, run =>
    let candidate := first.addTimeslots dist
    if candidate.t ∉ channel then
      findFrom s first channel numSlots isHalfslot reusableOwner fuel (dist + 1) skipped run
    else if candidate.isMandatoryClch then
      -- jumped over; counted as an opportunity only between runs
      findFrom s first channel numSlots isHalfslot reusableOwner fuel (dist + 1)
        (if run.isEmpty then skipped + 1 else skipped) run
    else
      let (skipped, run) :=
        if grantable (s.get candidate) isHalfslot reusableOwner then (skipped, run ++ [candidate])
        else (skipped + run.length + 1, [])
      if run.length = numSlots then some (skipped, run)
      else findFrom s first channel numSlots isHalfslot reusableOwner fuel (dist + 1) skipped run

/-- Outer `none`: a violated assertion; inner `none`: no opportunity. -/
def ulFindGrantOpportunityOnChannelFrom (s : UlSched) (baseDltime : TdmaTime) (grantTimeslot : Nat)
    (channel : List Nat) (numSlots : Nat) (isHalfslot : Bool) (reusableOwner : Option Nat) :
    Option (Option (Nat × List TdmaTime)) :=
  if channel.isEmpty ∨ grantTimeslot ∉ channel then some none
  else if isHalfslot ∧ numSlots ≠ 1 then none
  else
    some (findFrom s (baseDltime.forwardToTimeslot grantTimeslot) channel numSlots isHalfslot
      reusableOwner ((macschedNumFrames - 1) * numTimeslots) 0 0 [])

/-- Enters the marker and the owner into one slot of a grant. -/
def reserveFull (ssi : Nat) (marker : Option Nat) (e : TimeslotSchedule) : Option TimeslotSchedule :=
  let e := { e with usageMarker := marker <|> e.usageMarker }
  if e.ul1 = some ssi ∧ e.ul2 = some ssi then some e
  else if e.ul1 = none ∧ e.ul2 = none then some { e with ul1 := some ssi, ul2 := some ssi }
  else none

def reserveHalf (ssi : Nat) (marker : Option Nat) (e : TimeslotSchedule) :
    Option (TimeslotSchedule × Nat) :=
  let e := { e with usageMarker := marker <|> e.usageMarker }
  if e.ul1 = none then some ({ e with ul1 := some ssi }, 1)
  else if e.ul2 = none then some ({ e with ul2 := some ssi }, 2)
  else none

/-- Reserves the entries under the given keys of a grant; the number is the
subslot, 0 for full slots. -/
def reserveGrant {κ : Type} [DecidableEq κ] (s : κ → TimeslotSchedule) (ssi : Nat) (ks : List κ)
    (isHalfslot : Bool) (usageMarker : Option Nat) : Option ((κ → TimeslotSchedule) × Nat) :=
  match ks with
  | [] => none
  | k :: rest =>
    if isHalfslot then
      if rest.isEmpty then
        (reserveHalf ssi usageMarker (s k)).map (fun (e, sub) => (update s k e, sub))
      else none
    else (updateAll (reserveFull ssi usageMarker) s (k :: rest)).map (fun s => (s, 0))

def ulReserveGrant (s : UlSched) (ssi : Nat) (grantTimestamps : List TdmaTime) (isHalfslot : Bool)
    (usageMarker : Option Nat) : Option (UlSched × Nat) :=
  reserveGrant s ssi (grantTimestamps.map key) isHalfslot usageMarker

/-- What finalisation of a slot does to the ring. -/
def clearSlot (s : UlSched) (ts : TdmaTime) : UlSched := update s (key ts) emptySchedElem

def clearFutureUplinkReservationsForTimeslot (s : UlSched) (ts : Nat) : UlSched :=
  fun k => if k.1 = ts - 1 then emptySchedElem else s k

def cell (n : Int) : Nat × Nat := ((n % 4).toNat, (n / 4 % 90).toNat)

def ringSlots : Int := 360

theorem key_fromInt (n : Int) : key (TdmaTime.fromInt n) = cell n := by
  simp only [key, cell, ulTsToSchedIndex, TdmaTime.fromInt, macschedNumFrames, Prod.mk.injEq]
  constructor <;> omega

theorem cell_eq_iff (m n : Int) : cell m = cell n ↔ m % ringSlots = n % ringSlots := by
  simp only [cell, ringSlots, Prod.mk.injEq]
  omega

section Search

variable {s : UlSched} {first : TdmaTime} {channel : List Nat} {numSlots : Nat} {half : Bool}
  {owner : Option Nat}

/-- A slot the search may hand out. -/
structure Candidate (s : UlSched) (channel : List Nat) (half : Bool) (owner : Option Nat)
    (ts : TdmaTime) : Prop where
  channel : ts.t ∈ channel
  clch : ts.isMandatoryClch = false
  grantable : grantable (s.get ts) half owner = true

/-- The collected slots are candidates at rising distances below `bound`. -/
def Collected (s : UlSched) (first : TdmaTime) (channel : List Nat) (half : Bool)
    (owner : Option Nat) (bound : Nat) (run : List TdmaTime) : Prop :=
  ∃ ds : List Nat, run = ds.map (fun d : Nat => first.addTimeslots (d : Int)) ∧ ds.Pairwise (· < ·) ∧
    ∀ d ∈ ds, d < bound ∧ Candidate s channel half owner (first.addTimeslots (d : Int))

theorem Collected.mono (h : Collected s first channel half owner bound l) (hb : bound ≤ bound') :
    Collected s first channel half owner bound' l := by
  obtain ⟨ds, hrun, hsort, hds⟩ := h
  exact ⟨ds, hrun, hsort, fun d hd => ⟨Nat.lt_of_lt_of_le (hds d hd).1 hb, (hds d hd).2⟩⟩

theorem Collected.nil (bound : Nat) : Collected s first channel half owner bound [] :=
  ⟨[], rfl, List.Pairwise.nil, fun _ h => nomatch h⟩

theorem Collected.push (h : Collected s first channel half owner bound l)
    (hc : Candidate s channel half owner (first.addTimeslots (bound : Int))) :
    Collected s first channel half owner (bound + 1) (l ++ [first.addTimeslots (bound : Int)]) := by
  obtain ⟨ds, hrun, hsort, hds⟩ := h
  refine ⟨ds ++ [bound], ?_, ?_, ?_⟩
  · rw [hrun, map_append, map_singleton]
  · rw [pairwise_append]
    refine ⟨hsort, pairwise_singleton _ _, ?_⟩
    intro a ha b hb
    rw [mem_singleton.mp hb]
    exact (hds a ha).1
  · intro d hd
    rcases mem_append.mp hd with hd | hd
    · exact ⟨Nat.lt_succ_of_lt (hds d hd).1, (hds d hd).2⟩
    · rw [mem_singleton.mp hd]
      exact ⟨Nat.lt_succ_self _, hc⟩

/-- The search returns a run of candidates of the length asked for. -/
theorem findFrom_collected (hrun : Collected s first channel half owner d l)
    (h : findFrom s first channel numSlots half owner fuel d skipped l = some (k, us)) :
    us.length = numSlots ∧ Collected s first channel half owner (d + fuel) us := by
  induction fuel generalizing d skipped l with
  | zero => cases h
  | succ fuel ih =>
    have hnext : d + 1 + fuel = d + (fuel + 1) := by omega
    rw [findFrom] at h
    dsimp only at h
    split at h
    · rw [← hnext]
      exact ih (hrun.mono (Nat.le_succ _)) h
    rename_i hch
    split at h
    · rw [← hnext]
      exact ih (hrun.mono (Nat.le_succ _)) h
    rename_i hclch
    have hch := Decidable.not_not.mp hch
    cases hg : grantable (s.get (first.addTimeslots (d : Int))) half owner with
    | false =>
      simp only [hg, Bool.false_eq_true, if_false] at h
      split at h
      · rename_i hlen
        cases h
        exact ⟨hlen, Collected.nil _⟩
      · rw [← hnext]
        exact ih (Collected.nil _) h
    | true =>
      have hpush := hrun.push ⟨hch, Bool.eq_false_iff.mpr hclch, hg⟩
      simp only [hg, if_true] at h
      split at h
      · rename_i hlen
        cases h
        exact ⟨hlen, hpush.mono (by omega)⟩
      · rw [← hnext]
        exact ih hpush h

end Search

def absolute (now : Int) (cur ts : TdmaTime) : Int := now + ts.diff cur

theorem absolute_fromInt (hl : now - 1000 ≤ n) (hu : n ≤ now + 1000) :
    absolute now (.fromInt now) (.fromInt n) = n := by
  have h := TdmaTime.diff_addTimeslots (.fromInt now) (n - now)
    (by simp only [TdmaTime.timeIntWrap]; omega) (by simp only [TdmaTime.timeIntWrap]; omega)
  rw [TdmaTime.fromInt_addTimeslots, show now + (n - now) = n by omega] at h
  rw [absolute, h]
  omega

/-- The reservations of an unbounded calendar of slots. -/
abbrev Calendar := Int → TimeslotSchedule

/-- The ring holds the calendar from slot `lo` on, and no entry of the calendar
breaks the rules of the ring. -/
structure Keeps (s : UlSched) (cal : Calendar) (lo : Int) : Prop where
  mirrors : Mirrors cell ringSlots emptySchedElem s cal lo
  ordered : ∀ n, (cal n).ul1 = none → (cal n).ul2 = none
  clch : ∀ n, (TdmaTime.fromInt n).isMandatoryClch = true → (cal n).ul1 = none

theorem Keeps.of_empty (lo : Int) : Keeps empty (fun _ => emptySchedElem) lo :=
  ⟨.of_empty (fun _ => rfl), fun _ _ => rfl, fun _ _ => rfl⟩

variable {s : UlSched} {cal : Calendar} {lo : Int} {owner : Option Nat}

theorem Keeps.get (h : Keeps s cal lo) (hl : lo ≤ n) (hu : n < lo + ringSlots) :
    s.get (.fromInt n) = cal n := by
  rw [UlSched.get, key_fromInt]
  exact h.mirrors.read hl hu

/-- Finalisation gives up the oldest slot. -/
theorem Keeps.clearSlot (h : Keeps s cal lo) :
    Keeps (s.clearSlot (.fromInt lo)) (update cal lo emptySchedElem) (lo + 1) := by
  refine ⟨?_, ?_, ?_⟩
  · rw [UlSched.clearSlot, key_fromInt]
    exact h.mirrors.advance cell_eq_iff
  · intro n hn
    by_cases he : n = lo
    · rw [he, update_self]
      rfl
    · rw [update_of_ne he] at hn ⊢
      exact h.ordered n hn
  · intro n hn
    by_cases he : n = lo
    · rw [he, update_self]
      rfl
    · rw [update_of_ne he]
      exact h.clch n hn

/-- The calendar without the entries of one timeslot. -/
def withoutTimeslot (cal : Calendar) (ts : Nat) : Calendar :=
  fun n => if (cell n).1 = ts - 1 then emptySchedElem else cal n

theorem Keeps.clearFuture (h : Keeps s cal lo) (ts : Nat) :
    Keeps (s.clearFutureUplinkReservationsForTimeslot ts) (withoutTimeslot cal ts) lo := by
  refine ⟨?_, ?_, ?_⟩
  · have hc := h.mirrors.clear (fun k => decide (k.1 = ts - 1))
    simp only [decide_eq_true_eq] at hc
    exact hc
  · intro n hn
    unfold withoutTimeslot at hn ⊢
    split
    · rfl
    rename_i he
    rw [if_neg he] at hn
    exact h.ordered n hn
  · intro n hn
    unfold withoutTimeslot
    split
    · rfl
    · exact h.clch n hn

/-- No slot loses an owner. -/
structure Extends (cal cal' : Calendar) : Prop where
  ul1 : ∀ n o, (cal n).ul1 = some o → (cal' n).ul1 = some o
  ul2 : ∀ n o, (cal n).ul2 = some o → (cal' n).ul2 = some o

theorem Extends.rfl (cal : Calendar) : Extends cal cal := ⟨fun _ _ h => h, fun _ _ h => h⟩

theorem Extends.trans (h : Extends c1 c2) (h' : Extends c2 c3) : Extends c1 c3 :=
  ⟨fun n o ho => h'.ul1 n o (h.ul1 n o ho), fun n o ho => h'.ul2 n o (h.ul2 n o ho)⟩

/-- The owner holds subslot `sub` of the slot, or all of it for `sub = 0`. -/
def Holds (e : TimeslotSchedule) (ssi sub : Nat) : Prop :=
  (sub ≠ 2 → e.ul1 = some ssi) ∧ (sub ≠ 1 → e.ul2 = some ssi)

theorem reserveFull_some (hg : grantable e false owner = true) (ho : ∀ o, owner = some o → o = ssi) :
    ∃ e', reserveFull ssi marker e = some e' := by
  rcases e with ⟨ul1, ul2, m⟩
  unfold reserveFull
  dsimp only
  split
  · exact ⟨_, rfl⟩
  rename_i hne
  split
  · exact ⟨_, rfl⟩
  rename_i hfree
  exfalso
  cases owner with
  | none =>
    simp only [grantable, any_none, Bool.false_and, Bool.or_false, Bool.and_eq_true,
      isNone_iff_eq_none] at hg
    exact hfree hg
  | some o =>
    rw [ho o rfl] at hg
    simp only [grantable, any_some, Bool.false_and, Bool.or_false, Bool.not_false,
      Bool.true_and, Bool.or_eq_true, Bool.and_eq_true, isNone_iff_eq_none,
      beq_iff_eq] at hg
    rcases hg with hg | hg
    · exact hfree hg
    · exact hne hg

theorem reserveFull_cases (h : reserveFull ssi marker e = some e') :
    Holds e' ssi 0 ∧ (∀ o, e.ul1 = some o → e'.ul1 = some o) ∧
      ∀ o, e.ul2 = some o → e'.ul2 = some o := by
  rcases e with ⟨ul1, ul2, m⟩
  unfold reserveFull at h
  dsimp only at h
  split at h
  · rename_i hs
    cases h
    exact ⟨⟨fun _ => hs.1, fun _ => hs.2⟩, fun _ h => h, fun _ h => h⟩
  split at h
  · rename_i hs
    cases h
    refine ⟨⟨fun _ => rfl, fun _ => rfl⟩, fun o h => ?_, fun o h => ?_⟩
    · rw [hs.1] at h
      cases h
    · rw [hs.2] at h
      cases h
  · cases h

theorem reserveHalf_cases (ssi : Nat) (marker : Option Nat)
    (hg : grantable e true none = true ∨ ∃ o, grantable e true (some o) = true) :
    ∃ e' sub, reserveHalf ssi marker e = some (e', sub) ∧ (sub = 1 ∨ sub = 2) ∧ Holds e' ssi sub ∧
      (∀ o, e.ul1 = some o → e'.ul1 = some o) ∧ (∀ o, e.ul2 = some o → e'.ul2 = some o) ∧
      e'.ul1 ≠ none := by
  rcases e with ⟨ul1, ul2, m⟩
  have hfree : ul1 = none ∨ ul2 = none := by
    rcases hg with hg | ⟨o, hg⟩ <;> simp [grantable] at hg <;> grind
  cases ul1 with
  | none =>
    exact ⟨⟨some ssi, ul2, marker <|> m⟩, 1, rfl, .inl rfl, ⟨fun _ => rfl, fun h => absurd rfl h⟩,
      fun o h => (nomatch h), fun o h => h, by simp⟩
  | some x =>
    cases ul2 with
    | none =>
      exact ⟨⟨some x, some ssi, marker <|> m⟩, 2, rfl, .inr rfl,
        ⟨fun h => absurd rfl h, fun _ => rfl⟩, fun o h => h, fun o h => (nomatch h), by simp⟩
    | some => simp at hfree

/-- A reservation made on the ring and, slot by slot, on the calendar. -/
structure Reserved (s : UlSched) (cal : Calendar) (lo : Int) (ssi : Nat) (ns : List Int)
    (half : Bool) (marker : Option Nat) (s' : UlSched) (cal' : Calendar) (sub : Nat) : Prop where
  ring : reserveGrant s ssi (ns.map cell) half marker = some (s', sub)
  calendar : reserveGrant cal ssi ns half marker = some (cal', sub)
  keeps : Keeps s' cal' lo
  kept : Extends cal cal'
  subslot : sub = 0 ∧ half = false ∨ (sub = 1 ∨ sub = 2) ∧ half = true
  holds : ∀ n ∈ ns, Holds (cal' n) ssi sub

theorem Keeps.reserve_half (hk : Keeps s cal lo) (hw : lo ≤ n ∧ n < lo + ringSlots)
    (hclch : (TdmaTime.fromInt n).isMandatoryClch = false)
    (hg : grantable (cal n) true owner = true) :
    ∃ s' cal' sub, Reserved s cal lo ssi [n] true marker s' cal' sub := by
  have hg' : grantable (cal n) true none = true ∨ ∃ o, grantable (cal n) true (some o) = true := by
    cases owner with
    | none => exact .inl hg
    | some o => exact .inr ⟨o, hg⟩
  obtain ⟨e, sub, he, hsub, hholds, h1, h2, hset⟩ := reserveHalf_cases ssi marker hg'
  refine ⟨update s (cell n) e, update cal n e, sub, ?_, ?_, ?_, ?_,
    .inr ⟨hsub, rfl⟩, ?_⟩
  · simp [reserveGrant, hk.mirrors.inside n hw.1 hw.2, he]
  · simp [reserveGrant, he]
  · refine ⟨hk.mirrors.set cell_eq_iff hw.1 hw.2 e, ?_, ?_⟩
    · intro m hm
      by_cases hmn : m = n
      · rw [hmn, update_self] at hm
        exact absurd hm hset
      · rw [update_of_ne hmn] at hm ⊢
        exact hk.ordered m hm
    · intro m hm
      have hmn : m ≠ n := by
        rintro rfl
        rw [hclch] at hm
        cases hm
      rw [update_of_ne hmn]
      exact hk.clch m hm
  · constructor
    · intro m o ho
      by_cases hmn : m = n
      · subst hmn
        rw [update_self]
        exact h1 o ho
      · rw [update_of_ne hmn]
        exact ho
    · intro m o ho
      by_cases hmn : m = n
      · subst hmn
        rw [update_self]
        exact h2 o ho
      · rw [update_of_ne hmn]
        exact ho
  · intro m hm
    rw [mem_singleton.mp hm, update_self]
    exact hholds

/-- Full slots, each taken once. -/
theorem Keeps.reserve_full (hk : Keeps s cal lo) (hnd : (n :: ns).Nodup)
    (hw : ∀ m ∈ n :: ns, lo ≤ m ∧ m < lo + ringSlots)
    (hclch : ∀ m ∈ n :: ns, (TdmaTime.fromInt m).isMandatoryClch = false)
    (hg : ∀ m ∈ n :: ns, grantable (cal m) false owner = true) (ho : ∀ o, owner = some o → o = ssi) :
    ∃ s' cal', Reserved s cal lo ssi (n :: ns) false marker s' cal' 0 := by
  have hcells : ((n :: ns).map cell).Nodup := by
    rw [nodup_map_iff_inj_on hnd]
    intro a ha b hb hab
    exact Mirrors.eq_of_cell cell_eq_iff (hw a ha) (hw b hb) hab
  have hfree : ∀ k ∈ (n :: ns).map cell, ∃ v, reserveFull ssi marker (s k) = some v := by
    intro k hk'
    obtain ⟨m, hm, rfl⟩ := List.mem_map.mp hk'
    rw [hk.mirrors.inside m (hw m hm).1 (hw m hm).2]
    exact reserveFull_some (hg m hm) ho
  obtain ⟨s', hs'⟩ := updateAll_some hcells hfree
  obtain ⟨cal', hc', hm'⟩ := hk.mirrors.updateAll cell_eq_iff hw hs'
  refine ⟨s', cal', ?_, ?_, ⟨hm', ?_, ?_⟩, ⟨?_, ?_⟩, .inl ⟨rfl, rfl⟩, ?_⟩
  · rw [map_cons] at hs'
    simp [reserveGrant, hs']
  · simp [reserveGrant, hc']
  · refine updateAll_forall (p := fun _ e => e.ul1 = none → e.ul2 = none) ?_ hk.ordered hc'
    intro k _ a b _ hab hb
    rw [(reserveFull_cases hab).1.1 (by decide)] at hb
    cases hb
  · refine updateAll_forall (p := fun m e => (TdmaTime.fromInt m).isMandatoryClch = true →
      e.ul1 = none) ?_ hk.clch hc'
    intro k hk' a b _ _ hclch'
    rw [hclch k hk'] at hclch'
    cases hclch'
  · intro m o
    refine updateAll_forall (p := fun j e => j = m → (cal m).ul1 = some o → e.ul1 = some o)
      ?_ ?_ hc' m rfl
    · intro k _ a b hp hab hkm hcm
      exact (reserveFull_cases hab).2.1 o (hp hkm hcm)
    · rintro k rfl hcm
      exact hcm
  · intro m o
    refine updateAll_forall (p := fun j e => j = m → (cal m).ul2 = some o → e.ul2 = some o)
      ?_ ?_ hc' m rfl
    · intro k _ a b hp hab hkm hcm
      exact (reserveFull_cases hab).2.2 o (hp hkm hcm)
    · rintro k rfl hcm
      exact hcm
  · intro m hm
    exact updateAll_mem (fun a b hab => (reserveFull_cases hab).1) hnd hm hc'

theorem forwardToTimeslot_fromInt :
    ∃ r : Nat, r < 4 ∧ (TdmaTime.fromInt b).forwardToTimeslot t = .fromInt (b + r) := by
  refine ⟨(t + 4 - (TdmaTime.fromInt b).t) % 4, by omega, ?_⟩
  rw [TdmaTime.forwardToTimeslot, TdmaTime.fromInt_addTimeslots]

theorem fromInt_t_add (h : (TdmaTime.fromInt (n + d)).t = (TdmaTime.fromInt n).t) : d % 4 = 0 := by
  simp only [TdmaTime.fromInt] at h
  omega

/-- Slots handed out on one timeslot, as absolute slot numbers. -/
theorem Keeps.found (hk : Keeps s cal lo) (ht : 1 ≤ t ∧ t ≤ 4) (hl : lo ≤ b) (hu : b ≤ lo + 4)
    (h : ulFindGrantOpportunityOnChannelFrom s (.fromInt b) t [t] numSlots half owner =
      some (some (k, us))) :
    ∃ ns : List Int, us = ns.map .fromInt ∧ ns.length = numSlots ∧ ns.Nodup ∧
      (half = true → numSlots = 1) ∧
      ∀ n ∈ ns, (b ≤ n ∧ n < lo + ringSlots) ∧ (TdmaTime.fromInt n).isMandatoryClch = false ∧
        grantable (cal n) half owner = true := by
  unfold ulFindGrantOpportunityOnChannelFrom at h
  split at h
  · cases h
  split at h
  · cases h
  rename_i hhalf
  obtain ⟨hlen, ds, hus, hsort, hds⟩ := findFrom_collected (Collected.nil 0) (Option.some.inj h)
  obtain ⟨r, hr, hfirst⟩ := forwardToTimeslot_fromInt
  have hft := TdmaTime.forwardToTimeslot_t (.fromInt b) ht
  rw [hfirst] at hus hds hft
  refine ⟨ds.map (fun d : Nat => b + r + d), ?_, ?_, ?_, ?_, ?_⟩
  · rw [hus, List.map_map]
    exact map_congr_left (fun d _ => TdmaTime.fromInt_addTimeslots _ _)
  · rw [← hlen, hus, length_map, length_map]
  · exact (hsort.imp Nat.ne_of_lt).map _ (fun a c hac => by omega)
  · intro hh
    exact Decidable.not_not.mp (fun hn => hhalf ⟨hh, hn⟩)
  · intro n hn
    obtain ⟨d, hd, rfl⟩ := List.mem_map.mp hn
    obtain ⟨hlt, hc⟩ := hds d hd
    rw [TdmaTime.fromInt_addTimeslots] at hc
    have hmul := fromInt_t_add ((mem_singleton.mp hc.channel).trans hft.symm)
    have hbound : lo ≤ b + r + d ∧ b + r + d < lo + ringSlots := by
      simp only [macschedNumFrames, numTimeslots] at hlt
      simp only [ringSlots]
      omega
    refine ⟨⟨by omega, hbound.2⟩, hc.clch, ?_⟩
    rw [← hk.get hbound.1 hbound.2]
    exact hc.grantable

/-- Whatever the search returns can be reserved. -/
theorem Keeps.reserve (hk : Keeps s cal lo) (marker : Option Nat) (ht : 1 ≤ t ∧ t ≤ 4) (hl : lo ≤ b)
    (hu : b ≤ lo + 4) (hnum : 1 ≤ numSlots) (ho : ∀ o, owner = some o → o = ssi)
    (h : ulFindGrantOpportunityOnChannelFrom s (.fromInt b) t [t] numSlots half owner =
      some (some (k, us))) :
    ∃ ns s' cal' sub, us = ns.map .fromInt ∧ (∀ n ∈ ns, b ≤ n ∧ n < lo + ringSlots) ∧
      ns.length = numSlots ∧ Reserved s cal lo ssi ns half marker s' cal' sub := by
  obtain ⟨ns, hus, hlen, hnd, hhalf, hns⟩ := hk.found ht hl hu h
  cases ns with
  | nil => simp only [length_nil] at hlen; omega
  | cons n ns =>
    cases half with
    | true =>
      have hnil : ns = [] := by
        rw [← hlen] at hhalf
        exact length_eq_zero_iff.mp (by simpa using hhalf rfl)
      subst hnil
      obtain ⟨hw, hclch, hg⟩ := hns n mem_cons_self
      obtain ⟨s', cal', sub, hres⟩ := hk.reserve_half ⟨by omega, hw.2⟩ hclch hg
      exact ⟨[n], s', cal', sub, hus, fun m hm => (hns m hm).1, hlen, hres⟩
    | false =>
      have hw : ∀ m ∈ n :: ns, lo ≤ m ∧ m < lo + ringSlots := by
        intro m hm
        have hb := (hns m hm).1
        omega
      obtain ⟨s', cal', hres⟩ := hk.reserve_full hnd hw
        (fun m hm => (hns m hm).2.1) (fun m hm => (hns m hm).2.2) ho
      exact ⟨n :: ns, s', cal', 0, hus, fun m hm => (hns m hm).1, hlen, hres⟩

end UlSched
end NexusBs
