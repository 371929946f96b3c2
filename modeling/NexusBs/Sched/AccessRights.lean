import NexusBs.Sched.Exclusivity

namespace NexusBs
open BitBuffer Lib Option

inductive Subslot where
  | first | second

namespace Subslot

def owner (e : TimeslotSchedule) : Subslot → Option Nat
  | first => e.ul1
  | second => e.ul2

def accessField (f1 f2 both : Option AccessField) : Subslot → Option AccessField
  | first => f1 <|> both
  | second => f2 <|> both

end Subslot

/-- What a broadcast block says about a subslot. -/
def accessRights (frame18 : Bool) (block : BitBuffer) (sub : Subslot) : Option AccessField :=
  if frame18 then
    match AccessAssignFr18.fromBitbuf block with
    | .ok (a, _) => sub.accessField a.f1Af1 a.f2Af2 a.f2Af
    | .error _ => none
  else
    match AccessAssign.fromBitbuf block with
    | .ok (a, _) => sub.accessField a.f1Af1 a.f2Af2 a.f2Af
    | .error _ => none

/-- The subslot is open for random access; a base frame length of zero reserves it. -/
def offersAccess (frame18 : Bool) (block : BitBuffer) (sub : Subslot) : Bool :=
  (accessRights frame18 block sub).any (fun f => f.baseFrameLen != 0)

def TmvUnitdataReqSlot.offersAccess (slot : TmvUnitdataReqSlot) (sub : Subslot) : Bool :=
  slot.bbk.any (fun blk => NexusBs.offersAccess (decide (slot.ts.f = 18)) blk.macBlock sub)

def announces (frame18 : Bool) (fs : List (Nat × Nat)) (sub : Subslot) : Bool :=
  ((writeFields fs (BitBuffer.new 14)).bind (fun b => b.seek 0)).any (fun b =>
    offersAccess frame18 b sub)

theorem readWords {α : Type} (q : Nat → Nat → Nat → PduParser α) (hh : h < 4) (hx : x < 64)
    (hy : y < 64) : (do
      let header ← PduParser.field 2 "_header"
      let field1 ← PduParser.field 6 "field1"
      let field2 ← PduParser.field 6 "field2"
      q header field1 field2 : PduParser α)
        ⟨H, [], toBits 2 h ++ (toBits 6 x ++ (toBits 6 y ++ [])), T, a⟩ =
      q h x y ⟨H, [] ++ toBits 2 h ++ toBits 6 x ++ toBits 6 y, [], T, a⟩ := by
  simp only [Bind.bind, StateT.bind, PduParser.field]
  rw [readField_toBits "_header" (by decide) hh]
  simp only [Except.bind]
  rw [readField_toBits "field1" (by decide) hx]
  simp only
  rw [readField_toBits "field2" (by decide) hy]

theorem announces_words (hf : FieldsFit fs)
    (hb : fieldBits fs = toBits 2 h ++ (toBits 6 x ++ toBits 6 y)) :
    announces frame18 fs sub = offersAccess frame18
      ⟨[], [], toBits 2 h ++ (toBits 6 x ++ (toBits 6 y ++ [])), padding 14, false⟩ sub := by
  have hl : (fieldBits fs).length = 14 := by simp [hb]
  rw [announces, writeFields_eq hf (by simp [BitBuffer.new, hl]), bind_some, seek_zero]
  simp [BitBuffer.new, hb]

/-- Usage markers for both directions leave nothing to random access. -/
theorem announces_markers (hd : dl ≤ 63) (hu : ul ≤ 63) :
    announces false [(3, 2), (dl, 6), (ul, 6)] sub = false := by
  have hf : FieldsFit [(3, 2), (dl, 6), (ul, 6)] := by
    simp only [FieldsFit, List.mem_cons, List.not_mem_nil, or_false, forall_eq_or_imp, forall_eq]
    omega
  have hb : fieldBits [(3, 2), (dl, 6), (ul, 6)] = toBits 2 3 ++ (toBits 6 dl ++ toBits 6 ul) := by
    simp
  rw [announces_words hf hb, offersAccess, accessRights, if_neg Bool.false_ne_true,
    AccessAssign.fromBitbuf, readWords AccessAssign.ofFields (by decide) (by omega) (by omega)]
  cases hk : AccessAssignUlUsage.fromUsageMarker ul with
  | some u =>
    have hp : AccessAssign.ofFields 3 dl ul = pure ⟨.fromUsageMarker dl, u, none, none, none⟩ := by
      simp [AccessAssign.ofFields, hk]
    rw [hp]
    cases sub <;> rfl
  | none =>
    have hp : AccessAssign.ofFields 3 dl ul = PduParser.fail (.invalidValue "ul_usage" ul) := by
      simp [AccessAssign.ofFields, hk]
    rw [hp]
    rfl

/-- So does a usage marker in frame 18, whose access field is reserved. -/
theorem announces_marker18 (hm : marker ≤ 63) :
    announces true [(3, 2), (marker, 6), (0, 2), (0, 4)] sub = false := by
  have hf : FieldsFit [(3, 2), (marker, 6), (0, 2), (0, 4)] := by
    simp only [FieldsFit, List.mem_cons, List.not_mem_nil, or_false, forall_eq_or_imp, forall_eq]
    omega
  have hb : fieldBits [(3, 2), (marker, 6), (0, 2), (0, 4)] =
      toBits 2 3 ++ (toBits 6 marker ++ toBits 6 0) := by
    simp only [fieldBits_cons, fieldBits_nil]
    rfl
  rw [announces_words hf hb, offersAccess, accessRights, if_pos rfl,
    AccessAssignFr18.fromBitbuf, readWords AccessAssignFr18.ofFields (by decide) (by omega) (by decide)]
  have hp : (∃ m, AccessAssignFr18.ofFields 3 marker 0 =
        pure ⟨.traffic m, none, none, some (.ofField 0)⟩) ∨
      AccessAssignFr18.ofFields 3 marker 0 = PduParser.fail (.invalidValue "ul_usage" marker) := by
    simp only [AccessAssignFr18.ofFields]
    split
    · exact .inl ⟨_, rfl⟩
    · exact .inr rfl
  rcases hp with ⟨m, hp⟩ | hp
  · rw [hp]
    cases sub <;> rfl
  · rw [hp]
    rfl

namespace BsChannelScheduler

variable {s : BsChannelScheduler} {ts : TdmaTime}

/-- On timeslot 1 each reserved subslot is closed. -/
theorem aachTs1_honest (h : s.aachTs1 ts = some aach)
    (hsub : (sub.owner (s.ulsched.get ts)).isSome = true) :
    announces false aach.fields sub = false := by
  obtain ⟨usage, -, rfl⟩ := map_eq_some_iff.mp h
  generalize s.ulsched.get ts = e at hsub
  cases usage with
  | traffic m =>
    by_cases hm : m ≤ 63
    · have hfields : AccessAssign.fields { AccessAssign.default with
          dlUsage := .commonControl, ulUsage := .traffic m } = [(3, 2), (2, 6), (m, 6)] := by
        simp [AccessAssign.fields, AccessAssignDlUsage.toUsageMarker,
          AccessAssignUlUsage.toUsageMarker, hm]
      rw [hfields]
      exact announces_markers (by decide) hm
    · have hfields : AccessAssign.fields { AccessAssign.default with
          dlUsage := .commonControl, ulUsage := .traffic m } = [] := by
        simp [AccessAssign.fields, AccessAssignDlUsage.toUsageMarker,
          AccessAssignUlUsage.toUsageMarker, Nat.lt_of_not_le hm]
      rw [hfields]
      cases sub <;> decide
  | _ =>
    dsimp only
    cases sub with
    | first =>
      rw [show e.ul1.isSome = true from hsub]
      cases e.ul2.isSome <;> decide
    | second =>
      rw [show e.ul2.isSome = true from hsub]
      cases e.ul1.isSome <;> decide

/-- So is it in frame 18, where no linearisation slot is reserved. -/
theorem aachFr18_honest (hclch : ts.isMandatoryClch = true → (s.ulsched.get ts).ul1 = none)
    (hord : (s.ulsched.get ts).ul1 = none → (s.ulsched.get ts).ul2 = none)
    (h : s.aachFr18 ts = some aach) (hsub : (sub.owner (s.ulsched.get ts)).isSome = true) :
    announces true aach.fields sub = false := by
  obtain ⟨usage, husage, rfl⟩ := map_eq_some_iff.mp h
  have hfirst : (s.ulsched.get ts).ul1.isSome = true := by
    by_contra hn
    rw [Bool.not_eq_true, isSome_eq_false_iff, isNone_iff_eq_none] at hn
    cases sub with
    | first => rw [Subslot.owner, hn] at hsub; cases hsub
    | second => rw [Subslot.owner, hord hn] at hsub; cases hsub
  have hm : ts.isMandatoryClch = false := by
    by_contra hn
    rw [hclch (Bool.eq_true_of_not_eq_false hn)] at hfirst
    cases hfirst
  rw [hm, if_neg Bool.false_ne_true, ulGetUsage] at husage
  generalize s.ulsched.get ts = e at husage hsub hfirst
  obtain ⟨first, hf⟩ := isSome_iff_exists.mp hfirst
  rw [hf] at husage
  have hcases : (∃ m, usage = .traffic m) ∨ usage = .assignedOnly ∨ usage = .commonAndAssigned := by
    cases h2 : e.ul2 <;> cases hk : e.usageMarker <;> simp [h2, hk] at husage <;> simp [← husage]
  rcases hcases with ⟨m, rfl⟩ | rfl | rfl
  · by_cases hm : m ≤ 63
    · have hfields : AccessAssignFr18.fields ⟨.traffic m, none, none, some ⟨0, 0⟩⟩ =
          [(3, 2), (m, 6), (0, 2), (0, 4)] := by
        simp [AccessAssignFr18.fields, AccessField.valid, AccessField.fields, hm]
      exact hfields ▸ announces_marker18 hm
    · have hfields : AccessAssignFr18.fields ⟨.traffic m, none, none, some ⟨0, 0⟩⟩ = [(3, 2)] := by
        simp [AccessAssignFr18.fields, AccessField.valid, Nat.lt_of_not_le hm]
      have hnone : announces true [(3, 2)] sub = false := by cases sub <;> decide
      exact hfields ▸ hnone
  all_goals
    dsimp only
    rw [hfirst]
    cases sub with
    | first => cases e.ul2.isSome <;> decide
    | second =>
      rw [show e.ul2.isSome = true from hsub]
      decide

/-- The element of a timeslot above 1 opens it for random access: in hangtime, and for packet data. -/
def sharesUplink (s : BsChannelScheduler) (ts : TdmaTime) (floorGrantPending : Bool)
    (alloc : Option TimeslotAllocator) : Bool :=
  decide (ts.f ≠ 18) && decide (2 ≤ ts.t ∧ ts.t ≤ 4) &&
    (if s.circuits.isActive .dl ts.t || s.circuits.isActive .ul ts.t then
      s.hangtime (ts.t - 1) && !floorGrantPending
    else (s.packetDataAssignmentForTimeslot ts alloc).isSome)

theorem aachTraffic_announces (ul dl : Option Nat) :
    announces false (s.aachTraffic ts ul dl floor alloc).fields sub =
      if dl.isSome || ul.isSome then s.hangtime (ts.t - 1) && !floor
      else (s.packetDataAssignmentForTimeslot ts alloc).isSome := by
  have hmarkers : ∀ dl ul : Option Nat, announces false (AccessAssign.fields
      { AccessAssign.default with
        dlUsage := (dl.map AccessAssignDlUsage.traffic).getD .unallocated
        ulUsage := (ul.map AccessAssignUlUsage.traffic).getD .unallocated }) sub = false := by
    intro dl ul
    have hfields : AccessAssign.fields { AccessAssign.default with
        dlUsage := (dl.map AccessAssignDlUsage.traffic).getD .unallocated
        ulUsage := (ul.map AccessAssignUlUsage.traffic).getD .unallocated } =
        if dl.getD 0 ≤ 63 ∧ ul.getD 0 ≤ 63 then [(3, 2), (dl.getD 0, 6), (ul.getD 0, 6)] else [] := by
      cases dl <;> cases ul <;> simp [AccessAssign.fields, AccessAssignDlUsage.toUsageMarker,
        AccessAssignUlUsage.toUsageMarker] <;> grind
    rw [hfields]
    split
    · rename_i hle
      exact announces_markers hle.1 hle.2
    · cases sub <;> decide
  have hopen : ∀ ul : AccessAssignUlUsage, ul = .assignedOnly ∨ ul = .commonAndAssigned →
      announces false (AccessAssign.fields { AccessAssign.default with
        dlUsage := .assignedControl, ulUsage := ul, f2Af := some ⟨0, 4⟩ }) sub = true := by
    rintro ul (rfl | rfl) <;> cases sub <;> decide
  have hassigned : ∀ a : PacketDataAssignment, (if packetDataAssignmentSupportsUplink a then
      AccessAssignUlUsage.assignedOnly else .commonAndAssigned) = .assignedOnly ∨
      (if packetDataAssignmentSupportsUplink a then AccessAssignUlUsage.assignedOnly
        else .commonAndAssigned) = .commonAndAssigned := by
    intro a
    split
    · exact .inl rfl
    · exact .inr rfl
  unfold aachTraffic
  cases dl with
  | some d =>
    cases hh : s.hangtime (ts.t - 1) && !floor with
    | true => simpa using hopen _ (.inl rfl)
    | false => simpa using hmarkers (some d) ul
  | none =>
    cases ul with
    | some u =>
      cases hh : s.hangtime (ts.t - 1) && !floor with
      | true => simpa using hopen _ (.inl rfl)
      | false => simpa using hmarkers none (some u)
    | none =>
      cases s.packetDataAssignmentForTimeslot ts alloc with
      | none => simpa using hmarkers none none
      | some a => simpa using hopen _ (hassigned a)

/-- A reserved subslot is open for random access where the element opens its timeslot, and nowhere
else. -/
theorem generateBbkBlock_offers (hclch : ts.isMandatoryClch = true → (s.ulsched.get ts).ul1 = none)
    (hord : (s.ulsched.get ts).ul1 = none → (s.ulsched.get ts).ul2 = none)
    (h : s.generateBbkBlock ts floor alloc = some b) (hr : rewind b = some blk)
    (hsub : (sub.owner (s.ulsched.get ts)).isSome = true) :
    offersAccess (decide (ts.f = 18)) blk.macBlock sub = s.sharesUplink ts floor alloc := by
  obtain ⟨w, hw, rfl⟩ := map_eq_some_iff.mp h
  obtain ⟨w', hw', rfl⟩ := map_eq_some_iff.mp hr
  -- what the block holds is what its fields announce
  have hfields : ∀ {frame18 : Bool} {f : List (Nat × Nat)},
      writeFields f (BitBuffer.new 14) = some w →
      offersAccess frame18 w' sub = announces frame18 f sub := by
    intro frame18 f hfs
    have hseek : w.seek 0 = some w' := hw'
    rw [announces, hfs, bind_some, hseek, any_some]
  unfold sharesUplink
  split at hw
  · rename_i hf
    obtain ⟨aach, haach, hw⟩ := bind_eq_some_iff.mp hw
    rw [decide_eq_true hf, hfields hw, aachFr18_honest hclch hord haach hsub]
    simp [hf]
  rename_i hf
  rw [decide_eq_false hf]
  dsimp only at hw
  split at hw
  · rename_i ht
    split at hw
    · cases hw
    obtain ⟨aach, haach, hw⟩ := bind_eq_some_iff.mp hw
    rw [hfields hw, aachTs1_honest haach hsub]
    simp [ht]
  rename_i ht
  split at hw
  · rename_i hts
    have ht' : 2 ≤ ts.t ∧ ts.t ≤ 4 := by
      simp only [isTimeslot, Bool.and_eq_true, decide_eq_true_eq] at hts
      omega
    rw [hfields hw, aachTraffic_announces, decide_eq_true ht', decide_eq_true hf]
    simp [CircuitMgr.isActive, CircuitMgr.getUsage]
  · rename_i hts
    have ht' : ¬(2 ≤ ts.t ∧ ts.t ≤ 4) := by
      simp only [isTimeslot, Bool.and_eq_true, decide_eq_true_eq] at hts
      omega
    have hnone : announces false [] sub = false := by cases sub <;> decide
    rw [hfields (f := []) hw, hnone, decide_eq_false ht', Bool.and_false, Bool.false_and]

/-- In every slot of every run, whether a reserved subslot is open for random access. -/
theorem UlSettled.offers (h : UlSettled s) (hr : s.nextSlot env = some r)
    (hsub : (sub.owner (r.sched.ulsched.get r.slot.ts)).isSome = true) :
    r.slot.offersAccess sub =
      r.sched.sharesUplink r.slot.ts (s.nextUse env).floorGrantPending r.alloc := by
  obtain ⟨hset, hnow, hts, -⟩ := h.nextSlot hr
  obtain ⟨s1, blks, hi, hg, hslot, hsched⟩ := h.assembles hr
  obtain ⟨-, b, blk, hb, hblk, hbbk⟩ := assembleSlot_some hslot
  obtain ⟨-, -, ho⟩ := hg.clock
  have hold : s1.oldest = s.now - 2 := ho.trans h.oldest
  have hread : s1.ulsched.get (.fromInt (s.now + 2)) = s1.booked (s.now + 2) :=
    hi.keeps.get (by omega) (by rw [hold, UlSched.ringSlots]; omega)
  have hkept : r.sched.ulsched.get r.slot.ts = s1.ulsched.get (.fromInt (s.now + 2)) := by
    have ho' := hset.oldest
    rw [hts, hread, hset.keeps.get (by omega)
      (by rw [ho', hnow, UlSched.ringSlots]; omega), hsched]
    exact Function.update_of_ne (by rw [hold]; omega) _ _
  rw [hkept] at hsub
  have hoffers := generateBbkBlock_offers (fun hc => by rw [hread]; exact hi.keeps.clch _ hc)
    (by rw [hread]; exact hi.keeps.ordered _) hb hblk hsub
  rw [TmvUnitdataReqSlot.offersAccess, hbbk, any_some, hts, hoffers, hsched]
  rfl

/-- In every slot of every run no reserved subslot is open for random access, unless one is reserved
where the element opens its timeslot. -/
theorem aach_honest_iff (scr : Nat) (p : PrecomputedUmacPdus) (t : TdmaTime) (ops : List SchedOp)
    (s : BsChannelScheduler) (hr : run step (.new scr p t) ops = some s) (env : SlotEnv)
    (r : Finalized) (hn : s.nextSlot env = some r) :
    (∀ sub : Subslot, (sub.owner (r.sched.ulsched.get r.slot.ts)).isSome = true →
      r.slot.offersAccess sub = false) ↔
    (r.sched.sharesUplink r.slot.ts (s.nextUse env).floorGrantPending r.alloc = true →
      ∀ sub : Subslot, sub.owner (r.sched.ulsched.get r.slot.ts) = none) := by
  have h : UlSettled s := (UlSettled.new scr p t).run hr
  constructor
  · intro hclosed hshared sub
    by_contra hne
    have hsub := ne_none_iff_isSome.mp hne
    have hopen := hclosed sub hsub
    rw [h.offers hn hsub, hshared] at hopen
    cases hopen
  · intro hfree sub hsub
    rw [h.offers hn hsub]
    by_contra hne
    rw [hfree (Bool.eq_true_of_not_eq_false hne) sub] at hsub
    cases hsub

/-- A radio with half a slot on timeslot 1. -/
theorem aach_honest_mcch : ∃ s r, run step (.new 3 sampleCell (.fromInt 2))
      [.ulProcessCapReq 1 (.issi 1001) .req1Subslot] = some s ∧
    s.nextSlot quietEnv = some r ∧ Subslot.first.owner (r.sched.ulsched.get r.slot.ts) = some 1001 ∧
    ∀ sub : Subslot, (sub.owner (r.sched.ulsched.get r.slot.ts)).isSome = true →
      r.slot.offersAccess sub = false := by
  have h : (run step (.new 3 sampleCell (.fromInt 2))
      [.ulProcessCapReq 1 (.issi 1001) .req1Subslot]).bind (fun s => (s.nextSlot quietEnv).map (fun r =>
        (Subslot.first.owner (r.sched.ulsched.get r.slot.ts),
          r.sched.sharesUplink r.slot.ts (s.nextUse quietEnv).floorGrantPending r.alloc))) =
      some (some 1001, false) := by
    decide +kernel
  obtain ⟨s, hs, h⟩ := bind_eq_some_iff.mp h
  obtain ⟨r, hr, h⟩ := map_eq_some_iff.mp h
  simp only [Prod.mk.injEq] at h
  refine ⟨s, r, hs, hr, h.1, (aach_honest_iff 3 sampleCell (.fromInt 2) _ s hs quietEnv r hr).mpr ?_⟩
  intro hshared
  rw [h.2] at hshared
  cases hshared

/-- A radio with packet data on timeslot 2 gets a slot there, and the same slot is open to all
others. -/
theorem reserved_subslot_offered : ∃ s r, run step (.new 3 sampleCell (.fromInt 2))
      [assignPacketData 1001 16, .nextSlot quietEnv, .ulProcessCapReq 2 (.issi 1001) .req1Slot] =
        some s ∧
    s.nextSlot quietEnv = some r ∧ r.slot.ts.t = 2 ∧
    Subslot.first.owner (r.sched.ulsched.get r.slot.ts) = some 1001 ∧
    r.slot.offersAccess .first = true := by
  have h : (run step (.new 3 sampleCell (.fromInt 2))
      [assignPacketData 1001 16, .nextSlot quietEnv, .ulProcessCapReq 2 (.issi 1001) .req1Slot]).bind
      (fun s => (s.nextSlot quietEnv).map (fun r =>
        (r.slot.ts.t, Subslot.first.owner (r.sched.ulsched.get r.slot.ts),
          r.slot.offersAccess .first))) = some (2, some 1001, true) := by
    decide +kernel
  obtain ⟨s, hs, h⟩ := bind_eq_some_iff.mp h
  obtain ⟨r, hr, h⟩ := map_eq_some_iff.mp h
  simp only [Prod.mk.injEq] at h
  exact ⟨s, r, hs, hr, h⟩

end BsChannelScheduler
end NexusBs
