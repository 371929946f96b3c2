import NexusBs.Core.Parser
import NexusBs.Core.Types

namespace NexusBs
open Lib BitBuffer PduParser

inductive BasicSlotgrantCapAlloc where
  | firstSubslotGranted | grant1Slot | grant2Slots | grant3Slots | grant4Slots | grant5Slots
  | grant6Slots | grant8Slots | grant10Slots | grant13Slots | grant17Slots | grant24Slots
  | grant34Slots | grant51Slots | grant68Slots | secondSubslotGranted
deriving DecidableEq

namespace BasicSlotgrantCapAlloc

def intoRaw : BasicSlotgrantCapAlloc → Nat
  | firstSubslotGranted => 0
  | grant1Slot => 1
  | grant2Slots => 2
  | grant3Slots => 3
  | grant4Slots => 4
  | grant5Slots => 5
  | grant6Slots => 6
  | grant8Slots => 7
  | grant10Slots => 8
  | grant13Slots => 9
  | grant17Slots => 10
  | grant24Slots => 11
  | grant34Slots => 12
  | grant51Slots => 13
  | grant68Slots => 14
  | secondSubslotGranted => 15

def tryFrom : Nat → Option BasicSlotgrantCapAlloc
  | 0 => some firstSubslotGranted
  | 1 => some grant1Slot
  | 2 => some grant2Slots
  | 3 => some grant3Slots
  | 4 => some grant4Slots
  | 5 => some grant5Slots
  | 6 => some grant6Slots
  | 7 => some grant8Slots
  | 8 => some grant10Slots
  | 9 => some grant13Slots
  | 10 => some grant17Slots
  | 11 => some grant24Slots
  | 12 => some grant34Slots
  | 13 => some grant51Slots
  | 14 => some grant68Slots
  | 15 => some secondSubslotGranted
  | _ => none

/-- Smallest allocation of at least `req` full slots; 0 and 99 stand for the
first and the second subslot. -/
def tryFromReqSlotcount (req : Nat) : Option BasicSlotgrantCapAlloc :=
  if req = 0 then some firstSubslotGranted
  else if req = 1 then some grant1Slot
  else if req = 2 then some grant2Slots
  else if req = 3 then some grant3Slots
  else if req = 4 then some grant4Slots
  else if req = 5 then some grant5Slots
  else if req = 6 then some grant6Slots
  else if req ≤ 8 then some grant8Slots
  else if req ≤ 10 then some grant10Slots
  else if req ≤ 13 then some grant13Slots
  else if req ≤ 17 then some grant17Slots
  else if req ≤ 24 then some grant24Slots
  else if req ≤ 34 then some grant34Slots
  else if req ≤ 51 then some grant51Slots
  else if req ≤ 68 then some grant68Slots
  else if req = 99 then some secondSubslotGranted
  else none

def fromReqSlotcount (req : Nat) : BasicSlotgrantCapAlloc :=
  (tryFromReqSlotcount req).getD grant68Slots

@[simp] theorem tryFrom_intoRaw (a : BasicSlotgrantCapAlloc) : tryFrom a.intoRaw = some a := by
  cases a <;> rfl

theorem intoRaw_lt (a : BasicSlotgrantCapAlloc) : a.intoRaw < 16 := by cases a <;> decide

end BasicSlotgrantCapAlloc

inductive BasicSlotgrantGrantingDelay where
  | capAllocAtNextOpportunity
  | delayNOpportunities (n : Nat)
  | allocStartsAtOpportunityInFr18
  | waitForAnotherSlotgrantMessage
deriving DecidableEq

namespace BasicSlotgrantGrantingDelay

def intoRaw : BasicSlotgrantGrantingDelay → Nat
  | capAllocAtNextOpportunity => 0
  | delayNOpportunities n => n
  | allocStartsAtOpportunityInFr18 => 14
  | waitForAnotherSlotgrantMessage => 15

def tryFrom (x : Nat) : Option BasicSlotgrantGrantingDelay :=
  if x = 0 then some capAllocAtNextOpportunity
  else if x ≤ 13 then some (delayNOpportunities x)
  else if x = 14 then some allocStartsAtOpportunityInFr18
  else if x = 15 then some waitForAnotherSlotgrantMessage
  else none

/-- A delay in opportunities is one of 1 to 13. -/
def Valid : BasicSlotgrantGrantingDelay → Prop
  | delayNOpportunities n => 1 ≤ n ∧ n ≤ 13
  | _ => True

theorem tryFrom_intoRaw (h : d.Valid) : tryFrom d.intoRaw = some d := by
  cases d with
  | delayNOpportunities n =>
    obtain ⟨h1, h13⟩ := h
    simp [tryFrom, intoRaw, h13, show n ≠ 0 by omega]
  | _ => rfl

theorem intoRaw_lt {d : BasicSlotgrantGrantingDelay} (h : d.Valid) : d.intoRaw < 16 := by
  cases d with
  | delayNOpportunities => have := h.2; simp only [intoRaw]; omega
  | _ => decide

end BasicSlotgrantGrantingDelay

structure BasicSlotgrant where
  capacityAllocation : BasicSlotgrantCapAlloc
  grantingDelay : BasicSlotgrantGrantingDelay
deriving DecidableEq

namespace BasicSlotgrant

def fromBitbuf : PduParser BasicSlotgrant := do
  let capVal ← field 4 "capacity_allocation"
  match BasicSlotgrantCapAlloc.tryFrom capVal with
  | none => fail (.invalidValue "capacity_allocation" capVal)
  | some cap => do
    let delayVal ← field 4 "granting_delay"
    match BasicSlotgrantGrantingDelay.tryFrom delayVal with
    | none => fail (.invalidValue "granting_delay" delayVal)
    | some delay => pure ⟨cap, delay⟩

def fields (g : BasicSlotgrant) : List (Nat × Nat) :=
  [(g.capacityAllocation.intoRaw, 4), (g.grantingDelay.intoRaw, 4)]

theorem fields_fit {g : BasicSlotgrant} (h : g.grantingDelay.Valid) : FieldsFit g.fields := by
  have hc := g.capacityAllocation.intoRaw_lt
  have hd := BasicSlotgrantGrantingDelay.intoRaw_lt h
  simp [fields, FieldsFit, hc, hd]

theorem decodes (h : g.grantingDelay.Valid) : Decodes fromBitbuf (fieldBits g.fields) g := by
  refine .next (by decide) g.capacityAllocation.intoRaw_lt ?_
  simp only [BasicSlotgrantCapAlloc.tryFrom_intoRaw]
  refine .next (by decide) (BasicSlotgrantGrantingDelay.intoRaw_lt h) ?_
  simp only [BasicSlotgrantGrantingDelay.tryFrom_intoRaw h]
  exact Decodes.pure g

end BasicSlotgrant

structure ChanAllocElement where
  allocType : ChanAllocType
  tsAssigned : Timeslots
  ulDlAssigned : UlDlAssignment
  (clchPermission cellChangeFlag : Bool)
  carrierNum : Nat
  ext : Option Int
  monPattern : Nat
  frame18MonPattern : Option Nat
deriving DecidableEq

namespace ChanAllocElement

def isSupportedByThisStack (c : ChanAllocElement) : Bool :=
  c.ext.isNone && c.ulDlAssigned != .augmented

def fromBitbuf : PduParser ChanAllocElement := do
  let allocVal ← field 2 "alloc_type"
  match ChanAllocType.tryFrom allocVal with
  | none => fail (.invalidValue "alloc_type" allocVal)
  | some allocType => do
    let bitmap ← field 4 "ts_assigned"
    let tsAssigned : Timeslots :=
      ⟨bitmap.testBit 3, bitmap.testBit 2, bitmap.testBit 1, bitmap.testBit 0⟩
    let ulDlVal ← field 2 "ul_dl_assigned"
    match UlDlAssignment.tryFrom ulDlVal with
    | none => fail (.invalidValue "ul_dl_assigned" ulDlVal)
    | some .augmented => fail (.notImplemented "augmented_channel_allocation")
    | some ulDlAssigned => do
      let clch ← field 1 "clch_permission"
      let cell ← field 1 "cell_change_flag"
      let carrier ← field 12 "carrier_num"
      let extFlag ← field 1 "ext_carrier_num_flag"
      if extFlag = 1 then fail (.notImplemented "extended_carrier_numbering") else do
        let mon ← field 2 "mon_pattern"
        let frame18 ← if mon = 0 then some <$> field 2 "frame18_mon_pattern" else pure none
        pure ⟨allocType, tsAssigned, ulDlAssigned, clch != 0, cell != 0, carrier, none, mon, frame18⟩

/-- The fields `to_bitbuf` writes; `none` is its `unwrap` of an absent frame-18
pattern. -/
def fields (c : ChanAllocElement) : Option (List (Nat × Nat)) :=
  if c.isSupportedByThisStack then
    let upToMon := (c.allocType.intoRaw, 2) :: c.tsAssigned.toList.map (fun bit => (bit.toNat, 1)) ++
      [(c.ulDlAssigned.intoRaw, 2), (c.clchPermission.toNat, 1), (c.cellChangeFlag.toNat, 1),
       (c.carrierNum, 12), (0, 1), (c.monPattern, 2)]
    if c.monPattern = 0 then c.frame18MonPattern.map (fun v => upToMon ++ [(v, 2)])
    else some upToMon
  else some []

def computeLen (c : ChanAllocElement) : Nat :=
  if c.isSupportedByThisStack then
    2 + 4 + 2 + 1 + 1 + 12 + 1 + 2 + (if c.monPattern = 0 then 2 else 0)
  else 0

/-- A supported element whose numbers fit their fields and whose frame-18 pattern
is there when it has to be sent. -/
structure Valid (c : ChanAllocElement) : Prop where
  supported : c.isSupportedByThisStack = true
  carrier : c.carrierNum < 2 ^ 12
  mon : c.monPattern < 4
  frame18 : c.monPattern = 0 → ∃ v, c.frame18MonPattern = some v ∧ v < 4

/-- What a receiver can know of the element: the frame-18 pattern is on the air
only with monitoring pattern 0. -/
def onAir (c : ChanAllocElement) : ChanAllocElement :=
  { c with frame18MonPattern := if c.monPattern = 0 then c.frame18MonPattern else none }

theorem ts_bits (a b c d : Bool) :
    toBits 1 a.toNat ++ (toBits 1 b.toNat ++ (toBits 1 c.toNat ++ (toBits 1 d.toNat ++ r))) =
      toBits 4 (ofBits [a, b, c, d]) ++ r := by
  cases a <;> cases b <;> cases c <;> cases d <;> rfl

theorem ts_testBit (s : Timeslots) :
    (⟨(ofBits [s.ts1, s.ts2, s.ts3, s.ts4]).testBit 3,
      (ofBits [s.ts1, s.ts2, s.ts3, s.ts4]).testBit 2,
      (ofBits [s.ts1, s.ts2, s.ts3, s.ts4]).testBit 1,
      decide (ofBits [s.ts1, s.ts2, s.ts3, s.ts4] % 2 = 1)⟩ : Timeslots) = s := by
  obtain ⟨a, b, c, d⟩ := s
  cases a <;> cases b <;> cases c <;> cases d <;> rfl

variable {c : ChanAllocElement}

variable (hv : c.Valid)
include hv

/-- The fields of a valid element, with the frame-18 pattern split off. -/
theorem fields_eq : c.fields = some ((c.allocType.intoRaw, 2) ::
      c.tsAssigned.toList.map (fun bit => (bit.toNat, 1)) ++
      [(c.ulDlAssigned.intoRaw, 2), (c.clchPermission.toNat, 1), (c.cellChangeFlag.toNat, 1),
       (c.carrierNum, 12), (0, 1), (c.monPattern, 2)] ++
      (if c.monPattern = 0 then [(c.frame18MonPattern.getD 0, 2)] else [])) := by
  simp only [fields, hv.supported, if_true]
  by_cases hm : c.monPattern = 0
  · obtain ⟨v, hf, _⟩ := hv.frame18 hm
    simp [hm, hf]
  · simp [hm]

theorem fields_fit (hf : c.fields = some fs) : FieldsFit fs := by
  rw [fields_eq hv] at hf
  cases hf
  have hb : ∀ b : Bool, b.toNat < 2 := fun b => by cases b <;> decide
  have ha := c.allocType.intoRaw_lt
  have hu := c.ulDlAssigned.intoRaw_lt
  have hc : c.carrierNum < 4096 := hv.carrier
  have hm := hv.mon
  by_cases h0 : c.monPattern = 0
  · obtain ⟨v, he, hlt⟩ := hv.frame18 h0
    simp [FieldsFit, Timeslots.toList, ha, hu, hc, hb, h0, he, hlt]
  · simp [FieldsFit, Timeslots.toList, ha, hu, hc, hm, hb, h0]

/-- The length that is computed is the length that is written. -/
theorem length_fields (hf : c.fields = some fs) : (fieldBits fs).length = c.computeLen := by
  rw [fields_eq hv] at hf
  cases hf
  simp only [computeLen, hv.supported, if_true, length_fieldBits, Timeslots.toList]
  split <;> simp

/-- A valid element is read back as sent. -/
theorem decodes (hf : c.fields = some fs) : Decodes fromBitbuf (fieldBits fs) c.onAir := by
  have hb : ∀ b : Bool, b.toNat < 2 := fun b => by cases b <;> decide
  have hnz : ∀ b : Bool, (b.toNat != 0) = b := fun b => by cases b <;> rfl
  have hsup := hv.supported
  simp only [isSupportedByThisStack, Bool.and_eq_true, Option.isNone_iff_eq_none,
    bne_iff_ne, ne_eq] at hsup
  rw [fields_eq hv] at hf
  cases hf
  -- the four timeslot flags are written one by one and read as one field
  simp only [Timeslots.toList, List.map_cons, List.map_nil, List.cons_append, List.nil_append,
    fieldBits_cons, ts_bits]
  refine .next (by decide) c.allocType.intoRaw_lt ?_
  simp only [ChanAllocType.tryFrom_intoRaw]
  refine .next (by decide) (ofBits_lt _) ?_
  refine .next (by decide) c.ulDlAssigned.intoRaw_lt ?_
  simp only [UlDlAssignment.tryFrom_intoRaw]
  split
  · rename_i h
    cases h
  · rename_i h
    exact absurd (Option.some.inj h) hsup.2
  rename_i u _ h
  obtain rfl := Option.some.inj h
  refine .next (by decide) (hb _) ?_
  refine .next (by decide) (hb _) ?_
  refine .next (by decide) hv.carrier ?_
  refine .next (by decide) (by decide) ?_
  simp only [zero_ne_one, if_false]
  refine .next (by decide) hv.mon ?_
  have hon : c.onAir = ⟨c.allocType, c.tsAssigned, c.ulDlAssigned, c.clchPermission,
      c.cellChangeFlag, c.carrierNum, none, c.monPattern,
      if c.monPattern = 0 then c.frame18MonPattern else none⟩ := by
    simp [onAir, ← hsup.1]
  rw [hon]
  simp only [hnz, Nat.testBit_zero, ts_testBit]
  by_cases h0 : c.monPattern = 0
  · obtain ⟨v, he, hlt⟩ := hv.frame18 h0
    simp only [h0, if_true, he, Option.getD_some]
    exact Decodes.bind (Decodes.map some (Decodes.field _ (by decide) hlt)) (Decodes.pure _)
  · simp only [h0, if_false]
    exact Decodes.bind (Decodes.pure none) (Decodes.pure _)

end ChanAllocElement
end NexusBs
