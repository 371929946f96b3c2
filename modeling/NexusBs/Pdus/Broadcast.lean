import NexusBs.Core.Parser
import NexusBs.Core.TdmaTime

namespace NexusBs
open BitBuffer List

structure MacSync where
  (systemCode colourCode : Nat)
  time : TdmaTime
  (sharingMode tsReservedFrames : Nat)
  (uPlaneDtx frame18Ext : Bool)

def MacSync.fields (m : MacSync) : List (Nat × Nat) :=
  [(m.systemCode, 4), (m.colourCode, 6), (m.time.t - 1, 2), (m.time.f, 5), (m.time.m, 6),
    (m.sharingMode, 2), (m.tsReservedFrames, 3), (m.uPlaneDtx.toNat, 1), (m.frame18Ext.toNat, 1),
    (0, 1)]

structure DMleSync where
  (mcc mnc neighborCellBroadcast cellLoadCa : Nat)
  lateEntrySupported : Bool

def DMleSync.fields (m : DMleSync) : List (Nat × Nat) :=
  [(m.mcc, 10), (m.mnc, 14), (m.neighborCellBroadcast, 2), (m.cellLoadCa, 2),
    (m.lateEntrySupported.toNat, 1)]

structure SysinfoDefaultDefForAccessCodeA where
  (imm wt nu : Nat)
  flFactor : Bool
  (tsPtr minPduPrio : Nat)

def SysinfoDefaultDefForAccessCodeA.fields (d : SysinfoDefaultDefForAccessCodeA) :
    List (Nat × Nat) :=
  [(d.imm, 4), (d.wt, 4), (d.nu, 4), (d.flFactor.toNat, 1), (d.tsPtr, 4), (d.minPduPrio, 3)]

inductive SecurityInformation where
  | noEncryption
  | class2 (sckN : Nat)
  | class3 (dckSelect dckReselect linkedGck : Bool) (shortGckVn : Nat)

structure SysinfoExtendedServices where
  (authRequired class1Supported : Bool)
  security : SecurityInformation
  sdstlAddressingMethod : Nat
  gckSupported : Bool
  «section» : Nat
  sectionData : Nat

def SysinfoExtendedServices.fields (e : SysinfoExtendedServices) : List (Nat × Nat) :=
  [(e.authRequired.toNat, 1), (e.class1Supported.toNat, 1)] ++
    (match e.security with
      | .noEncryption => [(0, 1), (0, 5)]
      | .class2 sckN => [(0, 1), (sckN, 5)]
      | .class3 select reselect linked vn =>
        [(1, 1), (select.toNat, 1), (reselect.toNat, 1), (linked.toNat, 1), (vn, 2)]) ++
    [(e.sdstlAddressingMethod, 2), (e.gckSupported.toNat, 1), (e.section, 2), (e.sectionData, 7)]

/-- The optional part of SYSINFO, with the flag that announces it. -/
inductive SysinfoOptField where
  | defaultDefForAccCodeA (d : SysinfoDefaultDefForAccessCodeA)
  | extServicesBroadcast (e : SysinfoExtendedServices)

def SysinfoOptField.fields : SysinfoOptField → List (Nat × Nat)
  | defaultDefForAccCodeA d => (2, 2) :: d.fields
  | extServicesBroadcast e => (3, 2) :: e.fields

structure MacSysinfo where
  (mainCarrier freqBand freqOffsetIndex duplexSpacing : Nat)
  reverseOperation : Bool
  (numOfCsch msTxpwrMaxCell rxlevAccessMin accessParameter radioDlTimeout : Nat)
  (cckId hyperframeNumber : Option Nat)
  optionField : SysinfoOptField

/-- `none` where not exactly one of key id and hyperframe number is set. -/
def MacSysinfo.fields (m : MacSysinfo) : Option (List (Nat × Nat)) :=
  let start := [(2, 2), (0, 2), (m.mainCarrier, 12), (m.freqBand, 4), (m.freqOffsetIndex, 2),
    (m.duplexSpacing, 3), (m.reverseOperation.toNat, 1), (m.numOfCsch, 2), (m.msTxpwrMaxCell, 3),
    (m.rxlevAccessMin, 4), (m.accessParameter, 4), (m.radioDlTimeout, 4)]
  match m.cckId, m.hyperframeNumber with
  | some cck, none => some (start ++ [(1, 1), (cck, 16)] ++ m.optionField.fields)
  | none, some h => some (start ++ [(0, 1), (h, 16)] ++ m.optionField.fields)
  | _, _ => none

structure BsServiceDetails where
  (registration deregistration priorityCell noMinimumMode migration systemWideServices : Bool)
  (voiceService circuitModeDataService sndcpService aieService advancedLink : Bool)

structure DMleSysinfo where
  (locationArea subscriberClass : Nat)
  bsServiceDetails : BsServiceDetails

def DMleSysinfo.fields (m : DMleSysinfo) : List (Nat × Nat) :=
  let d := m.bsServiceDetails
  [(m.locationArea, 14), (m.subscriberClass, 16), (d.registration.toNat, 1),
    (d.deregistration.toNat, 1), (d.priorityCell.toNat, 1), (d.noMinimumMode.toNat, 1),
    (d.migration.toNat, 1), (d.systemWideServices.toNat, 1), (d.voiceService.toNat, 1),
    (d.circuitModeDataService.toNat, 1), (0, 1), (d.sndcpService.toNat, 1), (d.aieService.toNat, 1),
    (d.advancedLink.toNat, 1)]

/-- Broadcast PDUs kept ready; time and hyperframe are filled in for each slot. -/
structure PrecomputedUmacPdus where
  (macSysinfo1 macSysinfo2 : MacSysinfo)
  mleSysinfo : DMleSysinfo
  macSync : MacSync
  mleSync : DMleSync

def PrecomputedUmacPdus.setSystemWideServices (p : PrecomputedUmacPdus) (enabled : Bool) :
    PrecomputedUmacPdus :=
  { p with mleSysinfo.bsServiceDetails.systemWideServices := enabled }

inductive AccessAssignUlUsage where
  | commonOnly | commonAndAssigned | assignedOnly | unallocated
  | traffic (marker : Nat)
deriving DecidableEq

def AccessAssignUlUsage.toUsageMarker : AccessAssignUlUsage → Option Nat
  | unallocated => some 0
  | traffic marker => some marker
  | _ => none

inductive AccessAssignDlUsage where
  | unallocated | assignedControl | commonControl | commonAndAssigned
  | traffic (marker : Nat)
deriving DecidableEq

def AccessAssignDlUsage.toUsageMarker : AccessAssignDlUsage → Nat
  | unallocated => 0
  | assignedControl => 1
  | commonControl => 2
  | commonAndAssigned => 3
  | traffic marker => marker

structure AccessField where
  (accessCode baseFrameLen : Nat)

namespace AccessField

def valid (a : AccessField) : Bool := decide (a.accessCode ≤ 3) && decide (a.baseFrameLen ≤ 15)

def fields (a : AccessField) : List (Nat × Nat) := [(a.accessCode, 2), (a.baseFrameLen, 4)]

end AccessField

theorem AccessField.fits {a : AccessField} (h : a.valid = true) : FieldsFit a.fields := by
  simp only [AccessField.valid, Bool.and_eq_true, decide_eq_true_eq] at h
  simp only [AccessField.fields, FieldsFit, mem_cons, not_mem_nil, or_false,
    forall_eq_or_imp, forall_eq]
  omega

/-- Where the code logs an invalid request it writes nothing. -/
structure AccessAssign where
  dlUsage : AccessAssignDlUsage
  ulUsage : AccessAssignUlUsage
  (f1Af1 f2Af2 f2Af : Option AccessField)

namespace AccessAssign

def default : AccessAssign := ⟨.commonControl, .commonOnly, none, none, none⟩

/-- The fields to write, none for a request that does not pass validation. -/
def fields (a : AccessAssign) : List (Nat × Nat) :=
  let dl := a.dlUsage.toUsageMarker
  if dl > 63 then []
  else if a.dlUsage = .commonControl ∧ a.ulUsage = .commonOnly then
    match a.f1Af1, a.f2Af2, a.f2Af with
    | some f1, some f2, none =>
      if f1.valid && f2.valid then (0, 2) :: f1.fields ++ f2.fields else []
    | _, _, _ => []
  else if a.ulUsage = .commonAndAssigned then
    match a.f2Af with
    | some af => if af.valid then [(1, 2), (dl, 6)] ++ af.fields else []
    | none => []
  else if a.ulUsage = .assignedOnly then
    match a.f2Af with
    | some af => if af.valid then [(2, 2), (dl, 6)] ++ af.fields else []
    | none => []
  else
    match a.ulUsage.toUsageMarker with
    | some ul => if ul > 63 then [] else [(3, 2), (dl, 6), (ul, 6)]
    | none => []

def toBitbuf (a : AccessAssign) (b : BitBuffer) : Option BitBuffer := writeFields a.fields b

/-- Valid or not, the fields go into the 14 bits of the broadcast block. -/
theorem fits (a : AccessAssign) : FieldsFit a.fields ∧ (fieldBits a.fields).length ≤ 14 := by
  unfold fields
  dsimp only
  repeat' split
  all_goals first
    | exact ⟨fun _ h => (nomatch h), Nat.zero_le _⟩
    | (rename_i hv
       simp only [Bool.and_eq_true] at hv
       refine ⟨FieldsFit.append ?_ (AccessField.fits hv.2), by
         simp [AccessField.fields]⟩
       intro f hf
       rcases mem_cons.mp hf with rfl | hf
       · exact ⟨by decide, by decide⟩
       · exact AccessField.fits hv.1 f hf)
    | (rename_i hv
       refine ⟨FieldsFit.append ?_ (AccessField.fits hv), by
         simp [AccessField.fields]⟩
       simp only [FieldsFit, mem_cons, not_mem_nil, or_false, forall_eq_or_imp, forall_eq]
       omega)
    | (refine ⟨?_, by simp⟩
       simp only [FieldsFit, mem_cons, not_mem_nil, or_false, forall_eq_or_imp, forall_eq]
       omega)

end AccessAssign

/-- The access assignment of frame 18, which only speaks of the uplink. -/
structure AccessAssignFr18 where
  ulUsage : AccessAssignUlUsage
  (f1Af1 f2Af2 f2Af : Option AccessField)

namespace AccessAssignFr18

/-- Header and the two access fields of a subslot pair. -/
def pairFields (a : AccessAssignFr18) (header : Nat) : List (Nat × Nat) :=
  match a.f1Af1, a.f2Af2, a.f2Af with
  | some f1, some f2, none =>
    if f1.valid && f2.valid then (header, 2) :: f1.fields ++ f2.fields else []
  | _, _, _ => []

def fields (a : AccessAssignFr18) : List (Nat × Nat) :=
  match a.ulUsage with
  | .commonOnly => a.pairFields 0
  | .commonAndAssigned => a.pairFields 1
  | .assignedOnly => a.pairFields 2
  | .traffic marker =>
    match a.f1Af1, a.f2Af2, a.f2Af with
    | none, none, some af =>
      if af.valid = false then []
      -- the header is out before the marker is checked
      else if marker > 63 then [(3, 2)]
      else [(3, 2), (marker, 6)] ++ af.fields
    | _, _, _ => []
  | .unallocated => []

def toBitbuf (a : AccessAssignFr18) (b : BitBuffer) : Option BitBuffer := writeFields a.fields b

theorem pairFields_fits (a : AccessAssignFr18) (hh : header < 4) :
    FieldsFit (a.pairFields header) ∧ (fieldBits (a.pairFields header)).length ≤ 14 := by
  unfold pairFields
  repeat' split
  · rename_i hv
    simp only [Bool.and_eq_true] at hv
    refine ⟨FieldsFit.append ?_ (AccessField.fits hv.2), by
      simp [AccessField.fields]⟩
    intro f hf
    rcases mem_cons.mp hf with rfl | hf
    · exact ⟨(by decide : 2 ≤ 64), hh⟩
    · exact AccessField.fits hv.1 f hf
  all_goals exact ⟨fun _ h => (nomatch h), Nat.zero_le _⟩

theorem fits (a : AccessAssignFr18) : FieldsFit a.fields ∧ (fieldBits a.fields).length ≤ 14 := by
  unfold fields
  repeat' split
  all_goals first
    | exact a.pairFields_fits (by decide)
    | exact ⟨fun _ h => (nomatch h), Nat.zero_le _⟩
    | exact ⟨by decide, by decide⟩
    | (rename_i hv hm
       simp only [Bool.not_eq_false] at hv
       refine ⟨FieldsFit.append ?_ (AccessField.fits hv), by
         simp [AccessField.fields]⟩
       simp only [FieldsFit, mem_cons, not_mem_nil, or_false, forall_eq_or_imp, forall_eq]
       omega)

end AccessAssignFr18

/-! Decoding, as a radio does it -/

def AccessAssignUlUsage.fromUsageMarker (field : Nat) : Option AccessAssignUlUsage :=
  if field = 0 then some .unallocated else if field < 4 then none else some (.traffic field)

def AccessAssignDlUsage.fromUsageMarker : Nat → AccessAssignDlUsage
  | 0 => .unallocated
  | 1 => .assignedControl
  | 2 => .commonControl
  | 3 => .commonAndAssigned
  | marker => .traffic marker

def AccessField.ofField (field : Nat) : AccessField := ⟨field / 16 % 4, field % 16⟩

/-- The element by its header. -/
def AccessAssign.ofFields (header field1 field2 : Nat) : PduParser AccessAssign :=
  match header with
  | 0 => pure ⟨.commonControl, .commonOnly, some (.ofField field1), some (.ofField field2), none⟩
  | 1 => pure ⟨.fromUsageMarker field1, .commonAndAssigned, none, none, some (.ofField field2)⟩
  | 2 => pure ⟨.fromUsageMarker field1, .assignedOnly, none, none, some (.ofField field2)⟩
  | 3 =>
    match AccessAssignUlUsage.fromUsageMarker field2 with
    | some ul => pure ⟨.fromUsageMarker field1, ul, none, none, none⟩
    | none => PduParser.fail (.invalidValue "ul_usage" field2)
  | header => PduParser.fail (.invalidValue "header" header)

def AccessAssign.fromBitbuf : PduParser AccessAssign := do
  let header ← PduParser.field 2 "_header"
  let field1 ← PduParser.field 6 "field1"
  let field2 ← PduParser.field 6 "field2"
  ofFields header field1 field2

/-- The element of frame 18; its header for traffic takes no other marker. -/
def AccessAssignFr18.ofFields (header field1 field2 : Nat) : PduParser AccessAssignFr18 :=
  match header with
  | 0 => pure ⟨.commonOnly, some (.ofField field1), some (.ofField field2), none⟩
  | 1 => pure ⟨.commonAndAssigned, some (.ofField field1), some (.ofField field2), none⟩
  | 2 => pure ⟨.assignedOnly, some (.ofField field1), some (.ofField field2), none⟩
  | 3 =>
    match AccessAssignUlUsage.fromUsageMarker field1 with
    | some (.traffic marker) => pure ⟨.traffic marker, none, none, some (.ofField field2)⟩
    | _ => PduParser.fail (.invalidValue "ul_usage" field1)
  | header => PduParser.fail (.invalidValue "header" header)

def AccessAssignFr18.fromBitbuf : PduParser AccessAssignFr18 := do
  let header ← PduParser.field 2 "_header"
  let field1 ← PduParser.field 6 "field1"
  let field2 ← PduParser.field 6 "field2"
  ofFields header field1 field2

/-- Fields that fit into a new block leave its length alone. -/
theorem writeFields_new (hf : FieldsFit fs) (h : (fieldBits fs).length ≤ n) :
    ∃ b, writeFields fs (BitBuffer.new n) = some b ∧ b.len = n := by
  refine ⟨_, writeFields_eq hf (by simpa [BitBuffer.new] using h), ?_⟩
  simp only [BitBuffer.len, BitBuffer.new, length_append, length_drop,
    length_replicate, length_nil]
  omega

/-- Each configured value fits its field, and the time and the hyperframe number go
with them. -/
structure CellOk (p : PrecomputedUmacPdus) : Prop where
  macSync : FieldsFit p.macSync.fields
  mleSync : FieldsFit p.mleSync.fields
  macSysinfo1 : p.macSysinfo1.cckId = none ∧ ∀ fs,
    { p.macSysinfo1 with hyperframeNumber := some 0 }.fields = some fs → FieldsFit fs
  macSysinfo2 : p.macSysinfo2.cckId = none ∧ ∀ fs,
    { p.macSysinfo2 with hyperframeNumber := some 0 }.fields = some fs → FieldsFit fs
  mleSysinfo : FieldsFit p.mleSysinfo.fields

namespace CellOk

variable {p : PrecomputedUmacPdus}

theorem sync_fits (h : CellOk p) (t : TdmaTime) :
    FieldsFit { p.macSync with time := t }.fields := by
  have hs := h.macSync
  obtain ⟨ht, hf, hm⟩ := (⟨t.t_range, t.f_range, t.m_range⟩ : _ ∧ _ ∧ _)
  simp only [MacSync.fields, FieldsFit, mem_cons, not_mem_nil, or_false,
    forall_eq_or_imp, forall_eq] at hs ⊢
  omega

theorem setSystemWideServices (h : CellOk p) (enabled : Bool) :
    CellOk (p.setSystemWideServices enabled) := by
  refine ⟨h.macSync, h.mleSync, h.macSysinfo1, h.macSysinfo2, ?_⟩
  have hs := h.mleSysinfo
  have he : enabled.toNat < 2 := by cases enabled <;> decide
  simp only [DMleSysinfo.fields, FieldsFit, mem_cons, not_mem_nil, or_false,
    forall_eq_or_imp, forall_eq, PrecomputedUmacPdus.setSystemWideServices] at hs ⊢
  omega

theorem stamped (h : CellOk p) (ts : TdmaTime) : CellOk { p with
    macSync.time := ts
    macSysinfo1.hyperframeNumber := some ts.h
    macSysinfo2.hyperframeNumber := some ts.h } :=
  ⟨h.sync_fits ts, h.mleSync, h.macSysinfo1, h.macSysinfo2, h.mleSysinfo⟩

end CellOk

/-- System information with any hyperframe number fits if it does with the first. -/
theorem MacSysinfo.fields_fit {m : MacSysinfo} (hc : m.cckId = none)
    (hf : ∀ fs, { m with hyperframeNumber := some 0 }.fields = some fs → FieldsFit fs)
    (hh : h < 65536) : ∃ fs, { m with hyperframeNumber := some h }.fields = some fs ∧
      FieldsFit fs ∧ (fieldBits fs).length = 82 := by
  obtain ⟨_, _, _, _, _, _, _, _, _, _, cck, hyper, opt⟩ := m
  dsimp only at hc
  subst hc
  have h0 := hf _ rfl
  refine ⟨_, rfl, ?_, ?_⟩
  · refine FieldsFit.append (FieldsFit.append ?_ ?_) ?_
    · exact fun f hm => h0 f (mem_append_left _ (mem_append_left _ hm))
    · simp only [FieldsFit, mem_cons, not_mem_nil, or_false, forall_eq_or_imp, forall_eq]
      omega
    · exact fun f hm => h0 f (mem_append_right _ hm)
  · rw [length_fieldBits]
    cases opt with
    | defaultDefForAccCodeA =>
      simp [SysinfoOptField.fields, SysinfoDefaultDefForAccessCodeA.fields]
    | extServicesBroadcast e =>
      simp only [SysinfoOptField.fields, SysinfoExtendedServices.fields]
      cases e.security <;> simp

end NexusBs
