import NexusBs.Pdus.Elements

namespace NexusBs
open Lib BitBuffer PduParser

inductive MacResourceAddrType where
  | nullPdu | ssi | eventLabel | ussi | smi | ssiAndEventLabel | ssiAndUsageMarker
  | smiAndEventLabel
deriving DecidableEq

namespace MacResourceAddrType

def intoRaw : MacResourceAddrType → Nat
  | nullPdu => 0
  | ssi => 1
  | eventLabel => 2
  | ussi => 3
  | smi => 4
  | ssiAndEventLabel => 5
  | ssiAndUsageMarker => 6
  | smiAndEventLabel => 7

def tryFrom : Nat → Option MacResourceAddrType
  | 0 => some nullPdu
  | 1 => some ssi
  | 2 => some eventLabel
  | 3 => some ussi
  | 4 => some smi
  | 5 => some ssiAndEventLabel
  | 6 => some ssiAndUsageMarker
  | 7 => some smiAndEventLabel
  | _ => none

@[simp] theorem tryFrom_intoRaw (a : MacResourceAddrType) : tryFrom a.intoRaw = some a := by
  cases a <;> rfl

theorem intoRaw_lt (a : MacResourceAddrType) : a.intoRaw < 8 := by cases a <;> decide

end MacResourceAddrType

/-- MAC-RESOURCE: header of a downlink message, with its optional elements. -/
structure MacResource where
  fillBits : Bool
  (posOfGrant encryptionMode : Nat)
  randomAccessFlag : Bool
  lengthInd : Nat
  addr : Option TetraAddress
  (eventLabel usageMarker powerControlElement : Option Nat)
  slotGrantingElement : Option BasicSlotgrant
  chanAllocElement : Option ChanAllocElement
deriving DecidableEq

namespace MacResource

def nullPdu : MacResource :=
  ⟨false, 0, 0, false, 2, none, none, none, none, none, none⟩

def isNullPdu (m : MacResource) : Bool :=
  m.addr.isNone && m.eventLabel.isNone && m.usageMarker.isNone

def readAddr : MacResourceAddrType → PduParser (Option TetraAddress × Option Nat × Option Nat)
  | .nullPdu => pure (none, none, none)
  | .ssi => do
    let ssi ← field 24 "ssi"
    pure (some ⟨ssi, .ssi⟩, none, none)
  | .eventLabel => do
    let label ← field 10 "event_label"
    pure (none, some label, none)
  | .ussi => do
    let ssi ← field 24 "ussi"
    pure (some ⟨ssi, .ussi⟩, none, none)
  | .smi => do
    let ssi ← field 24 "smi"
    pure (some ⟨ssi, .smi⟩, none, none)
  | .ssiAndEventLabel => do
    let ssi ← field 24 "ssi"
    let label ← field 10 "event_label"
    pure (some ⟨ssi, .ssi⟩, some label, none)
  | .ssiAndUsageMarker => do
    let ssi ← field 24 "ssi"
    let marker ← field 6 "usage_marker"
    pure (some ⟨ssi, .ssi⟩, none, some marker)
  | .smiAndEventLabel => do
    let ssi ← field 24 "smi"
    let label ← field 10 "event_label"
    pure (some ⟨ssi, .smi⟩, some label, none)

def fromBitbuf : PduParser MacResource := do
  let ty ← field 2 "mac_pdu_type"
  if ty ≠ 0 then fail (.invalidValue "mac_pdu_type" ty) else do
    let fill ← field 1 "fill_bits"
    let pos ← field 1 "pos_of_grant"
    let enc ← field 2 "encryption_mode"
    let ra ← field 1 "random_access_flag"
    let li ← field 6 "length_ind"
    let bits ← field 3 "addr_type"
    match MacResourceAddrType.tryFrom bits with
    | none => fail (.invalidValue "addr_type" bits)
    -- the other fields carry no meaning in a null PDU and are set to defaults
    | some .nullPdu => pure ⟨false, 0, 0, false, li, none, none, none, none, none, none⟩
    | some t => do
      let (addr, label, marker) ← readAddr t
      let power ← flagged "power_control_flag" (field 4 "power_control_element")
      let grant ← flagged "slot_granting_flag" BasicSlotgrant.fromBitbuf
      let alloc ← flagged "chan_alloc_flag" ChanAllocElement.fromBitbuf
      pure ⟨fill != 0, pos, enc, ra != 0, li, addr, label, marker, power, grant, alloc⟩

def addrTypeOf (a : TetraAddress) (label marker : Option Nat) :
    Except PduParseErr MacResourceAddrType :=
  if a.ssiType = .ssi ∨ a.ssiType = .gssi ∨ a.ssiType = .issi then
    if label.isNone && marker.isNone then .ok .ssi
    else if label.isSome && marker.isNone then .ok .ssiAndEventLabel
    else if marker.isSome && label.isNone then .ok .ssiAndUsageMarker
    else .error (.inconsistency "event_label/usage_marker"
      "MAC-RESOURCE SSI address may carry event label or usage marker, not both")
  else if a.ssiType = .ussi ∧ label.isNone ∧ marker.isNone then .ok .ussi
  else if a.ssiType = .smi then
    if marker.isSome then .error (.inconsistency "usage_marker"
      "MAC-RESOURCE SMI address may not carry a usage marker")
    else if label.isSome then .ok .smiAndEventLabel
    else .ok .smi
  else .error (.inconsistency "addr.ssi_type"
    "MAC-RESOURCE address type must be SSI/GSSI/ISSI, USSI, or SMI")

/-- An optional number above its limit is an invalid value of its field. -/
def checkMax (field : String) (limit : Nat) (v : Option Nat) : Except PduParseErr Unit :=
  match v with
  | some v => if v > limit then .error (.invalidValue field v) else .ok ()
  | none => .ok ()

def validateForSerialization (m : MacResource) : Except PduParseErr MacResourceAddrType := do
  if m.posOfGrant > 1 then throw (.invalidValue "pos_of_grant" m.posOfGrant) else
  if m.encryptionMode > 3 then throw (.invalidValue "encryption_mode" m.encryptionMode) else
  if m.lengthInd = 0 ∨ m.lengthInd > 0x3f then throw (.invalidValue "length_ind" m.lengthInd) else
  checkMax "addr.ssi" 0xffffff (m.addr.map TetraAddress.ssi)
  checkMax "event_label" 0x3ff m.eventLabel
  checkMax "usage_marker" 0x3f m.usageMarker
  checkMax "power_control_element" 0xf m.powerControlElement
  if m.isNullPdu then return .nullPdu else
  match m.addr with
  | some a => addrTypeOf a m.eventLabel m.usageMarker
  | none =>
    if m.usageMarker.isSome then throw (.inconsistency "usage_marker"
      "MAC-RESOURCE usage marker requires an SSI address")
    else if m.eventLabel.isSome then return .eventLabel
    else return .nullPdu

def addrFields (m : MacResource) : MacResourceAddrType → List (Nat × Nat)
  | .nullPdu => []
  | .ssi | .ussi | .smi => [((m.addr.map TetraAddress.ssi).getD 0, 24)]
  | .eventLabel => [(m.eventLabel.getD 0, 10)]
  | .ssiAndEventLabel | .smiAndEventLabel =>
    [((m.addr.map TetraAddress.ssi).getD 0, 24), (m.eventLabel.getD 0, 10)]
  | .ssiAndUsageMarker =>
    [((m.addr.map TetraAddress.ssi).getD 0, 24), (m.usageMarker.getD 0, 6)]

def optFields (fs : Option (List (Nat × Nat))) : List (Nat × Nat) :=
  match fs with
  | some fs => (1, 1) :: fs
  | none => [(0, 1)]

/-- Channel allocation behind its flag; an unsupported one is left out. -/
def allocFields (c : Option ChanAllocElement) : Option (List (Nat × Nat)) :=
  match c with
  | some c => if c.isSupportedByThisStack then c.fields.map (fun fs => (1, 1) :: fs) else some [(0, 1)]
  | none => some [(0, 1)]

/-- Everything `try_to_bitbuf` writes once the header is validated. -/
def fields (m : MacResource) (t : MacResourceAddrType) : Option (List (Nat × Nat)) :=
  let hdr := [(0, 2), (m.fillBits.toNat, 1), (m.posOfGrant, 1), (m.encryptionMode, 2),
    (m.randomAccessFlag.toNat, 1), (m.lengthInd, 6), (t.intoRaw, 3)] ++ m.addrFields t
  if t = .nullPdu then some hdr
  else (allocFields m.chanAllocElement).map (fun alloc =>
    hdr ++ (optFields (m.powerControlElement.map (fun v => [(v, 4)])) ++
      (optFields (m.slotGrantingElement.map BasicSlotgrant.fields) ++ alloc)))

/-- `Err` leaves the buffer as it was; `none` is a panic inside a write. -/
def tryToBitbuf (m : MacResource) (b : BitBuffer) : Option (Except PduParseErr BitBuffer) :=
  match m.validateForSerialization with
  | .error e => some (.error e)
  | .ok t =>
    if t ≠ .nullPdu ∧ m.encryptionMode ≠ 0 then some (.error (.notImplemented "encryption_mode"))
    else (m.fields t).bind (fun fs => (writeFields fs b).map .ok)

/-- A header that does not serialise is only logged. -/
def toBitbuf (m : MacResource) (b : BitBuffer) : Option BitBuffer :=
  (m.tryToBitbuf b).map (fun r => match r with
    | .ok b' => b'
    | .error _ => b)

/-- Bits of a channel allocation behind its flag; an unsupported one is left out. -/
def allocLen (c : Option ChanAllocElement) : Nat :=
  match c with
  | some c => if c.isSupportedByThisStack then c.computeLen else 0
  | none => 0

def computeHeaderLen (m : MacResource) : Nat :=
  if m.isNullPdu then 16
  else 16 + (if m.eventLabel.isSome then 10 else 0) + (if m.usageMarker.isSome then 6 else 0) +
    (if m.addr.isSome then 24 else 0) +
    1 + (if m.powerControlElement.isSome then 4 else 0) +
    1 + (if m.slotGrantingElement.isSome then 8 else 0) +
    1 + allocLen m.chanAllocElement

/-- Length in whole bytes, cast to a byte, and whether fill bits complete it. -/
def updateLenAndFillInd (m : MacResource) (sduLen : Nat) : MacResource :=
  let totalLen := m.computeHeaderLen + sduLen
  { m with lengthInd := (totalLen + 7) / 8 % 256, fillBits := decide ((8 - totalLen % 8) % 8 ≠ 0) }

/-- An address of one of the three SSI kinds, which share a wire format. -/
def IsSsi (a : TetraAddress) : Prop := a.ssiType = .ssi ∨ a.ssiType = .gssi ∨ a.ssiType = .issi

/-- What the address type says about the address part of a header. -/
def Layout (m : MacResource) : MacResourceAddrType → Prop
  | .nullPdu => m.addr = none ∧ m.eventLabel = none ∧ m.usageMarker = none
  | .ssi => (∃ a, m.addr = some a ∧ IsSsi a) ∧ m.eventLabel = none ∧ m.usageMarker = none
  | .eventLabel => m.addr = none ∧ (∃ l, m.eventLabel = some l) ∧ m.usageMarker = none
  | .ussi => (∃ a, m.addr = some a ∧ a.ssiType = .ussi) ∧ m.eventLabel = none ∧ m.usageMarker = none
  | .smi => (∃ a, m.addr = some a ∧ a.ssiType = .smi) ∧ m.eventLabel = none ∧ m.usageMarker = none
  | .ssiAndEventLabel =>
    (∃ a, m.addr = some a ∧ IsSsi a) ∧ (∃ l, m.eventLabel = some l) ∧ m.usageMarker = none
  | .ssiAndUsageMarker =>
    (∃ a, m.addr = some a ∧ IsSsi a) ∧ m.eventLabel = none ∧ ∃ u, m.usageMarker = some u
  | .smiAndEventLabel =>
    (∃ a, m.addr = some a ∧ a.ssiType = .smi) ∧ (∃ l, m.eventLabel = some l) ∧ m.usageMarker = none

/-- Everything a successful validation says about the header, its length apart. -/
structure Serializable (m : MacResource) (t : MacResourceAddrType) : Prop where
  pos : m.posOfGrant < 2
  enc : m.encryptionMode < 4
  ssi : ∀ a, m.addr = some a → a.ssi < 2 ^ 24
  label : ∀ l, m.eventLabel = some l → l < 2 ^ 10
  marker : ∀ u, m.usageMarker = some u → u < 2 ^ 6
  power : ∀ v, m.powerControlElement = some v → v < 2 ^ 4
  layout : m.Layout t

theorem checkMax_ok (h : checkMax f n v = .ok u) : ∀ x, v = some x → x ≤ n := by
  intro x hx
  subst hx
  simp only [checkMax] at h
  split at h
  · cases h
  · omega

variable {m : MacResource} {t : MacResourceAddrType}

/-- The address type says which of the three elements there are. -/
theorem addrTypeOf_ok (ha : m.addr = some a) (h : addrTypeOf a m.eventLabel m.usageMarker = .ok t) :
    m.Layout t := by
  unfold addrTypeOf at h
  cases hl : m.eventLabel <;> cases hu : m.usageMarker <;>
    simp only [hl, hu, Option.isNone_none, Option.isSome_none, Option.isNone_some,
      Option.isSome_some, Bool.and_true, Bool.and_false, Bool.false_eq_true, if_true, if_false,
      and_false, and_true, and_self] at h
  all_goals
    split at h
    · rename_i hk
      cases h
      all_goals simp [Layout, ha, hl, hu, IsSsi, hk]
    repeat' split at h
    all_goals cases h
    all_goals simp_all [Layout]

theorem except_bind_ok {ε α β : Type} {x : Except ε α} {f : α → Except ε β} {b : β}
    (h : x.bind f = .ok b) : ∃ a, x = .ok a ∧ f a = .ok b := by
  cases x with
  | error => cases h
  | ok a => exact ⟨a, rfl, h⟩

/-- What passes the checks can be written. -/
theorem serializable_of_validate (h : m.validateForSerialization = .ok t) : m.Serializable t := by
  unfold validateForSerialization at h
  simp only [bind, pure, Except.pure, throw, throwThe, MonadExceptOf.throw] at h
  split at h
  · cases h
  split at h
  · cases h
  split at h
  · cases h
  obtain ⟨_, hs, h⟩ := except_bind_ok h
  obtain ⟨_, hl, h⟩ := except_bind_ok h
  obtain ⟨_, hu, h⟩ := except_bind_ok h
  obtain ⟨_, hp, h⟩ := except_bind_ok h
  have hs := checkMax_ok hs
  have hl := checkMax_ok hl
  have hu := checkMax_ok hu
  have hp := checkMax_ok hp
  refine ⟨by omega, by omega, ?_, ?_, ?_, ?_, ?_⟩
  · intro a ha
    have := hs a.ssi (by simp [ha])
    omega
  · intro l he
    have := hl l he
    omega
  · intro u he
    have := hu u he
    omega
  · intro v he
    have := hp v he
    omega
  · cases ha : m.addr with
    | some =>
      simp only [isNullPdu, ha, Option.isNone_some, Bool.false_and, Bool.false_eq_true,
        if_false] at h
      exact addrTypeOf_ok ha h
    | none =>
      cases hl : m.eventLabel <;> cases hu : m.usageMarker <;>
        simp [isNullPdu, ha, hl, hu] at h <;> subst h <;> simp [Layout, ha, hl, hu]

theorem checkMax_eq_ok (h : ∀ x, v = some x → x ≤ n) : checkMax f n v = .ok () := by
  cases v with
  | none => rfl
  | some x => simp [checkMax, Nat.not_lt.mpr (h x rfl)]

/-- A serialisable header passes the validation under every length that is not
reserved. -/
theorem validate_of_serializable (hs : m.Serializable t) (hl : 1 ≤ m.lengthInd ∧ m.lengthInd < 64) :
    m.validateForSerialization = .ok t := by
  have h1 : checkMax "addr.ssi" 0xffffff (m.addr.map TetraAddress.ssi) = .ok () := by
    refine checkMax_eq_ok (fun x hx => ?_)
    obtain ⟨a, ha, rfl⟩ := Option.map_eq_some_iff.mp hx
    exact Nat.le_of_lt_succ (hs.ssi a ha)
  have h2 : checkMax "event_label" 0x3ff m.eventLabel = .ok () :=
    checkMax_eq_ok (fun x hx => Nat.le_of_lt_succ (hs.label x hx))
  have h3 : checkMax "usage_marker" 0x3f m.usageMarker = .ok () :=
    checkMax_eq_ok (fun x hx => Nat.le_of_lt_succ (hs.marker x hx))
  have h4 : checkMax "power_control_element" 0xf m.powerControlElement = .ok () :=
    checkMax_eq_ok (fun x hx => Nat.le_of_lt_succ (hs.power x hx))
  have hp := hs.pos
  have he := hs.enc
  have hk := hs.layout
  unfold validateForSerialization
  rw [if_neg (by omega), if_neg (by omega), if_neg (by omega), h1, h2, h3, h4]
  simp only [bind, pure, Except.bind, Except.pure]
  cases t with
  | nullPdu =>
    obtain ⟨ha, hl, hu⟩ := hk
    simp [isNullPdu, ha, hl, hu]
  | eventLabel =>
    obtain ⟨ha, ⟨l, hl⟩, hu⟩ := hk
    simp [isNullPdu, ha, hl, hu]
  | ssi =>
    obtain ⟨⟨a, ha, hk⟩, hl, hu⟩ := hk
    rcases hk with hk | hk | hk <;> simp [isNullPdu, ha, hl, hu, addrTypeOf, hk]
  | ussi | smi =>
    obtain ⟨⟨a, ha, hk⟩, hl, hu⟩ := hk
    simp [isNullPdu, ha, hl, hu, addrTypeOf, hk]
  | ssiAndEventLabel =>
    obtain ⟨⟨a, ha, hk⟩, ⟨l, hl⟩, hu⟩ := hk
    rcases hk with hk | hk | hk <;> simp [isNullPdu, ha, hl, hu, addrTypeOf, hk]
  | ssiAndUsageMarker =>
    obtain ⟨⟨a, ha, hk⟩, hl, ⟨u, hu⟩⟩ := hk
    rcases hk with hk | hk | hk <;> simp [isNullPdu, ha, hl, hu, addrTypeOf, hk]
  | smiAndEventLabel =>
    obtain ⟨⟨a, ha, hk⟩, ⟨l, hl⟩, hu⟩ := hk
    simp [isNullPdu, ha, hl, hu, addrTypeOf, hk]

/-- A header the sender can put on the air: it passes the validation once it has
a length, it is clear, and its grant and channel allocation have an encoding. -/
structure Valid (m : MacResource) (t : MacResourceAddrType) : Prop where
  validates : ∃ n, { m with lengthInd := n }.validateForSerialization = .ok t
  clear : m.encryptionMode = 0
  grant : ∀ g, m.slotGrantingElement = some g → g.grantingDelay.Valid
  alloc : ∀ c, m.chanAllocElement = some c → c.Valid

theorem Valid.serializable (hv : m.Valid t) : m.Serializable t := by
  obtain ⟨n, hn⟩ := hv.validates
  have hs := serializable_of_validate hn
  exact ⟨hs.pos, hs.enc, hs.ssi, hs.label, hs.marker, hs.power, by
    have := hs.layout
    cases t <;> exact this⟩

theorem Valid.withLen (hv : m.Valid t) (li : Nat) (fill : Bool) :
    { m with lengthInd := li, fillBits := fill }.Valid t := by
  obtain ⟨n, hn⟩ := hv.validates
  exact ⟨⟨n, hn⟩, hv.clear, hv.grant, hv.alloc⟩

theorem Valid.withoutAlloc (hv : m.Valid t) : { m with chanAllocElement := none }.Valid t := by
  obtain ⟨n, hn⟩ := hv.validates
  exact ⟨⟨n, hn⟩, hv.clear, hv.grant, fun _ h => by cases h⟩

/-- The address part as the receiver stores it. -/
def airAddr (a : TetraAddress) : TetraAddress :=
  if a.ssiType = .ussi ∨ a.ssiType = .smi then a else { a with ssiType := .ssi }

/-- The header as a receiver knows it: the three SSI kinds are one on the air, and
a null PDU has nothing but its length. -/
def onAir (m : MacResource) : MacResource :=
  if m.isNullPdu then
    ⟨false, 0, 0, false, m.lengthInd, none, none, none, none, none, none⟩
  else
    { m with
      addr := m.addr.map airAddr
      chanAllocElement := m.chanAllocElement.map ChanAllocElement.onAir }

@[simp] theorem onAir_lengthInd : m.onAir.lengthInd = m.lengthInd := by
  unfold onAir
  split <;> rfl

@[simp] theorem onAir_addr : m.onAir.addr = m.addr.map airAddr := by
  unfold onAir
  split
  · rename_i h
    simp only [isNullPdu, Bool.and_eq_true, Option.isNone_iff_eq_none] at h
    simp [h.1.1]
  · rfl

theorem Valid.onAir_clear (hv : m.Valid t) : m.onAir.encryptionMode = 0 := by
  unfold onAir
  split
  · rfl
  · exact hv.clear

theorem onAir_fillBits (h : m.isNullPdu = true → m.fillBits = false) :
    m.onAir.fillBits = m.fillBits := by
  unfold onAir
  split
  · rename_i hn
    exact (h hn).symm
  · rfl

/-- A valid channel allocation is written and read back. -/
theorem allocFields_eq {c : Option ChanAllocElement} (h : ∀ e, c = some e → e.Valid) :
    ∃ fs, allocFields c = some fs ∧ FieldsFit fs ∧
      (fieldBits fs).length = 1 + allocLen c ∧
      Decodes (flagged "chan_alloc_flag" ChanAllocElement.fromBitbuf) (fieldBits fs)
        (c.map ChanAllocElement.onAir) := by
  cases c with
  | none =>
    refine ⟨[(0, 1)], rfl, by decide, rfl, ?_⟩
    simpa using Decodes.flagged_none "chan_alloc_flag"
  | some c =>
    have hv := h c rfl
    have hf := c.fields_eq hv
    refine ⟨_, by simp only [allocFields, hv.supported, if_true, hf, Option.map_some]; rfl,
      ?_, ?_, ?_⟩
    · intro f hm
      rcases List.mem_cons.mp hm with rfl | hm
      · decide
      · exact ChanAllocElement.fields_fit hv hf f hm
    · have hl := ChanAllocElement.length_fields hv hf
      simp only [fieldBits_cons, List.length_append, length_toBits, hl, allocLen, hv.supported,
        if_true]
    · exact Decodes.flagged_some _ (ChanAllocElement.decodes hv hf)

theorem decodes_grant (h : ∀ e, g = some e → e.grantingDelay.Valid) :
    Decodes (flagged "slot_granting_flag" BasicSlotgrant.fromBitbuf)
      (fieldBits (optFields (g.map BasicSlotgrant.fields))) g := by
  cases g with
  | none => simpa [optFields] using Decodes.flagged_none "slot_granting_flag"
  | some e => exact Decodes.flagged_some _ (BasicSlotgrant.decodes (h e rfl))

theorem decodes_power (h : ∀ x, v = some x → x < 2 ^ 4) :
    Decodes (flagged "power_control_flag" (field 4 "power_control_element"))
      (fieldBits (optFields (v.map (fun v => [(v, 4)])))) v := by
  cases v with
  | none => simpa [optFields] using Decodes.flagged_none "power_control_flag"
  | some x =>
    have := Decodes.flagged_some "power_control_flag"
      (Decodes.field "power_control_element" (n := 4) (by decide) (h x rfl))
    simpa [optFields] using this

theorem airAddr_isSsi (h : IsSsi a) : airAddr a = ⟨a.ssi, .ssi⟩ := by
  rcases h with h | h | h <;> simp [airAddr, h]

/-- The kind of an SSI is not sent and reads back as a plain one. -/
theorem decodes_addr (hs : m.Serializable t) :
    Decodes (readAddr t) (fieldBits (m.addrFields t))
      (m.addr.map airAddr, m.eventLabel, m.usageMarker) := by
  have hl := hs.layout
  have h24 := hs.ssi
  have h10 := hs.label
  have h6 := hs.marker
  cases t with
  | nullPdu =>
    obtain ⟨ha, he, hu⟩ := hl
    simpa [readAddr, addrFields, ha, he, hu] using Decodes.pure _
  | ssi =>
    obtain ⟨⟨a, ha, hk⟩, he, hu⟩ := hl
    simp only [addrFields, ha, he, hu, Option.map_some, Option.getD_some, airAddr_isSsi hk]
    exact .next (by decide) (h24 a ha) (.pure _)
  | eventLabel =>
    obtain ⟨ha, ⟨l, he⟩, hu⟩ := hl
    simp only [addrFields, ha, he, hu, Option.map_none, Option.getD_some]
    exact .next (by decide) (h10 l he) (.pure _)
  | ussi | smi =>
    obtain ⟨⟨⟨n, k⟩, ha, hk⟩, he, hu⟩ := hl
    subst hk
    simp only [addrFields, ha, he, hu, Option.map_some, Option.getD_some]
    exact .next (by decide) (h24 _ ha) (.pure _)
  | ssiAndEventLabel =>
    obtain ⟨⟨a, ha, hk⟩, ⟨l, he⟩, hu⟩ := hl
    simp only [addrFields, ha, he, hu, Option.map_some, Option.getD_some, airAddr_isSsi hk]
    exact .next (by decide) (h24 a ha) (.next (by decide) (h10 l he) (.pure _))
  | ssiAndUsageMarker =>
    obtain ⟨⟨a, ha, hk⟩, he, ⟨u, hu⟩⟩ := hl
    simp only [addrFields, ha, he, hu, Option.map_some, Option.getD_some, airAddr_isSsi hk]
    exact .next (by decide) (h24 a ha) (.next (by decide) (h6 u hu) (.pure _))
  | smiAndEventLabel =>
    obtain ⟨⟨⟨n, k⟩, ha, hk⟩, ⟨l, he⟩, hu⟩ := hl
    subst hk
    simp only [addrFields, ha, he, hu, Option.map_some, Option.getD_some]
    exact .next (by decide) (h24 _ ha) (.next (by decide) (h10 l he) (.pure _))

theorem addrFields_fit (hs : m.Serializable t) : FieldsFit (m.addrFields t) := by
  have hl := hs.layout
  have h24 : ∀ a, m.addr = some a → a.ssi < 16777216 := hs.ssi
  have h10 : ∀ l, m.eventLabel = some l → l < 1024 := hs.label
  have h6 : ∀ u, m.usageMarker = some u → u < 64 := hs.marker
  cases t with
  | nullPdu => simp [addrFields, FieldsFit]
  | eventLabel =>
    obtain ⟨_, ⟨l, he⟩, _⟩ := hl
    simp [addrFields, FieldsFit, he, h10 l he]
  | ssi | ussi | smi =>
    obtain ⟨⟨a, ha, _⟩, _⟩ := hl
    simp [addrFields, FieldsFit, ha, h24 a ha]
  | ssiAndEventLabel | smiAndEventLabel =>
    obtain ⟨⟨a, ha, _⟩, ⟨l, he⟩, _⟩ := hl
    simp [addrFields, FieldsFit, ha, he, h24 a ha, h10 l he]
  | ssiAndUsageMarker =>
    obtain ⟨⟨a, ha, _⟩, _, ⟨u, hu⟩⟩ := hl
    simp [addrFields, FieldsFit, ha, hu, h24 a ha, h6 u hu]

theorem Layout.isNullPdu (h : m.Layout t) : m.isNullPdu = decide (t = .nullPdu) := by
  cases t with
  | nullPdu =>
    obtain ⟨ha, he, hu⟩ := h
    simp [MacResource.isNullPdu, ha, he, hu]
  | eventLabel =>
    obtain ⟨_, ⟨l, he⟩, _⟩ := h
    simp [MacResource.isNullPdu, he]
  | ssi | ussi | smi | ssiAndEventLabel | smiAndEventLabel | ssiAndUsageMarker =>
    obtain ⟨⟨a, ha, _⟩, _⟩ := h
    simp [MacResource.isNullPdu, ha]

theorem length_addrFields (h : m.Layout t) :
    (fieldBits (m.addrFields t)).length = (if m.eventLabel.isSome then 10 else 0) +
      (if m.usageMarker.isSome then 6 else 0) + (if m.addr.isSome then 24 else 0) := by
  rw [length_fieldBits]
  cases t with
  | nullPdu | ssi | ussi | smi | eventLabel | ssiAndEventLabel | smiAndEventLabel
  | ssiAndUsageMarker =>
    obtain ⟨ha, he, hu⟩ := h
    first | obtain ⟨a, ha, _⟩ := ha | skip
    first | obtain ⟨l, he⟩ := he | skip
    first | obtain ⟨u, hu⟩ := hu | skip
    simp [addrFields, ha, he, hu]

theorem optFields_fit (h : ∀ l, fs = some l → FieldsFit l) : FieldsFit (optFields fs) := by
  cases fs with
  | none => decide
  | some l =>
    intro f hf
    rcases List.mem_cons.mp hf with rfl | hf
    · decide
    · exact h l rfl f hf

def headFields (m : MacResource) (t : MacResourceAddrType) : List (Nat × Nat) :=
  [(0, 2), (m.fillBits.toNat, 1), (m.posOfGrant, 1), (m.encryptionMode, 2),
    (m.randomAccessFlag.toNat, 1), (m.lengthInd, 6), (t.intoRaw, 3)]

def tailFields (m : MacResource) (t : MacResourceAddrType) (alloc : List (Nat × Nat)) :
    List (Nat × Nat) :=
  if t = .nullPdu then []
  else m.addrFields t ++ (optFields (m.powerControlElement.map (fun v => [(v, 4)])) ++
    (optFields (m.slotGrantingElement.map BasicSlotgrant.fields) ++ alloc))

theorem fields_eq (h : allocFields m.chanAllocElement = some alloc) :
    m.fields t = some (m.headFields t ++ m.tailFields t alloc) := by
  unfold fields tailFields
  split
  · rename_i ht
    subst ht
    rfl
  · simp [h, headFields]

theorem tailFields_fit (hs : m.Serializable t)
    (hg : ∀ g, m.slotGrantingElement = some g → g.grantingDelay.Valid) (ha : FieldsFit alloc) :
    FieldsFit (m.tailFields t alloc) := by
  unfold tailFields
  split
  · decide
  refine (addrFields_fit hs).append (.append (optFields_fit fun l h => ?_)
    (.append (optFields_fit fun l h => ?_) ha))
  · obtain ⟨v, hv, rfl⟩ := Option.map_eq_some_iff.mp h
    have : v < 16 := hs.power v hv
    simp [FieldsFit, this]
  · obtain ⟨g, he, rfl⟩ := Option.map_eq_some_iff.mp h
    exact BasicSlotgrant.fields_fit (hg g he)

/-- What the sender writes for a valid header: as many bits as announced, which a
receiver reads back. -/
theorem encodes (hv : m.Valid t) (hl : 1 ≤ m.lengthInd ∧ m.lengthInd < 64) :
    ∃ bits, bits.length = m.computeHeaderLen ∧ Writes m.toBitbuf bits ∧
      Decodes fromBitbuf bits m.onAir := by
  have hs := hv.serializable
  have hn := hs.layout.isNullPdu
  have hb : ∀ b : Bool, b.toNat < 2 := fun b => by cases b <;> decide
  have hnz : ∀ b : Bool, (b.toNat != 0) = b := fun b => by cases b <;> rfl
  have hp := hs.pos
  have ht := t.intoRaw_lt
  obtain ⟨alloc, ha, hfit, hlen, hdec⟩ := allocFields_eq hv.alloc
  have hhead : FieldsFit (m.headFields t) := by
    simp [headFields, FieldsFit, hb, hp, hv.clear, hl.2, ht]
  refine ⟨fieldBits (m.headFields t ++ m.tailFields t alloc), ?_, fun b hroom => ?_, ?_⟩
  · rw [fieldBits_append, List.length_append, computeHeaderLen, hn]
    unfold tailFields
    split
    · simp [headFields, *]
    · rename_i h0
      simp only [fieldBits_append, List.length_append, hlen, length_addrFields hs.layout, h0]
      cases m.powerControlElement <;> cases m.slotGrantingElement <;>
        simp [headFields, optFields, BasicSlotgrant.fields] <;> omega
  · simp [toBitbuf, tryToBitbuf, validate_of_serializable hs hl, hv.clear, fields_eq ha,
      writeFields_eq (hhead.append (tailFields_fit hs hv.grant hfit)) hroom]
  · rw [fieldBits_append]
    simp only [headFields, fieldBits_cons, fieldBits_nil, List.append_assoc, List.nil_append]
    refine .next (by decide) (by decide) ?_
    refine .next (by decide) (hb _) ?_
    refine .next (by decide) hp ?_
    refine .next (by decide) hs.enc ?_
    refine .next (by decide) (hb _) ?_
    refine .next (by decide) hl.2 ?_
    refine .next (by decide) ht ?_
    rw [MacResourceAddrType.tryFrom_intoRaw, tailFields, onAir, hn]
    by_cases h0 : t = .nullPdu
    · subst h0
      exact .pure _
    · simp only [h0, hnz, decide_false, Bool.false_eq_true, if_false, fieldBits_append]
      refine .bind (decodes_addr hs) (.bind (decodes_power hs.power) (.bind (decodes_grant hv.grant) ?_))
      have := Decodes.bind (q := fun alloc => (Pure.pure ⟨m.fillBits, m.posOfGrant,
        m.encryptionMode, m.randomAccessFlag, m.lengthInd, m.addr.map airAddr, m.eventLabel,
        m.usageMarker, m.powerControlElement, m.slotGrantingElement, alloc⟩ :
          PduParser MacResource)) hdec (.pure _)
      rwa [List.append_nil] at this

/-- Every MAC-RESOURCE starts with its PDU type. -/
theorem type_of_decodes (h : Decodes fromBitbuf bits m) : ofBits (bits.take 2) = 0 := by
  have h := h [] [] [] [] false
  rw [List.append_nil] at h
  have h := (ite_fail_ok (field_bind_ok h).2).1
  simpa using h

end MacResource

/-- MAC-FRAG: a middle fragment, which always fills its slot. -/
structure MacFragDl where
  fillBits : Bool

namespace MacFragDl

def fromBitbuf : PduParser MacFragDl := do
  let ty ← field 2 "mac_pdu_type"
  if ty ≠ 1 then fail (.invalidValue "mac_pdu_type" ty) else do
    let sub ← field 1 "pdu_subtype"
    if sub ≠ 0 then fail (.invalidValue "pdu_subtype" sub) else do
      let fill ← field 1 "fill_bits"
      pure ⟨fill != 0⟩

def toBitbuf (m : MacFragDl) (b : BitBuffer) : Option BitBuffer :=
  writeFields [(1, 2), (0, 1), (m.fillBits.toNat, 1)] b

/-- A MAC-FRAG has four bits of header. -/
theorem encodes (m : MacFragDl) :
    ∃ bits, bits.length = 4 ∧ Writes m.toBitbuf bits ∧ Decodes fromBitbuf bits m := by
  have hb : m.fillBits.toNat < 2 := by cases m.fillBits <;> decide
  have hnz : (m.fillBits.toNat != 0) = m.fillBits := by cases m.fillBits <;> rfl
  refine ⟨_, ?_, Writes.fields [(1, 2), (0, 1), (m.fillBits.toNat, 1)] ?_, ?_⟩
  · simp
  · simp [FieldsFit, hb]
  · simp only [fieldBits_cons, fieldBits_nil]
    refine .next (by decide) (by decide) ?_
    refine .next (by decide) (by decide) ?_
    refine .next (by decide) hb ?_
    simp only [hnz]
    exact Decodes.pure m

theorem type_of_decodes (h : Decodes fromBitbuf bits m) :
    ofBits (bits.take 2) = 1 ∧ ofBits ((bits.drop 2).take 1) = 0 := by
  have h := h [] [] [] [] false
  rw [List.append_nil] at h
  obtain ⟨hty, h⟩ := ite_fail_ok (field_bind_ok h).2
  have hsub := (ite_fail_ok (field_bind_ok h).2).1
  exact ⟨by simpa using hty, by simpa using hsub⟩

end MacFragDl

/-- MAC-END: the last fragment, with the elements that apply to the whole message. -/
structure MacEndDl where
  fillBits : Bool
  (posOfGrant lengthInd : Nat)
  slotGrantingElement : Option BasicSlotgrant
  chanAllocElement : Option ChanAllocElement

namespace MacEndDl

def fromBitbuf : PduParser MacEndDl := do
  let ty ← field 2 "mac_pdu_type"
  if ty ≠ 1 then fail (.invalidValue "mac_pdu_type" ty) else do
    let sub ← field 1 "pdu_subtype"
    if sub ≠ 1 then fail (.invalidValue "pdu_subtype" sub) else do
      let fill ← field 1 "fill_bits"
      let pos ← field 1 "pos_of_grant"
      let li ← field 6 "length_ind"
      if li = 0 then fail (.invalidValue "length_ind" 0) else do
        let grant ← flagged "slot_granting_flag" BasicSlotgrant.fromBitbuf
        let alloc ← flagged "chan_alloc_flag" ChanAllocElement.fromBitbuf
        pure ⟨fill != 0, pos, li, grant, alloc⟩

def computeHdrLen (hasSlotgrant : Bool) (c : Option ChanAllocElement) : Nat :=
  2 + 1 + 1 + 1 + 6 + 1 + (if hasSlotgrant then 8 else 0) + 1 + MacResource.allocLen c

def toBitbuf (m : MacEndDl) (b : BitBuffer) : Option BitBuffer :=
  (MacResource.allocFields m.chanAllocElement).bind (fun alloc =>
    writeFields ([(1, 2), (1, 1), (m.fillBits.toNat, 1), (m.posOfGrant, 1), (m.lengthInd, 6)] ++
      (MacResource.optFields (m.slotGrantingElement.map BasicSlotgrant.fields) ++ alloc)) b)

/-- The header as a receiver knows it. -/
def onAir (m : MacEndDl) : MacEndDl :=
  { m with chanAllocElement := m.chanAllocElement.map ChanAllocElement.onAir }

/-- A MAC-END without a grant is written in the announced length and read back. -/
theorem encodes {m : MacEndDl} (hp : m.posOfGrant < 2) (hl : 1 ≤ m.lengthInd ∧ m.lengthInd < 64)
    (hg : m.slotGrantingElement = none) (hc : ∀ c, m.chanAllocElement = some c → c.Valid) :
    ∃ bits, bits.length = computeHdrLen false m.chanAllocElement ∧ Writes m.toBitbuf bits ∧
      Decodes fromBitbuf bits m.onAir := by
  have hb : m.fillBits.toNat < 2 := by cases m.fillBits <;> decide
  have hnz : (m.fillBits.toNat != 0) = m.fillBits := by cases m.fillBits <;> rfl
  obtain ⟨fs, hfs, hfit, hlen, hdec⟩ := MacResource.allocFields_eq hc
  have hto : m.toBitbuf = writeFields
      ([(1, 2), (1, 1), (m.fillBits.toNat, 1), (m.posOfGrant, 1), (m.lengthInd, 6)] ++
        ([(0, 1)] ++ fs)) := by
    funext b
    simp [toBitbuf, hfs, hg, MacResource.optFields]
  have hhdr : FieldsFit
      [(1, 2), (1, 1), (m.fillBits.toNat, 1), (m.posOfGrant, 1), (m.lengthInd, 6)] := by
    simp [FieldsFit, hb, hp, hl.2]
  refine ⟨_, ?_, hto ▸ Writes.fields _ (FieldsFit.append hhdr
    (FieldsFit.append (by decide) hfit)), ?_⟩
  · rw [fieldBits_append, fieldBits_append, List.length_append, List.length_append, hlen]
    simp only [computeHdrLen, Bool.false_eq_true, if_false, length_fieldBits, List.map_cons,
      List.map_nil, List.sum_cons, List.sum_nil]
    omega
  · simp only [fieldBits_append, fieldBits_cons, fieldBits_nil, List.append_assoc,
      List.append_nil]
    refine .next (by decide) (by decide) ?_
    refine .next (by decide) (by decide) ?_
    refine .next (by decide) hb ?_
    refine .next (by decide) hp ?_
    refine .next (by decide) hl.2 ?_
    rw [if_neg (by omega)]
    refine Decodes.bind (Decodes.flagged_none _) ?_
    have hon : m.onAir = ⟨m.fillBits, m.posOfGrant, m.lengthInd, none,
        m.chanAllocElement.map ChanAllocElement.onAir⟩ := by
      simp [onAir, hg]
    have := Decodes.bind (q := fun alloc => (Pure.pure ⟨m.fillBits, m.posOfGrant, m.lengthInd,
      none, alloc⟩ : PduParser MacEndDl)) hdec (Decodes.pure _)
    rw [List.append_nil] at this
    rw [hon]
    simp only [hnz]
    exact this

theorem type_of_decodes (h : Decodes fromBitbuf bits m) :
    ofBits (bits.take 2) = 1 ∧ ofBits ((bits.drop 2).take 1) = 1 := by
  have h := h [] [] [] [] false
  rw [List.append_nil] at h
  obtain ⟨hty, h⟩ := ite_fail_ok (field_bind_ok h).2
  have hsub := (ite_fail_ok (field_bind_ok h).2).1
  exact ⟨by simpa using hty, by simpa using hsub⟩

end MacEndDl
end NexusBs
