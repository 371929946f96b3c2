import NexusBs.Lib.Keyed

namespace NexusBs.Sndcp

open Lib Keyed

inductive SnPdpType where
  | ipv4 | ipv6
deriving DecidableEq

abbrev Ipv4Octets := Vector UInt8 4

inductive SnAddress where
  | dynamicIpv4
  | ipv4 (address : Ipv4Octets)
  | ipv6 (address : Vector UInt8 16)
deriving DecidableEq

inductive SnPacketDataMsType where
  | typeAParallel | typeBAlternating | typeCIpSingleMode | typeDRestrictedIpSingleMode
deriving DecidableEq

inductive SnPrimitiveError where
  | reservedNsapi (nsapi : Nat)
  | pduPriorityOutOfRange (priority : Nat)

def validateNsapi (nsapi : Nat) : Except SnPrimitiveError Nat :=
  if 1 ≤ nsapi ∧ nsapi ≤ 14 then .ok nsapi else .error (.reservedNsapi nsapi)

def validatePduPriority (pduPriority : Nat) : Except SnPrimitiveError Nat :=
  if pduPriority ≤ 7 then .ok pduPriority else .error (.pduPriorityOutOfRange pduPriority)

inductive SndcpPacketDataClass where
  | background | telemetry | realTime | other
deriving DecidableEq

structure SndcpPacketDataBearerProfile where
  qosNegotiated : Bool := false
  dataClass : SndcpPacketDataClass := .background
  unacknowledgedBasicLinkRepetitions : Nat := 0
  fcsRequired : Bool := false
deriving DecidableEq

structure SndcpContextKey where
  (issi nsapi : Nat)
deriving DecidableEq

structure SndcpPdpContext where
  key : SndcpContextKey
  pdpType : SnPdpType
  address : SnAddress
  packetDataMsType : SnPacketDataMsType
  (primaryNsapi pduPriority dataPriority maxNpduLen : Option Nat)
  bearerProfile : SndcpPacketDataBearerProfile
deriving DecidableEq

inductive SndcpContextError where
  | reservedNsapi (nsapi : Nat)
  | duplicateContext (key : SndcpContextKey)
  | missingContext (key : SndcpContextKey)
  | primaryContextMissing (key : SndcpContextKey)

def SndcpContextKey.new (issi nsapi : Nat) : Except SndcpContextError SndcpContextKey :=
  match validateNsapi nsapi with
  | .error _ => .error (.reservedNsapi nsapi)
  | .ok _ => .ok ⟨issi, nsapi⟩

theorem SndcpContextKey.new_ok {issi nsapi : Nat} {key : SndcpContextKey}
    (h : SndcpContextKey.new issi nsapi = .ok key) : key = ⟨issi, nsapi⟩ := by
  unfold SndcpContextKey.new at h
  split at h
  · cases h
  · cases h
    rfl

namespace SndcpPdpContext

def primaryIpv4 (issi nsapi : Nat) (address : SnAddress) (packetDataMsType : SnPacketDataMsType) :
    Except SndcpContextError SndcpPdpContext := do
  return {
    key := ← SndcpContextKey.new issi nsapi
    pdpType := .ipv4
    address
    packetDataMsType
    primaryNsapi := none
    pduPriority := none
    dataPriority := none
    maxNpduLen := none
    bearerProfile := {} }

def secondary (issi nsapi primaryNsapi : Nat) (pdpType : SnPdpType) (address : SnAddress)
    (packetDataMsType : SnPacketDataMsType) : Except SndcpContextError SndcpPdpContext := do
  return {
    key := ← SndcpContextKey.new issi nsapi
    pdpType
    address
    packetDataMsType
    primaryNsapi := some (← SndcpContextKey.new issi primaryNsapi).nsapi
    pduPriority := none
    dataPriority := none
    maxNpduLen := none
    bearerProfile := {} }

def withQos (context : SndcpPdpContext) (pduPriority dataPriority maxNpduLen : Option Nat) :
    SndcpPdpContext :=
  { context with pduPriority, dataPriority, maxNpduLen }

def withBearerProfile (context : SndcpPdpContext) (bearerProfile : SndcpPacketDataBearerProfile) :
    SndcpPdpContext :=
  { context with bearerProfile }

theorem primaryIpv4_ok {issi nsapi : Nat} {address : SnAddress} {type : SnPacketDataMsType}
    {c : SndcpPdpContext} (h : primaryIpv4 issi nsapi address type = .ok c) :
    c.key = ⟨issi, nsapi⟩ ∧ c.pdpType = .ipv4 ∧ c.address = address ∧ c.primaryNsapi = none := by
  unfold primaryIpv4 at h
  cases hk : SndcpContextKey.new issi nsapi with
  | error =>
    rw [hk] at h
    cases h
  | ok =>
    rw [hk] at h
    cases h
    exact ⟨SndcpContextKey.new_ok hk, rfl, rfl, rfl⟩

theorem secondary_ok {issi nsapi primary : Nat} {pdpType : SnPdpType} {address : SnAddress}
    {type : SnPacketDataMsType} {c : SndcpPdpContext}
    (h : secondary issi nsapi primary pdpType address type = .ok c) :
    c.key = ⟨issi, nsapi⟩ ∧ c.pdpType = pdpType ∧ c.address = address ∧
      c.primaryNsapi = some primary := by
  unfold secondary at h
  cases hk : SndcpContextKey.new issi nsapi with
  | error =>
    rw [hk] at h
    cases h
  | ok =>
    cases hp : SndcpContextKey.new issi primary with
    | error =>
      rw [hk, hp] at h
      cases h
    | ok =>
      rw [hk, hp] at h
      cases h
      cases SndcpContextKey.new_ok hp
      exact ⟨SndcpContextKey.new_ok hk, rfl, rfl, rfl⟩

end SndcpPdpContext

/-- The contexts, each under the subscriber and NSAPI that it carries. -/
abbrev SndcpContextTable := Keyed SndcpPdpContext.key

namespace SndcpContextTable

variable (t : SndcpContextTable)

/-- A secondary may be entered only beside the context it names. -/
def checkPrimary (context : SndcpPdpContext) : Except SndcpContextError Unit :=
  match context.primaryNsapi with
  | none => .ok ()
  | some primaryNsapi =>
    match SndcpContextKey.new context.key.issi primaryNsapi with
    | .error e => .error e
    | .ok primaryKey =>
      if (t.get primaryKey).isNone then .error (.primaryContextMissing primaryKey) else .ok ()

def activate (context : SndcpPdpContext) : Except SndcpContextError SndcpContextTable :=
  if (t.get context.key).isSome then .error (.duplicateContext context.key)
  else
    match checkPrimary t context with
    | .error e => .error e
    | .ok () => .ok (t.insert context)

def replaceExisting (context : SndcpPdpContext) : Except SndcpContextError SndcpContextTable :=
  if (t.get context.key).isNone then .error (.missingContext context.key)
  else
    match checkPrimary t context with
    | .error e => .error e
    | .ok () => .ok (t.insert context)

def getIssiNsapi (issi nsapi : Nat) : Except SndcpContextError (Option SndcpPdpContext) :=
  match SndcpContextKey.new issi nsapi with
  | .error e => .error e
  | .ok key => .ok (t.get key)

def deactivate (key : SndcpContextKey) :
    Except SndcpContextError (SndcpContextTable × SndcpPdpContext) :=
  match t.get key with
  | none => .error (.missingContext key)
  | some context => .ok (t.remove key, context)

def deactivateWithLinkedSecondaries (key : SndcpContextKey) :
    Except SndcpContextError (SndcpContextTable × Nat) :=
  match deactivate t key with
  | .error e => .error e
  | .ok (t, removed) =>
    if removed.primaryNsapi.isSome then .ok (t, 1)
    else
      let before := t.entries.length
      let t := t.retain (fun context =>
        context.key.issi ≠ key.issi || context.primaryNsapi ≠ some key.nsapi)
      .ok (t, 1 + before - t.entries.length)

def deactivateIssi (issi : Nat) : SndcpContextTable × Nat :=
  let before := t.entries.length
  let t := t.retain (fun context => context.key.issi ≠ issi)
  (t, before - t.entries.length)

def anyIpv4Context (address : Ipv4Octets) : Option SndcpPdpContext :=
  t.entries.find? (fun context => context.pdpType = .ipv4 && context.address = .ipv4 address)

def contextsForIssi (issi : Nat) : List SndcpPdpContext :=
  t.entries.filter (fun context => context.key.issi = issi)

def contextCount (issi : Nat) : Nat := t.count (fun context => context.key.issi = issi)

section Lemmas

variable {t t' : SndcpContextTable} {c d : SndcpPdpContext} {key : SndcpContextKey}
  {issi nsapi n : Nat}

theorem length_contextsForIssi : (contextsForIssi t issi).length = contextCount t issi :=
  List.countP_eq_length_filter.symm

theorem getIssiNsapi_some (h : getIssiNsapi t issi nsapi = .ok (some c)) :
    c ∈ t ∧ c.key = ⟨issi, nsapi⟩ := by
  unfold getIssiNsapi at h
  split at h
  · cases h
  rename_i key hk
  rw [← SndcpContextKey.new_ok hk]
  simp only [Except.ok.injEq] at h
  exact get_eq_some.mp h

theorem activate_ok (h : activate t c = .ok t') : t.get c.key = none ∧ t' = t.insert c := by
  unfold activate at h
  split at h
  · cases h
  rename_i hn
  split at h
  · cases h
  · cases h
    exact ⟨by simpa using hn, rfl⟩

theorem replaceExisting_ok (h : replaceExisting t c = .ok t') : t' = t.insert c := by
  unfold replaceExisting at h
  split at h
  · cases h
  split at h
  · cases h
  · cases h
    rfl

theorem anyIpv4Context_none (h : anyIpv4Context t address = none) (hc : c ∈ t)
    (ht : c.pdpType = .ipv4) : c.address ≠ .ipv4 address := by
  have hn := List.find?_eq_none.mp h c hc
  simpa [ht] using hn

/-- What a deactivation takes out: the context itself and, where it is a primary, every context of
the subscriber that names it. -/
def takenOut (context : SndcpPdpContext) (d : SndcpPdpContext) : Bool :=
  d.key = context.key || (context.primaryNsapi.isNone && d.key.issi = context.key.issi &&
    d.primaryNsapi = some context.key.nsapi)

theorem contextCount_insert_new (h : t.get c.key = none) :
    contextCount (t.insert c) issi = contextCount t issi + if c.key.issi = issi then 1 else 0 := by
  rw [contextCount, Keyed.count_insert, remove_of_get_none h, contextCount]
  simp

theorem contextCount_insert_same (h : t.get c.key = some d) :
    contextCount (t.insert c) issi = contextCount t issi := by
  have hd := (get_eq_some.mp h).2
  rw [contextCount, Keyed.count_insert, contextCount, ← count_remove h]
  simp [hd]

theorem deactivate_ok (h : deactivate t key = .ok r) :
    t.get key = some r.2 ∧ r.1 = t.remove key := by
  unfold deactivate at h
  cases hg : t.get key with
  | none =>
    rw [hg] at h
    cases h
  | some =>
    rw [hg] at h
    cases h
    exact ⟨rfl, rfl⟩

theorem deactivateWithLinkedSecondaries_ok (h : deactivateWithLinkedSecondaries t key = .ok r) :
    ∃ c, t.get key = some c ∧ ∀ d, d ∈ r.1 ↔ d ∈ t ∧ takenOut c d = false := by
  unfold deactivateWithLinkedSecondaries at h
  cases hd : deactivate t key with
  | error =>
    rw [hd] at h
    cases h
  | ok q =>
    obtain ⟨hg, hq⟩ := deactivate_ok hd
    obtain ⟨t1, c⟩ := q
    have hk : c.key = key := (get_eq_some.mp hg).2
    simp only at hg hq
    subst hq
    refine ⟨c, hg, fun d => ?_⟩
    rw [hd] at h
    simp only at h
    split at h
    · rename_i hs
      cases h
      simp [takenOut, hk, Option.isSome_iff_ne_none.mp hs]
    rename_i hs
    cases h
    have hn : c.primaryNsapi = none := by simpa using hs
    simp only [mem_retain, mem_remove, takenOut, hk, hn]
    by_cases hdk : d.key = key
    · simp [hdk]
    · by_cases hi : d.key.issi = key.issi <;> simp [hdk, hi]

/-- The number that a deactivation reports is the number of contexts the subscriber lost, and no
other subscriber lost one. -/
theorem contextCount_deactivate (h : deactivateWithLinkedSecondaries t key = .ok r) :
    contextCount r.1 issi + (if issi = key.issi then r.2 else 0) = contextCount t issi := by
  unfold deactivateWithLinkedSecondaries at h
  cases hd : deactivate t key with
  | error =>
    rw [hd] at h
    cases h
  | ok q =>
    obtain ⟨hg, hq⟩ := deactivate_ok hd
    obtain ⟨t1, c⟩ := q
    have hk : c.key = key := (get_eq_some.mp hg).2
    simp only at hg hq
    subst hq
    have hone := count_remove (p := fun context => decide (context.key.issi = issi)) hg
    simp only [hk, decide_eq_true_eq] at hone
    rw [hd] at h
    simp only at h
    split at h
    · cases h
      simp only [contextCount, eq_comm (a := issi)]
      exact hone
    cases h
    by_cases hi : issi = key.issi
    · subst hi
      have hdrop := count_retain_of_dropped (t := t.remove key)
        (p := fun context => context.key.issi ≠ key.issi || context.primaryNsapi ≠ some key.nsapi)
        (q := fun context => decide (context.key.issi = key.issi))
        (fun a ha => by
          have ha' : a.key.issi = key.issi ∧ a.primaryNsapi = some key.nsapi := by simpa using ha
          simp [ha'.1])
      simp only [contextCount] at hone ⊢
      have hle := List.length_filter_le (fun context : SndcpPdpContext =>
        context.key.issi ≠ key.issi || context.primaryNsapi ≠ some key.nsapi)
        (t.remove key).entries
      simp only [retain] at hdrop ⊢
      simp only [if_true] at hone ⊢
      omega
    · have hkeep := count_retain_of_kept (t := t.remove key)
        (p := fun context => context.key.issi ≠ key.issi || context.primaryNsapi ≠ some key.nsapi)
        (q := fun context => decide (context.key.issi = issi))
        (fun a ha => by
          have ha' : a.key.issi = issi := by simpa using ha
          simp [ha', hi])
      simp only [contextCount, hkeep, if_neg hi]
      rw [if_neg (Ne.symm hi)] at hone
      exact hone

theorem contextCount_deactivateIssi :
    contextCount (deactivateIssi t issi).1 other +
      (if other = issi then (deactivateIssi t issi).2 else 0) = contextCount t other := by
  by_cases hi : other = issi
  · subst hi
    rw [if_pos rfl]
    exact count_retain_of_dropped (fun a ha => by simpa using ha)
  · rw [if_neg hi]
    exact count_retain_of_kept (fun a ha => by
      have ha' : a.key.issi = other := by simpa using ha
      simp [ha', hi])

end Lemmas

end SndcpContextTable

end NexusBs.Sndcp
