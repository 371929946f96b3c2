import NexusBs.Lib.Run
import NexusBs.Sndcp.Context

namespace NexusBs.Sndcp

open Lib SndcpContextTable Keyed

inductive SndcpTypeIdentifierInAccept where
  | noAddress | ipv4StaticAddress | ipv4DynamicAddress

inductive SndcpMaximumTransmissionUnit where
  | octets296 | octets576 | octets1006 | octets1500 | octets2002

def maximumTransmissionUnitOctets : SndcpMaximumTransmissionUnit → Nat
  | .octets296 => 296
  | .octets576 => 576
  | .octets1006 => 1006
  | .octets1500 => 1500
  | .octets2002 => 2002

inductive SndcpActivateAddressDemand where
  | ipv4Static (address : Ipv4Octets)
  | ipv4Dynamic
  | ipv6
  | mobileIpv4ForeignAgentCareOfAddress
  | mobileIpv4CoLocatedCareOfAddress
  | secondaryPdpContext (primaryNsapi : Nat)

structure SndcpActivatePdpContextDemand where
  (sndcpVersion nsapi : Nat)
  address : SndcpActivateAddressDemand
  packetDataMsType : SnPacketDataMsType
  pcompNegotiation : Nat

structure SndcpActivatePdpContextAccept where
  (nsapi pduPriorityMax readyTimer standbyTimer responseWaitTimer : Nat)
  typeIdentifier : SndcpTypeIdentifierInAccept
  assignedAddress : Option SnAddress
  pcompNegotiation : Nat
  maximumTransmissionUnit : SndcpMaximumTransmissionUnit

inductive SndcpActivationRejectCause where
  | undefined | msNotProvisionedForPacketData | ipv4NotSupported | ipv6NotSupported
  | ipv4DynamicAddressNegotiationNotSupported | dynamicAddressPoolEmpty | staticAddressNotCorrect
  | staticAddressInUse | staticAddressNotAllowed | packetDataMsTypeNotSupported
  | sndcpVersionNotSupported | maximumNumberOfPdpContextsPerItsiExceeded
  | secondaryPdpContextsNotSupported | primaryPdpContextDoesNotExist
  | sndcpServiceTemporarilyNotAvailable
  | other (code : Nat)

structure SndcpActivatePdpContextReject where
  nsapi : Nat
  cause : SndcpActivationRejectCause

inductive SndcpDeactivation where
  | allNsapis
  | nsapi (nsapi : Nat)

structure SndcpIpv4Pool where
  prefixOctets : Vector UInt8 3 := #v[10, 0, 0]
  firstHost : UInt8 := 2
  lastHost : UInt8 := 254

structure SndcpPdpPolicy where
  serviceEnabled : Bool := false
  dynamicIpv4Pool : Option SndcpIpv4Pool := none
  allowStaticIpv4 : Bool := false
  allowSecondaryContexts : Bool := false
  acceptTypeAParallel : Bool := false
  acceptTypeBAlternating : Bool := false
  acceptTypeCIpSingleMode : Bool := false
  acceptTypeDRestrictedIpSingleMode : Bool := false
  pduPriorityMax : Nat := 4
  readyTimer : Nat := 8
  standbyTimer : Nat := 4
  responseWaitTimer : Nat := 7
  maximumTransmissionUnit : SndcpMaximumTransmissionUnit := .octets576
  maxContextsPerIssi : Nat := 4
  defaultBearerProfile : SndcpPacketDataBearerProfile := {}

def SndcpPdpPolicy.experimentalWapIpv4 : SndcpPdpPolicy where
  serviceEnabled := true
  dynamicIpv4Pool := some {}
  allowStaticIpv4 := true
  allowSecondaryContexts := false
  acceptTypeAParallel := true
  acceptTypeBAlternating := true
  acceptTypeCIpSingleMode := true
  acceptTypeDRestrictedIpSingleMode := false
  maximumTransmissionUnit := .octets576

inductive SndcpPdpActivationResult where
  | accepted (accept : SndcpActivatePdpContextAccept) (context : SndcpPdpContext)
      (reusedExisting : Bool)
  | rejected (reject : SndcpActivatePdpContextReject)

structure SndcpPdpDeactivationResult where
  accept : SndcpDeactivation
  removedContexts : Nat

structure SndcpPdpService where
  policy : SndcpPdpPolicy
  contexts : SndcpContextTable

def ipv4InPool (address : Ipv4Octets) (pool : SndcpIpv4Pool) : Bool :=
  [address[0], address[1], address[2]] = pool.prefixOctets.toList &&
    pool.firstHost ≤ address[3] && address[3] ≤ pool.lastHost

def contextErrorToRejectCause : SndcpContextError → SndcpActivationRejectCause
  | .primaryContextMissing _ => .primaryPdpContextDoesNotExist
  | .duplicateContext _ => .undefined
  | .reservedNsapi _ => .other 0
  | .missingContext _ => .other 0

namespace SndcpPdpService

def new (policy : SndcpPdpPolicy) : SndcpPdpService := ⟨policy, Keyed.empty⟩

def reject (nsapi : Nat) (cause : SndcpActivationRejectCause) : SndcpPdpActivationResult :=
  .rejected ⟨nsapi, cause⟩

section

variable (s : SndcpPdpService)

def packetDataMsTypeSupported : SnPacketDataMsType → Bool
  | .typeAParallel => s.policy.acceptTypeAParallel
  | .typeBAlternating => s.policy.acceptTypeBAlternating
  | .typeCIpSingleMode => s.policy.acceptTypeCIpSingleMode
  | .typeDRestrictedIpSingleMode => s.policy.acceptTypeDRestrictedIpSingleMode

def allocateDynamicIpv4 : Option Ipv4Octets := do
  let pool ← s.policy.dynamicIpv4Pool
  if pool.firstHost > pool.lastHost then none
  else
    let hosts := List.range' pool.firstHost.toNat (pool.lastHost.toNat + 1 - pool.firstHost.toNat)
    (hosts.map (fun host => pool.prefixOctets.push (UInt8.ofNat host))).find?
      (fun address => (s.contexts.anyIpv4Context address).isNone)

def staticIpv4AddressAllowed (address : Ipv4Octets) : Bool :=
  (s.policy.dynamicIpv4Pool.map (ipv4InPool address)).getD true

/-- The accept that the policy gives, with what it says of the address. -/
def acceptOf (demand : SndcpActivatePdpContextDemand)
    (typeIdentifier : SndcpTypeIdentifierInAccept) (assignedAddress : Option SnAddress) :
    SndcpActivatePdpContextAccept where
  nsapi := demand.nsapi
  pduPriorityMax := s.policy.pduPriorityMax
  readyTimer := s.policy.readyTimer
  standbyTimer := s.policy.standbyTimer
  responseWaitTimer := s.policy.responseWaitTimer
  typeIdentifier
  assignedAddress
  pcompNegotiation := 0
  maximumTransmissionUnit := s.policy.maximumTransmissionUnit

/-- The quality of service and the bearer profile that the policy gives a context. -/
def underPolicy (context : SndcpPdpContext) : SndcpPdpContext :=
  (context.withQos (some s.policy.pduPriorityMax) none
    (some (maximumTransmissionUnitOctets s.policy.maximumTransmissionUnit))).withBearerProfile
      s.policy.defaultBearerProfile

/-- The context that a demand asks for, before the policy's quality of service. -/
def buildContext (issi : Nat) (demand : SndcpActivatePdpContextDemand) :
    Except SndcpActivationRejectCause
      (SndcpPdpContext × SndcpTypeIdentifierInAccept × Option SnAddress) :=
  match demand.address with
  | .ipv4Static address =>
    if !s.policy.allowStaticIpv4 then .error .staticAddressNotAllowed
    else if !s.staticIpv4AddressAllowed address then .error .staticAddressNotAllowed
    else if (s.contexts.anyIpv4Context address).isSome then .error .staticAddressInUse
    else
      match SndcpPdpContext.primaryIpv4 issi demand.nsapi (.ipv4 address) demand.packetDataMsType with
      | .error e => .error (contextErrorToRejectCause e)
      | .ok context => .ok (context, .ipv4StaticAddress, some (.ipv4 address))
  | .ipv4Dynamic =>
    match s.allocateDynamicIpv4 with
    | none => .error .dynamicAddressPoolEmpty
    | some address =>
      match SndcpPdpContext.primaryIpv4 issi demand.nsapi (.ipv4 address) demand.packetDataMsType with
      | .error e => .error (contextErrorToRejectCause e)
      | .ok context => .ok (context, .ipv4DynamicAddress, some (.ipv4 address))
  | .secondaryPdpContext primaryNsapi =>
    if !s.policy.allowSecondaryContexts then .error .secondaryPdpContextsNotSupported
    else
      match s.contexts.getIssiNsapi issi primaryNsapi with
      | .error e => .error (contextErrorToRejectCause e)
      | .ok none => .error .primaryPdpContextDoesNotExist
      | .ok (some primary) =>
        match SndcpPdpContext.secondary issi demand.nsapi primaryNsapi primary.pdpType
            primary.address demand.packetDataMsType with
        | .error e => .error (contextErrorToRejectCause e)
        | .ok context => .ok (context, .noAddress, none)
  | .ipv6 => .error .ipv6NotSupported
  | .mobileIpv4ForeignAgentCareOfAddress => .error (.other 17)
  | .mobileIpv4CoLocatedCareOfAddress => .error (.other 18)

def buildContextAndAccept (issi : Nat)
    (demand : SndcpActivatePdpContextDemand) :
    Except SndcpActivationRejectCause (SndcpPdpContext × SndcpActivatePdpContextAccept) :=
  match s.buildContext issi demand with
  | .error cause => .error cause
  | .ok (context, typeIdentifier, assignedAddress) =>
    .ok (s.underPolicy context, s.acceptOf demand typeIdentifier assignedAddress)

end

/-- What the accept of a repeated demand says of the address, where the demand fits the context. -/
def identifyExisting (demand : SndcpActivatePdpContextDemand) (context : SndcpPdpContext) :
    Option (SndcpTypeIdentifierInAccept × Option SnAddress) :=
  match demand.address, context.address with
  | .ipv4Dynamic, .ipv4 address => some (.ipv4DynamicAddress, some (.ipv4 address))
  | .ipv4Static requested, .ipv4 existing =>
    if requested = existing then some (.ipv4StaticAddress, some (.ipv4 existing)) else none
  | .secondaryPdpContext primaryNsapi, _ =>
    if context.primaryNsapi = some primaryNsapi then some (.noAddress, none) else none
  | _, _ => none

/-- Only a primary may come back as another type of station. -/
def retypeExisting (demand : SndcpActivatePdpContextDemand) (context : SndcpPdpContext) :
    Option SndcpPdpContext :=
  if context.packetDataMsType = demand.packetDataMsType then some context
  else
    match demand.address with
    | .ipv4Dynamic | .ipv4Static _ =>
      if context.primaryNsapi.isNone then
        some { context with packetDataMsType := demand.packetDataMsType }
      else none
    | _ => none

section

variable (s : SndcpPdpService)

def acceptForExistingContext (demand : SndcpActivatePdpContextDemand)
    (context : SndcpPdpContext) : Option (SndcpActivatePdpContextAccept × SndcpPdpContext) := do
  let (typeIdentifier, assignedAddress) ← identifyExisting demand context
  let context ← retypeExisting demand context
  return (s.acceptOf demand typeIdentifier assignedAddress, s.underPolicy context)

def refresh (demand : SndcpActivatePdpContextDemand)
    (existing : SndcpPdpContext) : SndcpPdpService × SndcpPdpActivationResult :=
  match s.acceptForExistingContext demand existing with
  | none => (s, reject demand.nsapi .undefined)
  | some (accept, refreshed) =>
    if refreshed ≠ existing then
      match s.contexts.replaceExisting refreshed with
      | .error e => (s, reject demand.nsapi (contextErrorToRejectCause e))
      | .ok contexts => ({ s with contexts }, .accepted accept refreshed true)
    else (s, .accepted accept refreshed true)

def handleActivateDemand (issi : Nat)
    (demand : SndcpActivatePdpContextDemand) : SndcpPdpService × SndcpPdpActivationResult :=
  if !s.policy.serviceEnabled then (s, reject demand.nsapi .sndcpServiceTemporarilyNotAvailable)
  else if !s.packetDataMsTypeSupported demand.packetDataMsType then
    (s, reject demand.nsapi .packetDataMsTypeNotSupported)
  else
    match s.contexts.getIssiNsapi issi demand.nsapi with
    | .ok (some existing) => s.refresh demand existing
    | _ =>
      if (s.contexts.contextsForIssi issi).length ≥ s.policy.maxContextsPerIssi then
        (s, reject demand.nsapi .maximumNumberOfPdpContextsPerItsiExceeded)
      else
        match validatePduPriority s.policy.pduPriorityMax with
        | .error _ => (s, reject demand.nsapi .undefined)
        | .ok _ =>
          match s.buildContextAndAccept issi demand with
          | .error cause => (s, reject demand.nsapi cause)
          | .ok (context, accept) =>
            match s.contexts.activate context with
            | .ok contexts => ({ s with contexts }, .accepted accept context false)
            | .error (.primaryContextMissing _) =>
              (s, reject demand.nsapi .primaryPdpContextDoesNotExist)
            | .error (.duplicateContext _) => (s, reject demand.nsapi .undefined)
            | .error (.reservedNsapi nsapi) => (s, reject nsapi (.other 0))
            | .error (.missingContext _) => (s, reject demand.nsapi (.other 0))

def handleDeactivateDemand (issi : Nat) (deactivation : SndcpDeactivation) :
    SndcpPdpService × SndcpPdpDeactivationResult :=
  match deactivation with
  | .allNsapis =>
    let (contexts, removed) := s.contexts.deactivateIssi issi
    ({ s with contexts }, ⟨deactivation, removed⟩)
  | .nsapi nsapi =>
    match SndcpContextKey.new issi nsapi with
    | .error _ => (s, ⟨deactivation, 0⟩)
    | .ok key =>
      match s.contexts.deactivateWithLinkedSecondaries key with
      | .ok (contexts, removed) => ({ s with contexts }, ⟨deactivation, removed⟩)
      | .error _ => (s, ⟨deactivation, 0⟩)

end

section Cases

variable {s s' : SndcpPdpService} {issi : Nat} {demand : SndcpActivatePdpContextDemand}
  {c : SndcpPdpContext} {r : SndcpPdpActivationResult}

theorem allocateDynamicIpv4_free (h : s.allocateDynamicIpv4 = some address) :
    s.contexts.anyIpv4Context address = none := by
  obtain ⟨pool, -, h⟩ := Option.bind_eq_some_iff.mp h
  split at h
  · cases h
  · simpa using List.find?_some h

/-- A new primary: an IPv4 address that no context holds. -/
def NewPrimary (s : SndcpPdpService) (c : SndcpPdpContext) : Prop :=
  c.primaryNsapi = none ∧ c.pdpType = .ipv4 ∧
    ∃ address, c.address = .ipv4 address ∧ s.contexts.anyIpv4Context address = none

/-- A new secondary: the address of the context that the demand names. -/
def NewSecondary (s : SndcpPdpService) (demand : SndcpActivatePdpContextDemand)
    (c : SndcpPdpContext) : Prop :=
  s.policy.allowSecondaryContexts = true ∧
    ∃ p q, demand.address = .secondaryPdpContext p ∧ c.primaryNsapi = some p ∧
      q ∈ s.contexts ∧ q.key = ⟨c.key.issi, p⟩ ∧ c.pdpType = q.pdpType ∧ c.address = q.address

theorem buildContext_ok {i : SndcpTypeIdentifierInAccept}
    (h : s.buildContext issi demand = .ok (c, i, a)) :
    c.key = ⟨issi, demand.nsapi⟩ ∧ (NewPrimary s c ∨ NewSecondary s demand c) := by
  unfold buildContext at h
  cases hd : demand.address with
  | ipv4Static address =>
    simp only [hd] at h
    split at h
    · cases h
    split at h
    · cases h
    split at h
    · cases h
    rename_i hfree
    split at h
    · cases h
    rename_i hc
    cases h
    obtain ⟨hk, ht, ha, hp⟩ := SndcpPdpContext.primaryIpv4_ok hc
    exact ⟨hk, .inl ⟨hp, ht, address, ha, by simpa using hfree⟩⟩
  | ipv4Dynamic =>
    simp only [hd] at h
    split at h
    · cases h
    rename_i address halloc
    split at h
    · cases h
    rename_i hc
    cases h
    obtain ⟨hk, ht, ha, hp⟩ := SndcpPdpContext.primaryIpv4_ok hc
    exact ⟨hk, .inl ⟨hp, ht, address, ha, allocateDynamicIpv4_free halloc⟩⟩
  | secondaryPdpContext p =>
    simp only [hd] at h
    split at h
    · cases h
    rename_i hallow
    split at h
    · cases h
    · cases h
    rename_i primary hq
    split at h
    · cases h
    rename_i hc
    cases h
    obtain ⟨hk, ht, ha, hp⟩ := SndcpPdpContext.secondary_ok hc
    obtain ⟨hm, hqk⟩ := getIssiNsapi_some hq
    refine ⟨hk, .inr ⟨by simpa using hallow, p, primary, hd, hp, hm, ?_, ht, ha⟩⟩
    rw [hqk, hk]
  | ipv6 | mobileIpv4ForeignAgentCareOfAddress | mobileIpv4CoLocatedCareOfAddress =>
    simp only [hd] at h
    cases h

theorem buildContextAndAccept_ok (h : s.buildContextAndAccept issi demand = .ok (c, a)) :
    c.key = ⟨issi, demand.nsapi⟩ ∧ (NewPrimary s c ∨ NewSecondary s demand c) := by
  unfold buildContextAndAccept at h
  split at h
  · cases h
  rename_i hb
  cases h
  obtain ⟨hk, hnew⟩ := buildContext_ok hb
  exact ⟨hk, hnew⟩

/-- The same context in all that ties it to a subscriber, an address and a primary. -/
def SameLink (c d : SndcpPdpContext) : Prop :=
  d.key = c.key ∧ d.pdpType = c.pdpType ∧ d.address = c.address ∧ d.primaryNsapi = c.primaryNsapi

theorem acceptForExistingContext_sameLink (h : s.acceptForExistingContext demand c = some (a, d)) :
    SameLink c d := by
  obtain ⟨⟨i, a'⟩, -, h⟩ := Option.bind_eq_some_iff.mp h
  obtain ⟨e, he, h⟩ := Option.bind_eq_some_iff.mp h
  cases h
  unfold retypeExisting at he
  split at he
  · cases he
    exact ⟨rfl, rfl, rfl, rfl⟩
  split at he
  · split at he
    · cases he
      exact ⟨rfl, rfl, rfl, rfl⟩
    · cases he
  · split at he
    · cases he
      exact ⟨rfl, rfl, rfl, rfl⟩
    · cases he
  · cases he

/-- All that an activation demand can do to the service. -/
inductive Activated (s : SndcpPdpService) (issi : Nat) (demand : SndcpActivatePdpContextDemand) :
    SndcpPdpService → SndcpPdpActivationResult → Prop
  | rejected (reject : SndcpActivatePdpContextReject) : Activated s issi demand s (.rejected reject)
  | kept (accept : SndcpActivatePdpContextAccept) (c : SndcpPdpContext) :
      c ∈ s.contexts → c.key.issi = issi → Activated s issi demand s (.accepted accept c true)
  | refreshed (accept : SndcpActivatePdpContextAccept) (c d : SndcpPdpContext) :
      c ∈ s.contexts → c.key.issi = issi → SameLink c d →
      Activated s issi demand { s with contexts := s.contexts.insert d } (.accepted accept d true)
  | entered (accept : SndcpActivatePdpContextAccept) (c : SndcpPdpContext) :
      c.key = ⟨issi, demand.nsapi⟩ → s.contexts.get c.key = none →
      s.contexts.contextCount issi < s.policy.maxContextsPerIssi →
      (NewPrimary s c ∨ NewSecondary s demand c) →
      Activated s issi demand { s with contexts := s.contexts.insert c } (.accepted accept c false)

theorem refresh_activated (hc : c ∈ s.contexts) (hi : c.key.issi = issi) :
    Activated s issi demand (s.refresh demand c).1 (s.refresh demand c).2 := by
  unfold refresh
  split
  · exact .rejected _
  rename_i accept d hacc
  have hlink := acceptForExistingContext_sameLink hacc
  split
  · split
    · exact .rejected _
    rename_i contexts hr
    rw [replaceExisting_ok hr]
    exact .refreshed accept c d hc hi hlink
  · rename_i hsame
    have hd : d = c := by simpa using hsame
    subst hd
    exact .kept accept d hc hi

theorem handleActivateDemand_activated (s : SndcpPdpService) (issi : Nat)
    (demand : SndcpActivatePdpContextDemand) :
    Activated s issi demand (s.handleActivateDemand issi demand).1
      (s.handleActivateDemand issi demand).2 := by
  unfold handleActivateDemand
  split
  · exact .rejected _
  split
  · exact .rejected _
  split
  · rename_i hget
    obtain ⟨hm, hk⟩ := getIssiNsapi_some hget
    exact refresh_activated hm (by rw [hk])
  split
  · exact .rejected _
  rename_i hroom
  split
  · exact .rejected _
  split
  · exact .rejected _
  rename_i hbuild
  obtain ⟨hk, hnew⟩ := buildContextAndAccept_ok hbuild
  split
  · rename_i hact
    obtain ⟨hfree, rfl⟩ := activate_ok hact
    rw [length_contextsForIssi] at hroom
    exact .entered _ _ hk hfree (by omega) hnew
  all_goals exact .rejected _

/-- All that a deactivation demand can do to the service. -/
inductive Deactivated (s : SndcpPdpService) (issi : Nat) : SndcpPdpService → Nat → Prop
  | nothing : Deactivated s issi s 0
  | all : Deactivated s issi { s with contexts := (s.contexts.deactivateIssi issi).1 }
      (s.contexts.deactivateIssi issi).2
  | linked (nsapi : Nat) (r : SndcpContextTable × Nat) :
      s.contexts.deactivateWithLinkedSecondaries ⟨issi, nsapi⟩ = .ok r →
      Deactivated s issi { s with contexts := r.1 } r.2

theorem handleDeactivateDemand_deactivated (s : SndcpPdpService) (issi : Nat)
    (d : SndcpDeactivation) :
    Deactivated s issi (s.handleDeactivateDemand issi d).1
      (s.handleDeactivateDemand issi d).2.removedContexts := by
  cases d with
  | allNsapis => exact .all
  | nsapi nsapi =>
    unfold handleDeactivateDemand
    split
    · rename_i heq
      cases heq
    rename_i heq
    cases heq
    split
    · exact .nothing
    rename_i key hk
    rw [SndcpContextKey.new_ok hk]
    split
    · rename_i contexts removed hd
      exact .linked nsapi (contexts, removed) hd
    · exact .nothing

end Cases

/-! ### Runs of the service -/

inductive Request where
  | activate (issi : Nat) (demand : SndcpActivatePdpContextDemand)
  | deactivate (issi : Nat) (deactivation : SndcpDeactivation)
  -- a subscriber that leaves gives up all its NSAPIs
  | deregister (issi : Nat)

def step (s : SndcpPdpService) : Request → Option SndcpPdpService
  | .activate issi demand => some (s.handleActivateDemand issi demand).1
  | .deactivate issi deactivation => some (s.handleDeactivateDemand issi deactivation).1
  | .deregister issi => some (s.handleDeactivateDemand issi .allNsapis).1

def UniqueAddresses (t : SndcpContextTable) : Prop :=
  ∀ c ∈ t, ∀ d ∈ t, ∀ address, c.primaryNsapi = none → d.primaryNsapi = none →
    c.address = .ipv4 address → d.address = .ipv4 address → c = d

/-- Every secondary names a context of its subscriber and has that context's address. -/
def Linked (t : SndcpContextTable) : Prop :=
  ∀ c ∈ t, ∀ p, c.primaryNsapi = some p →
    ∃ q ∈ t, q.key = ⟨c.key.issi, p⟩ ∧ q.address = c.address

def Bounded (s : SndcpPdpService) : Prop :=
  ∀ issi, (s.contexts.contextsForIssi issi).length ≤ s.policy.maxContextsPerIssi

/-- What every request keeps. -/
structure Sound (s : SndcpPdpService) : Prop where
  ipv4 : ∀ c ∈ s.contexts, c.pdpType = .ipv4
  unique : UniqueAddresses s.contexts
  bounded : ∀ issi, s.contexts.contextCount issi ≤ s.policy.maxContextsPerIssi

/-- Secondaries hang on primaries only. -/
def Flat (t : SndcpContextTable) : Prop :=
  ∀ c ∈ t, ∀ p, c.primaryNsapi = some p →
    ∃ q ∈ t, q.key = ⟨c.key.issi, p⟩ ∧ q.address = c.address ∧ q.primaryNsapi = none

theorem Flat.linked (h : Flat t) : Linked t := by
  intro c hc p hp
  obtain ⟨q, hq, hk, ha, -⟩ := h c hc p hp
  exact ⟨q, hq, hk, ha⟩

section Invariants

variable {s s' : SndcpPdpService} {issi n : Nat} {demand : SndcpActivatePdpContextDemand}
  {r : SndcpPdpActivationResult}

theorem Sound.of_new (policy : SndcpPdpPolicy) : Sound (new policy) :=
  ⟨fun _ hc => absurd hc not_mem_empty, fun _ hc => absurd hc not_mem_empty,
    fun _ => Nat.zero_le _⟩

theorem Flat.of_new (policy : SndcpPdpPolicy) : Flat (new policy).contexts :=
  fun _ hc => absurd hc not_mem_empty

theorem SameLink.of_mem_insert {t : SndcpContextTable} (h : SameLink c d) (hc : c ∈ t) :
    ∀ e ∈ t.insert d, ∃ f ∈ t, f.key = e.key ∧ f.address = e.address ∧
      f.primaryNsapi = e.primaryNsapi := by
  intro e he
  rcases mem_insert.mp he with rfl | ⟨hm, -⟩
  · exact ⟨c, hc, h.1.symm, h.2.2.1.symm, h.2.2.2.symm⟩
  · exact ⟨e, hm, rfl, rfl, rfl⟩

theorem Sound.refreshed (h : Sound s) (hc : c ∈ s.contexts) (hl : SameLink c d) :
    Sound { s with contexts := s.contexts.insert d } := by
  refine ⟨?_, ?_, ?_⟩
  · intro e he
    rcases mem_insert.mp he with rfl | ⟨hm, -⟩
    · exact hl.2.1.trans (h.ipv4 c hc)
    · exact h.ipv4 e hm
  · -- whatever stands in the place of `d` has its address in the old table
    have hold := hl.of_mem_insert hc
    intro e he f hf address hep hfp hea hfa
    obtain ⟨e', he', hek, hea', hep'⟩ := hold e he
    obtain ⟨f', hf', hfk, hfa', hfp'⟩ := hold f hf
    have hsame := h.unique e' he' f' hf' address (hep'.trans hep) (hfp'.trans hfp)
      (hea'.trans hea) (hfa'.trans hfa)
    refine eq_of_key he hf ?_
    rw [← hek, ← hfk, hsame]
  · intro issi
    have hg : s.contexts.get d.key = some c := get_eq_some.mpr ⟨hc, hl.1.symm⟩
    simp only [contextCount_insert_same hg]
    exact h.bounded issi

theorem Sound.entered (h : Sound s) (hk : c.key = ⟨issi, demand.nsapi⟩)
    (hfree : s.contexts.get c.key = none)
    (hroom : s.contexts.contextCount issi < s.policy.maxContextsPerIssi)
    (hnew : NewPrimary s c ∨ NewSecondary s demand c) :
    Sound { s with contexts := s.contexts.insert c } := by
  refine ⟨?_, ?_, ?_⟩
  · intro e he
    rcases mem_insert.mp he with rfl | ⟨hm, -⟩
    · rcases hnew with ⟨-, ht, -⟩ | ⟨-, p, q, -, -, hq, -, ht, -⟩
      · exact ht
      · exact ht.trans (h.ipv4 q hq)
    · exact h.ipv4 e hm
  · -- the address of a new primary was held by no context at all
    have hfresh : ∀ e ∈ s.contexts, ∀ address, c.primaryNsapi = none →
        c.address = .ipv4 address → e.address ≠ .ipv4 address := by
      intro e he address hp ha
      rcases hnew with ⟨-, -, address', ha', hnone⟩ | ⟨-, p, q, -, hp', -⟩
      · rw [ha] at ha'
        cases ha'
        exact anyIpv4Context_none hnone he (h.ipv4 e he)
      · rw [hp] at hp'
        cases hp'
    intro e he f hf address hep hfp hea hfa
    rcases mem_insert.mp he with rfl | ⟨he', -⟩
    · rcases mem_insert.mp hf with rfl | ⟨hf', -⟩
      · rfl
      · exact absurd hfa (hfresh f hf' address hep hea)
    · rcases mem_insert.mp hf with rfl | ⟨hf', -⟩
      · exact absurd hea (hfresh e he' address hfp hfa)
      · exact h.unique e he' f hf' address hep hfp hea hfa
  · intro other
    simp only [contextCount_insert_new hfree, hk]
    have := h.bounded other
    split
    · rename_i hi
      subst hi
      omega
    · exact this

theorem Sound.activated (h : Sound s) (ha : Activated s issi demand s' r) : Sound s' := by
  cases ha with
  | rejected | kept => exact h
  | refreshed accept c d hc hi hl => exact h.refreshed hc hl
  | entered accept c hk hfree hroom hnew => exact h.entered hk hfree hroom hnew

theorem Deactivated.subset (hd : Deactivated s issi s' n) :
    s'.policy = s.policy ∧ ∀ c ∈ s'.contexts, c ∈ s.contexts := by
  cases hd with
  | nothing => exact ⟨rfl, fun _ h => h⟩
  | all => exact ⟨rfl, fun _ h => (mem_retain.mp h).1⟩
  | linked nsapi r hr =>
    obtain ⟨c, -, hmem⟩ := deactivateWithLinkedSecondaries_ok hr
    exact ⟨rfl, fun d h => ((hmem d).mp h).1⟩

/-- The subscriber loses as many contexts as are reported, no one else loses any. -/
theorem Deactivated.contextCount (hd : Deactivated s issi s' n) (other : Nat) :
    s'.contexts.contextCount other + (if other = issi then n else 0) =
      s.contexts.contextCount other := by
  cases hd with
  | nothing => simp
  | all => exact contextCount_deactivateIssi
  | linked nsapi r hr => exact contextCount_deactivate hr

theorem Sound.deactivated (h : Sound s) (hd : Deactivated s issi s' n) : Sound s' := by
  obtain ⟨hp, hsub⟩ := hd.subset
  refine ⟨fun c hc => h.ipv4 c (hsub c hc), ?_, ?_⟩
  · intro c hc d hd
    exact h.unique c (hsub c hc) d (hsub d hd)
  · intro other
    have hle := hd.contextCount other
    have := h.bounded other
    rw [hp]
    omega

theorem Flat.refreshed (h : Flat t) (hc : c ∈ t) (hl : SameLink c d) : Flat (t.insert d) := by
  -- each context of the old table has one in the new table with the same links
  have hnew : ∀ e ∈ t, ∃ f ∈ t.insert d, f.key = e.key ∧ f.address = e.address ∧
      f.primaryNsapi = e.primaryNsapi := by
    intro e he
    by_cases hek : e.key = d.key
    · have hec : e = c := eq_of_key he hc (hek.trans hl.1)
      subst hec
      exact ⟨d, mem_insert.mpr (.inl rfl), hl.1, hl.2.2⟩
    · exact ⟨e, mem_insert.mpr (.inr ⟨he, hek⟩), rfl, rfl, rfl⟩
  have hold := hl.of_mem_insert hc
  intro e he p hep
  obtain ⟨e', he', hek, hea, hep'⟩ := hold e he
  obtain ⟨q, hq, hqk, hqa, hqp⟩ := h e' he' p (hep'.trans hep)
  obtain ⟨q', hq', hqk', hqa', hqp'⟩ := hnew q hq
  refine ⟨q', hq', ?_, ?_, hqp'.trans hqp⟩
  · rw [hqk', hqk, hek]
  · rw [hqa', hqa, hea]

theorem Flat.entered (h : Flat s.contexts) (hfree : s.contexts.get c.key = none)
    (hnew : NewPrimary s c ∨ NewSecondary s demand c)
    (hok : ∀ p, demand.address = .secondaryPdpContext p → ∀ q ∈ s.contexts,
      q.key = ⟨c.key.issi, p⟩ → s.policy.allowSecondaryContexts = true → q.primaryNsapi = none) :
    Flat (s.contexts.insert c) := by
  have hkeep : ∀ q ∈ s.contexts, q ∈ s.contexts.insert c := fun q hq =>
    mem_insert.mpr (.inr ⟨hq, get_eq_none.mp hfree q hq⟩)
  intro e he p hep
  rcases mem_insert.mp he with rfl | ⟨he, -⟩
  · rcases hnew with ⟨hp, -⟩ | ⟨hallow, p', q, hd, hp, hq, hqk, -, ha⟩
    · rw [hp] at hep
      cases hep
    · rw [hp] at hep
      cases hep
      exact ⟨q, hkeep q hq, hqk, ha.symm, hok p hd q hq hqk hallow⟩
  · obtain ⟨q, hq, hqk, hqa, hqp⟩ := h e he p hep
    exact ⟨q, hkeep q hq, hqk, hqa, hqp⟩

theorem Flat.deactivated (h : Flat s.contexts) (hd : Deactivated s issi s' n) :
    Flat s'.contexts := by
  cases hd with
  | nothing => exact h
  | all =>
    intro c hc p hp
    obtain ⟨hc, hi⟩ := mem_retain.mp hc
    obtain ⟨q, hq, hqk, hrest⟩ := h c hc p hp
    exact ⟨q, mem_retain.mpr ⟨hq, by simpa [hqk] using hi⟩, hqk, hrest⟩
  | linked nsapi r hr =>
    obtain ⟨c, hg, hmem⟩ := deactivateWithLinkedSecondaries_ok hr
    have hck := (get_eq_some.mp hg).2
    intro d hd p hp
    obtain ⟨hd, hout⟩ := (hmem d).mp hd
    obtain ⟨q, hq, hqk, hqa, hqp⟩ := h d hd p hp
    refine ⟨q, (hmem q).mpr ⟨hq, ?_⟩, hqk, hqa, hqp⟩
    -- a primary that is taken out takes the contexts that name it with it
    simp only [takenOut, hck, hqp, Bool.or_eq_false_iff, decide_eq_false_iff_not]
      at hout ⊢
    refine ⟨?_, by simp⟩
    intro hqc
    rw [hqk] at hqc
    cases hqc
    have hqc : q = c := eq_of_key hq (get_eq_some.mp hg).1 (hqk.trans hck.symm)
    subst hqc
    simp [hqp, hp] at hout

end Invariants

def namedPrimary : SndcpActivateAddressDemand → Option Nat
  | .secondaryPdpContext primaryNsapi => some primaryNsapi
  | _ => none

/-- A demand for a secondary names no context that is itself a secondary. -/
def NamesPrimary (s : SndcpPdpService) : Request → Prop
  | .activate issi demand =>
    s.policy.allowSecondaryContexts = true → ∀ p ∈ namedPrimary demand.address,
      (s.contexts.get ⟨issi, p⟩).bind SndcpPdpContext.primaryNsapi = none
  | _ => True

instance (s : SndcpPdpService) : (r : Request) → Decidable (NamesPrimary s r)
  | .activate issi demand =>
    inferInstanceAs (Decidable (s.policy.allowSecondaryContexts = true →
      ∀ p ∈ namedPrimary demand.address,
        (s.contexts.get ⟨issi, p⟩).bind SndcpPdpContext.primaryNsapi = none))
  | .deactivate .. | .deregister _ => .isTrue trivial

theorem Flat.activated (h : Flat s.contexts) (hok : NamesPrimary s (.activate issi demand))
    (ha : Activated s issi demand s' r) : Flat s'.contexts := by
  cases ha with
  | rejected | kept => exact h
  | refreshed accept c d hc hi hl => exact h.refreshed hc hl
  | entered accept c hk hfree hroom hnew =>
    refine h.entered hfree hnew ?_
    intro p hd q hq hqk hallow
    rw [hk] at hqk
    have hp := hok hallow p (by simp [hd, namedPrimary])
    simpa [get_eq_some.mpr ⟨hq, hqk⟩] using hp

theorem Flat.step {s s' : SndcpPdpService} (h : Flat s.contexts) (hok : NamesPrimary s r)
    (hs : step s r = some s') : Flat s'.contexts := by
  cases r with
  | activate issi demand =>
    cases hs
    exact h.activated hok (handleActivateDemand_activated s issi demand)
  | deactivate issi deactivation =>
    cases hs
    exact h.deactivated (handleDeactivateDemand_deactivated s issi deactivation)
  | deregister issi =>
    cases hs
    exact h.deactivated (handleDeactivateDemand_deactivated s issi .allNsapis)

theorem step_total : ∃ s', step s r = some s' := by
  cases r <;> exact ⟨_, rfl⟩

theorem Sound.step (h : Sound s) (hs : step s r = some s') : Sound s' := by
  cases r with
  | activate issi demand =>
    cases hs
    exact h.activated (handleActivateDemand_activated s issi demand)
  | deactivate issi deactivation =>
    cases hs
    exact h.deactivated (handleDeactivateDemand_deactivated s issi deactivation)
  | deregister issi =>
    cases hs
    exact h.deactivated (handleDeactivateDemand_deactivated s issi .allNsapis)

/-- The service answers every list of requests, and stays sound. -/
theorem Sound.run (policy : SndcpPdpPolicy) (rs : List Request) :
    ∃ s, Lib.run SndcpPdpService.step (new policy) rs = some s ∧ Sound s := by
  have hall : Along SndcpPdpService.step (fun _ _ => True) (new policy) rs :=
    Along.of_forall (fun _ _ => trivial)
  refine run_total (fun s r h _ => ?_) (Sound.of_new policy) hall
  obtain ⟨s', hs⟩ := step_total
  exact ⟨s', hs, h.step hs⟩

theorem Flat.run {policy : SndcpPdpPolicy} {rs : List Request} {s : SndcpPdpService}
    (hok : Along SndcpPdpService.step NamesPrimary (new policy) rs)
    (hr : Lib.run SndcpPdpService.step (new policy) rs = some s) : Flat s.contexts :=
  run_invariant (P := fun s => Flat s.contexts) (fun _ _ _ h hok hs => Flat.step h hok hs)
    (Flat.of_new policy) hok hr

/-- Over every run no address is given to two primaries and no subscriber holds more contexts than
it may. Where no secondary is hung on a secondary, every secondary also has its context. -/
theorem run_context_table_consistent (policy : SndcpPdpPolicy) (rs : List Request) :
    ∃ s, Lib.run step (new policy) rs = some s ∧ UniqueAddresses s.contexts ∧ Bounded s ∧
      (Along step NamesPrimary (new policy) rs → Linked s.contexts) := by
  obtain ⟨s, hs, hsound⟩ := Sound.run policy rs
  refine ⟨s, hs, hsound.unique, ?_, fun hok => (Flat.run hok hs).linked⟩
  intro issi
  rw [length_contextsForIssi]
  exact hsound.bounded issi

def secondariesPolicy : SndcpPdpPolicy :=
  { SndcpPdpPolicy.experimentalWapIpv4 with allowSecondaryContexts := true }

def demandOf (nsapi : Nat) (address : SndcpActivateAddressDemand) : SndcpActivatePdpContextDemand where
  sndcpVersion := 1
  nsapi
  address
  packetDataMsType := .typeCIpSingleMode
  pcompNegotiation := 0

def secondaryRequests : List Request :=
  [.activate 100 (demandOf 2 .ipv4Dynamic), .activate 100 (demandOf 3 (.secondaryPdpContext 2)),
    .activate 200 (demandOf 2 .ipv4Dynamic), .deactivate 200 (.nsapi 2)]

theorem secondaryRequests_consistent :
    Along step NamesPrimary (new secondariesPolicy) secondaryRequests ∧
      ∃ s, Lib.run step (new secondariesPolicy) secondaryRequests = some s ∧
        UniqueAddresses s.contexts ∧ Bounded s ∧ Linked s.contexts := by
  have hok : Along step NamesPrimary (new secondariesPolicy) secondaryRequests := by
    decide +kernel
  obtain ⟨s, hs, hu, hb, hl⟩ := run_context_table_consistent secondariesPolicy secondaryRequests
  exact ⟨hok, s, hs, hu, hb, hl hok⟩

def chainedRequests : List Request :=
  [.activate 100 (demandOf 2 .ipv4Dynamic), .activate 100 (demandOf 3 (.secondaryPdpContext 2)),
    .activate 100 (demandOf 4 (.secondaryPdpContext 3)), .deactivate 100 (.nsapi 3)]

/-- The secondary at NSAPI 4 is left with the number of a context that is gone. -/
theorem chained_secondary_left_behind :
    ∃ s, Lib.run step (new secondariesPolicy) chainedRequests = some s ∧
      (∃ c ∈ s.contexts.entries, c.key = ⟨100, 4⟩ ∧ c.primaryNsapi = some 3) ∧
      s.contexts.get ⟨100, 3⟩ = none ∧ ¬ Linked s.contexts := by
  have hrun : ∃ s, Lib.run step (new secondariesPolicy) chainedRequests = some s ∧
      (∃ c ∈ s.contexts.entries, c.key = ⟨100, 4⟩ ∧ c.primaryNsapi = some 3) ∧
      s.contexts.get ⟨100, 3⟩ = none := by
    refine ⟨_, rfl, ?_⟩
    decide +kernel
  obtain ⟨s, hs, ⟨c, hc, hk, hp⟩, hg⟩ := hrun
  refine ⟨s, hs, ⟨c, hc, hk, hp⟩, hg, ?_⟩
  intro hl
  obtain ⟨q, hq, hqk, -⟩ := hl c hc 3 hp
  rw [hk] at hqk
  exact get_eq_none.mp hg q hq hqk

end SndcpPdpService

end NexusBs.Sndcp
