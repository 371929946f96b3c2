import NexusBs.Sched.PacketData

namespace NexusBs
open UlSched List Option

def basicGrantFullSlotCountsDesc : List Nat := [68, 51, 34, 24, 17, 13, 10, 8, 6, 5, 4, 3, 2, 1]

def maxGrantingDelay : Nat := 13

namespace BsChannelScheduler

variable (s : BsChannelScheduler)

/-- Outer `none`: a violated assertion; inner `none`: no opportunity. -/
def ulFindGrantOpportunityForAddrFrom (baseDltime : TdmaTime) (timeslot : Nat) (addr : TetraAddress)
    (numSlots : Nat) (isHalfslot : Bool) (alloc : Option TimeslotAllocator) :
    Option (Option (Nat × List TdmaTime)) :=
  let slots := s.packetDataActiveUplinkSlotsForAddr addr alloc
  if timeslot ∈ slots then
    s.ulsched.ulFindGrantOpportunityOnChannelFrom baseDltime timeslot slots numSlots isHalfslot
      (some addr.ssi)
  else if slots ≠ [] then some none
  else
    s.ulsched.ulFindGrantOpportunityOnChannelFrom baseDltime timeslot [timeslot] numSlots isHalfslot
      none

/-- The first of the slot counts that has an opportunity within the largest
delay, with that delay and the slots. -/
def firstGrant (find : Nat → Option (Option (Nat × List TdmaTime))) :
    List Nat → Option (Option (Nat × Nat × List TdmaTime))
  | [] => some none
  | cap :: rest =>
    (find cap).bind (fun op =>
      match op with
      | some (skips, times) =>
        if skips ≤ maxGrantingDelay then some (some (cap, skips, times)) else firstGrant find rest
      | none => firstGrant find rest)

def allocUsageMarker (timeslot : Nat) : Nat × BsChannelScheduler :=
  let idx := min (timeslot - 1) 3
  let marker := s.nextUsageMarker idx
  (marker, { s with
    nextUsageMarker := Function.update s.nextUsageMarker idx (if marker ≥ 62 then 4 else marker + 1) })

def reserve (ssi : Nat) (times : List TdmaTime) (isHalfslot : Bool) (marker : Option Nat) :
    Option (BsChannelScheduler × Nat) :=
  (s.ulsched.ulReserveGrant ssi times isHalfslot marker).map (fun (ulsched, sub) =>
    let ns := times.map (absolute s.now s.curDltime)
    ({ s with
      ulsched := ulsched
      booked := ((reserveGrant s.booked ssi ns isHalfslot marker).map Prod.fst).getD s.booked }, sub))

def grantingDelay (skips : Nat) : BasicSlotgrantGrantingDelay :=
  if skips = 0 then .capAllocAtNextOpportunity else .delayNOpportunities skips

def grantedCapacity (isHalfslot : Bool) (sub cap : Nat) : Option BasicSlotgrantCapAlloc :=
  if isHalfslot then
    if sub = 1 then some .firstSubslotGranted
    else if sub = 2 then some .secondSubslotGranted
    else none
  else some (.fromReqSlotcount cap)

def candidateCaps (debt : PendingGrantDebt) : List Nat :=
  (if debt.isHalfslot then [1] else basicGrantFullSlotCountsDesc).filter
    (fun cap => decide (cap ≤ debt.nextChunkSlots))

/-- Reserves uplink capacity for a debt; the grant comes with its usage marker
and the number of slots. -/
def ulProcessPendingGrantFrom (baseDltime : TdmaTime) (timeslot : Nat) (addr : TetraAddress)
    (debt : PendingGrantDebt) (alloc : Option TimeslotAllocator) :
    Option (Option (BasicSlotgrant × Option Nat × Nat) × BsChannelScheduler) :=
  (firstGrant (fun cap =>
    s.ulFindGrantOpportunityForAddrFrom baseDltime timeslot addr cap debt.isHalfslot alloc)
    (candidateCaps debt)).bind (fun op =>
      match op with
      | none => some (none, s)
      | some (cap, skips, times) =>
        let (marker, s) :=
          if debt.isHalfslot = false ∧ cap ≥ 2 then
            let (m, s) := s.allocUsageMarker timeslot
            (some m, s)
          else (none, s)
        (s.reserve addr.ssi times debt.isHalfslot marker).bind (fun (s, sub) =>
          (grantedCapacity debt.isHalfslot sub cap).map (fun capAlloc =>
            (some (⟨capAlloc, grantingDelay skips⟩, marker, cap), s))))

def ulProcessCapReqFrom (baseDltime : TdmaTime) (timeslot : Nat) (addr : TetraAddress)
    (resReq : ReservationRequirement) :
    Option (Option (BasicSlotgrant × Option Nat) × BsChannelScheduler) :=
  (s.ulProcessPendingGrantFrom baseDltime timeslot addr (.new resReq) none).map (fun (r, s) =>
    (r.map (fun (grant, marker, _) => (grant, marker)), s))

def ulProcessCapReq (timeslot : Nat) (addr : TetraAddress) (resReq : ReservationRequirement) :
    Option (Option (BasicSlotgrant × Option Nat) × BsChannelScheduler) :=
  s.ulProcessCapReqFrom s.curDltime timeslot addr resReq

/-- `none` for an owner of the second subslot alone. -/
def ulGetUsage (ts : TdmaTime) : Option AccessAssignUlUsage :=
  let e := s.ulsched.get ts
  match e.ul1, e.ul2 with
  | some _, some _ =>
    some ((e.usageMarker.map AccessAssignUlUsage.traffic).getD .assignedOnly)
  | some _, none =>
    some ((e.usageMarker.map AccessAssignUlUsage.traffic).getD .commonAndAssigned)
  | none, none => some .commonOnly
  | none, some _ => none

/-- The ring follows the calendar of reservations, from a frame before the slot
that is finalised next. -/
structure UlInv (s : BsChannelScheduler) : Prop where
  time : s.curDltime = .fromInt s.now
  keeps : Keeps s.ulsched s.booked s.oldest
  window : s.now - 3 ≤ s.oldest ∧ s.oldest ≤ s.now - 2

theorem firstGrant_cases (hfind : ∀ cap ∈ caps, ∃ op, find cap = some op) :
    firstGrant find caps = some none ∨
      ∃ cap skips times, cap ∈ caps ∧ find cap = some (some (skips, times)) ∧
        skips ≤ maxGrantingDelay ∧ firstGrant find caps = some (some (cap, skips, times)) := by
  induction caps with
  | nil => exact .inl rfl
  | cons c cs ih =>
    obtain ⟨op, hop⟩ := hfind c mem_cons_self
    have hrest := ih (fun cap hc => hfind cap (mem_cons_of_mem _ hc))
    have hskip : firstGrant find cs = firstGrant find (c :: cs) →
        firstGrant find (c :: cs) = some none ∨
          ∃ cap skips times, cap ∈ c :: cs ∧ find cap = some (some (skips, times)) ∧
            skips ≤ maxGrantingDelay ∧
            firstGrant find (c :: cs) = some (some (cap, skips, times)) := by
      intro he
      rw [he] at hrest
      rcases hrest with h | ⟨cap, skips, times, hc, h⟩
      · exact .inl h
      · exact .inr ⟨cap, skips, times, mem_cons_of_mem _ hc, h⟩
    cases op with
    | none => exact hskip (by simp [firstGrant, hop])
    | some r =>
      obtain ⟨skips, times⟩ := r
      by_cases hle : skips ≤ maxGrantingDelay
      · refine .inr ⟨c, skips, times, mem_cons_self, hop, hle, ?_⟩
        simp [firstGrant, hop, hle]
      · exact hskip (by simp [firstGrant, hop, hle])

theorem mem_candidateCaps (h : cap ∈ candidateCaps debt) :
    1 ≤ cap ∧ cap ≤ debt.nextChunkSlots ∧ (debt.isHalfslot = true → cap = 1) := by
  unfold candidateCaps at h
  obtain ⟨hm, hle⟩ := mem_filter.mp h
  refine ⟨?_, of_decide_eq_true hle, ?_⟩
  · split at hm
    · rw [mem_singleton.mp hm]
    · simp only [basicGrantFullSlotCountsDesc, mem_cons, not_mem_nil, or_false] at hm
      omega
  · intro hh
    rw [if_pos hh] at hm
    exact mem_singleton.mp hm

variable {s}

/-- The one or no uplink timeslot of a packet data assignment. -/
theorem packetDataActiveUplinkSlotsForAddr_cases :
    s.packetDataActiveUplinkSlotsForAddr addr alloc = [] ∨
      s.packetDataActiveUplinkSlotsForAddr addr alloc = [packetDataAssignedScchTs] := by
  unfold packetDataActiveUplinkSlotsForAddr
  rw [filter_cons]
  split
  · exact .inr rfl
  · exact .inl rfl

/-- Every search is one on a single timeslot, with only the radio's own slots reusable. -/
theorem ulFindGrantOpportunityForAddrFrom_cases (s : BsChannelScheduler) (base : TdmaTime)
    (timeslot : Nat) (addr : TetraAddress) (cap : Nat) (half : Bool)
    (alloc : Option TimeslotAllocator) :
    s.ulFindGrantOpportunityForAddrFrom base timeslot addr cap half alloc = some none ∨
      ∃ owner, (∀ o, owner = some o → o = addr.ssi) ∧
        s.ulFindGrantOpportunityForAddrFrom base timeslot addr cap half alloc =
          s.ulsched.ulFindGrantOpportunityOnChannelFrom base timeslot [timeslot] cap half owner := by
  unfold ulFindGrantOpportunityForAddrFrom
  rcases packetDataActiveUplinkSlotsForAddr_cases with h | h
  · rw [h]
    exact .inr ⟨none, fun _ ho => (nomatch ho), rfl⟩
  · rw [h]
    by_cases ht : timeslot = packetDataAssignedScchTs
    · subst ht
      refine .inr ⟨some addr.ssi, fun o ho => (Option.some.inj ho).symm, ?_⟩
      simp
    · refine .inl ?_
      simp only [mem_singleton, ht, if_false]
      rfl

theorem ulFind_some (u : UlSched) (h : half = true → cap = 1) :
    ∃ op, u.ulFindGrantOpportunityOnChannelFrom base timeslot [timeslot] cap half owner =
      some op := by
  unfold ulFindGrantOpportunityOnChannelFrom
  split
  · exact ⟨none, rfl⟩
  split
  · rename_i hh
    exact absurd (h hh.1) hh.2
  · exact ⟨_, rfl⟩

theorem findFrom_timeslot {u : UlSched} (ht : ¬ (1 ≤ t ∧ t ≤ 4)) (fuel dist skipped : Nat)
    (run : List TdmaTime) :
    u.findFrom (.fromInt n) [t] cap half owner fuel dist skipped run = none := by
  induction fuel generalizing dist with
  | zero => rfl
  | succ fuel ih =>
    have hne : ((TdmaTime.fromInt n).addTimeslots dist).t ∉ [t] := by
      rw [TdmaTime.fromInt_addTimeslots, mem_singleton]
      simp only [TdmaTime.fromInt]
      omega
    rw [findFrom, if_pos hne]
    exact ih (dist + 1)

/-- Only the four timeslots have opportunities. -/
theorem ulFind_timeslot {u : UlSched}
    (h : u.ulFindGrantOpportunityOnChannelFrom (.fromInt b) t [t] cap half owner =
      some (some (skips, times))) :
    1 ≤ t ∧ t ≤ 4 := by
  unfold ulFindGrantOpportunityOnChannelFrom at h
  split at h
  · cases h
  split at h
  · cases h
  by_contra ht
  rw [TdmaTime.forwardToTimeslot, TdmaTime.fromInt_addTimeslots,
    findFrom_timeslot ht] at h
  cases h

def SameButUplink (s s' : BsChannelScheduler) : Prop :=
  ∃ u n b, s' = { s with ulsched := u, nextUsageMarker := n, booked := b }

theorem SameButUplink.refl (s : BsChannelScheduler) : SameButUplink s s := ⟨_, _, _, rfl⟩

/-- A grant of `cap` slots found at the opportunity `skips` from the absolute
slot `b`, and the slots `ns` it reserved for `ssi`. -/
structure GrantMade (s : BsChannelScheduler) (b : Int) (timeslot ssi : Nat) (half : Bool)
    (owner : Option Nat) (s' : BsChannelScheduler) (grant : BasicSlotgrant) (marker : Option Nat)
    (cap : Nat) (ns : List Int) (sub : Nat) : Prop where
  own : ∀ o, owner = some o → o = ssi
  found : ∃ skips, skips ≤ maxGrantingDelay ∧ grant.grantingDelay = grantingDelay skips ∧
    s.ulsched.ulFindGrantOpportunityOnChannelFrom (.fromInt b) timeslot [timeslot] cap half owner =
      some (some (skips, ns.map .fromInt))
  capacity : grantedCapacity half sub cap = some grant.capacityAllocation
  marked : marker.isSome = true ↔ half = false ∧ 2 ≤ cap
  inWindow : ∀ n ∈ ns, b ≤ n ∧ n < s.oldest + ringSlots
  count : ns.length = cap
  reserved : Reserved s.ulsched s.booked s.oldest ssi ns half marker s'.ulsched s'.booked sub

theorem UlInv.absolute_map (h : UlInv s) {ns : List Int} (hb : s.oldest ≤ b)
    (hns : ∀ n ∈ ns, b ≤ n ∧ n < s.oldest + ringSlots) :
    (ns.map TdmaTime.fromInt).map (absolute s.now s.curDltime) = ns := by
  have hw := h.window
  rw [h.time, List.map_map]
  calc
    ns.map _ = ns.map id := map_congr_left (fun n hn => by
      obtain ⟨h1, h2⟩ := hns n hn
      exact absolute_fromInt (by omega) (by simp only [ringSlots] at h2; omega))
    _ = ns := List.map_id ns

/-- A found opportunity is reserved without tripping an assertion. -/
theorem UlInv.reserve (h : UlInv s) {b : Int} {t cap skips ssi : Nat} {half : Bool}
    {owner : Option Nat} {times : List TdmaTime} (marker : Option Nat) (hb : s.oldest ≤ b)
    (hb' : b ≤ s.oldest + 4) (hcap : 1 ≤ cap) (ho : ∀ o, owner = some o → o = ssi)
    (hfind : s.ulsched.ulFindGrantOpportunityOnChannelFrom (.fromInt b) t [t] cap half owner =
      some (some (skips, times))) :
    ∃ ns u c sub, times = ns.map .fromInt ∧ (∀ n ∈ ns, b ≤ n ∧ n < s.oldest + ringSlots) ∧
      ns.length = cap ∧ Reserved s.ulsched s.booked s.oldest ssi ns half marker u c sub ∧
      s.reserve ssi times half marker = some ({ s with ulsched := u, booked := c }, sub) := by
  have ht : 1 ≤ t ∧ t ≤ 4 := ulFind_timeslot hfind
  obtain ⟨ns, u, c, sub, rfl, hns, hlen, hres⟩ := h.keeps.reserve marker ht hb hb' hcap ho hfind
  refine ⟨ns, u, c, sub, rfl, hns, hlen, hres, ?_⟩
  have hkeys : (ns.map TdmaTime.fromInt).map key = ns.map cell := by
    rw [List.map_map]
    exact map_congr_left (fun n _ => key_fromInt n)
  rw [BsChannelScheduler.reserve, ulReserveGrant, hkeys, hres.ring, map_some,
    h.absolute_map hb hns]
  dsimp only
  rw [hres.calendar]
  rfl

theorem grantedCapacity_some (h : sub = 0 ∧ half = false ∨ (sub = 1 ∨ sub = 2) ∧ half = true) :
    ∃ c, grantedCapacity half sub cap = some c := by
  rcases h with ⟨rfl, rfl⟩ | ⟨rfl | rfl, rfl⟩
  · exact ⟨_, rfl⟩
  · exact ⟨_, rfl⟩
  · exact ⟨_, rfl⟩

/-- A pending grant finds nothing and changes nothing, or reserves what it found. -/
theorem UlInv.ulProcessPendingGrantFrom (h : UlInv s) (hb : s.oldest ≤ b) (hb' : b ≤ s.oldest + 4)
    (timeslot : Nat) (addr : TetraAddress) (debt : PendingGrantDebt)
    (alloc : Option TimeslotAllocator) :
    s.ulProcessPendingGrantFrom (.fromInt b) timeslot addr debt alloc = some (none, s) ∨
      ∃ grant marker cap s' owner ns sub,
        s.ulProcessPendingGrantFrom (.fromInt b) timeslot addr debt alloc =
          some (some (grant, marker, cap), s') ∧
        cap ∈ candidateCaps debt ∧ SameButUplink s s' ∧
        GrantMade s b timeslot addr.ssi debt.isHalfslot owner s' grant marker cap ns sub := by
  have hcases := fun cap =>
    ulFindGrantOpportunityForAddrFrom_cases s (.fromInt b) timeslot addr cap debt.isHalfslot alloc
  have htotal : ∀ cap ∈ candidateCaps debt, ∃ op, s.ulFindGrantOpportunityForAddrFrom (.fromInt b)
      timeslot addr cap debt.isHalfslot alloc = some op := by
    intro cap hcap
    rcases hcases cap with he | ⟨owner, -, he⟩
    · exact ⟨_, he⟩
    · rw [he]
      exact ulFind_some s.ulsched (mem_candidateCaps hcap).2.2
  rcases firstGrant_cases htotal with hnone | ⟨cap, skips, times, hcap, hfind, hskips, hsome⟩
  · refine .inl ?_
    rw [BsChannelScheduler.ulProcessPendingGrantFrom, hnone]
    rfl
  · obtain ⟨owner, hown, he⟩ : ∃ owner, (∀ o, owner = some o → o = addr.ssi) ∧ _ := by
      rcases hcases cap with he | he
      · rw [he] at hfind
        cases hfind
      · exact he
    rw [hfind] at he
    obtain ⟨marker, s1, hmark, hs1, hmarked⟩ : ∃ marker s1,
        (if debt.isHalfslot = false ∧ cap ≥ 2 then
          (some (s.allocUsageMarker timeslot).1, (s.allocUsageMarker timeslot).2)
          else (none, s)) = ((marker, s1) : Option Nat × BsChannelScheduler) ∧
        (∃ n, s1 = { s with nextUsageMarker := n }) ∧
        (marker.isSome = true ↔ debt.isHalfslot = false ∧ 2 ≤ cap) := by
      by_cases hc : debt.isHalfslot = false ∧ cap ≥ 2
      · exact ⟨_, _, if_pos hc, ⟨_, rfl⟩, by simpa using hc⟩
      · exact ⟨_, _, if_neg hc, ⟨_, rfl⟩, by simpa using hc⟩
    obtain ⟨n, rfl⟩ := hs1
    have h1 : UlInv { s with nextUsageMarker := n } := ⟨h.time, h.keeps, h.window⟩
    obtain ⟨ns, u, c, sub, rfl, hns, hlen, hres, hreserve⟩ :=
      h1.reserve marker hb hb' (mem_candidateCaps hcap).1 hown he.symm
    obtain ⟨ca, hca⟩ := grantedCapacity_some hres.subslot
    refine .inr ⟨⟨ca, grantingDelay skips⟩, marker, cap, _, owner, ns, sub, ?_, hcap,
      ⟨u, n, c, rfl⟩, ⟨hown, ⟨skips, hskips, rfl, he.symm⟩, hca, hmarked, hns, hlen, hres⟩⟩
    rw [BsChannelScheduler.ulProcessPendingGrantFrom, hsome, bind_some]
    dsimp only
    rw [hmark]
    dsimp only
    rw [hreserve, bind_some, hca]
    rfl

end BsChannelScheduler
end NexusBs
