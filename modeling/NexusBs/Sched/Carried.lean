import NexusBs.Lib.Lists
import NexusBs.Sched.Exclusivity

namespace NexusBs
open SchedQueue UlSched Lib Function List Option

/-- Whether the radios behind an address listen, as a grant for it is judged. -/
def addrListens (ts : TdmaTime) (es : EnergySaving) (subscribers : SubscriberRegistry)
    (addr : TetraAddress) : Bool :=
  match addr.ssiType with
  | .issi => es.msListensAt addr.ssi ts
  | .gssi =>
    let targets := groupTargets addr subscribers
    targets.isEmpty || targets.any (fun i => es.msListensAt i ts)
  | _ => true

/-- Every answer kept in the cache is still the right one. -/
def GroupReadinessCache.Sound (cache : GroupReadinessCache) (ts : TdmaTime) (es : EnergySaving)
    (subscribers : SubscriberRegistry) : Prop :=
  ∀ addr b, addr.ssiType = .gssi → cache addr = some b → b = addrListens ts es subscribers addr

theorem GroupReadinessCache.Sound.default (ts : TdmaTime) (es : EnergySaving)
    (subscribers : SubscriberRegistry) : GroupReadinessCache.default.Sound ts es subscribers :=
  fun _ _ _ hc => (nomatch hc)

section Taken

variable {ts : TdmaTime} {es : EnergySaving} {subscribers : SubscriberRegistry}
  {cache : GroupReadinessCache} {e : DlSchedElem} {q : List DlSchedElem} {addr : TetraAddress}

theorem GroupReadinessCache.Sound.ready (h : cache.Sound ts es subscribers)
    (he : e.isGrantOrAck = true) (ha : e.elemAddr = some addr) :
    (elemIsReadyForTx e ts es subscribers cache).1 = addrListens ts es subscribers addr ∧
      (elemIsReadyForTx e ts es subscribers cache).2.Sound ts es subscribers := by
  have hg : e.groupReady ts es = none := by
    cases e <;> first | rfl | cases he
  unfold elemIsReadyForTx
  rw [ha]
  dsimp only
  cases ht : addr.ssiType with
  | gssi =>
    simp only [hg, anyTargetListens]
    cases hc : cache addr with
    | some b => exact ⟨h addr b ht hc, h⟩
    | none =>
      refine ⟨by simp only [addrListens, ht], ?_⟩
      intro a b hta hab
      dsimp only at hab
      by_cases haa : a = addr
      · subst haa
        rw [update_self] at hab
        cases hab
        simp [addrListens, ht]
      · rw [update_of_ne haa] at hab
        exact h a b hta hab
  | _ => exact ⟨by simp only [addrListens, ht], h⟩

theorem takeReady_mem (h : cache.Sound ts es subscribers) :
    (∀ x ∈ (takeReadyGrantsAndAcks ts es subscribers q cache).1, x ∈ q ∧ x.isGrantOrAck = true ∧
      ∀ a, x.elemAddr = some a → addrListens ts es subscribers a = true) ∧
    (∀ x ∈ (takeReadyGrantsAndAcks ts es subscribers q cache).2, x ∈ q ∧
      (x.isGrantOrAck = true → ∀ a, x.elemAddr = some a →
        addrListens ts es subscribers a = false)) := by
  induction q generalizing cache with
  | nil => exact ⟨fun x hx => (nomatch hx), fun x hx => (nomatch hx)⟩
  | cons e rest ih =>
    have lift : ∀ {l : List DlSchedElem} {P : DlSchedElem → Prop},
        (∀ x ∈ l, x ∈ rest ∧ P x) → ∀ x ∈ l, x ∈ e :: rest ∧ P x :=
      fun h x hx => ⟨mem_cons_of_mem _ (h x hx).1, (h x hx).2⟩
    unfold takeReadyGrantsAndAcks
    by_cases he : e.isGrantOrAck = true
    · obtain ⟨addr, ha⟩ : ∃ addr, e.elemAddr = some addr := by
        cases e <;> first | exact ⟨_, rfl⟩ | cases he
      obtain ⟨hready, hsound⟩ := h.ready he ha
      obtain ⟨ih1, ih2⟩ := ih hsound
      have hown : ∀ a, e.elemAddr = some a → a = addr := fun a h => Option.some.inj (h.symm.trans ha)
      simp only [he, if_true, hready]
      cases hl : addrListens ts es subscribers addr with
      | true =>
        refine ⟨?_, lift ih2⟩
        intro x hx
        rcases mem_cons.mp hx with rfl | hx
        · exact ⟨mem_cons_self, he, fun a hxa => hown a hxa ▸ hl⟩
        · exact lift ih1 x hx
      | false =>
        refine ⟨lift ih1, ?_⟩
        intro x hx
        rcases mem_cons.mp hx with rfl | hx
        · exact ⟨mem_cons_self, fun _ a hxa => hown a hxa ▸ hl⟩
        · exact lift ih2 x hx
    · obtain ⟨ih1, ih2⟩ := ih h
      simp only [he, Bool.false_eq_true, if_false]
      refine ⟨lift ih1, ?_⟩
      intro x hx
      rcases mem_cons.mp hx with rfl | hx
      · exact ⟨mem_cons_self, fun hx' => absurd hx' he⟩
      · exact lift ih2 x hx

/-- Nothing is lost and nothing is added by taking. -/
theorem takeReady_length (ts : TdmaTime) (es : EnergySaving) (subscribers : SubscriberRegistry)
    (q : List DlSchedElem) (cache : GroupReadinessCache) :
    (takeReadyGrantsAndAcks ts es subscribers q cache).1.length +
      (takeReadyGrantsAndAcks ts es subscribers q cache).2.length = q.length := by
  induction q generalizing cache with
  | nil => rfl
  | cons e rest ih =>
    unfold takeReadyGrantsAndAcks
    dsimp only
    split
    · have h := ih (elemIsReadyForTx e ts es subscribers cache).2
      split
      · simp only [length_cons]
        omega
      · simp only [length_cons]
        omega
    · have h := ih cache
      simp only [length_cons]
      omega

end Taken

/-- The table leads to MAC-RESOURCEs of the right address. -/
def Indexed (idx : ResourceIndexes) (q : List DlSchedElem) : Prop :=
  ∀ addr i, idx addr = some i →
    ∃ pdu sdu tx group, q[i]? = some (.resource pdu sdu tx group) ∧ pdu.addr = some addr

/-- What a turn of the loop does to the queue and the table, where `r` is the
grant or acknowledgement it integrates. -/
inductive Placed (r : Option DlSchedElem) (idx : ResourceIndexes) (q : List DlSchedElem) :
    ResourceIndexes → List DlSchedElem → Prop
  | dropped (hr : r = none) : Placed r idx q idx q
  | released (pdu : MacResource) (hr : r = none) (hg : pdu.slotGrantingElement = none)
      (hf : pdu.randomAccessFlag = false) (hc : pdu.chanAllocElement.isSome = true) :
      Placed r idx q idx (q ++ [.resource pdu (BitBuffer.new 0) none none])
  | into (e : DlSchedElem) (addr : TetraAddress) (i : Nat) (pdu : MacResource) (sdu : BitBuffer)
      (tx : Option TxReporter) (group : Option GroupDeliveryState) (hr : r = some e)
      (ha : e.elemAddr = some addr) (hi : idx addr = some i)
      (hq : q[i]? = some (.resource pdu sdu tx group)) (hp : pdu.addr = some addr) :
      Placed r idx q idx (q.set i (.resource (integrateInto e pdu) sdu tx group))
  | pushed (e : DlSchedElem) (addr : TetraAddress) (hr : r = some e) (ha : e.elemAddr = some addr)
      (hi : idx addr = none) :
      Placed r idx q (update idx addr (some q.length))
        (q ++ [.resource (minimalFor addr e) (BitBuffer.new 0) none none])

theorem integrateInto_addr (pdu : MacResource) : (integrateInto e pdu).addr = pdu.addr := by
  cases e <;> rfl

theorem integrateInto_chanAlloc (pdu : MacResource) :
    (integrateInto e pdu).chanAllocElement = pdu.chanAllocElement := by
  cases e <;> rfl

theorem minimalFor_addr (addr : TetraAddress) (e : DlSchedElem) :
    (minimalFor addr e).addr = some addr := by
  cases e <;> rfl

theorem getElem?_append_of_some {α : Type} {l l' : List α} {i : Nat} {x : α} (h : l[i]? = some x) :
    (l ++ l')[i]? = some x := by
  rw [List.getElem?_append_left (List.getElem?_eq_some_iff.mp h).1, h]

section Placing

variable {r : Option DlSchedElem} {idx idx' : ResourceIndexes} {q q' : List DlSchedElem}

theorem Placed.indexed (h : Placed r idx q idx' q') (hi : Indexed idx q) : Indexed idx' q' := by
  cases h with
  | dropped => exact hi
  | released =>
    intro a i ha
    obtain ⟨pdu0, sdu, tx, g, hq, hp⟩ := hi a i ha
    exact ⟨pdu0, sdu, tx, g, getElem?_append_of_some hq, hp⟩
  | into e addr i pdu sdu tx g hr ha hia hq =>
    intro a j haj
    by_cases hij : i = j
    · subst hij
      obtain ⟨pdu0, sdu0, tx0, g0, hq0, hp0⟩ := hi a i haj
      rw [hq0] at hq
      cases hq
      refine ⟨integrateInto e pdu, sdu, tx, g, ?_, (integrateInto_addr pdu).trans hp0⟩
      rw [List.getElem?_set_self', hq0]
      rfl
    · obtain ⟨pdu0, sdu0, tx0, g0, hq0, hp0⟩ := hi a j haj
      exact ⟨pdu0, sdu0, tx0, g0, by rw [List.getElem?_set_ne hij, hq0], hp0⟩
  | pushed e addr =>
    intro a i hai
    by_cases haa : a = addr
    · subst haa
      rw [update_self] at hai
      cases hai
      exact ⟨_, _, _, _, List.getElem?_concat_length, minimalFor_addr a e⟩
    · rw [update_of_ne haa] at hai
      obtain ⟨pdu0, sdu0, tx0, g0, hq0, hp0⟩ := hi a i hai
      exact ⟨pdu0, sdu0, tx0, g0, getElem?_append_of_some hq0, hp0⟩

theorem Placed.length (h : Placed r idx q idx' q') : q'.length ≤ q.length + 1 := by
  cases h with
  | dropped => omega
  | released | into | pushed => simp

/-- Queue elements after a turn: the old ones, changed only by what was integrated,
and new MAC-RESOURCEs without a payload. -/
theorem Placed.mem (h : Placed r idx q idx' q') (hx : x ∈ q') :
    x ∈ q ∨
      (∃ pdu, pdu.slotGrantingElement = none ∧ pdu.randomAccessFlag = false ∧
        pdu.chanAllocElement.isSome = true ∧ x = .resource pdu (BitBuffer.new 0) none none) ∨
      ∃ e addr, r = some e ∧ e.elemAddr = some addr ∧
        ((∃ pdu sdu tx group, .resource pdu sdu tx group ∈ q ∧ pdu.addr = some addr ∧
          x = .resource (integrateInto e pdu) sdu tx group) ∨
        x = .resource (minimalFor addr e) (BitBuffer.new 0) none none) := by
  cases h with
  | dropped => exact .inl hx
  | released pdu hr hg hf hc =>
    rcases mem_append.mp hx with hx | hx
    · exact .inl hx
    · exact .inr (.inl ⟨pdu, hg, hf, hc, mem_singleton.mp hx⟩)
  | into e addr i pdu sdu tx g hr ha hi hq hp =>
    rcases mem_or_eq_of_mem_set hx with hx | hx
    · exact .inl hx
    · exact .inr (.inr ⟨e, addr, hr, ha,
        .inl ⟨pdu, sdu, tx, g, List.mem_of_getElem? hq, hp, hx⟩⟩)
  | pushed e addr hr ha =>
    rcases mem_append.mp hx with hx | hx
    · exact .inl hx
    · exact .inr (.inr ⟨e, addr, hr, ha, .inr (mem_singleton.mp hx)⟩)

end Placing

variable {group : Option GroupDeliveryState}

theorem lastResource_append (h : pdu.addr = some addr) :
    lastResource addr (q ++ [.resource pdu sdu tx group]) = some q.length := by
  simp only [lastResource, reverse_append, reverse_cons, reverse_nil, nil_append,
    singleton_append, List.findIdx?_cons, DlSchedElem.isResourceFor, h, BEq.rfl, if_true,
    map_some, length_append, length_singleton]
  rfl

theorem indexed_lastResource (q : List DlSchedElem) : Indexed (fun addr => lastResource addr q) q := by
  intro addr i hi
  obtain ⟨j, hj, rfl⟩ := map_eq_some_iff.mp hi
  have hp := List.of_findIdx?_eq_some hj
  have hlt : j < q.length := by
    have h := (List.findIdx?_eq_some_iff_getElem.mp hj).1
    rwa [length_reverse] at h
  rw [List.getElem?_reverse hlt] at hp
  cases hq : q[q.length - 1 - j]? with
  | none =>
    rw [hq] at hp
    cases hp
  | some x =>
    rw [hq] at hp
    cases x with
    | resource pdu sdu tx group => exact ⟨pdu, sdu, tx, group, rfl, beq_iff_eq.mp hp⟩
    | _ => cases hp

theorem updateLast_none (hf : ∀ x, f x = none) : updateLast f q = none := by
  induction q with
  | nil => rfl
  | cons x rest ih => rw [updateLast, ih, hf x, map_none]

/-- A MAC-RESOURCE goes to the end of a queue with room for it. -/
theorem push_resource (h : q.length < cap) :
    push cap q (.resource pdu sdu tx group) = q ++ [.resource pdu sdu tx group] := by
  have hnone : ∀ x, coalesceInto (.resource pdu sdu tx group) x = none := fun x => by cases x <;> rfl
  have hco : coalesceReadyGrantOrAck (coalesceFloorWithdraw q (.resource pdu sdu tx group))
      (.resource pdu sdu tx group) = q ++ [.resource pdu sdu tx group] := by
    rw [coalesceReadyGrantOrAck, updateLast_none hnone]
    rfl
  rw [push, hco]
  apply enforceSchedQueueCap_of_le
  rw [length_append, length_singleton]
  omega

/-- No grant that has used up its waits would purge anything from the queue. -/
def Calm (taken q : List DlSchedElem) : Prop :=
  ∀ addr debt ts, .pendingGrant addr debt (.packetData ts) ∈ taken →
    debt.packetDataWaitBudgetExhausted = true → ∀ x ∈ q,
      schedElemIsPacketDataPayloadForAddr addr x = false ∧
        isPacketDataPendingGrant addr ts x = false

theorem payload_integrateInto :
    schedElemIsPacketDataPayloadForAddr addr (.resource (integrateInto e pdu) sdu tx group) =
      schedElemIsPacketDataPayloadForAddr addr (.resource pdu sdu tx group) := by
  simp [schedElemIsPacketDataPayloadForAddr, packetDataResourceRequiresPacketDataOwner,
    integrateInto_addr, integrateInto_chanAlloc]

theorem payload_empty :
    schedElemIsPacketDataPayloadForAddr addr (.resource pdu (BitBuffer.new 0) tx group) = false := by
  have hs : sduIsSndcpPacketData (BitBuffer.new 0) = false := by decide +kernel
  have ha : sduIsLlcAdvancedLink (BitBuffer.new 0) = false := by decide +kernel
  simp [schedElemIsPacketDataPayloadForAddr, packetDataResourceRequiresPacketDataOwner, hs, ha]

theorem Placed.calm (h : Placed r idx q idx' q') (hc : Calm taken q) : Calm taken q' := by
  intro addr debt ts hm hx x hxq
  rcases h.mem hxq with hxq | ⟨pdu, -, -, -, rfl⟩ | ⟨e, a, -, -, ⟨pdu, sdu, tx, g, hq, -, rfl⟩ | rfl⟩
  · exact hc addr debt ts hm hx x hxq
  · exact ⟨payload_empty, rfl⟩
  · rw [payload_integrateInto]
    exact ⟨(hc addr debt ts hm hx _ hq).1, rfl⟩
  · exact ⟨payload_empty, rfl⟩

namespace BsChannelScheduler

variable {s s' : BsChannelScheduler} {b : Int} {slot : Nat} {alloc : Option TimeslotAllocator}

theorem setAssignment_queues : (s.setAssignment slot a).dltxQueues = s.dltxQueues := rfl

/-- The radio that waited too long loses its assignment; the queues are only
touched at the elements of its own, and by the release at the end of queue 0. -/
theorem dropAfterWaitBudget_queue
    (hq : ∀ ts, origin = .packetData ts → ∀ x ∈ s.dltxQueues slot,
      schedElemIsPacketDataPayloadForAddr addr x = false ∧ isPacketDataPendingGrant addr ts x = false)
    (hlen : (s.dltxQueues slot).length < maxDlschedElemsPerTimeslot) :
    (s.dropAfterWaitBudget addr origin).dltxQueues slot = s.dltxQueues slot ∨
      ∃ pdu, pdu.slotGrantingElement = none ∧ pdu.randomAccessFlag = false ∧
        pdu.chanAllocElement.isSome = true ∧
        (s.dropAfterWaitBudget addr origin).dltxQueues slot =
          s.dltxQueues slot ++ [.resource pdu (BitBuffer.new 0) none none] := by
  unfold dropAfterWaitBudget
  cases origin with
  | commonControl => exact .inl rfl
  | packetData ts =>
    dsimp only
    split
    · exact .inl rfl
    rename_i a _
    split
    · have hkeep : ((s.purgePacketDataPendingGrantsForSlot addr
          ts).purgePacketDataQueuedPayloadForAddr addr).dltxQueues slot = s.dltxQueues slot := by
        show ((s.dltxQueues slot).filter _).filter _ = s.dltxQueues slot
        rw [filter_eq_self.mpr, filter_eq_self.mpr]
        · intro x hx
          simp [(hq ts rfl x hx).2]
        · intro x hx
          simp [(hq ts rfl x (mem_filter.mp hx).1).1]
      by_cases hs : slot = 0
      · subst hs
        refine .inr ⟨packetDataRelease a, rfl, rfl, rfl, ?_⟩
        rw [queuePacketDataCommonControlRelease, pushSchedQueueBounded, pushSchedQueueWithCap,
          setQueue_self]
        refine (push_resource ?_).trans ?_
        · rw [setAssignment_queues, hkeep]
          exact hlen
        · rw [setAssignment_queues, hkeep]
      · refine .inl ?_
        rw [queuePacketDataCommonControlRelease, pushSchedQueueBounded, pushSchedQueueWithCap,
          setQueue_of_ne _ _ hs, setAssignment_queues, hkeep]
    · exact .inl rfl

inductive Resolved (s : BsChannelScheduler) (ts : TdmaTime) (alloc : Option TimeslotAllocator) :
    DlSchedElem → Option DlSchedElem → BsChannelScheduler → Prop
  | ack (addr : TetraAddress) :
      Resolved s ts alloc (.randomAccessAck addr) (some (.randomAccessAck addr)) s
  | ready (addr : TetraAddress) (g : BasicSlotgrant) (m : Option Nat) :
      Resolved s ts alloc (.grant addr g m) (some (.grant addr g m)) s
  | stale (addr : TetraAddress) (debt : PendingGrantDebt) (origin : PendingGrantOrigin)
      (h : s.packetDataPendingGrantOriginIsValid addr origin alloc = false) :
      Resolved s ts alloc (.pendingGrant addr debt origin) none s
  | granted (addr : TetraAddress) (debt : PendingGrantDebt) (origin : PendingGrantOrigin)
      (g : BasicSlotgrant) (m : Option Nat) (cap : Nat) (s1 s2 : BsChannelScheduler)
      (h : s.ulProcessPendingGrantFrom ts ts.t addr debt alloc = some (some (g, m, cap), s1))
      (hs : SameButUplink s s1)
      (h2 : s2 = s1 ∨ ∃ left, s2 = s1.dlDeferPendingGrantNextFrame addr left origin) :
      Resolved s ts alloc (.pendingGrant addr debt origin) (some (.grant addr g m)) s2
  | wait (addr : TetraAddress) (debt : PendingGrantDebt) (origin : PendingGrantOrigin)
      (h : s.ulProcessPendingGrantFrom ts ts.t addr debt alloc = some (none, s)) :
      Resolved s ts alloc (.pendingGrant addr debt origin)
        (some (.grant addr ⟨debt.waitCapacityAllocation, .waitForAnotherSlotgrantMessage⟩ none))
        (s.dlDeferPendingGrantNextFrame addr debt.afterWaitGrant origin)
  | exhausted (addr : TetraAddress) (debt : PendingGrantDebt) (origin : PendingGrantOrigin)
      (h : s.ulProcessPendingGrantFrom ts ts.t addr debt alloc = some (none, s))
      (hx : debt.packetDataWaitBudgetExhausted = true) :
      Resolved s ts alloc (.pendingGrant addr debt origin) none (s.dropAfterWaitBudget addr origin)

variable {e : DlSchedElem} {st : ResourceIndexes × BsChannelScheduler}

theorem UlInv.resolved (h : UlInv s) (hb : s.oldest ≤ b) (hb' : b ≤ s.oldest + 4)
    (alloc : Option TimeslotAllocator) (he : e.isGrantOrAck = true) :
    ∃ r s1, s.resolveGrant (.fromInt b) alloc e = some (r, s1) ∧
      Resolved s (.fromInt b) alloc e r s1 := by
  cases e with
  | randomAccessAck addr => exact ⟨_, _, rfl, .ack addr⟩
  | grant addr g m => exact ⟨_, _, rfl, .ready addr g m⟩
  | pendingGrant addr debt origin =>
    simp only [BsChannelScheduler.resolveGrant]
    by_cases hv : s.packetDataPendingGrantOriginIsValid addr origin alloc = false
    · exact ⟨none, s, if_pos hv, .stale addr debt origin hv⟩
    · rw [if_neg hv]
      rcases h.ulProcessPendingGrantFrom hb hb' (TdmaTime.fromInt b).t addr debt alloc with hn |
        ⟨g, m, cap, s1, owner, ns, sub, hg, -, hs, -⟩
      · rw [hn]
        by_cases hx : debt.packetDataWaitBudgetExhausted = true
        · refine ⟨none, _, ?_, .exhausted addr debt origin hn hx⟩
          simp [hx]
        · refine ⟨_, _, ?_, .wait addr debt origin hn⟩
          simp [hx]
      · rw [hg]
        refine ⟨_, _, rfl, .granted addr debt origin g m cap s1 _ hg hs ?_⟩
        cases debt.remainingAfterGrant cap with
        | none => exact .inl rfl
        | some left => exact .inr ⟨left, rfl⟩
  | _ => cases he

/-- What is left to integrate has the address and the kind of what was taken. -/
theorem Resolved.elem {e' : DlSchedElem} (h : Resolved s ts alloc e (some e') s') :
    e'.elemAddr = e.elemAddr ∧ e'.elemAddr.isSome = true ∧
      ((∃ addr, e = .randomAccessAck addr ∧ e' = .randomAccessAck addr) ∨
        e.isGrant = true ∧ ∃ addr g m, e' = .grant addr g m) := by
  cases h with
  | ack addr => exact ⟨rfl, rfl, .inl ⟨addr, rfl, rfl⟩⟩
  | ready addr g m | granted addr debt origin g m => exact ⟨rfl, rfl, .inr ⟨rfl, addr, g, m, rfl⟩⟩
  | wait addr => exact ⟨rfl, rfl, .inr ⟨rfl, addr, _, _, rfl⟩⟩

theorem setNextSlotQueue_queues : (s.setNextSlotQueue q).dltxQueues = s.dltxQueues := rfl

theorem dlDeferPendingGrantNextFrame_queues :
    (s.dlDeferPendingGrantNextFrame addr debt origin).dltxQueues = s.dltxQueues :=
  setNextSlotQueue_queues

theorem Resolved.queues (h : Resolved s ts alloc e (some e') s') :
    s'.dltxQueues = s.dltxQueues := by
  cases h with
  | ack | ready => rfl
  | granted addr debt origin g m cap s1 s2 hp hs h2 =>
    obtain ⟨u, n, c, rfl⟩ := hs
    rcases h2 with rfl | ⟨left, rfl⟩
    · rfl
    · exact dlDeferPendingGrantNextFrame_queues
  | wait addr debt origin => exact dlDeferPendingGrantNextFrame_queues

theorem placeGrant_placed (ha : e.elemAddr = some addr) (hi : Indexed idx (s.dltxQueues slot))
    (hlen : (s.dltxQueues slot).length < maxDlschedElemsPerTimeslot) :
    ∃ idx' s', s.placeGrant slot idx e = some (idx', s') ∧
      Placed (some e) idx (s.dltxQueues slot) idx' (s'.dltxQueues slot) := by
  unfold placeGrant
  rw [ha]
  dsimp only
  cases hidx : idx addr with
  | some i =>
    obtain ⟨pdu, sdu, tx, group, hq, hp⟩ := hi addr i hidx
    refine ⟨idx, _, by dsimp only; rw [hq], ?_⟩
    rw [setQueue_self]
    exact .into e addr i pdu sdu tx group rfl ha hidx hq hp
  | none =>
    have hpush : (s.pushSchedQueueBounded slot
        (.resource (minimalFor addr e) (BitBuffer.new 0) none none)).dltxQueues slot =
        s.dltxQueues slot ++ [.resource (minimalFor addr e) (BitBuffer.new 0) none none] := by
      rw [pushSchedQueueBounded, pushSchedQueueWithCap, setQueue_self]
      exact push_resource hlen
    refine ⟨update idx addr (some (s.dltxQueues slot).length), s.pushSchedQueueBounded slot
      (.resource (minimalFor addr e) (BitBuffer.new 0) none none), ?_, ?_⟩
    · dsimp only
      rw [hpush, lastResource_append (minimalFor_addr addr e)]
    · rw [hpush]
      exact .pushed e addr rfl ha hidx

/-- A turn of the loop: it never fails, and says what it does to the queue. -/
theorem UlInv.integrateElem_placed (h : UlInv st.2) (hb : st.2.oldest ≤ b)
    (hb' : b ≤ st.2.oldest + 4) (alloc : Option TimeslotAllocator) (he : e ∈ taken)
    (hg : e.isGrantOrAck = true) (hc : Calm taken (st.2.dltxQueues slot))
    (hi : Indexed st.1 (st.2.dltxQueues slot))
    (hlen : (st.2.dltxQueues slot).length < maxDlschedElemsPerTimeslot) :
    ∃ st' r s1, BsChannelScheduler.integrateElem (.fromInt b) slot alloc st e = some st' ∧
      st.2.resolveGrant (.fromInt b) alloc e = some (r, s1) ∧
      Resolved st.2 (.fromInt b) alloc e r s1 ∧
      Placed r st.1 (st.2.dltxQueues slot) st'.1 (st'.2.dltxQueues slot) := by
  obtain ⟨r, s1, hr, hres⟩ := h.resolved hb hb' alloc hg
  cases r with
  | some e' =>
    obtain ⟨addr, ha⟩ := isSome_iff_exists.mp hres.elem.2.1
    rw [← hres.queues] at hi hlen
    obtain ⟨idx', s', hp, hplaced⟩ := placeGrant_placed ha hi hlen
    refine ⟨(idx', s'), some e', s1, ?_, hr, hres, ?_⟩
    · rw [BsChannelScheduler.integrateElem, hr, bind_some]
      exact hp
    · rw [← hres.queues]
      exact hplaced
  | none =>
    refine ⟨(st.1, s1), none, s1, ?_, hr, hres, ?_⟩
    · rw [BsChannelScheduler.integrateElem, hr]
      rfl
    · cases hres with
      | stale => exact .dropped rfl
      | exhausted addr debt origin hp hx =>
        have hq : ∀ ts, origin = .packetData ts → ∀ x ∈ st.2.dltxQueues slot,
            schedElemIsPacketDataPayloadForAddr addr x = false ∧
              isPacketDataPendingGrant addr ts x = false := by
          rintro ts rfl
          exact hc addr debt ts he hx
        rcases dropAfterWaitBudget_queue hq hlen with hd | ⟨pdu, hg, hf, hca, hd⟩
        · rw [hd]
          exact .dropped rfl
        · rw [hd]
          exact .released pdu rfl hg hf hca

/-- Turns of the loop, with what each one resolves and where it puts it. -/
inductive Turns (ts : TdmaTime) (slot : Nat) (alloc : Option TimeslotAllocator) :
    List DlSchedElem → ResourceIndexes × BsChannelScheduler →
      ResourceIndexes × BsChannelScheduler → Prop
  | nil (st : ResourceIndexes × BsChannelScheduler) : Turns ts slot alloc [] st st
  | cons {e : DlSchedElem} {rest : List DlSchedElem} {st st1 st' : ResourceIndexes × BsChannelScheduler}
      {r : Option DlSchedElem} {s1 : BsChannelScheduler}
      (hi : integrateElem ts slot alloc st e = some st1)
      (hr : st.2.resolveGrant ts alloc e = some (r, s1)) (hres : Resolved st.2 ts alloc e r s1)
      (hp : Placed r st.1 (st.2.dltxQueues slot) st1.1 (st1.2.dltxQueues slot))
      (h : Turns ts slot alloc rest st1 st') : Turns ts slot alloc (e :: rest) st st'

theorem Turns.fold {l : List DlSchedElem} (h : Turns ts slot alloc l st st') :
    l.foldlM (integrateElem ts slot alloc) st = some st' := by
  induction h with
  | nil => rfl
  | cons hi hr hres hp h ih =>
    rw [foldlM_cons, hi]
    exact ih

/-- The loop runs through: nothing it does makes the table wrong. -/
theorem UlInv.turns (alloc : Option TimeslotAllocator) (hg : ∀ e ∈ taken, e.isGrantOrAck = true)
    {rest : List DlSchedElem} (hsub : ∀ e ∈ rest, e ∈ taken) (h : UlInv st.2) (hb : st.2.oldest ≤ b)
    (hb' : b ≤ st.2.oldest + 4) (hc : Calm taken (st.2.dltxQueues slot))
    (hi : Indexed st.1 (st.2.dltxQueues slot))
    (hlen : (st.2.dltxQueues slot).length + rest.length ≤ maxDlschedElemsPerTimeslot) :
    ∃ st', Turns (.fromInt b) slot alloc rest st st' := by
  induction rest generalizing st with
  | nil => exact ⟨st, .nil st⟩
  | cons e rest ih =>
    have he := hsub e mem_cons_self
    rw [length_cons] at hlen
    obtain ⟨st1, r, s1, hi1, hr, hres, hp⟩ :=
      h.integrateElem_placed hb hb' alloc he (hg e he) hc hi (by omega)
    have hgrow := h.integrateElem hb hb' hi1
    obtain ⟨-, -, ho⟩ := hgrow.clock
    have hl := hp.length
    obtain ⟨st', ht⟩ := ih (fun x hx => hsub x (mem_cons_of_mem _ hx)) (h.of_grows hgrow)
      (by omega) (by omega) (hp.calm hc) (hp.indexed hi) (by omega)
    exact ⟨st', .cons hi1 hr hres hp ht⟩

end BsChannelScheduler

/-- A queued MAC-RESOURCE of the address with the acknowledgement flag. -/
def carriesAck (addr : TetraAddress) : DlSchedElem → Bool
  | .resource pdu _ _ _ => pdu.addr == some addr && pdu.randomAccessFlag
  | _ => false

def carriesGrant (addr : TetraAddress) (g : BasicSlotgrant) : DlSchedElem → Bool
  | .resource pdu _ _ _ => pdu.addr == some addr && pdu.slotGrantingElement == some g
  | _ => false

/-- A field of the queued MAC-RESOURCEs of an address, in queue order. -/
def headersOf {β : Type} (addr : TetraAddress) (field : MacResource → β) (q : List DlSchedElem) :
    List β :=
  q.filterMap (fun x => match x with
    | .resource pdu _ _ _ => if pdu.addr = some addr then some (field pdu) else none
    | _ => none)

/-- The grants in the queued MAC-RESOURCEs of an address, in queue order. -/
def grantsOf (addr : TetraAddress) (q : List DlSchedElem) : List (Option BasicSlotgrant) :=
  headersOf addr (·.slotGrantingElement) q

/-- The acknowledgement flags in the queued MAC-RESOURCEs of an address. -/
def acksOf (addr : TetraAddress) (q : List DlSchedElem) : List Bool :=
  headersOf addr (·.randomAccessFlag) q

section Placing

variable {r : Option DlSchedElem} {idx idx' : ResourceIndexes} {q q' : List DlSchedElem}
  {e : DlSchedElem} {addr : TetraAddress}

theorem mem_set_of_some {α : Type} {l : List α} {i : Nat} {x y : α} (h : l[i]? = some x) :
    y ∈ l.set i y :=
  mem_set (List.getElem?_eq_some_iff.mp h).1 y

/-- A property that integration keeps stays with some element of the queue. -/
theorem Placed.exists_mem (h : Placed r idx q idx' q') {P : DlSchedElem → Prop}
    (hP : ∀ e addr pdu sdu tx group, r = some e → e.elemAddr = some addr → pdu.addr = some addr →
      P (.resource pdu sdu tx group) → P (.resource (integrateInto e pdu) sdu tx group))
    (hx : ∃ x ∈ q, P x) : ∃ x ∈ q', P x := by
  obtain ⟨x, hx, hPx⟩ := hx
  cases h with
  | dropped => exact ⟨x, hx, hPx⟩
  | released | pushed => exact ⟨x, mem_append_left _ hx, hPx⟩
  | into e addr i pdu sdu tx g hr ha hi hq hp =>
    obtain ⟨j, hj⟩ := List.getElem?_of_mem hx
    by_cases hij : i = j
    · subst hij
      rw [hq] at hj
      cases hj
      exact ⟨_, mem_set_of_some hq, hP e addr pdu sdu tx g hr ha hp hPx⟩
    · refine ⟨x, List.mem_of_getElem? (i := j) ?_, hPx⟩
      rw [List.getElem?_set_ne hij, hj]

/-- After its turn, a MAC-RESOURCE of its address carries what was integrated. -/
theorem Placed.carries (h : Placed (some e) idx q idx' q') (ha : e.elemAddr = some addr)
    {P : DlSchedElem → Prop}
    (hinto : ∀ pdu sdu tx group, pdu.addr = some addr →
      P (.resource (integrateInto e pdu) sdu tx group))
    (hmin : P (.resource (minimalFor addr e) (BitBuffer.new 0) none none)) : ∃ x ∈ q', P x := by
  cases h with
  | dropped hr | released pdu hr => cases hr
  | into e a i pdu sdu tx g hr ha' hi hq hp =>
    cases hr
    cases ha.symm.trans ha'
    exact ⟨_, mem_set_of_some hq, hinto pdu sdu tx g hp⟩
  | pushed e a hr ha' =>
    cases hr
    cases ha.symm.trans ha'
    exact ⟨_, mem_append_right _ (mem_singleton.mpr rfl), hmin⟩

theorem Placed.carriesAck (h : Placed (some (.randomAccessAck addr)) idx q idx' q') :
    ∃ x ∈ q', carriesAck addr x = true := by
  apply h.carries rfl
  · intro pdu sdu tx group hp
    rw [NexusBs.carriesAck, integrateInto_addr, hp, BEq.rfl]
    rfl
  · rw [NexusBs.carriesAck, minimalFor_addr, BEq.rfl]
    rfl

theorem Placed.carriesGrant (h : Placed (some (.grant addr g m)) idx q idx' q') :
    ∃ x ∈ q', carriesGrant addr g x = true := by
  apply h.carries rfl
  · intro pdu sdu tx group hp
    rw [NexusBs.carriesGrant, integrateInto_addr, hp, BEq.rfl]
    exact beq_self_eq_true (some g)
  · rw [NexusBs.carriesGrant, minimalFor_addr, BEq.rfl]
    exact beq_self_eq_true (some g)

theorem filterMap_set {α β : Type} {f : α → Option β} {l : List α} {i : Nat} {x y : α}
    (h : l[i]? = some x) (hf : f y = f x) : (l.set i y).filterMap f = l.filterMap f := by
  obtain ⟨A, B, rfl, rfl, hset, _⟩ := split_at h
  rw [hset, filterMap_append, filterMap_append, filterMap_cons, filterMap_cons, hf]

/-- A field of the headers of an address that integration leaves alone: the turn at most adds
headers in which it is blank. -/
theorem Placed.headers {β : Type} (h : Placed r idx q idx' q') {field : MacResource → β} {blank : β}
    (hnew : ∀ pdu, pdu.slotGrantingElement = none → pdu.randomAccessFlag = false →
      field pdu = blank)
    (hown : ∀ e, r = some e → e.elemAddr = some addr →
      field (minimalFor addr e) = blank ∧ ∀ pdu, field (integrateInto e pdu) = field pdu) :
    ∃ n, headersOf addr field q' = headersOf addr field q ++ List.replicate n blank := by
  have hone : ∀ pdu : MacResource, (pdu.addr = some addr → field pdu = blank) →
      ∃ n, headersOf addr field (q ++ [.resource pdu (BitBuffer.new 0) none none]) =
        headersOf addr field q ++ List.replicate n blank := by
    intro pdu hpdu
    by_cases ha : pdu.addr = some addr
    · exact ⟨1, by simp [headersOf, filterMap_append, ha, hpdu ha]⟩
    · exact ⟨0, by simp [headersOf, filterMap_append, ha]⟩
  cases h with
  | dropped => exact ⟨0, (append_nil _).symm⟩
  | released pdu hr hg hf => exact hone pdu (fun _ => hnew pdu hg hf)
  | into e a i pdu sdu tx g hr ha hi hq hp =>
    refine ⟨0, (filterMap_set hq ?_).trans (append_nil _).symm⟩
    by_cases haa : a = addr
    · subst haa
      simp [integrateInto_addr, (hown e hr ha).2]
    · have hne : pdu.addr ≠ some addr := fun h => haa (Option.some.inj (hp.symm.trans h))
      simp [integrateInto_addr, hne]
  | pushed e a hr ha =>
    refine hone _ (fun haa => ?_)
    rw [minimalFor_addr] at haa
    cases haa
    exact (hown e hr ha).1

end Placing

theorem carriesAck_integrateInto (h : carriesAck addr (.resource pdu sdu tx group) = true) :
    carriesAck addr (.resource (integrateInto e pdu) sdu tx group) = true := by
  simp only [carriesAck, integrateInto_addr, Bool.and_eq_true] at h ⊢
  refine ⟨h.1, ?_⟩
  cases e with
  | grant => exact h.2
  | _ => rfl

namespace BsChannelScheduler

variable {ts : TdmaTime} {slot : Nat} {alloc : Option TimeslotAllocator} {l : List DlSchedElem}
  {st st' : ResourceIndexes × BsChannelScheduler} {addr : TetraAddress} {g : BasicSlotgrant}

section

variable (h : Turns ts slot alloc l st st')
include h

theorem Turns.keeps_ack (hx : ∃ x ∈ st.2.dltxQueues slot, carriesAck addr x = true) :
    ∃ x ∈ st'.2.dltxQueues slot, carriesAck addr x = true := by
  induction h with
  | nil => exact hx
  | cons hi hr hres hp h ih =>
    exact ih (hp.exists_mem (fun _ _ _ _ _ _ _ _ _ hc => carriesAck_integrateInto hc) hx)

theorem Turns.carries_ack (ha : .randomAccessAck addr ∈ l) :
    ∃ x ∈ st'.2.dltxQueues slot, carriesAck addr x = true := by
  induction h with
  | nil => cases ha
  | cons hi hr hres hp h ih =>
    rcases mem_cons.mp ha with rfl | ha
    · cases hres
      exact h.keeps_ack hp.carriesAck
    · exact ih ha

/-- A carried grant stays until a later one for the same address takes its place. -/
theorem Turns.keeps_grant (hx : ∃ x ∈ st.2.dltxQueues slot, carriesGrant addr g x = true) :
    (∃ x ∈ st'.2.dltxQueues slot, carriesGrant addr g x = true) ∨
      ∃ e ∈ l, e.isGrant = true ∧ e.elemAddr = some addr := by
  induction h with
  | nil => exact .inl hx
  | @cons e rest st st1 st' r s1 hi hr hres hp h ih =>
    by_cases he : e.isGrant = true ∧ e.elemAddr = some addr
    · exact .inr ⟨e, mem_cons_self, he⟩
    · have hx1 : ∃ x ∈ st1.2.dltxQueues slot, carriesGrant addr g x = true := by
        refine hp.exists_mem ?_ hx
        intro e' a pdu sdu tx group hr' ha hpa hc
        subst hr'
        obtain ⟨hea, -, ⟨b, rfl, rfl⟩ | ⟨hg, b, g', m, rfl⟩⟩ := hres.elem
        · exact hc
        · -- a grant of another address does not touch this one
          rw [carriesGrant, hpa, Bool.and_eq_true, beq_iff_eq] at hc
          refine absurd ⟨hg, ?_⟩ he
          rw [← hea, ha]
          exact hc.1
      rcases ih hx1 with hx | ⟨e', he', hg⟩
      · exact .inl hx
      · exact .inr ⟨e', mem_cons_of_mem _ he', hg⟩

end

theorem Turns.split (h : Turns ts slot alloc (pre ++ post) st st') :
    ∃ st1, Turns ts slot alloc pre st st1 ∧ Turns ts slot alloc post st1 st' := by
  induction pre generalizing st with
  | nil => exact ⟨st, .nil st, h⟩
  | cons e pre ih =>
    cases h with
    | cons hi hr hres hp h =>
      obtain ⟨st1, h1, h2⟩ := ih h
      exact ⟨st1, .cons hi hr hres hp h1, h2⟩

theorem Turns.from {pre : List DlSchedElem} (h : Turns ts slot alloc (pre ++ post) st st')
    (hf : pre.foldlM (integrateElem ts slot alloc) st = some st1) :
    Turns ts slot alloc post st1 st' := by
  obtain ⟨st2, h1, h2⟩ := h.split
  rw [h1.fold] at hf
  cases hf
  exact h2

section

variable (h : Turns ts slot alloc l st st')
include h

/-- A field that what is taken for the address does not set. -/
theorem Turns.headers {β : Type} {field : MacResource → β} {blank : β}
    (hnew : ∀ pdu, pdu.slotGrantingElement = none → pdu.randomAccessFlag = false → field pdu = blank)
    (hl : ∀ e ∈ l, ∀ e' s s1, Resolved s ts alloc e (some e') s1 → e'.elemAddr = some addr →
      field (minimalFor addr e') = blank ∧ ∀ pdu, field (integrateInto e' pdu) = field pdu) :
    ∃ n, headersOf addr field (st'.2.dltxQueues slot) =
      headersOf addr field (st.2.dltxQueues slot) ++ List.replicate n blank := by
  induction h with
  | nil => exact ⟨0, (append_nil _).symm⟩
  | @cons e rest st st1 st' r s1 hi hr hres hp h ih =>
    obtain ⟨n, hn⟩ := ih (fun x hx => hl x (mem_cons_of_mem _ hx))
    obtain ⟨k, hk⟩ := hp.headers hnew
      (fun e' he' ha => hl e mem_cons_self e' st.2 s1 (he' ▸ hres) ha)
    refine ⟨k + n, ?_⟩
    rw [hn, hk, append_assoc, replicate_append_replicate]

theorem Turns.grantsOf (hl : ∀ e ∈ l, e.isGrant = true → e.elemAddr ≠ some addr) :
    ∃ n, NexusBs.grantsOf addr (st'.2.dltxQueues slot) =
      NexusBs.grantsOf addr (st.2.dltxQueues slot) ++ List.replicate n none := by
  refine h.headers (fun pdu hg _ => hg) ?_
  intro e he e' s s1 hres ha
  obtain ⟨hea, -, ⟨b, rfl, rfl⟩ | ⟨hg, -⟩⟩ := hres.elem
  · exact ⟨rfl, fun _ => rfl⟩
  · exact absurd (hea.symm.trans ha) (hl e he hg)

theorem Turns.acksOf (hl : .randomAccessAck addr ∉ l) :
    ∃ n, NexusBs.acksOf addr (st'.2.dltxQueues slot) =
      NexusBs.acksOf addr (st.2.dltxQueues slot) ++ List.replicate n false := by
  refine h.headers (fun pdu _ hf => hf) ?_
  intro e he e' s s1 hres ha
  obtain ⟨-, -, ⟨b, rfl, rfl⟩ | ⟨-, b, g', m, rfl⟩⟩ := hres.elem
  · cases ha
    exact absurd he hl
  · exact ⟨rfl, fun _ => rfl⟩

end

theorem dlSlotIndex_t (ts : TdmaTime) : dlSlotIndex ts.t = some (ts.t - 1) := by
  have ht := ts.t_range
  simp [dlSlotIndex, isTimeslot, ht.1, ht.2]

theorem dlTakeAllReadyGrantsAndAcks_eq (s : BsChannelScheduler) (ts : TdmaTime) (env : SlotEnv) :
    s.dlTakeAllReadyGrantsAndAcks ts env =
      ((takeReadyGrantsAndAcks ts env.energySaving env.subscribers (s.dltxQueues (ts.t - 1))
        .default).1, s.setQueue (ts.t - 1) (takeReadyGrantsAndAcks ts env.energySaving
          env.subscribers (s.dltxQueues (ts.t - 1)) .default).2) := by
  rw [dlTakeAllReadyGrantsAndAcks, dlSlotIndex_t]

def integrationStart (s : BsChannelScheduler) (ts : TdmaTime) (env : SlotEnv) :
    ResourceIndexes × BsChannelScheduler :=
  (fun addr => lastResource addr
    ((s.dlTakeAllReadyGrantsAndAcks ts env).2.dltxQueues (ts.t - 1)),
    (s.dlTakeAllReadyGrantsAndAcks ts env).2)

/-- Queue contents for which the table of the loop stays right: they fit the cap
after every turn, and no grant that has used up its waits shares the queue with
payload of its own address. -/
structure TableSafe (q : List DlSchedElem) : Prop where
  room : q.length ≤ maxDlschedElemsPerTimeslot
  calm : ∀ addr debt assignedTs, .pendingGrant addr debt (.packetData assignedTs) ∈ q →
    debt.packetDataWaitBudgetExhausted = true →
    ∀ x ∈ q, schedElemIsPacketDataPayloadForAddr addr x = false

theorem UlSettled.starts {s0 s : BsChannelScheduler} (h : UlSettled s0)
    (hs : s.uplink = s0.tickStart.uplink) (ts : TdmaTime) (env : SlotEnv) :
    UlInv (s.integrationStart ts env).2 ∧ (s.integrationStart ts env).2.oldest = s0.now - 2 := by
  have hul := h.ticked hs
  have hgrow : UlGrows s (s.dlTakeAllReadyGrantsAndAcks ts env).2 := by
    refine hul.1.grows_of_uplink ?_
    rw [dlTakeAllReadyGrantsAndAcks_eq]
    rfl
  obtain ⟨-, -, ho⟩ := hgrow.clock
  exact ⟨hul.1.of_grows hgrow, ho.trans hul.2⟩

/-- The loop over what is taken in the slot after a run. -/
theorem UlSettled.integration_turns {s0 s : BsChannelScheduler} {ts : TdmaTime} (h : UlSettled s0)
    (hs : s.uplink = s0.tickStart.uplink) (hts : ts = .fromInt (s0.now + 2)) (env : SlotEnv)
    (hq : TableSafe (s.dltxQueues (ts.t - 1))) :
    ∃ st', Turns ts (ts.t - 1) env.alloc (s.dlTakeAllReadyGrantsAndAcks ts env).1
      (s.integrationStart ts env) st' := by
  obtain ⟨htaken, hleft⟩ := takeReady_mem (q := s.dltxQueues (ts.t - 1))
    (.default ts env.energySaving env.subscribers)
  have hlength := takeReady_length ts env.energySaving env.subscribers (s.dltxQueues (ts.t - 1))
    .default
  have hroom := hq.room
  obtain ⟨hinv, hlo⟩ := h.starts hs ts env
  have hstart : (s.integrationStart ts env).2.dltxQueues (ts.t - 1) =
      (takeReadyGrantsAndAcks ts env.energySaving env.subscribers (s.dltxQueues (ts.t - 1))
        .default).2 := by
    rw [integrationStart, dlTakeAllReadyGrantsAndAcks_eq, setQueue_self]
  rw [dlTakeAllReadyGrantsAndAcks_eq]
  rw [hts] at hstart hlo htaken hleft hlength hroom hq ⊢
  refine UlInv.turns env.alloc (fun e he => (htaken e he).2.1) (fun e he => he) ?_ ?_ ?_ ?_ ?_ ?_
  · rw [← hts]
    exact hinv
  · rw [hlo]
    omega
  · rw [hlo]
    omega
  · rw [hstart]
    intro addr debt t hm hx x hxq
    refine ⟨hq.calm addr debt t (htaken _ hm).1 hx x (hleft x hxq).1, ?_⟩
    -- the other grants of a taken address were taken with it
    cases x with
    | pendingGrant a d o =>
      have h1 := (htaken _ hm).2.2 addr rfl
      have h2 := (hleft _ hxq).2 rfl a rfl
      cases o with
      | commonControl => rfl
      | packetData =>
        have hne : a ≠ addr := by
          rintro rfl
          rw [h1] at h2
          cases h2
        simp [isPacketDataPendingGrant, beq_eq_false_iff_ne.mpr hne]
    | _ => rfl
  · rw [← hts]
    exact indexed_lastResource _
  · rw [hstart]
    dsimp only
    omega

/-- In the slot that follows any run, whatever the queues hold beyond the cases
that upset the table: integration runs through, carries every acknowledgement and
every grant it resolves in a MAC-RESOURCE of its address, drops only stale grants
and grants that waited too long, and adds nothing to other addresses. -/
theorem integration_targets_address (scr : Nat) (p : PrecomputedUmacPdus) (t : TdmaTime)
    (ops : List SchedOp) (s0 s : BsChannelScheduler) (ts : TdmaTime) (env : SlotEnv)
    (hr : run step (.new scr p t) ops = some s0) (hs : s.uplink = s0.tickStart.uplink)
    (hts : ts = .fromInt (s0.now + 2)) (hq : TableSafe (s.dltxQueues (ts.t - 1))) :
    ∃ s', s.dlIntegrateSchedElemsForTimeslot ts env = some s' ∧
      ((canCarryScheduledSchf ts = false ∧ s' = s) ∨
        ((∀ addr, .randomAccessAck addr ∈ (s.dlTakeAllReadyGrantsAndAcks ts env).1 →
          ∃ x ∈ s'.dltxQueues (ts.t - 1), carriesAck addr x = true) ∧
        (∀ pre e post st r s1,
          (s.dlTakeAllReadyGrantsAndAcks ts env).1 = pre ++ e :: post →
          pre.foldlM (integrateElem ts (ts.t - 1) env.alloc) (s.integrationStart ts env) = some st →
          st.2.resolveGrant ts env.alloc e = some (r, s1) →
            (∀ addr g m, r = some (.grant addr g m) →
              (∃ x ∈ s'.dltxQueues (ts.t - 1), carriesGrant addr g x = true) ∨
                ∃ e' ∈ post, e'.isGrant = true ∧ e'.elemAddr = some addr) ∧
            (r = none → ∃ addr debt origin, e = .pendingGrant addr debt origin ∧
              (st.2.packetDataPendingGrantOriginIsValid addr origin env.alloc = false ∨
                debt.packetDataWaitBudgetExhausted = true ∧
                st.2.ulProcessPendingGrantFrom ts ts.t addr debt env.alloc = some (none, st.2)))) ∧
        (∀ addr, (∀ e ∈ (s.dlTakeAllReadyGrantsAndAcks ts env).1, e.isGrant = true →
            e.elemAddr ≠ some addr) →
          ∃ n, grantsOf addr (s'.dltxQueues (ts.t - 1)) =
            grantsOf addr ((s.dlTakeAllReadyGrantsAndAcks ts env).2.dltxQueues (ts.t - 1)) ++
              List.replicate n none) ∧
        (∀ addr, .randomAccessAck addr ∉ (s.dlTakeAllReadyGrantsAndAcks ts env).1 →
          ∃ n, acksOf addr (s'.dltxQueues (ts.t - 1)) =
            acksOf addr ((s.dlTakeAllReadyGrantsAndAcks ts env).2.dltxQueues (ts.t - 1)) ++
              List.replicate n false))) := by
  have hset : UlSettled s0 := (UlSettled.new scr p t).run hr
  have hslot := dlSlotIndex_t ts
  by_cases hcan : canCarryScheduledSchf ts = false
  · refine ⟨s, ?_, .inl ⟨hcan, rfl⟩⟩
    simp [dlIntegrateSchedElemsForTimeslot, hslot, hcan]
  · obtain ⟨st', hturns⟩ := hset.integration_turns hs hts env hq
    refine ⟨st'.2, ?_, .inr ⟨fun addr ha => hturns.carries_ack ha, ?_, ?_, ?_⟩⟩
    · simp only [dlIntegrateSchedElemsForTimeslot, hslot, hcan]
      have hf := hturns.fold
      rw [integrationStart] at hf
      rw [hf]
      rfl
    · intro pre e post st r s1 hsplit hf hres
      rw [hsplit] at hturns
      cases hturns.from hf with
      | cons hi hr' hres' hp h =>
        rw [hr'] at hres
        cases hres
        constructor
        · rintro addr g m rfl
          exact h.keeps_grant hp.carriesGrant
        · rintro rfl
          cases hres' with
          | stale addr debt origin hv => exact ⟨addr, debt, origin, rfl, .inl hv⟩
          | exhausted addr debt origin hn hx => exact ⟨addr, debt, origin, rfl, .inr ⟨hx, hn⟩⟩
    · intro addr hl
      exact hturns.grantsOf hl
    · intro addr hl
      exact hturns.acksOf hl

/-- A scheduler about to finalise a slot of timeslot 2, with one queue filled. -/
def beforeTs2 (q : List DlSchedElem) : BsChannelScheduler :=
  (BsChannelScheduler.new 3 sampleCell (.fromInt 3)).tickStart.setQueue 1 q

/-- A header and an acknowledgement for one radio, a grant for another. -/
def twoRadioQueue : List DlSchedElem :=
  [.resource (dlMakeMinimalResource (.issi 1001) none false) (BitBuffer.new 0) none none,
    .randomAccessAck (.issi 1001), .pendingGrant (.issi 1002) (.new .req1Slot) .commonControl]

/-- The acknowledgement joins the queued header of its radio. -/
theorem integration_targets_address_two_radios : ∃ s',
    (beforeTs2 twoRadioQueue).dlIntegrateSchedElemsForTimeslot (.fromInt 5) quietEnv = some s' ∧
      ∃ x ∈ s'.dltxQueues 1, carriesAck (.issi 1001) x = true := by
  have hq : TableSafe twoRadioQueue := by
    refine ⟨by decide, ?_⟩
    intro addr debt assignedTs hm
    simp [twoRadioQueue] at hm
  obtain ⟨s', hs', ⟨hc, -⟩ | ⟨hacks, -⟩⟩ := integration_targets_address 3 sampleCell (.fromInt 3) []
    (.new 3 sampleCell (.fromInt 3)) (beforeTs2 twoRadioQueue) (.fromInt 5) quietEnv rfl rfl rfl hq
  · exact absurd hc (by decide)
  · exact ⟨s', hs', hacks (.issi 1001) (by decide +kernel)⟩

/-- A packet data grant without an assignment behind it is taken and dropped. -/
theorem stale_packet_data_grant_dropped :
    ((beforeTs2 [.pendingGrant (.issi 1001) (.new .req1Slot)
      (.packetData 2)]).dlTakeAllReadyGrantsAndAcks (.fromInt 5) quietEnv).1 =
        [.pendingGrant (.issi 1001) (.new .req1Slot) (.packetData 2)] ∧
      ((beforeTs2 [.pendingGrant (.issi 1001) (.new .req1Slot)
        (.packetData 2)]).dlIntegrateSchedElemsForTimeslot (.fromInt 5) quietEnv).map (fun s' =>
          s'.dltxQueues 1) = some [] := by
  constructor
  · decide +kernel
  · decide +kernel

end BsChannelScheduler
end NexusBs
