import NexusBs.Sched.Sendable

namespace NexusBs
open SchedQueue BsChannelScheduler Option

/-- A channel allocation is changed in its timeslots and its linearisation right at most. -/
theorem adaptPacketData_cases {s : BsChannelScheduler} {pdu : MacResource} {sdu : BitBuffer}
    (h : s.adaptPacketDataChannelAllocationForVoicePriority pdu sdu alloc = some pdu') :
    pdu' = pdu ∨ ∃ c ts clch, pdu.chanAllocElement = some c ∧
      pdu' = MacResource.updateLenAndFillInd { pdu with
        chanAllocElement := some { c with tsAssigned := ts, clchPermission := clch } } sdu.len := by
  unfold adaptPacketDataChannelAllocationForVoicePriority at h
  split at h
  · rename_i c ha hc
    dsimp only at h
    repeat' split at h
    all_goals first
      | exact .inl (Option.some.inj h).symm
      | exact .inr ⟨c, _, _, hc, (Option.some.inj h).symm⟩
      | cases h
  · exact .inl (Option.some.inj h).symm

theorem Carriable.adapted {s : BsChannelScheduler} (h : Carriable pdu sdu)
    (ha : s.adaptPacketDataChannelAllocationForVoicePriority pdu sdu alloc = some pdu') :
    Carriable pdu' sdu := by
  rcases adaptPacketData_cases ha with rfl | ⟨c, ts, clch, hc, rfl⟩
  · exact h
  · obtain ⟨t, ⟨n, hn⟩, hclear, hg, halloc⟩ := h.valid
    obtain ⟨hsup, hcar, hmon, h18⟩ := halloc c hc
    have hadapted : Carriable { pdu with
        chanAllocElement := some { c with tsAssigned := ts, clchPermission := clch } } sdu := by
      refine ⟨⟨t, ⟨n, hn⟩, hclear, hg, ?_⟩, h.unlabelled, h.start, h.named⟩
      intro c' hc'
      cases hc'
      exact ⟨hsup, hcar, hmon, h18⟩
    exact hadapted.withLen _ _

/-- The assignment that a sent allocation speaks of can be released later. -/
theorem Carriable.assignment (h : Carriable pdu sdu)
    (hu : packetDataAssignmentUpdateFromResource pdu sdu = some u) :
    PacketDataAssignmentUpdate.Makes AssignmentOk u := by
  obtain ⟨t, hv⟩ := h.valid
  obtain ⟨addr, haddr, hu⟩ := bind_eq_some_iff.mp hu
  split at hu
  · cases hu
  rename_i hkind
  simp only [not_or, ne_eq, Decidable.not_not] at hkind
  obtain ⟨c, hc, hu⟩ := bind_eq_some_iff.mp hu
  have hmakes : c.ulDlAssigned ≠ .augmented → ∀ t,
      AssignmentOk ⟨addr, c.ulDlAssigned, c.carrierNum, t⟩ :=
    fun hdir t => ⟨⟨hv.serializable.ssi addr haddr, .inr (.inr hkind.1)⟩, hdir,
      (hv.alloc c hc).carrier⟩
  repeat' split at hu
  all_goals first
    | cases hu; done
    | (cases hu; exact trivial)
    | (rename_i hdir _; cases hu; exact hmakes hdir)

namespace Building

variable {b b' : Building} {ts : TdmaTime} {env : SlotEnv}

/-- The loop may go on: what is queued can be sent, and the block is ready for the next header. -/
structure Ok (b : Building) : Prop where
  stock : Stocked (fun _ => ElemOk) AssignmentOk b.sched
  block : ∀ buf, b.buf = some buf → buf.len = BsFragger.schFCap ∧ Aligned buf

theorem Ok.target (h : Ok b) : (b.buf.getD (BitBuffer.new BsFragger.schFCap)).len =
    BsFragger.schFCap ∧ Aligned (b.buf.getD (BitBuffer.new BsFragger.schFCap)) := by
  cases hb : b.buf with
  | none => exact ⟨BitBuffer.len_new, .inl rfl⟩
  | some buf => exact h.block buf hb

theorem Ok.applyUpdate (h : Ok b)
    (hu : ∀ x, u = some x → PacketDataAssignmentUpdate.Makes AssignmentOk x) :
    Ok (b.applyUpdate ts u) := by
  cases u with
  | none => exact h
  | some u => exact ⟨(applyUpdate_tidies b.sched trivial (hu u rfl) ts b.alloc).stock h.stock, h.block⟩

variable {group : Option GroupDeliveryState}

theorem Ok.sendChunk (h : Ok b) (ts : TdmaTime) (env : SlotEnv) (tx : Option TxReporter)
    (hf : FraggerOk f) (hg : GroupOk group)
    (hu : ∀ x, u = some x → PacketDataAssignmentUpdate.Makes AssignmentOk x) :
    ∃ b', b.sendChunk ts env f tx group u = some b' ∧ Ok b' ∧ b'.buf.isSome = true := by
  obtain ⟨hlen, hal⟩ := h.target
  have hcap : (b.buf.getD (BitBuffer.new BsFragger.schFCap)).rest.length ≤ BsFragger.schFCap := by
    rw [BitBuffer.len] at hlen
    omega
  obtain ⟨f', buf', done, hchunk, hdone, ho⟩ := hf.getNextChunk hcap hal
  have hbuf : ∀ x, some buf' = some x → x.len = BsFragger.schFCap ∧ Aligned x := by
    intro x hx
    cases hx
    exact ⟨ho.len.trans hlen, ho.aligned hal⟩
  refine ⟨_, by rw [Building.sendChunk, hchunk, map_some], ?_⟩
  have hpush : ∀ e, ElemOk e → Stocked (fun _ => ElemOk) AssignmentOk
      (b.sched.pushNextSlotQueueBounded e) :=
    fun e he => ((Tidies.refl (o := True) _).pushNext elemOk_laws (fun _ => he)).stock h.stock
  have hnext : done = false → FraggerOk f' := fun hd => ⟨hdone.trans hd, ho.stage hd⟩
  cases done with
  | false =>
    exact ⟨⟨(hpush _ ⟨hnext rfl, hg⟩), hbuf⟩, rfl⟩
  | true =>
    cases group with
    | none =>
      refine ⟨Ok.applyUpdate ?_ hu, ?_⟩
      · exact ⟨h.stock, hbuf⟩
      · cases u <;> rfl
    | some g =>
      dsimp only [map_some]
      rw [if_pos rfl]
      split
      · refine ⟨⟨hpush _ ?_, hbuf⟩, rfl⟩
        have hg' := hg.mapState (fun g =>
          let g := g.markBatchCovered
          if isPredefinedBroadcastGssi f.resource.addr && g.txReporter.any env.transmitted then
            { g with txReporter := none }
          else g)
        exact ⟨hg' _ rfl, hg'⟩
      · refine ⟨Ok.applyUpdate ?_ hu, ?_⟩
        · exact ⟨h.stock, hbuf⟩
        · cases u <;> rfl

theorem GroupOk.startBatch (h : GroupOk group) (addr : Option TetraAddress)
    (subscribers : SubscriberRegistry) (es : EnergySaving) :
    GroupOk (group.map (Building.startBatch addr ts subscribers es)) := by
  cases group with
  | none => exact .none
  | some =>
    cases addr with
    | none => exact h.mapState _
    | some => exact (h.mapState _).mapState _

theorem GroupOk.orNew (h : GroupOk group) (hc : Carriable pdu sdu) :
    GroupOk (group <|> pdu.addr.bind (fun addr =>
      groupStateForResource addr pdu sdu tx subscribers es)) := by
  cases group with
  | some => exact h
  | none =>
    intro g hg
    obtain ⟨addr, -, hg⟩ := bind_eq_some_iff.mp hg
    unfold groupStateForResource at hg
    dsimp only at hg
    split at hg
    · cases hg
    split at hg
    · cases hg
    · cases hg
      exact hc

/-- One element goes into the block, or back into a queue. -/
theorem Ok.send (h : Ok b) (he : ElemOk e) : ∃ b', b.send ts env e = some b' ∧ Ok b' := by
  cases e with
  | resource pdu sdu tx group =>
    rw [Building.send, Building.sendResource]
    split
    · exact ⟨b, rfl, h⟩
    split
    · exact ⟨b, rfl, h⟩
    rename_i pdu' hadapt
    have hc := he.1.adapted hadapt
    have hnew : BsFragger.new pdu' sdu none = some ⟨pdu', false, false, sdu, none, none, false⟩ := by
      rw [BsFragger.new, if_pos (by rw [BitBuffer.getPos, hc.start]; rfl)]
    rw [hnew, bind_some]
    obtain ⟨b', hb', hok, -⟩ := h.sendChunk ts env _ (f := ⟨pdu', false, false, sdu, none, none,
        packetDataResourceRequiresPacketDataOwner pdu' sdu⟩) ⟨rfl, .inl ⟨rfl, hc⟩⟩
      (GroupOk.startBatch (GroupOk.orNew he.2 hc) pdu'.addr
        env.subscribers b.energySaving)
      (fun x hx => hc.assignment hx)
    exact ⟨b', hb', hok⟩
  | fragBuf f tx =>
    rw [Building.send, Building.sendFragBuf]
    split
    · exact ⟨b, rfl, h⟩
    obtain ⟨b', hb', hok, -⟩ := h.sendChunk ts env tx (u := none) he.1
      (GroupOk.startBatch he.2 f.resource.addr env.subscribers b.energySaving) (fun _ hx => by cases hx)
    exact ⟨b', hb', hok⟩
  | _ => exact ⟨b, rfl, h⟩

/-- What every turn keeps holds after the loop, which runs through. -/
theorem loop_rule {I : Building → Prop}
    (hlast : ∀ b sched cache, I b →
      b.sched.dlTakePrioritizedSchedItem ts env.subscribers b.energySaving b.cache =
        (none, sched, cache) → I { b with sched := sched, cache := cache })
    (hturn : ∀ b e sched cache, I b →
      b.sched.dlTakePrioritizedSchedItem ts env.subscribers b.energySaving b.cache =
        (some e, sched, cache) →
      ∃ b', { b with sched := sched, cache := cache }.send ts env e = some b' ∧ I b')
    (fuel : Nat) (hb : I b) : ∃ b', loop ts env fuel b = some b' ∧ I b' := by
  induction fuel generalizing b with
  | zero => exact ⟨b, rfl, hb⟩
  | succ fuel ih =>
    rw [loop]
    obtain ⟨e, sched, cache, ht⟩ : ∃ e sched cache,
        b.sched.dlTakePrioritizedSchedItem ts env.subscribers b.energySaving b.cache =
          (e, sched, cache) := ⟨_, _, _, rfl⟩
    rw [ht]
    cases e with
    | none => exact ⟨_, rfl, hlast b sched cache hb ht⟩
    | some e =>
      obtain ⟨b1, hsend, hb1⟩ := hturn b e sched cache hb ht
      obtain ⟨b', hloop, hb'⟩ := ih hb1
      refine ⟨b', ?_, hb'⟩
      dsimp only
      rw [hsend, bind_some, hloop]

theorem Ok.loop (h : Ok b) (ts : TdmaTime) (env : SlotEnv) (fuel : Nat) :
    ∃ b', loop ts env fuel b = some b' ∧ Ok b' := by
  have htake : ∀ b : Building, Ok b → _ := fun b hb =>
    (dlTakePrioritizedSchedItem_tidies (o := True) (A := AssignmentOk) b.sched elemOk_prune ts
      env.subscribers b.energySaving b.cache).imp (fun h => h.stock hb.stock) (fun h => h hb.stock)
  refine loop_rule ?_ ?_ fuel h
  · intro b sched cache hb ht
    have hstock := (htake b hb).1
    rw [ht] at hstock
    exact ⟨hstock, hb.block⟩
  · intro b e sched cache hb ht
    obtain ⟨hstock, he⟩ := htake b hb
    rw [ht] at hstock he
    have hok : Ok { b with sched := sched, cache := cache } := ⟨hstock, hb.block⟩
    exact hok.send (he e rfl)

/-- Where a slot is for broadcast alone the loop takes nothing. -/
theorem loop_idle (hts : canCarryScheduledSchf ts = false) : loop ts env fuel b = some b := by
  cases fuel with
  | zero => rfl
  | succ => rw [loop, dlTakePrioritizedSchedItem, if_pos (.inl hts)]

end Building

namespace BsChannelScheduler

variable {s : BsChannelScheduler} {ts : TdmaTime} {env : SlotEnv}

/-- The signalling block of a slot is a full one, and there is none in a slot for broadcast. -/
theorem Stocked.dlBuildBlock (h : Stocked (fun _ => ElemOk) AssignmentOk s) :
    ∃ buf s' es alloc headers,
      s.dlBuildBlockFromSignallingSchedule ts env = some (buf, s', es, alloc, headers) ∧
      Stocked (fun _ => ElemOk) AssignmentOk s' ∧
      (∀ b, buf = some b → b.len = BsFragger.schFCap) ∧
      (canCarryScheduledSchf ts = false → buf = none) := by
  have hstart : Building.Ok (s.startBuilding env) := ⟨h, fun _ hb => nomatch hb⟩
  obtain ⟨b, hb, hok⟩ := hstart.loop ts env (s.dltxQueues (ts.t - 1)).length
  refine ⟨b.buf, b.sched.mergeNextSlotQueue (ts.t - 1), b.energySaving, b.alloc, b.headers, ?_,
    (mergeNextSlotQueue_tidies (o := True) _ (fun _ he => he)).stock hok.stock,
    fun x hx => (hok.block x hx).1, ?_⟩
  · rw [dlBuildBlockFromSignallingSchedule, hb, map_some]
  · intro hts
    rw [Building.loop_idle hts] at hb
    cases hb
    rfl

end BsChannelScheduler
end NexusBs
