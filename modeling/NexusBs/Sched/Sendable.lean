import NexusBs.Sched.Queued

namespace NexusBs
open SchedQueue FillBits List

namespace MacResource

theorem Valid.of_serializable {m : MacResource} {t : MacResourceAddrType} (hs : m.Serializable t)
    (hc : m.encryptionMode = 0)
    (hg : ∀ g, m.slotGrantingElement = some g → g.grantingDelay.Valid)
    (ha : ∀ c, m.chanAllocElement = some c → c.Valid) : m.Valid t := by
  refine ⟨⟨1, ?_⟩, hc, hg, ha⟩
  refine validate_of_serializable ⟨hs.pos, hs.enc, hs.ssi, hs.label, hs.marker, hs.power, ?_⟩
    ⟨Nat.le_refl 1, (by decide : 1 < 64)⟩
  have hl := hs.layout
  cases t <;> exact hl

/-- An address without event label is serialisable, an SSI with any usage marker, a
USSI or SMI only without one. -/
theorem serializable_of_addr {m : MacResource} {a : TetraAddress} (ha : m.addr = some a)
    (hssi : a.ssi < 2 ^ 24) (hl : m.eventLabel = none) (hpos : m.posOfGrant < 2)
    (hc : m.encryptionMode = 0) (hpow : ∀ v, m.powerControlElement = some v → v < 2 ^ 4)
    (hkind : IsSsi a ∧ (∀ u, m.usageMarker = some u → u < 2 ^ 6) ∨
      (a.ssiType = .ussi ∨ a.ssiType = .smi) ∧ m.usageMarker = none) :
    ∃ t, m.Serializable t := by
  have hs : ∀ x, m.addr = some x → x.ssi < 2 ^ 24 := by
    intro x hx
    rw [ha] at hx
    cases hx
    exact hssi
  have hlab : ∀ l, m.eventLabel = some l → l < 2 ^ 10 := by
    intro l h
    rw [hl] at h
    cases h
  have henc : m.encryptionMode < 4 := by omega
  rcases hkind with ⟨hk, hu⟩ | ⟨hk, hu⟩
  · cases hm : m.usageMarker with
    | none => exact ⟨.ssi, hpos, henc, hs, hlab, hu, hpow, ⟨a, ha, hk⟩, hl, hm⟩
    | some u => exact ⟨.ssiAndUsageMarker, hpos, henc, hs, hlab, hu, hpow, ⟨a, ha, hk⟩, hl, u, hm⟩
  · have hmark : ∀ u, m.usageMarker = some u → u < 2 ^ 6 := by
      intro u h
      rw [hu] at h
      cases h
    rcases hk with hk | hk
    · exact ⟨.ussi, hpos, henc, hs, hlab, hmark, hpow, ⟨a, ha, hk⟩, hl, hu⟩
    · exact ⟨.smi, hpos, henc, hs, hlab, hmark, hpow, ⟨a, ha, hk⟩, hl, hu⟩

end MacResource

def Addressable (a : TetraAddress) : Prop :=
  a.ssi < 2 ^ 24 ∧ (MacResource.IsSsi a ∨ a.ssiType = .ussi ∨ a.ssiType = .smi)

def Grantable (a : TetraAddress) : Prop := a.ssi < 2 ^ 24 ∧ MacResource.IsSsi a

theorem Grantable.addressable (h : Grantable a) : Addressable a :=
  ⟨h.1, .inl h.2⟩

/-- A header and an SDU that can go out, also after a grant was put into the header. -/
structure Carriable (pdu : MacResource) (sdu : BitBuffer) : Prop where
  valid : ∃ t, pdu.Valid t
  unlabelled : ∀ a, pdu.addr = some a → MacResource.IsSsi a → pdu.eventLabel = none
  start : sdu.done = []
  named : pdu.isNullPdu = false

theorem Carriable.withLen (h : Carriable pdu sdu) (li : Nat) (fill : Bool) :
    Carriable { pdu with lengthInd := li, fillBits := fill } sdu := by
  obtain ⟨t, ht⟩ := h.valid
  exact ⟨⟨t, ht.withLen li fill⟩, h.unlabelled, h.start, h.named⟩

theorem Carriable.withAck (h : Carriable pdu sdu) :
    Carriable { pdu with randomAccessFlag := true } sdu := by
  obtain ⟨t, ⟨n, hn⟩, hc, hg, ha⟩ := h.valid
  exact ⟨⟨t, ⟨n, hn⟩, hc, hg, ha⟩, h.unlabelled, h.start, h.named⟩

theorem Carriable.withGrant {pdu : MacResource} {g : BasicSlotgrant} (h : Carriable pdu sdu)
    (ha : pdu.addr = some a) (hgr : Grantable a) (hg : g.grantingDelay.Valid)
    (hm : ∀ u, m = some u → u < 2 ^ 6) :
    Carriable { pdu with
      slotGrantingElement := some g, usageMarker := pdu.usageMarker <|> m } sdu := by
  obtain ⟨t, hv⟩ := h.valid
  have hs := hv.serializable
  have hmark : ∀ u, (pdu.usageMarker <|> m) = some u → u < 2 ^ 6 := by
    intro u hu
    cases hp : pdu.usageMarker with
    | some =>
      rw [hp] at hu
      cases hu
      exact hs.marker u hp
    | none =>
      rw [hp] at hu
      exact hm u hu
  obtain ⟨t', hs'⟩ := MacResource.serializable_of_addr
    (m := { pdu with slotGrantingElement := some g, usageMarker := pdu.usageMarker <|> m })
    ha hgr.1 (h.unlabelled a ha hgr.2) hs.pos hv.clear hs.power (.inl ⟨hgr.2, hmark⟩)
  refine ⟨⟨t', .of_serializable hs' hv.clear ?_ hv.alloc⟩, h.unlabelled, h.start, ?_⟩
  · intro g' hg'
    cases hg'
    exact hg
  · simp [MacResource.isNullPdu, ha]

theorem carriable_minimal (ack : Bool) (ha : Addressable a)
    (hg : ∀ x, g = some x → x.grantingDelay.Valid)
    (hm : m = none ∨ MacResource.IsSsi a ∧ ∀ u, m = some u → u < 2 ^ 6) :
    Carriable { dlMakeMinimalResource a g ack with usageMarker := m } (BitBuffer.new 0) := by
  obtain ⟨t, hs⟩ := MacResource.serializable_of_addr
    (m := { dlMakeMinimalResource a g ack with usageMarker := m }) rfl ha.1 rfl
    (by decide : (0 : Nat) < 2) rfl (fun v h => nomatch h) (by
      rcases hm with rfl | ⟨hk, hu⟩
      · rcases ha.2 with hk | hk
        · exact .inl ⟨hk, fun u h => nomatch h⟩
        · exact .inr ⟨hk, rfl⟩
      · exact .inl ⟨hk, hu⟩)
  exact ⟨⟨t, .of_serializable hs rfl hg (fun c h => nomatch h)⟩, fun _ _ _ => rfl, rfl, rfl⟩

/-- What a group repeat is going to send again can go out. -/
def GroupOk (group : Option GroupDeliveryState) : Prop :=
  ∀ g, group = some g → Carriable g.originalPdu g.originalSdu

/-- A transfer that can go on: nothing sent yet, or in the middle of fragmentation. -/
structure FraggerOk (f : BsFragger) : Prop where
  open_ : f.isFullyTransmitted = false
  stage : (f.macHdrIsWritten = false ∧ Carriable f.resource f.sdu) ∨ f.Fragmenting

/-- What may wait in a downlink queue. -/
def ElemOk : DlSchedElem → Prop
  | .broadcast => True
  | .randomAccessAck addr => Addressable addr
  | .grant addr g m => Grantable addr ∧ g.grantingDelay.Valid ∧ ∀ u, m = some u → u < 2 ^ 6
  | .pendingGrant addr _ _ => Grantable addr
  | .resource pdu sdu _ group => Carriable pdu sdu ∧ GroupOk group
  | .fragBuf f _ group => FraggerOk f ∧ GroupOk group
  | .stealing block _ _ _ => block.len = schHdCap

/-- What an assignment of packet data is made of. -/
structure AssignmentOk (a : PacketDataAssignment) : Prop where
  addr : Grantable a.addr
  dir : a.ulDlAssigned ≠ .augmented
  carrier : a.carrierNum < 2 ^ 12

theorem Carriable.fresh {f : BsFragger} (h : Carriable f.resource f.sdu)
    (hw : f.macHdrIsWritten = false) : ∃ t, f.Fresh t := by
  obtain ⟨t, ht⟩ := h.valid
  refine ⟨t, ht, hw, h.start, ?_⟩
  intro hnull
  rw [h.named] at hnull
  cases hnull

/-- Where the next header may go: at a byte boundary, unless the block is full. -/
def Aligned (b : BitBuffer) : Prop := b.done.length % 8 = 0 ∨ b.rest = []

def BsFragger.need (f : BsFragger) : Nat :=
  (if f.macHdrIsWritten then MacEndDl.computeHdrLen false f.fragmentedChanAlloc
    else f.resource.computeHeaderLen) + f.sdu.rest.length

/-- What a call for the next chunk does to the block and to the transfer. -/
structure ChunkOut (f : BsFragger) (b : BitBuffer) (f' : BsFragger) (b' : BitBuffer) (done : Bool) :
    Prop where
  aligned : Aligned b → Aligned b'
  len : b'.len = b.len
  left : b'.rest.length ≤ b.rest.length
  stage : done = false → (f'.macHdrIsWritten = false ∧ Carriable f'.resource f'.sdu) ∨ f'.Fragmenting
  addr : f'.resource.addr = f.resource.addr
  grant : f'.resource.slotGrantingElement = f.resource.slotGrantingElement
  whole : 8 * ((f.need + 7) / 8) ≤ b.rest.length →
    done = true ∧ b'.done.length = b.done.length + 8 * ((f.need + 7) / 8)

/-- The chunk with which a transfer is complete, filled up to a byte boundary or to the end of the
block. -/
theorem ChunkOut.last {f f' : BsFragger} {b : BitBuffer} {bits : List Bool} (hpos : 0 < f.need)
    (hfit : f.need ≤ b.rest.length) (hk : k = f.need + computeRequired f.need b.rest.length)
    (hbits : bits.length = k) (ha : f'.resource.addr = f.resource.addr)
    (hg : f'.resource.slotGrantingElement = f.resource.slotGrantingElement) :
    ChunkOut f b f' { b with done := b.done ++ bits, rest := b.rest.drop k } true := by
  have hle := computeRequired_le hfit
  have hdone : (b.done ++ bits).length = b.done.length + k := by rw [length_append, hbits]
  refine ⟨?_, ?_, ?_, fun h => (nomatch h), ha, hg, ?_⟩
  · rintro (hb | hb)
    · rcases computeRequired_aligned hfit with hal | hal
      · refine .inl ?_
        simp only [hdone]
        omega
      · refine .inr ?_
        simp [hk, hal]
    · rw [hb, length_nil] at hfit
      omega
  · simp only [BitBuffer.len, hdone, length_drop]
    omega
  · simp only [length_drop]
    omega
  · intro hwhole
    refine ⟨rfl, hdone.trans ?_⟩
    rw [hk, computeRequired_of_fits hwhole]

theorem Carriable.chunk {f : BsFragger} {b : BitBuffer} (hw : f.macHdrIsWritten = false)
    (hc : Carriable f.resource f.sdu) (hcap : b.rest.length ≤ BsFragger.schFCap) :
    ∃ f' b' done, f.getResourceChunk b = some (f', b', done) ∧ ChunkOut f b f' b' done := by
  obtain ⟨t, hfresh⟩ := hc.fresh hw
  obtain ⟨n, hn⟩ : ∃ n, n = f.resource.computeHeaderLen + f.sdu.rest.length := ⟨_, rfl⟩
  have hneed : f.need = n := by
    rw [BsFragger.need, hw, if_neg (by decide), hn]
  have h16 := BsFragger.computeHeaderLen_ge f.resource
  by_cases hfit : n ≤ b.rest.length
  · obtain ⟨m, bits, hm, hbits, -, he⟩ := BsFragger.getResourceChunk_single hfresh hcap hn hfit rfl
    rw [← hneed] at hfit he
    refine ⟨_, _, _, he, .last (by omega) hfit rfl ?_ (by rw [hm]) (by rw [hm])⟩
    simp only [length_append, hbits, length_fillPattern]
    omega
  · obtain ⟨h, hh⟩ : ∃ h, h = { f.resource with chanAllocElement := none }.computeHeaderLen := ⟨_, rfl⟩
    have hno : ¬8 * ((f.need + 7) / 8) ≤ b.rest.length := by omega
    rcases BsFragger.getResourceChunk_split hfresh hc.named (hn ▸ Nat.lt_of_not_le hfit) hh rfl rfl with
      ⟨-, he⟩ | ⟨hmin, bits, hbits, -, he⟩
    · exact ⟨f, b, false, he, id, rfl, Nat.le_refl _, fun _ => .inl ⟨hw, hc⟩, rfl, rfl,
        fun h => absurd h hno⟩
    · refine ⟨_, _, _, he, fun _ => .inr rfl, ?_, Nat.zero_le _,
        fun _ => .inr ⟨rfl, hfresh.valid.alloc⟩, rfl, rfl, fun h => absurd h hno⟩
      simp only [BitBuffer.len, length_append, length_nil, hbits,
        length_fillPattern, length_take]
      omega

theorem fragmenting_chunk (hf : f.Fragmenting) (hcap : b.rest.length ≤ BsFragger.schFCap) :
    ∃ f' b' done, f.getFragOrEndChunk b = some (f', b', done) ∧ ChunkOut f b f' b' done := by
  obtain ⟨n, hn⟩ : ∃ n, n = MacEndDl.computeHdrLen false f.fragmentedChanAlloc + f.sdu.rest.length :=
    ⟨_, rfl⟩
  have hneed : f.need = n := by
    rw [BsFragger.need, hf.hdr, if_pos rfl, hn]
  have h13 : 13 ≤ MacEndDl.computeHdrLen false f.fragmentedChanAlloc := by
    rw [MacEndDl.computeHdrLen]
    omega
  rcases BsFragger.getFragOrEndChunk_cases hf hcap rfl hn rfl rfl with
    ⟨hend, e, bits, -, hbits, -, he⟩ | ⟨hno, -, he⟩ | ⟨hno, hmin, bits, hbits, -, he⟩
  · have hreq := computeRequired_of_fits hend
    rw [← hneed] at hend he hreq
    refine ⟨_, _, _, he, .last (by omega) (by omega) hreq.symm ?_ rfl rfl⟩
    simp only [length_append, hbits, length_fillPattern]
    omega
  · exact ⟨f, b, false, he, id, rfl, Nat.le_refl _, fun _ => .inr hf, rfl, rfl,
      fun h => absurd h (by omega)⟩
  · refine ⟨_, _, _, he, fun _ => .inr rfl, ?_, Nat.zero_le _, fun _ => .inr ⟨hf.hdr, hf.alloc⟩,
      rfl, rfl, fun h => absurd h (by omega)⟩
    simp only [BsFragger.minSlotCapForFrag] at hmin
    simp only [BitBuffer.len, length_append, length_nil, hbits,
      length_fillPattern, length_take]
    omega

/-- A call on the block of a slot never fails. -/
theorem FraggerOk.getNextChunk (hf : FraggerOk f) (hcap : b.rest.length ≤ BsFragger.schFCap)
    (hal : Aligned b) :
    ∃ f' b' done, f.getNextChunk b = some (f', b', done) ∧ f'.isFullyTransmitted = done ∧
      ChunkOut f b f' b' done := by
  have hgo : ¬(f.isFullyTransmitted = true ∨ (b.lenWritten % 8 ≠ 0 ∧ b.lenRemaining ≠ 0)) := by
    rintro (h | ⟨h, h'⟩)
    · rw [hf.open_] at h
      cases h
    · rcases hal with hal | hal
      · exact h hal
      · exact h' (by rw [BitBuffer.lenRemaining, hal]; rfl)
  have hstep : ∃ f' b' done,
      (if f.macHdrIsWritten then f.getFragOrEndChunk b else f.getResourceChunk b) =
        some (f', b', done) ∧ ChunkOut f b f' b' done := by
    rcases hf.stage with ⟨hw, hc⟩ | hfr
    · rw [hw, if_neg (by decide)]
      exact hc.chunk hw hcap
    · rw [hfr.hdr, if_pos rfl]
      exact fragmenting_chunk hfr hcap
  obtain ⟨f', b', done, he, ho⟩ := hstep
  refine ⟨{ f' with
    isFullyTransmitted := done
    txReporter := if done then f'.txReporter.map TxState.tryMarkTransmitted else f'.txReporter },
    b', done, ?_, rfl, ho.aligned, ho.len, ho.left, ?_, ho.addr, ho.grant, ho.whole⟩
  · rw [BsFragger.getNextChunk, if_neg hgo, he, Option.map_some]
  · intro hd
    rcases ho.stage hd with h | h
    · exact .inl h
    · exact .inr ⟨h.hdr, h.alloc⟩

theorem GroupOk.none : GroupOk none := fun _ h => nomatch h

theorem GroupOk.mapState (h : GroupOk (some g)) (f : GroupStealingState → GroupStealingState) :
    GroupOk (some (g.mapState f)) := by
  intro g' hg
  cases hg
  exact h g rfl

theorem AssignmentOk.release (h : AssignmentOk a) : ElemOk (releaseElem a) := by
  have hc := carriable_minimal (g := none) (m := none) false h.addr.addressable
    (fun _ hx => nomatch hx) (.inl rfl)
  obtain ⟨t, hv⟩ := hc.valid
  have hs := hv.serializable
  have halloc : (packetDataChannelAllocation a .none .quitAndGo).Valid := by
    refine ⟨?_, h.carrier, (by decide : 0 < 4), fun _ => ⟨0, rfl, (by decide : 0 < 4)⟩⟩
    simp [ChanAllocElement.isSupportedByThisStack, packetDataChannelAllocation, h.dir]
  have hv' : { dlMakeMinimalResource a.addr none false with
      chanAllocElement := some (packetDataChannelAllocation a .none .quitAndGo) }.Valid t := by
    obtain ⟨n, hn⟩ := hv.validates
    refine ⟨⟨n, hn⟩, hv.clear, hv.grant, ?_⟩
    intro c hce
    cases hce
    exact halloc
  refine ⟨⟨⟨t, hv'.withLen _ _⟩, fun _ _ _ => rfl, rfl, rfl⟩, .none⟩

theorem elemOk_coalesce (he : ElemOk e) (hx : ElemOk x) (h : coalesceInto e x = some y) :
    ElemOk y := by
  unfold coalesceInto at h
  split at h
  · -- a grant into a queued header
    split at h
    · rename_i ha
      cases h
      exact ⟨hx.1.withGrant ha he.1 he.2.1 he.2.2, hx.2⟩
    · cases h
  · split at h
    · cases h
      refine ⟨carriable_minimal true he.1.addressable ?_ (.inr ⟨he.1.2, he.2.2⟩), .none⟩
      intro g hg
      cases hg
      exact he.2.1
    · cases h
  · split at h
    · cases h
      refine ⟨hx.1, he.2.1, ?_⟩
      rename_i m _ _ qm _
      intro u hu
      cases hq : qm with
      | some =>
        rw [hq] at hu
        cases hu
        exact hx.2.2 u hq
      | none =>
        rw [hq] at hu
        exact he.2.2 u hu
    · cases h
  · -- an acknowledgement into a queued header
    split at h
    · cases h
      exact ⟨hx.1.withAck, hx.2⟩
    · cases h
  · split at h
    · rename_i heq
      cases h
      subst heq
      refine ⟨carriable_minimal true hx.1.addressable ?_ (.inr ⟨hx.1.2, hx.2.2⟩), .none⟩
      intro g hg
      cases hg
      exact hx.2.1
    · cases h
  · split at h
    · cases h
      exact hx
    · cases h
  · split at h
    · cases h
      exact hx
    · cases h
  · cases h

theorem elemOk_laws : QueueLaws (fun _ => ElemOk) AssignmentOk where
  merge := fun _ _ _ _ he hx h => elemOk_coalesce he hx h
  release := fun _ ha => ha.release

theorem elemOk_minimal (slot : Nat) : BsChannelScheduler.MinimalLaw (fun _ => ElemOk) slot := by
  intro e addr hg ha he
  cases e with
  | randomAccessAck =>
    cases ha
    exact ⟨carriable_minimal (m := none) true he (fun _ hx => nomatch hx) (.inl rfl), .none⟩
  | grant =>
    cases ha
    refine ⟨carriable_minimal false he.1.addressable ?_ (.inr ⟨he.1.2, he.2.2⟩), .none⟩
    intro x hx
    cases hx
    exact he.2.1
  | pendingGrant =>
    cases ha
    exact ⟨carriable_minimal (m := none) true (Grantable.addressable he) (fun _ hx => nomatch hx)
      (.inl rfl), .none⟩
  | _ => cases hg

theorem elemOk_prune : BsChannelScheduler.PruneLaw (fun _ => ElemOk) := by
  intro i subscribers es e e' he h
  unfold pruneGroupState at h
  split at h
  · split at h
    · cases h
      exact he
    dsimp only at h
    split at h
    · cases h
    · cases h
      exact ⟨he.1, he.2.mapState _⟩
  · split at h
    · cases h
      exact he
    dsimp only at h
    split at h
    · cases h
    · cases h
      exact ⟨he.1, he.2.mapState _⟩
  · dsimp only at h
    split at h
    · cases h
    · cases h
      exact he
  · cases h
    exact he

theorem elemOk_steal : BsChannelScheduler.StealLaw (fun _ => ElemOk) :=
  fun _ _ _ _ _ _ _ h => h

end NexusBs
