import NexusBs.Lmac.LmacBs
import NexusBs.Sched.Blocks

namespace NexusBs
open BitBuffer Lib Option

/-! Blocks that are made in finalisation itself -/

theorem Writes.len (h : Writes w bits) (hb : bits.length ≤ b.rest.length) :
    ∃ b', w b = some b' ∧ b'.len = b.len := by
  refine ⟨_, h b hb, ?_⟩
  simp only [BitBuffer.len, List.length_append, List.length_drop]
  omega

theorem nullPdu_writes : ∃ bits, bits.length = nullPduLenBits ∧
    Writes MacResource.nullPdu.toBitbuf bits := by
  have hs : MacResource.nullPdu.Serializable .nullPdu :=
    ⟨by decide, by decide, (fun _ h => nomatch h), (fun _ h => nomatch h), (fun _ h => nomatch h),
      (fun _ h => nomatch h), rfl, rfl, rfl⟩
  obtain ⟨bits, hlen, hw, -⟩ := MacResource.encodes
    (.of_serializable hs rfl (fun _ h => nomatch h) (fun _ h => nomatch h)) (by decide)
  exact ⟨bits, hlen, hw⟩

theorem nullBlock_some (cap : Nat) (h : nullPduLenBits ≤ cap) :
    ∃ b, nullBlock cap = some b ∧ b.len = cap := by
  obtain ⟨bits, hlen, hw⟩ := nullPdu_writes
  obtain ⟨b, hb, hl⟩ := hw.len (b := BitBuffer.new cap) (by simpa [hlen, BitBuffer.new] using h)
  exact ⟨b, hb, hl.trans BitBuffer.len_new⟩

/-- Room that is left over is closed, and the block keeps its size. -/
theorem tryAddNullPdus_some (blk : TmvUnitdataReq) : ∃ blk', tryAddNullPdus blk = some blk' ∧
    blk'.logicalChannel = blk.logicalChannel ∧ blk'.macBlock.len = blk.macBlock.len := by
  rw [tryAddNullPdus]
  split
  · rename_i hroom
    obtain ⟨bits, hlen, hw⟩ := nullPdu_writes
    obtain ⟨b, hb, hl⟩ := hw.len (b := blk.macBlock) (by rw [hlen]; exact hroom.2)
    have hnull : MacResource.nullPdu.updateLenAndFillInd 0 = MacResource.nullPdu := by decide
    exact ⟨{ blk with macBlock := b }, by rw [hnull, hb, map_some], rfl, hl⟩
  · exact ⟨blk, rfl, rfl, rfl⟩

namespace BsChannelScheduler

theorem rewind_some (blk : TmvUnitdataReq) : ∃ blk', rewind blk = some blk' ∧
    blk'.logicalChannel = blk.logicalChannel ∧ blk'.macBlock.done = [] ∧
    blk'.macBlock.rest.length = blk.macBlock.len := by
  refine ⟨{ blk with macBlock := { blk.macBlock with
    done := blk.macBlock.window.take 0, rest := blk.macBlock.window.drop 0 } }, ?_, rfl, ?_, ?_⟩
  · rw [rewind, BitBuffer.seek, if_pos (Nat.zero_le _), map_some]
  · simp
  · simp [BitBuffer.window, BitBuffer.len]

theorem finishBlock_some (blk : TmvUnitdataReq) : ∃ blk', finishBlock blk = some blk' ∧
    blk'.logicalChannel = blk.logicalChannel ∧ blk'.macBlock.done = [] ∧
    blk'.macBlock.rest.length = blk.macBlock.len := by
  obtain ⟨b1, h1, hc1, hl1⟩ := tryAddNullPdus_some blk
  obtain ⟨b2, h2, hc2, hd, hl2⟩ := rewind_some b1
  exact ⟨b2, by rw [finishBlock, h1, bind_some, h2], hc2.trans hc1, hd, hl2.trans hl1⟩

variable {s : BsChannelScheduler} {ts : TdmaTime}

/-- The blocks a slot may have been given before it is put together. -/
inductive Shaped : TmvUnitdataReq → Option TmvUnitdataReq → Prop
  | signalling (blk : TmvUnitdataReq) (hc : blk.logicalChannel = .schF)
      (hl : blk.macBlock.len = 268) : Shaped blk none
  | speech (blk : TmvUnitdataReq) (hc : blk.logicalChannel = .tchS)
      (hl : blk.macBlock.len = 274) : Shaped blk none
  | stolen (blk blk2 : TmvUnitdataReq) (hc : blk.logicalChannel = .stch)
      (hl : blk.macBlock.len = 124)
      (h2 : blk2.logicalChannel = .stch ∧ blk2.macBlock.len = 124 ∨
        blk2.logicalChannel = .tchS ∧ (blk2.macBlock.len = 274 ∨ blk2.macBlock.len = 216)) :
      Shaped blk (some blk2)

/-- The broadcast PDUs carry the time of the slot. -/
def Stamped (s : BsChannelScheduler) (ts : TdmaTime) : Prop :=
  ∃ p, CellOk p ∧ s.precomps = { p with
    macSync.time := ts
    macSysinfo1.hyperframeNumber := some ts.h
    macSysinfo2.hyperframeNumber := some ts.h }

theorem generateDefaultBlks_some (h : Stamped s ts) : ∃ blk, s.generateDefaultBlks ts = some blk ∧
    (blk.logicalChannel = .schHd ∧ blk.macBlock.len = 124 ∨
      blk.logicalChannel = .schF ∧ blk.macBlock.len = 268 ∨
      blk.logicalChannel = .bsch ∧ blk.macBlock.len = 60) := by
  unfold generateDefaultBlks
  split
  · split
    · obtain ⟨b, hb, hl⟩ := nullBlock_some schHdCap (by decide)
      exact ⟨_, by rw [hb, map_some], .inl ⟨rfl, hl⟩⟩
    · obtain ⟨b, hb, hl⟩ := nullBlock_some BsFragger.schFCap (by decide)
      exact ⟨_, by rw [hb, map_some], .inr (.inl ⟨rfl, hl⟩)⟩
  · split
    · obtain ⟨p, hp, hs⟩ := h
      have hsync : (fieldBits { p.macSync with time := ts }.fields).length = 31 := by
        rw [length_fieldBits]
        rfl
      have hmle : (fieldBits p.mleSync.fields).length = 29 := by
        rw [length_fieldBits]
        rfl
      have hw := Writes.andThen (Writes.fields _ (hp.sync_fits ts)) (Writes.fields _ hp.mleSync)
      obtain ⟨b, hb, hl⟩ := hw.len (b := BitBuffer.new 60)
        (by rw [List.length_append, hsync, hmle]; exact Nat.le_refl 60)
      rw [hs]
      exact ⟨_, by rw [hb, map_some], .inr (.inr ⟨rfl, hl.trans len_new⟩)⟩
    · have hf := ts.f_range
      have ht := ts.t_range
      omega

theorem sysinfoBlock_some (h : Stamped s ts) : ∃ blk, s.sysinfoBlock ts = some blk ∧
    blk.logicalChannel = .bnch ∧ blk.macBlock.len = 124 := by
  obtain ⟨p, hp, hs⟩ := h
  obtain ⟨mac, hmac, fs, hfs, hfit, hlen⟩ : ∃ mac,
      mac = (if ts.t % 2 = 1 then s.precomps.macSysinfo1 else s.precomps.macSysinfo2) ∧
      ∃ fs, mac.fields = some fs ∧ FieldsFit fs ∧ (fieldBits fs).length = 82 := by
    refine ⟨_, rfl, ?_⟩
    rw [hs]
    split
    · exact MacSysinfo.fields_fit hp.macSysinfo1.1 hp.macSysinfo1.2 ts.h_range
    · exact MacSysinfo.fields_fit hp.macSysinfo2.1 hp.macSysinfo2.2 ts.h_range
  have hmle : (fieldBits p.mleSysinfo.fields).length = 42 := by
    rw [length_fieldBits]
    rfl
  have hw := Writes.andThen (Writes.fields _ hfit) (Writes.fields _ hp.mleSysinfo)
  obtain ⟨b, hb, hl⟩ := hw.len (b := BitBuffer.new 124)
    (by rw [List.length_append, hlen, hmle]; exact Nat.le_refl 124)
  refine ⟨s.req .bnch b, ?_, rfl, hl.trans len_new⟩
  have hms : s.precomps.mleSysinfo = p.mleSysinfo := by rw [hs]
  obtain ⟨b1, h1, h2⟩ := bind_eq_some_iff.mp hb
  rw [sysinfoBlock, ← hmac, hfs, bind_some, h1, bind_some, hms, h2, map_some]

theorem ulGetUsage_some (h : (s.ulsched.get ts).ul1 = none → (s.ulsched.get ts).ul2 = none) :
    ∃ usage, s.ulGetUsage ts = some usage := by
  unfold ulGetUsage
  dsimp only
  split
  · exact ⟨_, rfl⟩
  · exact ⟨_, rfl⟩
  · exact ⟨_, rfl⟩
  rename_i h1 h2
  rw [h h1] at h2
  cases h2

/-- Timeslot 1 has no bearers. -/
def FreeMcch (c : CircuitMgr) : Prop := c.dl 0 = none ∧ c.ul 0 = none

theorem generateBbkBlock_some (ts : TdmaTime) (floor : Bool) (alloc : Option TimeslotAllocator)
    (hfree : FreeMcch s.circuits)
    (hul : (s.ulsched.get ts).ul1 = none → (s.ulsched.get ts).ul2 = none) :
    ∃ blk, s.generateBbkBlock ts floor alloc = some blk ∧ blk.logicalChannel = .aach ∧
      blk.macBlock.len = 14 := by
  obtain ⟨usage, husage⟩ := ulGetUsage_some hul
  unfold generateBbkBlock
  dsimp only
  split
  · obtain ⟨aach, haach⟩ : ∃ aach, s.aachFr18 ts = some aach := by
      rw [aachFr18, husage]
      split <;> exact ⟨_, rfl⟩
    obtain ⟨b, hb, hl⟩ := writeFields_new aach.fits.1 aach.fits.2
    exact ⟨s.req .aach b, by rw [haach, bind_some, AccessAssignFr18.toBitbuf, hb,
      map_some], rfl, hl⟩
  · split
    · rename_i ht
      have hnone : ∀ dir, s.circuits.getUsage dir ts.t = none := by
        intro dir
        rw [ht]
        cases dir
        · exact congrArg (Option.map Circuit.usage) hfree.1
        · exact congrArg (Option.map Circuit.usage) hfree.2
      obtain ⟨b, hb, hl⟩ : ∃ b, ((s.aachTs1 ts).bind (fun aach => aach.toBitbuf (BitBuffer.new 14))) =
          some b ∧ b.len = 14 := by
        rw [aachTs1, husage, map_some, bind_some]
        exact writeFields_new (AccessAssign.fits _).1 (AccessAssign.fits _).2
      rw [hnone, hnone, if_neg (by decide), hb]
      exact ⟨s.req .aach b, rfl, rfl, hl⟩
    · split
      · obtain ⟨b, hb, hl⟩ := writeFields_new (AccessAssign.fits (s.aachTraffic ts
          (s.circuits.getUsage .ul ts.t) (s.circuits.getUsage .dl ts.t) floor alloc)).1
          (AccessAssign.fits _).2
        exact ⟨s.req .aach b, by rw [AccessAssign.toBitbuf, hb, map_some], rfl, hl⟩
      · exact ⟨_, rfl, rfl, len_new⟩

theorem sized_of {blk : TmvUnitdataReq} {p : ErrorControlParams} (hc : blk.logicalChannel = chan)
    (hp : getParams chan = some p) (hd : blk.macBlock.done = [])
    (hl : blk.macBlock.rest.length = p.type1Bits) : blk.Sized :=
  ⟨hd, p, by rw [hc, hp], hl⟩

theorem secondBlock_some (h : Stamped s ts)
    {blks : Option (TmvUnitdataReq × Option TmvUnitdataReq)}
    (hshape : ∀ b1 b2, blks = some (b1, b2) → Shaped b1 b2) :
    ∃ blk1 blk2, s.firstBlock ts blks = some blk1 ∧
      s.secondBlock ts blk1 (blks.bind Prod.snd) = some blk2 ∧
      (blk1.logicalChannel = .schHd ∧ blk1.macBlock.len = 124 ∨
        blk1.logicalChannel = .schF ∧ blk1.macBlock.len = 268 ∨
        blk1.logicalChannel = .bsch ∧ blk1.macBlock.len = 60 ∨
        blk1.logicalChannel = .tchS ∧ blk1.macBlock.len = 274 ∨
        blk1.logicalChannel = .stch ∧ blk1.macBlock.len = 124) ∧
      blk2.isSome = blk1.logicalChannel.callsForSecond ∧
      ∀ b, blk2 = some b →
        b.logicalChannel = .bnch ∧ b.macBlock.len = 124 ∨
        b.logicalChannel = .stch ∧ b.macBlock.len = 124 ∨
        b.logicalChannel = .tchS ∧ (b.macBlock.len = 274 ∨ b.macBlock.len = 216) := by
  cases blks with
  | none =>
    obtain ⟨blk, hblk, hk⟩ := generateDefaultBlks_some h
    obtain ⟨si, hsi, hc, hl⟩ := sysinfoBlock_some h
    rcases hk with hk | hk | hk
    · refine ⟨blk, some si, hblk, ?_, .inl hk, ?_, ?_⟩
      · simp [secondBlock, hk.1, hk.2, hsi]
      · rw [hk.1]
        rfl
      · intro b hb
        cases hb
        exact .inl ⟨hc, hl⟩
    · refine ⟨blk, none, hblk, ?_, .inr (.inl hk), ?_, fun _ hb => nomatch hb⟩
      · simp [secondBlock, hk.1, hk.2]
      · rw [hk.1]
        rfl
    · refine ⟨blk, some si, hblk, ?_, .inr (.inr (.inl hk)), ?_, ?_⟩
      · simp [secondBlock, hk.1, hk.2, hsi]
      · rw [hk.1]
        rfl
      · intro b hb
        cases hb
        exact .inl ⟨hc, hl⟩
  | some b =>
    obtain ⟨b1, b2⟩ := b
    refine ⟨b1, b2, rfl, ?_⟩
    cases hshape b1 b2 rfl with
    | signalling hc hl =>
      refine ⟨?_, .inr (.inl ⟨hc, hl⟩), ?_, fun _ hb => nomatch hb⟩
      · simp [secondBlock, hc, hl]
      · rw [hc]
        rfl
    | speech hc hl =>
      refine ⟨?_, .inr (.inr (.inr (.inl ⟨hc, hl⟩))), ?_, fun _ hb => nomatch hb⟩
      · simp [secondBlock, hc, hl]
      · rw [hc]
        rfl
    | stolen blk2 hc hl h2 =>
      refine ⟨rfl, .inr (.inr (.inr (.inr ⟨hc, hl⟩))), ?_, ?_⟩
      · rw [hc]
        rfl
      · intro b hb
        cases hb
        exact .inr h2

/-- Blocks of the right shapes make a slot that the lower layers take. -/
theorem assembleSlot_wellFormed (h : Stamped s ts) (hfree : FreeMcch s.circuits)
    (hul : (s.ulsched.get ts).ul1 = none → (s.ulsched.get ts).ul2 = none) (use : SlotUse)
    (alloc : Option TimeslotAllocator) (hshape : ∀ b1 b2, blks = some (b1, b2) → Shaped b1 b2)
    (hcarry : canCarryScheduledSchf ts = false → blks = none) :
    ∃ slot, s.assembleSlot ts use alloc blks = some slot ∧ WellFormedSlot slot := by
  obtain ⟨bbk, hbbk, hca, hla⟩ :=
    generateBbkBlock_some ts use.floorGrantPending alloc hfree hul
  obtain ⟨blk1, blk2, h1, h2, hk1, hcall, hk2⟩ := secondBlock_some h hshape
  obtain ⟨f1, hf1, hc1, hd1, hl1⟩ := finishBlock_some blk1
  obtain ⟨fb, hfb, hcb, hdb, hlb⟩ := rewind_some bbk
  obtain ⟨f2, hf2, hsome, hk2⟩ : ∃ f2, finishSecond blk2 = some f2 ∧ f2.isSome = blk2.isSome ∧
      ∀ b, f2 = some b → b.logicalChannel ∈ [LogicalChannel.bnch, .stch, .tchS] ∧
        (b.Sized ∨ b.logicalChannel = .tchS ∧ b.macBlock.done = [] ∧
          b.macBlock.rest.length = 216) := by
    cases blk2 with
    | none => exact ⟨none, rfl, rfl, fun _ hb => nomatch hb⟩
    | some b =>
      obtain ⟨f, hf, hc, hd, hl⟩ := finishBlock_some b
      refine ⟨some f, by rw [finishSecond, hf, map_some], rfl, ?_⟩
      intro x hx
      cases hx
      rcases hk2 b rfl with ⟨hcc, hll⟩ | ⟨hcc, hll⟩ | ⟨hcc, hll | hll⟩ <;> rw [hcc] at hc <;>
        rw [hll] at hl
      · exact ⟨by simp [hc], .inl (sized_of hc rfl hd hl)⟩
      · exact ⟨by simp [hc], .inl (sized_of hc rfl hd hl)⟩
      · exact ⟨by simp [hc], .inl (sized_of hc rfl hd hl)⟩
      · exact ⟨by simp [hc], .inr ⟨hc, hd, hl⟩⟩
  have hgo : ¬(blks.isSome = true ∧ canCarryScheduledSchf ts = false) := by
    rintro ⟨hs, hc⟩
    rw [hcarry hc] at hs
    cases hs
  refine ⟨⟨ts, some f1, f2, some fb, if use.ulIsTraffic then .tp else .cp⟩, ?_, ?_, ?_, hk2⟩
  · rw [assembleSlot, if_neg hgo]
    simp [hbbk, h1, h2, hf1, hf2, hfb, bind]
  · exact ⟨fb, rfl, hcb.trans hca, sized_of (hcb.trans hca) rfl hdb (hlb.trans hla)⟩
  · refine ⟨f1, rfl, ?_, ?_, ?_⟩
    · rcases hk1 with hk | hk | hk | hk | hk
      all_goals exact sized_of (hc1.trans hk.1) rfl hd1 (hl1.trans hk.2)
    · rcases hk1 with hk | hk | hk | hk | hk <;> simp [hc1, hk.1]
    · rw [hc1, ← hcall]
      exact hsome

end BsChannelScheduler
end NexusBs
