import NexusBs.Pdus.Downlink

namespace NexusBs
open Lib BitBuffer PduParser

/-- Every value that the parser returns meets `P`. -/
def PduParser.Yields (p : PduParser α) (P : α → Prop) : Prop := ∀ b v b', p b = .ok (v, b') → P v

namespace PduParser.Yields

theorem pure (h : P v) : Yields (Pure.pure v) P := by
  intro b w b' hw
  cases hw
  exact h

theorem fail : Yields (fail e) P := fun _ _ _ h => nomatch h

theorem bind (hp : Yields p P) (hq : ∀ v, P v → Yields (q v) Q) : Yields (p >>= q) Q := by
  intro b w b' h
  obtain ⟨v, c, hv, hw⟩ := bind_ok h
  exact hq v (hp b v c hv) c w b' hw

theorem next (hq : ∀ v < 2 ^ n, Yields (q v) Q) : Yields (field n name >>= q) Q :=
  bind (fun _ _ _ h => readField_lt h) hq

theorem some (hp : Yields p P) : Yields (Option.some <$> p) (fun v => ∃ x, v = Option.some x ∧ P x) := by
  intro b w b' h
  obtain ⟨v, hv, rfl⟩ := map_ok h
  exact ⟨v, rfl, hp b v b' hv⟩

theorem flagged (hp : Yields p P) : Yields (flagged name p) (fun v => ∀ x, v = Option.some x → P x) := by
  refine next fun flag _ => ?_
  split
  · intro b v b' h x hx
    obtain ⟨y, hy, hP⟩ := hp.some b v b' h
    rw [hy] at hx
    cases hx
    exact hP
  · exact pure fun x hx => by cases hx

end PduParser.Yields

theorem BasicSlotgrantGrantingDelay.valid_of_tryFrom (h : tryFrom x = some d) : d.Valid := by
  unfold tryFrom at h
  repeat' split at h
  all_goals cases h
  all_goals simp only [Valid]
  all_goals omega

theorem BasicSlotgrant.yields : Yields fromBitbuf (fun g => g.grantingDelay.Valid) := by
  refine .next fun _ _ => ?_
  split
  · exact .fail
  refine .next fun _ _ => ?_
  split
  · exact .fail
  · exact .pure (BasicSlotgrantGrantingDelay.valid_of_tryFrom ‹_›)

def ChanAllocElement.Sent (c : ChanAllocElement) : Prop :=
  c.Valid ∧ (c.monPattern ≠ 0 → c.frame18MonPattern = none)

theorem ChanAllocElement.yields : Yields fromBitbuf Sent := by
  refine .next fun _ _ => ?_
  split
  · exact .fail
  refine .next fun _ _ => .next fun _ _ => ?_
  split
  · exact .fail
  · exact .fail
  rename_i ulDl hne _
  have hsupported : ulDl ≠ .augmented := by
    rintro rfl
    exact hne rfl
  refine .next fun _ _ => .next fun _ _ => .next fun carrier hc => .next fun _ _ => ?_
  split
  · exact .fail
  refine .next fun mon hm => ?_
  split
  · rename_i h0
    refine .bind (.some fun _ _ _ h => readField_lt h) fun frame18 hf => .pure ?_
    exact ⟨⟨by simp [isSupportedByThisStack, hsupported], hc, hm, fun _ => hf⟩, fun h => absurd h0 h⟩
  · rename_i h0
    refine .bind (P := (· = none)) (.pure rfl) fun frame18 hf => .pure ?_
    exact ⟨⟨by simp [isSupportedByThisStack, hsupported], hc, hm, fun h => absurd h h0⟩, fun _ => hf⟩

namespace MacResource

structure Sent (m : MacResource) : Prop where
  null : m.isNullPdu = true → m = { nullPdu with lengthInd := m.lengthInd }
  grant : ∀ g, m.slotGrantingElement = some g → g.grantingDelay.Valid
  alloc : ∀ c, m.chanAllocElement = some c → c.Sent

theorem yields_readAddr (h : t ≠ .nullPdu) :
    Yields (readAddr t) (fun r => r.1.isSome = true ∨ r.2.1.isSome = true) := by
  cases t with
  | nullPdu => exact absurd rfl h
  | ssi | ussi | smi | eventLabel => exact .next fun _ _ => .pure (by simp)
  | ssiAndEventLabel | ssiAndUsageMarker | smiAndEventLabel =>
    exact .next fun _ _ => .next fun _ _ => .pure (by simp)

theorem yields : Yields fromBitbuf Sent := by
  refine .next fun _ _ => ?_
  split
  · exact .fail
  refine .next fun _ _ => .next fun _ _ => .next fun _ _ => .next fun _ _ => .next fun _ _ => ?_
  refine .next fun _ _ => ?_
  split
  · exact .fail
  · exact .pure ⟨fun _ => rfl, fun _ h => (by cases h), fun _ h => by cases h⟩
  rename_i t hne _
  refine .bind (yields_readAddr (t := t) (by rintro rfl; exact hne rfl)) fun r hr => ?_
  refine .bind (P := fun _ => True) (fun _ _ _ _ => trivial) fun _ _ => ?_
  refine .bind BasicSlotgrant.yields.flagged fun _ hg => ?_
  refine .bind ChanAllocElement.yields.flagged fun _ ha => .pure ⟨fun hn => ?_, hg, ha⟩
  simp only [isNullPdu, Bool.and_eq_true, Option.isNone_iff_eq_none] at hn
  simp [hn.1.1, hn.1.2] at hr

/-- The header with one kind for the three that share the SSI layout. -/
def kindless (m : MacResource) : MacResource := { m with addr := m.addr.map airAddr }

/-- The header is written in the announced length and read back. -/
def RoundTrips (m : MacResource) : Prop :=
  ∃ bits, bits.length = m.computeHeaderLen ∧
    Writes (fun b => (m.tryToBitbuf b).bind Except.toOption) bits ∧ Decodes fromBitbuf bits m.kindless

variable {m : MacResource}

theorem lengthInd_of_validate (h : m.validateForSerialization = .ok t) :
    1 ≤ m.lengthInd ∧ m.lengthInd < 64 := by
  unfold validateForSerialization at h
  split at h
  · cases h
  split at h
  · cases h
  split at h
  · cases h
  · omega

theorem Sent.onAir (h : m.Sent) : m.onAir = m.kindless := by
  unfold MacResource.onAir
  split
  · rename_i hn
    rw [h.null hn]
    rfl
  · have halloc : m.chanAllocElement.map ChanAllocElement.onAir = m.chanAllocElement := by
      cases hc : m.chanAllocElement with
      | none => rfl
      | some c =>
        rw [Option.map_some, ChanAllocElement.onAir]
        split
        · rfl
        · rw [← (h.alloc c hc).2 ‹_›]
    rw [halloc]
    rfl

theorem Sent.of_kindless (h : m.kindless.Sent) : m.Sent where
  null hn := by
    have ha : m.addr = none := by simp_all [isNullPdu]
    have hm : m.kindless = m := by rw [kindless, ha, Option.map_none, ← ha]
    exact hm ▸ h.null (hm.symm ▸ hn)
  grant := h.grant
  alloc := h.alloc

/-- A rejected header leaves the buffer alone. An accepted one makes the round trip exactly if it is
clear and says nothing but what it sends. -/
theorem accepted_round_trips_iff (m : MacResource) :
    (∀ e, m.validateForSerialization = .error e →
      ∀ b, m.tryToBitbuf b = some (.error e) ∧ m.toBitbuf b = some b) ∧
    ∀ t, m.validateForSerialization = .ok t → (m.RoundTrips ↔ m.encryptionMode = 0 ∧ m.Sent) := by
  refine ⟨fun e h b => by simp [toBitbuf, tryToBitbuf, h], fun t h => ⟨?_, ?_⟩⟩
  · rintro ⟨bits, hlen, hw, hd⟩
    have hs : m.Sent := (yields _ _ _ (hd [] [] [] [] false)).of_kindless
    refine ⟨?_, hs⟩
    by_contra henc
    by_cases ht : t = .nullPdu
    · have hn : m.isNullPdu = true := by simpa [ht] using (serializable_of_validate h).layout.isNullPdu
      exact henc (by rw [hs.null hn]; rfl)
    · have := hw ⟨[], [], bits, [], false⟩ (Nat.le_refl _)
      simp [tryToBitbuf, h, ht, henc, Except.toOption] at this
  · rintro ⟨hclear, hs⟩
    have hv : m.Valid t := ⟨⟨m.lengthInd, h⟩, hclear, hs.grant, fun c hc => (hs.alloc c hc).1⟩
    obtain ⟨bits, hlen, hw, hd⟩ := encodes hv (lengthInd_of_validate h)
    refine ⟨bits, hlen, fun b hb => ?_, hs.onAir ▸ hd⟩
    have hto := hw b hb
    simp only [toBitbuf, tryToBitbuf, h, hclear] at hto ⊢
    cases hf : m.fields t with
    | none => simp [hf] at hto
    | some fs =>
      cases hfs : writeFields fs b with
      | none => simp [hf, hfs] at hto
      | some => simpa [hf, hfs, Except.toOption] using hto

def allocating (frame18 : Option Nat) : MacResource :=
  { nullPdu with
    addr := some (TetraAddress.issi 1)
    chanAllocElement := some ⟨.replace, Timeslots.single 2, .both, false, false, 1, none, 0, frame18⟩ }

/-- Without a frame-18 pattern it is accepted, and the writer panics. -/
theorem accepted_allocation_panics : (allocating none).validateForSerialization = .ok .ssi ∧
    (allocating none).tryToBitbuf (BitBuffer.new 300) = none := ⟨rfl, rfl⟩

end MacResource
end NexusBs
