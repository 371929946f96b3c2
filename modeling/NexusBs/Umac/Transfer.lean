import NexusBs.Umac.BsFrag
import NexusBs.Umac.UmacMs

namespace NexusBs.Transfer
open Lib BitBuffer FillBits PduParser BsFragger UmacMs

/-- The receiver's view of a block from the bits on that one call appended to it: those
bits, then as many others as the sender had left, whatever it put there. -/
def OnAir (before after : BitBuffer) (prim : TmvUnitdataInd) : Prop :=
  ∃ H more T a, prim.pdu = ⟨H, [], after.done.drop before.done.length ++ more, T, a⟩ ∧
    more.length = after.rest.length

def content (i : TmaUnitdataInd) : Option TetraAddress × Option (List Bool) :=
  (some i.mainAddress, i.pdu.map window)

/-- The receiver hands exactly this TM-SDU to the LLC. A TM-SDU of no bits is no SDU,
and nothing is handed over for it. -/
def Delivers (u : UmacMs) (prim : TmvUnitdataInd) (addr : Option TetraAddress)
    (sdu : List Bool) : Prop :=
  ∃ r, u.rxMacResource [] prim = some r ∧
    r.2.1.map content = if sdu = [] then [] else [(addr, some sdu)]

/-- An unfragmented SDU arrives exactly where the PDU, rounded up to whole bytes, fits
the slot and has an address. -/
theorem delivers_getResourceChunk_iff {f f' : BsFragger} {t : MacResourceAddrType}
    {b b' : BitBuffer} {u : UmacMs} {prim : TmvUnitdataInd} (hv : f.resource.Valid t)
    (hcap : b.lenRemaining ≤ schFCap) (hsend : f.getResourceChunk b = some (f', b', true))
    (hair : OnAir b b' prim) :
    Delivers u prim (f.resource.addr.map MacResource.airAddr) f.sdu.window ↔
      8 * ((f.resource.computeHeaderLen + f.sdu.lenRemaining + 7) / 8) ≤ b.lenRemaining ∧
        (f.resource.addr.isSome ∨ f.sdu.window = []) := by
  obtain ⟨hf, hfit⟩ := getResourceChunk_true hv hsend
  obtain ⟨m, bits, hm, hbits, hd, hchunk⟩ := getResourceChunk_single hf hcap rfl hfit rfl
  obtain ⟨H, more, T, a, hp, hmore⟩ := hair
  have hsdu : f.sdu.window = f.sdu.rest := by simp [window, hf.sdu]
  rw [hsend] at hchunk
  obtain ⟨_, hb', _⟩ : f' = _ ∧ b' = _ ∧ true = true := by simpa using hchunk
  have hp' : prim.pdu = ⟨H, [], bits ++ (f.sdu.rest ++ fillPattern (computeRequired
      (f.resource.computeHeaderLen + f.sdu.rest.length) b.rest.length) ++ more), T, a⟩ := by
    rw [hp, hb', List.drop_left]
    simp
  have hclear : m.onAir.encryptionMode = 0 := (hm ▸ hv.withLen _ _).onAir_clear
  have haddr : m.onAir.addr = f.resource.addr.map MacResource.airAddr := by
    rw [MacResource.onAir_addr, hm]
  have h16 := computeHeaderLen_ge f.resource
  have hreq := computeRequired_le hfit
  simp only [lenRemaining, hsdu] at hcap ⊢
  simp only [schFCap] at hcap
  have hli : 1 ≤ m.onAir.lengthInd ∧ m.onAir.lengthInd < 58 := by
    rw [MacResource.onAir_lengthInd, hm]
    dsimp only
    omega
  by_cases hround : 8 * ((f.resource.computeHeaderLen + f.sdu.rest.length + 7) / 8) ≤ b.rest.length
  · have hsum := computeRequired_of_fits hround
    have hfill : m.onAir.fillBits = decide (computeRequired
        (f.resource.computeHeaderLen + f.sdu.rest.length) b.rest.length > 0) := by
      rw [MacResource.onAir_fillBits, hm]
      intro hn
      rw [hm] at hn
      have hnull : f.resource.isNullPdu = true := hn
      have hl : f.resource.computeHeaderLen = 16 := by simp [MacResource.computeHeaderLen, hnull]
      rw [hl, hf.payload hnull, List.length_nil] at hsum
      simp only [hm, hl, hf.payload hnull, List.length_nil]
      exact decide_eq_false (by omega)
    have hlen : m.onAir.lengthInd * 8 = bits.length + f.sdu.rest.length + computeRequired
        (f.resource.computeHeaderLen + f.sdu.rest.length) b.rest.length := by
      rw [MacResource.onAir_lengthInd, hm, hbits]
      dsimp only
      omega
    cases ha : f.resource.addr with
    | some =>
      rw [ha, Option.map_some] at haddr
      obtain ⟨c, prim', hc, hr, hrx⟩ := rxMacResource_delivers (u := u) (q := []) hp' hd hfill hli
        hlen haddr hclear
      refine iff_of_true ⟨_, hrx, ?_⟩ ⟨hround, .inl rfl⟩
      by_cases hs : f.sdu.rest = []
      · simp [hs]
      · simp [hs, content, window, hc, hr]
    | none =>
      rw [ha, Option.map_none] at haddr
      have hcut := rxMacResource_cut (u := u) (q := []) hp' hd hfill
        (by rw [resourceLenBits, if_pos hli, hlen])
      rw [haddr] at hcut
      constructor
      · rintro ⟨r, hrx, hq⟩
        rw [hcut] at hrx
        cases hrx
        refine ⟨hround, .inr ?_⟩
        by_contra hs
        simp [hs] at hq
      · rintro ⟨_, h | hs⟩
        · cases h
        · exact ⟨_, hcut, by simp [hs]⟩
  · refine iff_of_false ?_ (fun h => hround h.1)
    rintro ⟨r, hrx, hq⟩
    have hshort := computeRequired_of_not_fits hfit (by omega)
    obtain ⟨hne, hno | ⟨c, i, hi, hpdu, hlt⟩⟩ := rxMacResource_short (u := u) (q := []) hp' hd hli
      (by rw [MacResource.onAir_lengthInd, hm, hbits]; dsimp only; omega) hrx
    · simp [hno, hne] at hq
    · simp only [hi, List.nil_append, List.map_cons, List.map_nil, hne, if_false, content, hpdu,
        Option.map_some, List.cons.injEq, and_true, Prod.mk.injEq, Option.some.injEq] at hq
      rw [hq.2] at hlt
      exact Nat.lt_irrefl _ hlt

def plainHeader (a : TetraAddress) : MacResource :=
  ⟨false, 0, 0, false, 0, some a, none, none, none, none, none⟩

def sending (m : MacResource) (sdu : List Bool) : BsFragger :=
  ⟨m, false, false, fromBitarr sdu, none, none, false⟩

def idleMs : UmacMs := ⟨TdmaTime.default, MsDefrag.new⟩

theorem valid_plainHeader (hk : MacResource.IsSsi a) (hs : a.ssi < 2 ^ 24) :
    (plainHeader a).Valid .ssi := by
  refine ⟨⟨1, ?_⟩, rfl, (fun _ h => by cases h), (fun _ h => by cases h)⟩
  refine MacResource.validate_of_serializable ⟨?_, ?_, ?_, ?_, ?_, ?_, ?_⟩ ?_
  · exact Nat.zero_lt_two
  · exact Nat.zero_lt_succ 3
  · intro b hb
    cases hb
    exact hs
  · intro _ h
    cases h
  · intro _ h
    cases h
  · intro _ h
    cases h
  · exact ⟨⟨a, rfl, hk⟩, rfl, rfl⟩
  · exact ⟨Nat.le_refl 1, Nat.one_lt_succ_succ 62⟩

theorem fresh_sending (hk : MacResource.IsSsi a) (hs : a.ssi < 2 ^ 24) (sdu : List Bool) :
    (sending (plainHeader a) sdu).Fresh .ssi :=
  ⟨valid_plainHeader hk hs, rfl, rfl, fun h => by cases h⟩

theorem delivers_thirteen_bits : ∃ f' b',
    (sending (plainHeader (TetraAddress.issi 1)) (List.replicate 13 true)).getResourceChunk
      (BitBuffer.new 124) = some (f', b', true) ∧
    Delivers idleMs ⟨fromBitarr (b'.done ++ b'.rest), .schHd, 0⟩ (some ⟨1, .ssi⟩)
      (List.replicate 13 true) := by
  have hk : MacResource.IsSsi (TetraAddress.issi 1) := .inr (.inr rfl)
  obtain ⟨m, bits, _, _, _, hs⟩ := getResourceChunk_single
    (fresh_sending hk (by decide) (List.replicate 13 true)) (b := BitBuffer.new 124)
    (by decide +kernel) rfl (by decide +kernel) rfl
  refine ⟨_, _, hs, ?_⟩
  exact (delivers_getResourceChunk_iff (valid_plainHeader hk (by decide)) (by decide +kernel) hs
    ⟨[], _, _, _, rfl, rfl⟩).mpr (by decide +kernel)

/-- A half slot filled to its last bit: the length indication counts 15 bytes of the
124 bits, and the last four bits of the SDU are lost. -/
theorem full_half_slot_truncated :
    ((sending (plainHeader (TetraAddress.issi 1)) (List.replicate 81 true)).getResourceChunk
      (BitBuffer.new 124)).bind (fun (_, b, done) =>
        (idleMs.rxMacResource [] ⟨fromBitarr b.done, .schHd, 0⟩).map
          (fun r => (done, r.2.1.map content))) =
      some (true, [(some ⟨1, .ssi⟩, some (List.replicate 77 true))]) := by
  decide +kernel

end NexusBs.Transfer
