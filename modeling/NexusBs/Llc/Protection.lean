import NexusBs.Lib.Crc
import NexusBs.Llc.Folding

namespace NexusBs
namespace Fcs
open Lib Crc List

def generator : BitVec 32 := 0x04C11DB7#32

theorem toBits_toNat (v : BitVec 32) :
    toBits 32 v.toNat = (List.range 32).map (fun i => v.getMsbD i) := rfl

/-- Bits with a checksum that fits leave the same in the register, whatever they are. -/
theorem foldl_of_fits {sdu fcs : List Bool} (hl : fcs.length = 32)
    (h : (ofList sdu).toNat = ofBits fcs) :
    (sdu ++ fcs).foldl (turn generator) (initial sdu.length) =
      (List.replicate 32 true).foldl (turn generator) 0 := by
  have hfcs : (List.range 32).map (fun i => (ofList sdu).getMsbD i) = fcs := by
    rw [← toBits_toNat, h, ← hl, toBits_ofBits]
  rw [foldl_append, ← hfcs]
  exact foldl_turn_complement

end Fcs

namespace Llc
open Lib Crc BitBuffer List

/-- An error in up to 32 bits that follow each other is found. -/
theorem checkFcs_burst {err : List Bool} (hs : sdu ≠ []) (hb : Burst 32 err)
    (hl : err.length = (withFcs true sdu).length) :
    Fcs.checkFcs ⟨H, D, zipWith xor (withFcs true sdu) err, T, a⟩ = some false := by
  have hpos := length_pos_iff.mpr hs
  have hlen : (zipWith xor (withFcs true sdu) err).length = sdu.length + 32 := by simp [hl]
  rw [Fcs.checkFcs_eq, hlen, if_neg (by omega), if_neg (by omega), Nat.add_sub_cancel]
  by_contra hne
  -- both words would leave the same in the register
  refine hb.detected (g := Fcs.generator) (c := Fcs.initial sdu.length) (by decide) hl.symm ?_
  have hgood : (withFcs true sdu).foldl (turn Fcs.generator) (Fcs.initial sdu.length) = _ :=
    Fcs.foldl_of_fits (by simp) (ofBits_toBits (Fcs.ofList sdu).isLt).symm
  have hfits : (Fcs.ofList ((zipWith xor (withFcs true sdu) err).take sdu.length)).toNat =
      ofBits ((zipWith xor (withFcs true sdu) err).drop sdu.length) := by simpa using hne
  have hbad := Fcs.foldl_of_fits (by rw [length_drop, hlen, Nat.add_sub_cancel_left]) hfits
  rw [take_append_drop, length_take, hlen, Nat.min_eq_left (by omega)] at hbad
  rw [hgood, hbad]

/-- A PDU with a checksum is built, accepted as it was built and refused with a short error in it,
for every TL-SDU that is not empty and for no other. -/
theorem fcs_protects_iff (H D T : List Bool) (tlSdu : BitBuffer) :
    (∃ pdu b, appendTlSduAndOptionalFcs ⟨H, D, [], T, true⟩ tlSdu true = some pdu ∧
      pdu.seek D.length = some b ∧ Fcs.checkFcs b = some true ∧
      ∀ err, err.length = b.rest.length → Burst 32 err →
        Fcs.checkFcs { b with rest := zipWith xor b.rest err } = some false) ↔ tlSdu.rest ≠ [] := by
  constructor
  · rintro ⟨pdu, b, hpdu, -⟩ hs
    rw [appendTlSduAndOptionalFcs_none hs] at hpdu
    cases hpdu
  · intro hs
    obtain ⟨tail, htail⟩ := appendTlSduAndOptionalFcs_eq (H := H) (D := D) (T := T) (fun _ => hs)
    refine ⟨_, ⟨H, D, withFcs true tlSdu.rest, tail, true⟩, htail, by simp [seek, window, len], ?_, ?_⟩
    · have hok := checkFcs_withFcs (H := H) (D := D) (T := tail) (a := true)
        (fun _ : true = true => hs)
      simpa using hok
    · intro err hl hb
      exact checkFcs_burst hs hb hl

/-- The start value of an empty TL-SDU is shifted by all of its width. -/
theorem empty_sdu_fcs_overflows :
    appendTlSduAndOptionalFcs ⟨[], [false, true, false, true, false], [], [], true⟩ (.new 0) true =
      none := by decide +kernel

end Llc
end NexusBs
