import NexusBs.Llc.Run

namespace NexusBs
open Lib BitBuffer PduParser List Option

namespace AdvancedLinkReceiveAssembly

variable (assembly : AdvancedLinkReceiveAssembly)

def bitsAt (ss : Nat) : List Bool := ((assembly.segments ss).map window).getD []

/-- The bits of the segments 0 to `finalSs`, in order. -/
def bitsUpTo (finalSs : Nat) : List Bool := (List.range (finalSs + 1)).flatMap assembly.bitsAt

def Complete (finalSs : Nat) : Prop :=
  assembly.finalSs = some finalSs ∧ ∀ ss ≤ finalSs, (assembly.segments ss).isSome = true

/-- Sequence and segment numbers fit the header fields they came in. -/
def Fits : Prop := assembly.ns < 8 ∧ ∀ finalSs ∈ assembly.finalSs, finalSs < 256

end AdvancedLinkReceiveAssembly

namespace Llc

theorem concatenateLoop_eq (h : ∀ ss ∈ l, (segments ss).isSome = true) :
    ∃ tail, concatenateLoop segments l ⟨H, D, [], T, true⟩ =
      some ⟨H, D ++ l.flatMap (fun ss => ((segments ss).map window).getD []), [], tail, true⟩ := by
  induction l generalizing D T with
  | nil => exact ⟨T, by simp [concatenateLoop]⟩
  | cons ss l ih =>
    obtain ⟨segment, hs⟩ := isSome_iff_exists.mp (h ss mem_cons_self)
    have hseek : (fromBitbuffer segment).seek 0 = some (fromBitbuffer segment) := by
      simp [seek_zero, fromBitbuffer]
    obtain ⟨t, ht⟩ := copyBits_expand ⟨H, D, [], T, true⟩ (fromBitbuffer segment)
      (fromBitbuffer segment).lenRemaining rfl rfl (Nat.le_refl _)
    rw [show (fromBitbuffer segment).rest.take (fromBitbuffer segment).lenRemaining = segment.window
      from take_length] at ht
    obtain ⟨t', ht'⟩ := ih (D := D ++ segment.window) (T := t)
      (fun x hx => h x (mem_cons_of_mem _ hx))
    refine ⟨t', ?_⟩
    simp only [concatenateLoop, hs, hseek, ht, bind_eq_bind, bind_some, ht']
    simp [hs]

theorem concatenateAlSegments_complete (h : assembly.Complete finalSs) :
    ∃ tail, concatenateAlSegments assembly =
      some (some ⟨[], [], assembly.bitsUpTo finalSs, tail, true⟩) := by
  obtain ⟨hf, hall⟩ := h
  have hall' : ∀ ss ∈ List.range (finalSs + 1), (assembly.segments ss).isSome = true :=
    fun ss hss => hall ss (by rw [mem_range] at hss; omega)
  obtain ⟨t, ht⟩ := concatenateLoop_eq (H := []) (D := []) (T := (newAutoexpand
    ((List.range (finalSs + 1)).map (fun ss => ((assembly.segments ss).map (·.len)).getD 0)).sum).tail)
      hall'
  refine ⟨t, ?_⟩
  simp only [concatenateAlSegments, hf]
  rw [if_pos (List.all_eq_true.mpr hall')]
  simp only [newAutoexpand] at ht ⊢
  simp only [ht, bind_eq_bind, bind_some, seek_zero, append_nil]
  rfl

theorem concatenateAlSegments_incomplete (h : ∀ finalSs, ¬assembly.Complete finalSs) :
    concatenateAlSegments assembly = some none := by
  unfold concatenateAlSegments
  split
  · rfl
  rename_i finalSs hf
  refine if_neg (fun hall => h finalSs ⟨hf, fun ss hss => ?_⟩)
  exact List.all_eq_true.mp hall ss (by rw [mem_range]; omega)

end Llc

/-! Encoding of acknowledgements -/

def AlAckBlock.Fits (block : AlAckBlock) : Prop :=
  block.nr < 8 ∧ block.acknowledgementLength < 64 ∧ ∀ sr ∈ block.sr, sr < 256

theorem AlAckBlock.appends {block : AlAckBlock} (h : block.Fits) :
    ∃ bits, Appends block.toBitbufBlock bits := by
  refine ⟨_, Appends.fields _ ?_⟩
  obtain ⟨hn, hl, hs⟩ := h
  refine FieldsFit.append ?_ ?_
  · simp [FieldsFit, hn, hl]
  · split
    · have hsr : block.sr.getD 0 < 256 := by
        cases hb : block.sr with
        | none => decide
        | some sr => exact hs sr hb
      intro f hf
      rcases mem_cons.mp hf with rfl | hf
      · exact ⟨by simp, hsr⟩
      · obtain ⟨i, _, rfl⟩ := List.mem_map.mp hf
        exact ⟨by simp, Bool.toNat_lt _⟩
    · intro f hf
      cases hf

theorem AlAck.writeBlocks_appends (h : ∀ block ∈ blocks, block.Fits) :
    ∃ bits, Appends (writeBlocks blocks) bits := by
  induction blocks with
  | nil => exact ⟨[], Appends.nothing⟩
  | cons block blocks ih =>
    obtain ⟨xs, hx⟩ := AlAckBlock.appends (h block mem_cons_self)
    obtain ⟨ys, hy⟩ := ih (fun b hb => h b (mem_cons_of_mem _ hb))
    exact ⟨xs ++ ys, hx.andThen hy⟩

theorem Llc.pushAlAckToUmac_eq (p : Port) (key : AdvancedLinkKey) (handle aie : Todo)
    (h : ∀ block ∈ a.acknowledgementBlocks, block.Fits) :
    ∃ m, pushAlAckToUmac p key a handle aie = some (p.push m) := by
  have hblocks : ∀ block ∈ (if a.acknowledgementBlocks = [] then [AlAckBlock.complete 0]
      else a.acknowledgementBlocks), block.Fits := by
    intro block hb
    split at hb
    · rw [mem_singleton] at hb
      subst hb
      exact ⟨by decide, by decide, fun sr hsr => by cases hsr⟩
    · exact h block hb
  have hr : a.receiverReady.toNat < 2 := Bool.toNat_lt _
  obtain ⟨bits, hbits⟩ := AlAck.writeBlocks_appends hblocks
  have happ : Appends a.toBitbuf _ :=
    (Appends.fields [(11, 4), (a.receiverReady.toNat, 1)] (by simp [FieldsFit, hr])).andThen hbits
  obtain ⟨t, ht⟩ := happ (newAutoexpand 16) rfl rfl
  simp only [pushAlAckToUmac, ht, bind_eq_bind, bind_some, seek_zero]
  exact ⟨_, rfl⟩

theorem AlAckBlock.fits_complete {nr : Nat} (h : nr < 8) : (AlAckBlock.complete nr).Fits :=
  ⟨h, by simp [complete, ackLengthCompleteTlSdu], fun sr hsr => by cases hsr⟩

theorem AlAckBlock.fits_repeatEntire {nr : Nat} (h : nr < 8) : (AlAckBlock.repeatEntire nr).Fits :=
  ⟨h, by simp [repeatEntire, ackLengthRepeatEntireTlSdu], fun sr hsr => by cases hsr⟩

theorem Llc.fits_selectiveAlAck (h : assembly.Fits) :
    ∀ block ∈ (selectiveAlAckForIncompleteReceive assembly).acknowledgementBlocks, block.Fits := by
  intro block hb
  have hhigh : (assembly.finalSs.getD (((List.range 256).reverse.find? (fun ss =>
      (assembly.segments ss).isSome)).getD 0)) < 256 := by
    cases hf : assembly.finalSs with
    | some finalSs => exact h.2 finalSs hf
    | none =>
      rw [getD_none]
      cases hfind : (List.range 256).reverse.find? (fun ss => (assembly.segments ss).isSome) with
      | none => decide
      | some =>
        have := List.mem_of_find?_eq_some hfind
        rw [mem_reverse, mem_range] at this
        exact this
  simp only [selectiveAlAckForIncompleteReceive, AlAck.selective, mem_singleton] at hb
  generalize (assembly.finalSs.getD (((List.range 256).reverse.find? (fun ss =>
    (assembly.segments ss).isSome)).getD 0)) = high at hb hhigh
  subst hb
  refine ⟨h.1, ?_, ?_⟩
  · simp only [AlAckBlock.selective, AlAckBlock.ackLengthMaxSelectiveSegments]
    omega
  · intro sr hsr
    simp only [AlAckBlock.selective, mem_def, Option.some.injEq] at hsr
    subst hsr
    cases hfind : (List.range (high + 1)).find? (fun ss => !(assembly.segments ss).isSome) with
    | none =>
      rw [getD_none]
      omega
    | some =>
      have := List.mem_of_find?_eq_some hfind
      rw [mem_range] at this
      rw [getD_some]
      omega

end NexusBs
