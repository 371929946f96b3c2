import NexusBs.Pdus.Llc

namespace NexusBs
open BitBuffer PduParser

structure AlAckBlock where
  (nr acknowledgementLength : Nat)
  sr : Option Nat
  acknowledgementBitmap : Nat

namespace AlAckBlock

def ackLengthCompleteTlSdu : Nat := 0
def ackLengthRepeatEntireTlSdu : Nat := 63
def ackLengthMaxSelectiveSegments : Nat := 62
def srRestOfSduCorrectlyReceived : Nat := 250

def complete (nr : Nat) : AlAckBlock := ⟨nr, ackLengthCompleteTlSdu, none, 0⟩
def repeatEntire (nr : Nat) : AlAckBlock := ⟨nr, ackLengthRepeatEntireTlSdu, none, 0⟩

def selective (nr sr acknowledgementBitmap acknowledgementLength : Nat) : AlAckBlock :=
  ⟨nr, min (max acknowledgementLength 1) ackLengthMaxSelectiveSegments, some sr,
    acknowledgementBitmap⟩

def lengthIsSelective (length : Nat) : Bool :=
  decide (1 ≤ length) && decide (length ≤ ackLengthMaxSelectiveSegments)

/-- Reads `n` single bits; bit `i` of the result is the `i`-th one read. -/
def bitmapFrom : Nat → PduParser Nat
  | 0 => pure 0
  | n + 1 => do
    let bit ← field 1 "acknowledgement_bitmap"
    let higher ← bitmapFrom n
    pure (bit + 2 * higher)

def fromBitbufBlock : PduParser AlAckBlock := do
  let nr ← field 3 "nr"
  let length ← field 6 "acknowledgement_length"
  if lengthIsSelective length then
    let sr ← field 8 "sr"
    let bitmap ← bitmapFrom (length - 1)
    pure ⟨nr, length, some sr, bitmap⟩
  else pure ⟨nr, length, none, 0⟩

variable (block : AlAckBlock)

def toBitbufBlock : BitBuffer → Option BitBuffer :=
  writeFields ([(block.nr, 3), (block.acknowledgementLength, 6)] ++
    (if lengthIsSelective block.acknowledgementLength then
      (block.sr.getD 0, 8) :: (List.range (block.acknowledgementLength - 1)).map
        (fun i => ((block.acknowledgementBitmap.testBit i).toNat, 1))
    else []))

def acknowledgesCompleteTlSdu : Bool := block.acknowledgementLength == ackLengthCompleteTlSdu

def requestsRepeatEntireTlSdu : Bool := block.acknowledgementLength == ackLengthRepeatEntireTlSdu

def isSelectiveSegmentAck : Bool := lengthIsSelective block.acknowledgementLength && block.sr.isSome

def isRestOfSduCorrectlyReceived : Bool :=
  block.acknowledgementLength == 1 && block.sr == some srRestOfSduCorrectlyReceived

end AlAckBlock

structure AlAck where
  receiverReady : Bool
  acknowledgementBlocks : List AlAckBlock

namespace AlAck

def complete (nr : Nat) : AlAck := ⟨true, [.complete nr]⟩
def repeatEntire (nr : Nat) : AlAck := ⟨true, [.repeatEntire nr]⟩

def selective (receiverReady : Bool) (nr sr acknowledgementBitmap acknowledgementLength : Nat) :
    AlAck :=
  ⟨receiverReady, [.selective nr sr acknowledgementBitmap acknowledgementLength]⟩

/-- Further blocks while nine bits are left; a block takes at least nine, so the
number of bits bounds the number of turns. -/
def moreBlocks : Nat → PduParser (List AlAckBlock)
  | 0 => pure []
  | fuel + 1 => fun b =>
    if 9 ≤ b.lenRemaining then
      (do
        let block ← AlAckBlock.fromBitbufBlock
        let blocks ← moreBlocks fuel
        pure (block :: blocks)) b
    else .ok ([], b)

def trailingPadding : PduParser Unit := fun b =>
  if 0 < b.lenRemaining then
    (do
      let trailing ← field b.lenRemaining "al_ack_trailing_padding"
      if trailing = 0 then pure () else fail (.invalidValue "al_ack_trailing_padding" trailing)) b
  else .ok ((), b)

def fromBitbuf : PduParser AlAck := do
  expectValue 4 "llc_pdu_type" 11
  let receiverReady ← field 1 "receiver_ready"
  let block ← AlAckBlock.fromBitbufBlock
  let blocks ← (fun b => moreBlocks b.lenRemaining b : PduParser (List AlAckBlock))
  trailingPadding
  pure ⟨receiverReady != 0, block :: blocks⟩

def writeBlocks : List AlAckBlock → BitBuffer → Option BitBuffer
  | [], b => some b
  | block :: blocks, b => (block.toBitbufBlock b).bind (writeBlocks blocks)

def toBitbuf (ack : AlAck) (b : BitBuffer) : Option BitBuffer :=
  (writeFields [(11, 4), (ack.receiverReady.toNat, 1)] b).bind
    (writeBlocks (if ack.acknowledgementBlocks = [] then [.complete 0] else ack.acknowledgementBlocks))

end AlAck

structure AlSetupAugmented where
  extendedAdvancedLink : Bool
  (originalWindowSizeCode extendedWindowSizeCode : Option Nat)
  reserved : Nat
deriving DecidableEq

structure AlSetup where
  acknowledgedService : Bool
  (advancedLinkNumber maxTlSduLenCode : Nat)
  (connectionWidth advancedLinkSymmetry : Bool)
  (uplinkTimeslots downlinkTimeslots : Option Nat)
  (throughputCode windowSizeCode maxTlSduRetransmissions maxSegmentRetransmissions : Nat)
  setupReport : Nat
  ns : Option Nat
  augmented : Option AlSetupAugmented
deriving DecidableEq

namespace AlSetup

def setupReportSuccess : Nat := 0
def setupReportServiceChange : Nat := 2

def fieldIf (present : Bool) (n : Nat) (name : String) : PduParser (Option Nat) :=
  if present then some <$> field n name else pure none

def augmentedFrom : PduParser AlSetupAugmented := do
  let linkType ← field 1 "advanced_link_type"
  let extended := linkType != 0
  let extendedWindow ← fieldIf extended 4 "extended_window_size_code"
  let originalWindow ← fieldIf (!extended) 2 "original_window_size_code"
  let reserved ← field 3 "reserved"
  pure ⟨extended, originalWindow, extendedWindow, reserved⟩

def fromBitbuf : PduParser AlSetup := do
  expectValue 4 "llc_pdu_type" 8
  let service ← field 1 "advanced_link_service"
  let number ← field 2 "advanced_link_number"
  let maxLen ← field 3 "max_tl_sdu_len_code"
  let width ← field 1 "connection_width"
  let symmetry ← field 1 "advanced_link_symmetry"
  let uplink ← fieldIf (width != 0) 2 "uplink_timeslots"
  let downlink ← fieldIf (width != 0 && symmetry != 0) 2 "downlink_timeslots"
  let throughput ← field 3 "throughput_code"
  let window ← field 2 "window_size_code"
  let sduRetransmissions ← field 3 "max_tl_sdu_retransmissions"
  let segmentRetransmissions ← field 4 "max_segment_retransmissions"
  let report ← field 3 "setup_report"
  let ns ← fieldIf (service == 0) 8 "ns"
  let augmented ← if window = 0 then some <$> augmentedFrom else pure none
  pure ⟨service != 0, number, maxLen, width != 0, symmetry != 0, uplink, downlink, throughput, window,
    sduRetransmissions, segmentRetransmissions, report, ns, augmented⟩

def augmentedFields (a : AlSetupAugmented) : List (Nat × Nat) :=
  [(a.extendedAdvancedLink.toNat, 1)] ++
    (if a.extendedAdvancedLink then [(a.extendedWindowSizeCode.getD 1, 4)]
     else [(a.originalWindowSizeCode.getD 1, 2)]) ++
    [(a.reserved, 3)]

section

variable (p : AlSetup)

def fields : List (Nat × Nat) :=
  [(8, 4), (p.acknowledgedService.toNat, 1), (p.advancedLinkNumber, 2), (p.maxTlSduLenCode, 3),
    (p.connectionWidth.toNat, 1), (p.advancedLinkSymmetry.toNat, 1)] ++
  (if p.connectionWidth then [(p.uplinkTimeslots.getD 0, 2)] else []) ++
  (if p.connectionWidth && p.advancedLinkSymmetry then [(p.downlinkTimeslots.getD 0, 2)] else []) ++
  [(p.throughputCode, 3), (p.windowSizeCode, 2), (p.maxTlSduRetransmissions, 3),
    (p.maxSegmentRetransmissions, 4), (p.setupReport, 3)] ++
  (if p.acknowledgedService then [] else [(p.ns.getD 0, 8)]) ++
  (p.augmented.map augmentedFields).getD []

def toBitbuf : BitBuffer → Option BitBuffer := writeFields p.fields

def responseSuccess : AlSetup := { p with setupReport := setupReportSuccess }

/-- The timeslots are lowered to the given number where more were asked for; the
report says whether they were. -/
def responseWithLowerPhaseModTimeslots (maxTimeslots : Nat) : AlSetup :=
  let maxCode := min (max maxTimeslots 1) 4 - 1
  let uplink := if p.connectionWidth then p.uplinkTimeslots.map (min · maxCode) else p.uplinkTimeslots
  let downlink :=
    if p.connectionWidth && p.advancedLinkSymmetry then
      some (min (p.downlinkTimeslots.getD (uplink.getD maxCode)) maxCode)
    else p.downlinkTimeslots
  let response := { p with uplinkTimeslots := uplink, downlinkTimeslots := downlink }
  { response with
    setupReport := if response ≠ p then setupReportServiceChange else setupReportSuccess }

def isOriginalAcknowledgedNonAugmented : Bool :=
  p.acknowledgedService && p.augmented.isNone

def linkId : Nat := p.advancedLinkNumber + 1

end

structure Fits (p : AlSetup) : Prop where
  number : p.advancedLinkNumber < 4
  maxLen : p.maxTlSduLenCode < 8
  uplink : ∀ n ∈ p.uplinkTimeslots, n < 4
  downlink : ∀ n ∈ p.downlinkTimeslots, n < 4
  throughput : p.throughputCode < 8
  window : p.windowSizeCode < 4
  sduRetransmissions : p.maxTlSduRetransmissions < 8
  segmentRetransmissions : p.maxSegmentRetransmissions < 16
  report : p.setupReport < 8
  ns : ∀ n ∈ p.ns, n < 256
  augmented : ∀ a ∈ p.augmented, FieldsFit (augmentedFields a)

theorem getD_lt {o : Option Nat} (hd : d < n) (h : ∀ v ∈ o, v < n) : o.getD d < n := by
  cases o with
  | none => exact hd
  | some v => exact h v rfl

theorem Fits.fields {p : AlSetup} (h : p.Fits) : FieldsFit p.fields := by
  have hbool : ∀ b : Bool, b.toNat < 2 := Bool.toNat_lt
  refine ((((FieldsFit.append ?_ ?_).append ?_).append ?_).append ?_).append ?_
  · simp [FieldsFit, hbool, h.number, h.maxLen]
  · split
    · simp [FieldsFit, getD_lt (by decide : 0 < 4) h.uplink]
    · simp [FieldsFit]
  · split
    · simp [FieldsFit, getD_lt (by decide : 0 < 4) h.downlink]
    · simp [FieldsFit]
  · simp [FieldsFit, h.throughput, h.window, h.sduRetransmissions, h.segmentRetransmissions, h.report]
  · split
    · simp [FieldsFit]
    · simp [FieldsFit, getD_lt (by decide : 0 < 256) h.ns]
  · cases ha : p.augmented with
    | none => simp [FieldsFit]
    | some a => exact h.augmented a ha

theorem fieldIf_lt (h : fieldIf present n name b = .ok (v, b')) : ∀ x ∈ v, x < 2 ^ n := by
  intro x hx
  unfold fieldIf at h
  split at h
  · obtain ⟨w, hw, rfl⟩ := map_ok h
    cases hx
    exact readField_lt hw
  · cases h
    cases hx

theorem augmentedFrom_fits (h : augmentedFrom b = .ok (a, b')) : FieldsFit (augmentedFields a) := by
  obtain ⟨linkType, c1, _, h⟩ := bind_ok h
  obtain ⟨extended, c2, hext, h⟩ := bind_ok h
  obtain ⟨original, c3, horig, h⟩ := bind_ok h
  obtain ⟨reserved, c4, hres, h⟩ := bind_ok h
  cases h
  have hr : reserved < 8 := readField_lt hres
  refine (FieldsFit.append ?_ ?_).append ?_
  · intro f hf
    rw [List.mem_singleton] at hf
    subst hf
    exact ⟨(by decide : 1 ≤ 64), Bool.toNat_lt _⟩
  · split
    · simp [FieldsFit, getD_lt (by decide : 1 < 16) (fieldIf_lt hext)]
    · simp [FieldsFit, getD_lt (by decide : 1 < 4) (fieldIf_lt horig)]
  · simp [FieldsFit, hr]

/-- An AL-SETUP that was read can be written again. -/
theorem fromBitbuf_fits (h : fromBitbuf b = .ok (p, b')) : p.Fits := by
  obtain ⟨_, _, _, h⟩ := bind_ok h
  obtain ⟨_, _, _, h⟩ := bind_ok h
  obtain ⟨_, _, hnumber, h⟩ := bind_ok h
  obtain ⟨_, _, hlen, h⟩ := bind_ok h
  obtain ⟨_, _, _, h⟩ := bind_ok h
  obtain ⟨_, _, _, h⟩ := bind_ok h
  obtain ⟨_, _, hup, h⟩ := bind_ok h
  obtain ⟨_, _, hdown, h⟩ := bind_ok h
  obtain ⟨_, _, hthroughput, h⟩ := bind_ok h
  obtain ⟨window, _, hwindow, h⟩ := bind_ok h
  obtain ⟨_, _, hsdu, h⟩ := bind_ok h
  obtain ⟨_, _, hsegment, h⟩ := bind_ok h
  obtain ⟨_, _, hreport, h⟩ := bind_ok h
  obtain ⟨_, _, hns, h⟩ := bind_ok h
  have hfits : ∀ {augmented : Option AlSetupAugmented}, (∀ a ∈ augmented,
      FieldsFit (augmentedFields a)) → ∀ {service width symmetry : Bool},
      (⟨service, _, _, width, symmetry, _, _, _, window, _, _, _, _, augmented⟩ : AlSetup).Fits :=
    fun ha => ⟨readField_lt hnumber, readField_lt hlen, fieldIf_lt hup, fieldIf_lt hdown,
      readField_lt hthroughput, readField_lt hwindow, readField_lt hsdu, readField_lt hsegment,
      readField_lt hreport, fieldIf_lt hns, ha⟩
  dsimp only at h
  split at h
  · obtain ⟨augmented, _, haug, h⟩ := bind_ok h
    cases h
    obtain ⟨a, ha, rfl⟩ := map_ok haug
    exact hfits (fun a' ha' => by cases ha'; exact augmentedFrom_fits ha)
  · cases h
    exact hfits (fun a ha => by cases ha)

theorem Fits.responseSuccess {p : AlSetup} (h : p.Fits) : p.responseSuccess.Fits :=
  { h with report := (by decide : setupReportSuccess < 8) }

theorem Fits.responseWithLowerPhaseModTimeslots {p : AlSetup} (h : p.Fits) (n : Nat) :
    (p.responseWithLowerPhaseModTimeslots n).Fits := by
  have hcode : min (max n 1) 4 - 1 < 4 := by omega
  have hup : ∀ v ∈ (if p.connectionWidth then
      p.uplinkTimeslots.map (min · (min (max n 1) 4 - 1)) else p.uplinkTimeslots), v < 4 := by
    intro v hv
    split at hv
    · obtain ⟨w, _, rfl⟩ := Option.mem_map.mp hv
      omega
    · exact h.uplink v hv
  refine { h with uplink := hup, downlink := ?_, report := ?_ }
  · intro v hv
    simp only [AlSetup.responseWithLowerPhaseModTimeslots] at hv
    split at hv
    · cases hv
      omega
    · exact h.downlink v hv
  · have hreport : ∀ c : Prop, ∀ [Decidable c],
        (if c then setupReportServiceChange else setupReportSuccess) < 8 := by
      intro c _
      split <;> decide
    exact hreport _

end AlSetup
end NexusBs
