import HomeIoControl.RadioSoftPhy

namespace HomeIoControl

def sx1262RxProbePacketLen : ℕ := 48

/-- A received packet: the bytes handed to the protocol layer and the channel they came from. -/
structure RadioRxPacket where
  data : List UInt8
  freqHz : ℕ := 868950000
  deriving DecidableEq, Repr

/-! ## Reading the chip's buffer -/

/-- The first status byte, limited to the driver's buffer. -/
def reportedLen (rxStatus : UInt8) : ℕ := min rxStatus.toNat radioPacketBufferSize

/-- How many bytes are read back: short reports still pull the whole window. -/
def rawProbeLen (rxStatus : UInt8) : ℕ :=
  let reported := reportedLen rxStatus
  if reported = sx1262RxProbePacketLen then sx1262RxProbePacketLen
  else if 0 < reported ∧ reported < 32 then radioPacketBufferSize
  else reported

/-- The bytes read from the chip, which returns `chip i` at the i-th byte after the offset. -/
def rxWindow (chip : ℕ → UInt8) (rxStatus : UInt8) : List UInt8 :=
  (List.range (rawProbeLen rxStatus)).map chip

/-- The raw bytes that are copied when no frame was recovered. -/
def rawCopy (chip : ℕ → UInt8) (rxStatus : UInt8) : List UInt8 :=
  (rxWindow chip rxStatus).take (min (reportedLen rxStatus) frameMaxSize)

/-- Returns the packet, or none for an empty one. -/
def readRxPacket (chip : ℕ → UInt8) (rxStatus : UInt8) (currentFreq : ℕ) : Option RadioRxPacket :=
  let probe := findUartProbe (rxWindow chip rxStatus)
  -- without a confirmed frame the raw bytes go up to the parser
  let data := if probe.valid then probe.frame else rawCopy chip rxStatus
  if data.length > 0 then some { data, freqHz := currentFreq } else none

/-! ## Which packets were checked -/

/-- The packet's bytes are the slice that the probe confirmed. -/
def IsChecked (chip : ℕ → UInt8) (rxStatus : UInt8) (packet : RadioRxPacket) : Prop :=
  let probe := findUartProbe (rxWindow chip rxStatus)
  probe.valid = true ∧ packet.data = probe.frame ∧
    ∃ frame, IsFrameAt probe.decoded probe.frameStart probe.frameLen frame

/-- Whatever reaches the parser and is accepted was checked. -/
def AcceptedIsChecked (chip : ℕ → UInt8) (rxStatus : UInt8) (currentFreq : ℕ) : Prop :=
  ∀ packet, readRxPacket chip rxStatus currentFreq = some packet →
    (parse packet.data).isSome → IsChecked chip rxStatus packet

/-- The raw bytes that the fallback would copy have the length their first byte announces. -/
def RawLooksFramed (chip : ℕ → UInt8) (rxStatus : UInt8) : Prop :=
  let n := min (reportedLen rxStatus) frameMaxSize
  frameMinSize ≤ n ∧ n = (chip 0 &&& ctrl0LengthMask).toNat + 1

theorem rawCopy_length (chip : ℕ → UInt8) (rxStatus : UInt8) :
    (rawCopy chip rxStatus).length = min (reportedLen rxStatus) frameMaxSize := by
  have h : min (reportedLen rxStatus) frameMaxSize ≤ rawProbeLen rxStatus := by
    unfold rawProbeLen
    dsimp only
    split_ifs with h48 hshort
    · rw [h48]
      decide
    · exact le_trans (min_le_right _ _) (by decide)
    · exact min_le_left _ _
  rw [rawCopy, rxWindow, List.length_take, List.length_map, List.length_range]
  exact min_eq_left h

theorem parse_rawCopy_isSome_iff (chip : ℕ → UInt8) (rxStatus : UInt8) :
    (parse (rawCopy chip rxStatus)).isSome ↔ RawLooksFramed chip rxStatus := by
  have hlen := rawCopy_length chip rxStatus
  rw [parse_isSome_iff, hlen]
  refine and_congr_right fun hmin => ?_
  have hpos : 0 < (rawCopy chip rxStatus).length := by
    rw [hlen]
    exact lt_of_lt_of_le (by decide) hmin
  have hfirst : (rawCopy chip rxStatus).getD 0 0 = chip 0 := by
    rw [List.getD_eq_getElem?_getD, List.getElem?_eq_getElem hpos]
    simp [rawCopy, rxWindow]
  rw [announcedLength, hfirst]

theorem accepted_is_checked_iff (chip : ℕ → UInt8) (rxStatus : UInt8) (currentFreq : ℕ) :
    AcceptedIsChecked chip rxStatus currentFreq ↔
      CarriesFrame (rxWindow chip rxStatus) ∨ ¬RawLooksFramed chip rxStatus := by
  rw [← findUartProbe_valid_iff, ← parse_rawCopy_isSome_iff]
  by_cases hvalid : (findUartProbe (rxWindow chip rxStatus)).valid = true
  · refine iff_of_true ?_ (.inl hvalid)
    intro packet hread _
    have hdata : packet.data = (findUartProbe (rxWindow chip rxStatus)).frame := by
      simp only [readRxPacket, hvalid, if_true] at hread
      split_ifs at hread
      cases hread
      rfl
    exact ⟨hvalid, hdata, findUartProbe_frame _ hvalid⟩
  · have hread : readRxPacket chip rxStatus currentFreq =
        if (rawCopy chip rxStatus).length > 0 then
          some { data := rawCopy chip rxStatus, freqHz := currentFreq }
        else none := by
      simp [readRxPacket, hvalid]
    rw [or_iff_right hvalid]
    constructor
    · intro h hparse
      have hmin := ((parse_isSome_iff _).1 hparse).1
      rw [if_pos (by simp only [frameMinSize] at hmin; omega)] at hread
      exact hvalid (h _ hread hparse).1
    · intro h packet hpacket hparse
      rw [hread] at hpacket
      split_ifs at hpacket
      cases hpacket
      exact absurd hparse h

/-- A window of 48 bytes 0xFF decodes nowhere, and its first 32 bytes announce 32. -/
theorem noise_accepted_unchecked : ¬AcceptedIsChecked (fun _ => 0xFF) 48 868950000 := by
  intro h
  have hvalid : (findUartProbe (rxWindow (fun _ => 0xFF) 48)).valid = false := by decide +kernel
  have hread : readRxPacket (fun _ => 0xFF) 48 868950000 =
      some { data := List.replicate 32 0xFF, freqHz := 868950000 } := by decide +kernel
  have hchecked := (h _ hread (by decide +kernel)).1
  rw [hvalid] at hchecked
  exact Bool.false_ne_true hchecked

end HomeIoControl
