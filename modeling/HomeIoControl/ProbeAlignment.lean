import HomeIoControl.PhyRoundTrip

namespace HomeIoControl
open BitStream

/-! ## Well-framed symbols -/

/-- The first symbols of the stream have start bit 0 and stop bit 1. -/
def WellFramed (bits : List Bool) (symbols : ℕ) : Prop :=
  ∀ k < symbols, bits[10 * k]? = some false ∧ bits[10 * k + 9]? = some true

instance (bits : List Bool) (symbols : ℕ) : Decidable (WellFramed bits symbols) :=
  inferInstanceAs (Decidable (∀ k < symbols, _))

theorem wellFramed_succ {bits : List Bool} {symbols : ℕ} :
    WellFramed bits (symbols + 1) ↔
      bits[0]? = some false ∧ bits[9]? = some true ∧ WellFramed (bits.drop 10) symbols := by
  unfold WellFramed
  simp only [List.getElem?_drop]
  constructor
  · intro h
    refine ⟨(h 0 (by omega)).1, (h 0 (by omega)).2, fun k hk => ?_⟩
    have hsucc := h (k + 1) (by omega)
    rw [show 10 + 10 * k = 10 * (k + 1) by omega,
      show 10 + (10 * k + 9) = 10 * (k + 1) + 9 by omega]
    exact hsucc
  · rintro ⟨hstart, hstop, h⟩ k hk
    cases k with
    | zero => exact ⟨hstart, hstop⟩
    | succ k =>
      have hprev := h k (by omega)
      rw [show 10 + 10 * k = 10 * (k + 1) by omega,
        show 10 + (10 * k + 9) = 10 * (k + 1) + 9 by omega] at hprev
      exact hprev

/-- Well-framed symbols are decoded, whatever they say. -/
theorem decodeUart_wellFramed {bits : List Bool} {symbols : ℕ} (h : WellFramed bits symbols)
    (n : ℕ) : ∃ noise : List UInt8, noise.length = symbols ∧
      decodeUart (symbols + n) bits = noise ++ decodeUart n (bits.drop (10 * symbols)) := by
  induction symbols generalizing bits with
  | zero => exact ⟨[], rfl, by simp⟩
  | succ symbols ih =>
    obtain ⟨hstart, hstop, hrest⟩ := wellFramed_succ.1 h
    obtain ⟨noise, hlength, hdecode⟩ := ih hrest
    refine ⟨ofBits ((bits.drop 1).take 8) :: noise, by rw [List.length_cons, hlength], ?_⟩
    have hlong : ¬bits.length < 10 := by
      have hget := (List.getElem?_eq_some_iff.1 hstop).1
      omega
    rw [Nat.add_right_comm, decodeUart, if_neg hlong, List.getD_eq_getElem?_getD, hstart,
      List.getD_eq_getElem?_getD, hstop, hdecode, List.drop_drop]
    simp only [Option.getD_some, bne_self_eq_false, Bool.or_self, Bool.false_eq_true, if_false,
      List.cons_append]
    rw [show 10 + 10 * symbols = 10 * (symbols + 1) by omega]

/-- Only well-framed symbols are decoded. -/
theorem wellFramed_of_decodeUart (n : ℕ) (bits : List Bool) :
    WellFramed bits (decodeUart n bits).length := by
  induction n generalizing bits with
  | zero => exact fun k hk => absurd hk (Nat.not_lt_zero k)
  | succ n ih =>
    rw [decodeUart]
    split_ifs with hshort hframing
    · exact fun k hk => absurd hk (Nat.not_lt_zero k)
    · exact fun k hk => absurd hk (Nat.not_lt_zero k)
    · have hget (k : ℕ) (hk : k < 10) : bits[k]? = some (bits.getD k false) := by
        rw [List.getD_eq_getElem?_getD, List.getElem?_eq_getElem (by omega), Option.getD_some]
      simp only [Bool.or_eq_true, bne_iff_ne, not_or, not_not] at hframing
      rw [List.length_cons, wellFramed_succ, hget 0 (by decide), hget 9 (by decide), hframing.1,
        hframing.2]
      exact ⟨rfl, rfl, ih (bits.drop 10)⟩

/-! ## A frame behind noise -/

/-- At the bit position the buffer has the whole encoding of a frame and its CRC. -/
def HasEncodingAt (raw : List UInt8) (position : ℕ) (bytes : List UInt8) : Prop :=
  uartBits (frameWithCrc bytes) <+: (unpackMsb raw).drop position

/-- The whole symbols before the bit position, at its alignment, are well framed. -/
def NoiseFramed (raw : List UInt8) (position : ℕ) : Prop :=
  WellFramed ((unpackMsb raw).drop (position % 10)) (position / 10)

instance (raw : List UInt8) (position : ℕ) : Decidable (NoiseFramed raw position) :=
  inferInstanceAs (Decidable (WellFramed _ _))

variable {raw bytes : List UInt8} {position : ℕ}

theorem HasEncodingAt.room (h : HasEncodingAt raw position bytes)
    (hraw : raw.length ≤ radioPacketBufferSize) :
    position / 10 + (bytes.length + 2) ≤ radioPacketBufferSize := by
  have hlength := h.length_le
  rw [uartBits_length, List.length_drop, unpackMsb_length] at hlength
  simp only [frameWithCrc, List.length_append, List.length_cons, List.length_nil] at hlength
  unfold radioPacketBufferSize at *
  omega

theorem HasEncodingAt.decode (h : HasEncodingAt raw position bytes)
    (hraw : raw.length ≤ radioPacketBufferSize) (hnoise : NoiseFramed raw position) :
    ∃ noise rest, noise.length = position / 10 ∧
      decodeUartProbe raw (position % 10) radioPacketBufferSize =
        noise ++ (frameWithCrc bytes ++ rest) := by
  have hroom := h.room hraw
  obtain ⟨tail, htail⟩ := h
  obtain ⟨noise, hlength, hdecode⟩ := decodeUart_wellFramed hnoise
    (radioPacketBufferSize - position / 10)
  have hsplit : 10 * (position / 10) + position % 10 = position := Nat.div_add_mod position 10
  have hframe : (frameWithCrc bytes).length = bytes.length + 2 := by simp [frameWithCrc]
  have hrest := decodeUart_uartBits (frameWithCrc bytes)
    (radioPacketBufferSize - position / 10 - (bytes.length + 2)) tail
  rw [hframe, show bytes.length + 2 + (radioPacketBufferSize - position / 10 - (bytes.length + 2)) =
    radioPacketBufferSize - position / 10 by omega] at hrest
  rw [show position / 10 + (radioPacketBufferSize - position / 10) = radioPacketBufferSize by omega,
    List.drop_drop, Nat.add_comm, hsplit, ← htail, hrest] at hdecode
  exact ⟨noise, _, hlength, hdecode⟩

theorem isFrameAt_of_append {frame : IoFrame} (noise rest : List UInt8)
    (hparse : parse bytes = some frame)
    (hshape : isPlausibleUartFrame frame bytes.length = true) :
    IsFrameAt (noise ++ (frameWithCrc bytes ++ rest)) noise.length bytes.length frame := by
  have hcrc : frameWithCrc bytes ++ rest =
      bytes ++ crcLow (crcCcitt bytes) :: crcHigh (crcCcitt bytes) :: rest := by
    simp [frameWithCrc]
  have hdrop : (noise ++ (frameWithCrc bytes ++ rest)).drop noise.length =
      bytes ++ crcLow (crcCcitt bytes) :: crcHigh (crcCcitt bytes) :: rest := by
    rw [List.drop_left' rfl, hcrc]
  have htake : (bytes ++ crcLow (crcCcitt bytes) :: crcHigh (crcCcitt bytes) :: rest).take
      bytes.length = bytes := List.take_left' rfl
  refine ⟨?_, hshape, ?_, ?_⟩
  · rw [hdrop, htake, hparse]
  · rw [hcrc]
    simp only [List.length_append, List.length_cons]
    omega
  · rw [hdrop, htake]
    simp [receivedCrc, List.getD_eq_getElem?_getD, crcLow_or_crcHigh]

/-- The probe confirms a frame at the bit position. -/
def FrameAtBit (raw : List UInt8) (position : ℕ) : Prop :=
  ∃ len frame, IsFrameAt (decodeUartProbe raw (position % 10) radioPacketBufferSize)
    (position / 10) len frame

theorem FrameAtBit.noiseFramed (h : FrameAtBit raw position) : NoiseFramed raw position := by
  obtain ⟨len, frame, hframe⟩ := h
  have hfits := hframe.fits
  intro k hk
  exact wellFramed_of_decodeUart radioPacketBufferSize _ k
    (show k < (decodeUartProbe raw (position % 10) radioPacketBufferSize).length by omega)

theorem carriesFrame_iff_frameAtBit (raw : List UInt8) :
    CarriesFrame raw ↔ ∃ position, FrameAtBit raw position := by
  constructor
  · rintro ⟨bitOffset, hoffset, start, len, frame, hframe⟩
    unfold uartProbeMaxBitOffset at hoffset
    refine ⟨bitOffset + 10 * start, len, frame, ?_⟩
    rw [show (bitOffset + 10 * start) % 10 = bitOffset by omega,
      show (bitOffset + 10 * start) / 10 = start by omega]
    exact hframe
  · rintro ⟨position, len, frame, hframe⟩
    exact ⟨position % 10, Nat.mod_lt _ (by decide), position / 10, len, frame, hframe⟩

/-- The encoding of a frame behind noise is found when the noise is well framed. Otherwise only
another confirmed frame makes the result valid. -/
theorem findUartProbe_of_encoding {f : IoFrame} {n : ℕ} (hserialize : serialize f n = some bytes)
    (hknown : isKnownIoCommand f.cmd = true ∨ f.is1W = true)
    (hraw : raw.length ≤ radioPacketBufferSize) (h : HasEncodingAt raw position bytes) :
    (findUartProbe raw).valid = true ↔
      NoiseFramed raw position ∨ ∃ other, other ≠ position ∧ FrameAtBit raw other := by
  have hparse := parse_of_serialize (serialize_frameMaxSize hserialize)
  have hshape := isPlausibleUartFrame_of_serialize hserialize hknown
  have hfound (hnoise : NoiseFramed raw position) : FrameAtBit raw position := by
    obtain ⟨noise, rest, hlength, hdecode⟩ := h.decode hraw hnoise
    have hframe := isFrameAt_of_append noise rest hparse hshape
    rw [← hdecode, hlength] at hframe
    exact ⟨_, _, hframe⟩
  rw [findUartProbe_valid_iff, carriesFrame_iff_frameAtBit]
  constructor
  · rintro ⟨other, hother⟩
    by_cases heq : other = position
    · exact .inl (heq ▸ hother).noiseFramed
    · exact .inr ⟨other, heq, hother⟩
  · rintro (hnoise | ⟨other, -, hother⟩)
    · exact ⟨position, hfound hnoise⟩
    · exact ⟨other, hother⟩

/-! ## A status request behind noise -/

def statusRequestBytes : List UInt8 := plainStatusRequest.header ++ [0x03, 0, 0]

/-- A receive window with the given noise bits before the request. -/
def windowBehind (noise : List Bool) : List UInt8 :=
  packMsb (noise ++ uartBits (frameWithCrc statusRequestBytes))

/-- Three bits and a well-framed symbol do not hide the request. -/
theorem findUartProbe_behind_symbol :
    (findUartProbe (windowBehind ([true, false, true] ++ uartSymbol 0x55))).valid = true := by
  have hserialize : serialize plainStatusRequest frameMaxSize = some statusRequestBytes := by decide
  have hencoded : HasEncodingAt (windowBehind ([true, false, true] ++ uartSymbol 0x55)) 13
      statusRequestBytes := by
    unfold HasEncodingAt
    decide +kernel
  exact (findUartProbe_of_encoding hserialize (.inl (by decide)) (by decide +kernel) hencoded).2
    (.inl (by decide +kernel))

/-- Ten bits of a line at rest do. -/
theorem findUartProbe_loses_frame :
    serialize plainStatusRequest frameMaxSize = some statusRequestBytes ∧
      isKnownIoCommand plainStatusRequest.cmd = true ∧
      (windowBehind (List.replicate 10 true)).length ≤ radioPacketBufferSize ∧
      HasEncodingAt (windowBehind (List.replicate 10 true)) 10 statusRequestBytes ∧
      (findUartProbe (windowBehind (List.replicate 10 true))).valid = false := by
  refine ⟨by decide, by decide, by decide +kernel, ?_, by decide +kernel⟩
  unfold HasEncodingAt
  decide +kernel

end HomeIoControl
