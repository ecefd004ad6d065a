import HomeIoControl.RadioSoftPhy

namespace HomeIoControl
open BitStream

/-! ## The CRC on the air -/

def crcLow (crc : UInt16) : UInt8 := (crc &&& 0xFF).toUInt8

def crcHigh (crc : UInt16) : UInt8 := ((crc >>> 8) &&& 0xFF).toUInt8

/-- A frame and its CRC, low byte first. -/
def frameWithCrc (data : List UInt8) : List UInt8 :=
  data ++ [crcLow (crcCcitt data), crcHigh (crcCcitt data)]

theorem crcLow_toNat (crc : UInt16) : (crcLow crc).toNat = crc.toNat % 256 := by
  have hmask := Nat.and_two_pow_sub_one_eq_mod crc.toNat 8
  simp only [crcLow, UInt16.toNat_toUInt8, UInt16.toNat_and]
  rw [show (0xFF : UInt16).toNat = 2 ^ 8 - 1 from rfl, hmask]
  omega

theorem crcHigh_toNat (crc : UInt16) : (crcHigh crc).toNat = crc.toNat / 256 := by
  have hlt := crc.toNat_lt
  have hshift : (crc >>> 8).toNat = crc.toNat / 256 := by
    rw [UInt16.toNat_shiftRight]
    exact Nat.shiftRight_eq_div_pow crc.toNat 8
  have hmask := Nat.and_two_pow_sub_one_eq_mod (crc >>> 8).toNat 8
  simp only [crcHigh, UInt16.toNat_toUInt8, UInt16.toNat_and]
  rw [show (0xFF : UInt16).toNat = 2 ^ 8 - 1 from rfl, hmask, hshift]
  omega

/-- The receiver puts the two bytes together again. -/
theorem crcLow_or_crcHigh (crc : UInt16) :
    (crcLow crc).toUInt16 ||| ((crcHigh crc).toUInt16 <<< 8) = crc := by
  have hlt := crc.toNat_lt
  have hhigh : ((crcHigh crc).toUInt16 <<< 8).toNat = (crc.toNat / 256) <<< 8 := by
    rw [UInt16.toNat_shiftLeft, UInt8.toNat_toUInt16, crcHigh_toNat,
      show (8 : UInt16).toNat % 16 = 8 from rfl, Nat.shiftLeft_eq]
    omega
  apply UInt16.toNat_inj.1
  rw [UInt16.toNat_or, UInt8.toNat_toUInt16, crcLow_toNat, hhigh, Nat.or_comm,
    ← Nat.shiftLeft_add_eq_or_of_lt (Nat.mod_lt _ (by decide)), Nat.shiftLeft_eq]
  omega

/-! ## Encoding and decoding -/

/-- The bits behind the encoding decode to something behind the data. -/
theorem decodeUartProbe_packMsb (data noise : List UInt8) (n : ℕ) :
    ∃ rest, decodeUartProbe (packMsb (uartBits data) ++ noise) 0 (data.length + n) =
      data ++ rest := by
  obtain ⟨k, -, hunpack⟩ := unpackMsb_packMsb_append (uartBits data)
  have hbits : unpackMsb (packMsb (uartBits data) ++ noise) =
      uartBits data ++ (List.replicate k false ++ unpackMsb noise) := by
    rw [unpackMsb, List.flatMap_append, ← List.append_assoc, ← hunpack]
    rfl
  refine ⟨decodeUart n (List.replicate k false ++ unpackMsb noise), ?_⟩
  rw [decodeUartProbe, hbits, List.drop_zero, decodeUart_uartBits]

variable {f : IoFrame} {bytes : List UInt8} {n : ℕ}

theorem length_of_parse {frame : IoFrame} (h : parse bytes = some frame) :
    frameMinSize ≤ bytes.length ∧ bytes.length ≤ frameMaxSize := by
  obtain ⟨hmin, hannounced, -⟩ := (parse_eq_some_iff _ _).1 h
  refine ⟨hmin, ?_⟩
  rw [hannounced]
  exact frameLength_le (readFrame bytes)

/-- What is sent looks like a frame to the receiver. -/
theorem isPlausibleUartFrame_of_serialize (h : serialize f n = some bytes)
    (hknown : isKnownIoCommand f.cmd = true ∨ f.is1W = true) :
    isPlausibleUartFrame { f with data := zeroFilled f.payload } bytes.length = true := by
  have hmin := (length_of_parse (parse_of_serialize (serialize_frameMaxSize h))).1
  rw [isPlausibleUartFrame, if_neg (Nat.not_lt.2 hmin), Bool.or_eq_true]
  unfold IoFrame.is1W at hknown ⊢
  exact hknown

/-- Whatever follows the encoding in the receive buffer, the probe finds the frame at the first
offset and at the start, and the frame parses to the one that was sent. -/
theorem findUartProbe_of_sent (hserialize : serialize f n = some bytes)
    (hknown : isKnownIoCommand f.cmd = true ∨ f.is1W = true) :
    ∃ encoded, uartEncodePacket (frameWithCrc bytes) radioPacketBufferSize = some encoded ∧
      ∀ noise, (encoded ++ noise).length ≤ radioPacketBufferSize →
        (findUartProbe (encoded ++ noise)).valid = true ∧
        (findUartProbe (encoded ++ noise)).bitOffset = 0 ∧
        (findUartProbe (encoded ++ noise)).frameStart = 0 ∧
        (findUartProbe (encoded ++ noise)).frame = bytes ∧
        parse bytes = some { f with data := zeroFilled f.payload } := by
  have hparse := parse_of_serialize (serialize_frameMaxSize hserialize)
  obtain ⟨hmin, hmax⟩ := length_of_parse hparse
  have hlength : (frameWithCrc bytes).length = bytes.length + 2 := by simp [frameWithCrc]
  refine ⟨packMsb (uartBits (frameWithCrc bytes)), ?_, fun noise _ => ?_⟩
  · unfold uartEncodePacket
    rw [hlength, if_neg (by simp [radioPacketBufferSize]), if_neg]
    unfold frameMaxSize radioPacketBufferSize at *
    omega
  have hroom : (frameWithCrc bytes).length + (radioPacketBufferSize - (bytes.length + 2)) =
      radioPacketBufferSize := by
    unfold frameMaxSize radioPacketBufferSize at *
    omega
  obtain ⟨rest, hdecode⟩ := decodeUartProbe_packMsb (frameWithCrc bytes) noise
    (radioPacketBufferSize - (bytes.length + 2))
  have hcrc : frameWithCrc bytes ++ rest =
      bytes ++ crcLow (crcCcitt bytes) :: crcHigh (crcCcitt bytes) :: rest := by
    simp [frameWithCrc]
  rw [hroom, hcrc] at hdecode
  have hfirst := isFirstFrame_of_front hdecode hparse
    (isPlausibleUartFrame_of_serialize hserialize hknown) (crcLow_or_crcHigh _).symm
  obtain ⟨hvalid, hoffset, hstart, hframe⟩ := hfirst.found
  refine ⟨hvalid, hoffset, hstart, ?_, hparse⟩
  rw [hframe, hdecode, List.drop_zero]
  exact List.take_left' rfl

/-- A status request to device 656565. -/
def plainStatusRequest : IoFrame where
  ctrl0 := 0x0B
  ctrl1 := 0
  dst := .replicate 3 0x65
  src := .replicate 3 0x12
  cmd := cmdPrivate
  data := zeroFilled [0x03, 0, 0]
  dataLen := 3

theorem findUartProbe_of_statusRequest :
    ∃ encoded, uartEncodePacket (frameWithCrc (plainStatusRequest.header ++ [0x03, 0, 0]))
        radioPacketBufferSize = some encoded ∧
      ∀ noise, (encoded ++ noise).length ≤ radioPacketBufferSize →
        (findUartProbe (encoded ++ noise)).valid = true ∧
        (findUartProbe (encoded ++ noise)).bitOffset = 0 ∧
        (findUartProbe (encoded ++ noise)).frameStart = 0 ∧
        (findUartProbe (encoded ++ noise)).frame = plainStatusRequest.header ++ [0x03, 0, 0] ∧
        parse (plainStatusRequest.header ++ [0x03, 0, 0]) =
          some { plainStatusRequest with data := zeroFilled plainStatusRequest.payload } :=
  findUartProbe_of_sent (n := frameMaxSize) (by decide) (.inl (by decide))

end HomeIoControl
