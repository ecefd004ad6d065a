import HomeIoControl.LogFrame
import HomeIoControl.RadioSx1262

namespace HomeIoControl
open BitStream

/-! ## The log line determines what was rendered -/

theorem tail_after_last {c : Char} {a b x y : List Char} (h : a ++ c :: x = b ++ c :: y)
    (hx : c ∉ x) (hy : c ∉ y) : x = y := by
  rcases List.append_eq_append_iff.1 h with ⟨m, rfl, hm⟩ | ⟨m, rfl, hm⟩
  · cases m with
    | nil => simpa using hm
    | cons d m =>
      obtain ⟨-, rfl⟩ := by simpa using hm
      simp at hx
  · cases m with
    | nil => simpa using hm.symm
    | cons d m =>
      obtain ⟨-, rfl⟩ := by simpa using hm
      simp at hy

theorem equals_not_mem_decimal : ∀ n : Fin 64, '=' ∉ decimal n := by decide +kernel

theorem equals_not_mem_render {data : List UInt8} (hlen : data.length ≤ 64) :
    '=' ∉ renderFrameHexRedacted data frameLogHexBufferSize := by
  have hhex : ∀ d : List UInt8, '=' ∉ hexText d := fun d hmem =>
    absurd (isHexChar_hexText d '=' hmem) (by decide)
  cases hm : isMasked data with
  | false =>
    rw [render_unmasked hm hlen]
    exact hhex data
  | true =>
    have hmin := length_of_isMasked hm
    have hdec := equals_not_mem_decimal
      ⟨data.length - frameMinSize, by simp only [frameMinSize] at hmin ⊢; omega⟩
    rw [render_masked hm]
    simp only [List.mem_append, List.mem_cons, not_or]
    exact ⟨hhex _, by decide, hdec, by decide⟩

theorem receivedPacketLog_payload (chipName : List Char) (capture : RadioCaptureInfo)
    (data : List UInt8) :
    ∃ front, receivedPacketLog chipName capture data =
      front ++ '=' :: renderFrameHexRedacted data frameLogHexBufferSize := by
  rw [receivedPacketLog]
  cases parse data with
  | none => exact ⟨_, rfl⟩
  | some frame => exact ⟨_, rfl⟩

theorem getD_of_take_eq {p q : List UInt8} (h : p.take frameMinSize = q.take frameMinSize)
    {i : ℕ} (hi : i < frameMinSize) : p.getD i 0 = q.getD i 0 := by
  have hget := congrArg (fun l : List UInt8 => l[i]?) h
  simp only [List.getElem?_take, hi, if_true] at hget
  rw [List.getD_eq_getElem?_getD, List.getD_eq_getElem?_getD, hget]

theorem captureFrameFields_congr {p q : List UInt8}
    (htake : p.take frameMinSize = q.take frameMinSize) :
    captureFrameFields (readFrame p) = captureFrameFields (readFrame q) := by
  have hget : ∀ i < frameMinSize, p.getD i 0 = q.getD i 0 := fun i hi => getD_of_take_eq htake hi
  have hcmd : (readFrame p).cmd = (readFrame q).cmd := hget 8 (by decide)
  have hsrc : (readFrame p).src = (readFrame q).src := by
    simp only [readFrame, hget 5 (by decide), hget 6 (by decide), hget 7 (by decide)]
  have hdst : (readFrame p).dst = (readFrame q).dst := by
    simp only [readFrame, hget 2 (by decide), hget 3 (by decide), hget 4 (by decide)]
  unfold captureFrameFields
  rw [hcmd, hsrc, hdst]

/-- Length and header decide everything in the line but the payload. -/
theorem receivedPacketLog_congr (chipName : List Char) (capture : RadioCaptureInfo)
    {p q : List UInt8} (hlen : p.length = q.length)
    (htake : p.take frameMinSize = q.take frameMinSize)
    (hrender : renderFrameHexRedacted p frameLogHexBufferSize =
      renderFrameHexRedacted q frameLogHexBufferSize) :
    receivedPacketLog chipName capture p = receivedPacketLog chipName capture q := by
  have hannounced : announcedLength p = announcedLength q := by
    rw [announcedLength, announcedLength, getD_of_take_eq htake (by decide)]
  cases hp : parse p with
  | none =>
    have hq : parse q = none := by
      rw [← Option.not_isSome_iff_eq_none, parse_isSome_iff, ← hlen, ← hannounced,
        ← parse_isSome_iff, hp]
      decide
    rw [receivedPacketLog, receivedPacketLog, hp, hq]
    simp only [logComponentCapture, hrender, hlen]
  | some f =>
    obtain ⟨hmin, hlp, rfl⟩ := (parse_eq_some_iff p f).1 hp
    have hq : parse q = some (readFrame q) :=
      (parse_eq_some_iff q _).2 ⟨hlen ▸ hmin, by rw [← hlen, ← hannounced, hlp], rfl⟩
    have hfields : (some (readFrame p)).map captureFrameFields =
        (some (readFrame q)).map captureFrameFields :=
      congrArg some (captureFrameFields_congr htake)
    have hhead : captureHead chipName capture "parse_ok".toList p.length (some (readFrame p)) =
        captureHead chipName capture "parse_ok".toList q.length (some (readFrame q)) := by
      unfold captureHead
      rw [hfields, hlen]
    rw [receivedPacketLog, receivedPacketLog, hp, hq]
    unfold logComponentCapture
    rw [hrender]
    exact congrArg (· ++ '=' :: renderFrameHexRedacted q frameLogHexBufferSize) hhead

theorem receivedPacketLog_eq_iff (chipName : List Char) (capture : RadioCaptureInfo)
    {p q : List UInt8} (hp : p.length ≤ 64) (hq : q.length ≤ 64) :
    receivedPacketLog chipName capture p = receivedPacketLog chipName capture q ↔
      SameOutsideMask p q := by
  constructor
  · intro h
    obtain ⟨a, ha⟩ := receivedPacketLog_payload chipName capture p
    obtain ⟨b, hb⟩ := receivedPacketLog_payload chipName capture q
    rw [ha, hb] at h
    exact (render_eq_iff hp hq).1
      (tail_after_last h (equals_not_mem_render hp) (equals_not_mem_render hq))
  · intro h
    have hrender := (render_eq_iff hp hq).2 h
    rcases h with rfl | ⟨-, -, hlen, htake⟩
    · rfl
    · exact receivedPacketLog_congr chipName capture hlen htake hrender

/-! ## Receive windows that hold a key transfer -/

/-- Header, payload and CRC field of a key transfer. The header's last byte is the command. -/
def keyTransferBytes (header : Vector UInt8 8) (payload : Vector UInt8 16)
    (crc : Vector UInt8 2) : List UInt8 :=
  header.toList ++ cmdKeyTransfer :: (payload.toList ++ crc.toList)

/-- The encoded bits from bit 0 on, followed by padding up to 48 bytes. -/
def keyTransferWindow (header : Vector UInt8 8) (padding : Vector Bool 114)
    (payload : Vector UInt8 16) (crc : Vector UInt8 2) : List UInt8 :=
  packMsb (uartBits (keyTransferBytes header payload crc) ++ padding.toList)

def keyTransferCrcMatches (header : Vector UInt8 8) (payload : Vector UInt8 16)
    (crc : Vector UInt8 2) : Bool :=
  crcCcitt (header.toList ++ cmdKeyTransfer :: payload.toList) ==
    (crc[0].toUInt16 ||| (crc[1].toUInt16 <<< 8))

/-- The five bits of the CRC field that are sent first. -/
def crcFieldLow (crc : Vector UInt8 2) : UInt8 := crc[0] &&& 0x1F

/-- What passive reception logs for a window of 48 bytes. -/
def receptionLog (capture : RadioCaptureInfo) (window : List UInt8) : Option (List Char) :=
  (readRxPacket (fun i => window.getD i 0) 48 capture.freqHz).map fun packet =>
    receivedPacketLog "sx1262".toList capture packet.data

/-- What the driver hands up for a window of 48 bytes. -/
def delivered (window : List UInt8) : List UInt8 :=
  if (findUartProbe window).valid then (findUartProbe window).frame
  else window.take frameMaxSize

section Window

variable (header : Vector UInt8 8) (padding : Vector Bool 114)
  (payload : Vector UInt8 16) (crc : Vector UInt8 2)

theorem keyTransferBytes_length : (keyTransferBytes header payload crc).length = 27 := by
  simp [keyTransferBytes]

theorem keyTransferWindow_bits :
    unpackMsb (keyTransferWindow header padding payload crc) =
      uartBits (keyTransferBytes header payload crc) ++ padding.toList := by
  apply unpackMsb_packMsb 48
  rw [List.length_append, uartBits_length, keyTransferBytes_length]
  simp

theorem keyTransferWindow_length :
    (keyTransferWindow header padding payload crc).length = 48 := by
  apply packMsb_length
  rw [List.length_append, uartBits_length, keyTransferBytes_length]
  simp

/-- Bit 69 of the window is a stop bit, which the command byte would need to be 0. -/
theorem rawWindow_not_masked :
    isMasked ((keyTransferWindow header padding payload crc).take frameMaxSize) = false := by
  have hlen := keyTransferWindow_length header padding payload crc
  have hbits := keyTransferWindow_bits header padding payload crc
  have hstop : (uartBits (keyTransferBytes header payload crc))[69]? = some true :=
    uartBits_stop _ 6 (by rw [keyTransferBytes_length]; decide)
  have hbyte := unpackMsb_getElem? (keyTransferWindow header padding payload crc) 8 5
    (by omega) (by decide)
  have hlong : 69 < (uartBits (keyTransferBytes header payload crc)).length := by
    rw [uartBits_length, keyTransferBytes_length]
    decide
  rw [hbits, List.getElem?_append_left hlong, hstop] at hbyte
  have htake : ((keyTransferWindow header padding payload crc).take frameMaxSize).getD
      frameCmdOffset 0 = (keyTransferWindow header padding payload crc).getD 8 0 := by
    simp [frameMaxSize, frameCmdOffset, List.getD_eq_getElem?_getD]
  rw [isMasked, htake]
  by_contra hmask
  simp only [Bool.not_eq_false, Bool.and_eq_true, commandCarriesKeyMaterial, beq_iff_eq] at hmask
  rw [hmask.2] at hbyte
  exact absurd hbyte (by decide)

theorem delivered_of_not_carriesFrame {window : List UInt8} (h : ¬CarriesFrame window) :
    delivered window = window.take frameMaxSize := by
  rw [← findUartProbe_valid_iff] at h
  rw [delivered, if_neg h]

theorem delivered_of_firstFrame {window bytes : List UInt8} (h : FirstFrame window bytes) :
    delivered window = bytes := by
  obtain ⟨hvalid, rfl⟩ := (firstFrame_iff window bytes).1 h
  rw [delivered, if_pos hvalid]

theorem carriesFrame_of_firstFrame {window bytes : List UInt8} (h : FirstFrame window bytes) :
    CarriesFrame window :=
  (findUartProbe_valid_iff window).1 ((firstFrame_iff window bytes).1 h).1

theorem exists_firstFrame {window : List UInt8} (h : CarriesFrame window) :
    ∃ bytes, FirstFrame window bytes :=
  ⟨_, (firstFrame_iff window _).2 ⟨(findUartProbe_valid_iff window).2 h, rfl⟩⟩

theorem firstFrame_length {window bytes : List UInt8} (h : FirstFrame window bytes) :
    0 < bytes.length ∧ bytes.length ≤ frameMaxSize := by
  obtain ⟨o, s, l, hfirst, rfl⟩ := h
  obtain ⟨frame, hframe⟩ := hfirst.confirmed
  obtain ⟨hmin, hmax⟩ := hframe.len_bounds
  rw [hframe.slice_length]
  exact ⟨lt_of_lt_of_le (by decide) hmin, hmax⟩

theorem delivered_length {window : List UInt8} (hlen : window.length = 48) :
    0 < (delivered window).length ∧ (delivered window).length ≤ frameMaxSize := by
  by_cases h : CarriesFrame window
  · obtain ⟨bytes, hbytes⟩ := exists_firstFrame h
    rw [delivered_of_firstFrame hbytes]
    exact firstFrame_length hbytes
  · rw [delivered_of_not_carriesFrame h, List.length_take, hlen]
    decide

theorem rxWindow_of_length {window : List UInt8} (hlen : window.length = 48) :
    rxWindow (fun i => window.getD i 0) 48 = window := by
  apply List.ext_getElem
  · rw [rxWindow, List.length_map, List.length_range, hlen]
    decide
  · intro i h1 h2
    simp [rxWindow, List.getD_eq_getElem?_getD, List.getElem?_eq_getElem h2]

theorem receptionLog_eq (capture : RadioCaptureInfo) {window : List UInt8}
    (hlen : window.length = 48) :
    receptionLog capture window =
      some (receivedPacketLog "sx1262".toList capture (delivered window)) := by
  have hcopy : rawCopy (fun i => window.getD i 0) 48 = window.take frameMaxSize := by
    rw [rawCopy, rxWindow_of_length hlen]
    rfl
  have hpos : (if (findUartProbe window).valid = true then (findUartProbe window).frame
      else window.take frameMaxSize).length > 0 := (delivered_length hlen).1
  rw [receptionLog, readRxPacket, rxWindow_of_length hlen, hcopy]
  simp only [hpos, if_true]
  rfl

theorem receptionLog_eq_iff (capture : RadioCaptureInfo) {v w : List UInt8}
    (hv : v.length = 48) (hw : w.length = 48) :
    receptionLog capture v = receptionLog capture w ↔
      SameOutsideMask (delivered v) (delivered w) := by
  have hlv := (delivered_length hv).2
  have hlw := (delivered_length hw).2
  rw [frameMaxSize] at hlv hlw
  rw [receptionLog_eq capture hv, receptionLog_eq capture hw, Option.some_inj,
    receivedPacketLog_eq_iff _ _ (by omega) (by omega)]

theorem sameOutsideMask_of_unmasked {p q : List UInt8} (h : isMasked p = false) :
    SameOutsideMask p q ↔ p = q := by
  constructor
  · rintro (rfl | ⟨hp, -⟩)
    · rfl
    · exact absurd (h.symm.trans hp) Bool.false_ne_true
  · exact Or.inl

theorem SameOutsideMask.symm {p q : List UInt8} (h : SameOutsideMask p q) :
    SameOutsideMask q p := by
  rcases h with rfl | ⟨hp, hq, hlen, htake⟩
  · exact .inl rfl
  · exact .inr ⟨hq, hp, hlen.symm, htake.symm⟩

end Window

/-! ## Two windows that differ in the key material -/

theorem take_five_byteBits_iff (a b : UInt8) :
    (byteBits a).take 5 = (byteBits b).take 5 ↔ a &&& 0x1F = b &&& 0x1F := by
  have hof : ∀ n : Fin 256, ofBits ((byteBits (UInt8.ofNat n.val)).take 5) =
      UInt8.ofNat n.val &&& 0x1F := by decide +kernel
  have hto : ∀ n : Fin 256, (byteBits (UInt8.ofNat n.val &&& 0x1F)).take 5 =
      (byteBits (UInt8.ofNat n.val)).take 5 := by decide +kernel
  have hofByte : ∀ c : UInt8, ofBits ((byteBits c).take 5) = c &&& 0x1F := fun c => by
    simpa using hof ⟨c.toNat, c.toNat_lt⟩
  have htoByte : ∀ c : UInt8, (byteBits (c &&& 0x1F)).take 5 = (byteBits c).take 5 := fun c => by
    simpa using hto ⟨c.toNat, c.toNat_lt⟩
  constructor
  · intro h
    rw [← hofByte, ← hofByte, h]
  · intro h
    rw [← htoByte a, ← htoByte b, h]

section TwoWindows

variable (header : Vector UInt8 8) (padding : Vector Bool 114)
  (p₁ p₂ : Vector UInt8 16) (c₁ c₂ : Vector UInt8 2)

theorem take_raw_bits (a b : List Bool) (ha : a.length = 90) (hb : b.length = 160) (c : UInt8)
    (rest : List Bool) :
    (a ++ (b ++ (uartSymbol c ++ rest))).take (8 * frameMaxSize) =
      a ++ (b ++ false :: (byteBits c).take 5) := by
  rw [List.take_append, List.take_append, ha, hb,
    List.take_of_length_le (by rw [ha]; decide), List.take_of_length_le (by rw [hb]; decide)]
  simp [frameMaxSize, uartSymbol, List.take_append]

/-- The first 32 raw bytes reach into the fifth data bit of the first CRC byte. -/
theorem rawWindow_take_bits (payload : Vector UInt8 16) (crc : Vector UInt8 2) :
    unpackMsb ((keyTransferWindow header padding payload crc).take frameMaxSize) =
      uartBits (header.toList ++ [cmdKeyTransfer]) ++
        (uartBits payload.toList ++ false :: (byteBits crc[0]).take 5) := by
  have hcrc : crc.toList = [crc[0], crc[1]] := by
    apply List.ext_getElem
    · simp
    · intro i h1 h2
      have hi : i < 2 := by simpa using h2
      interval_cases i <;> simp
  have hbits : uartBits (keyTransferBytes header payload crc) =
      uartBits (header.toList ++ [cmdKeyTransfer]) ++
        (uartBits payload.toList ++ (uartSymbol crc[0] ++ uartBits [crc[1]])) := by
    have hsymbol : uartBits [crc[0], crc[1]] = uartSymbol crc[0] ++ uartBits [crc[1]] := rfl
    rw [keyTransferBytes, hcrc, List.append_cons, uartBits_append _ (payload.toList ++ _),
      uartBits_append payload.toList, hsymbol]
  rw [unpackMsb_take, keyTransferWindow_bits, hbits, List.append_assoc, List.append_assoc,
    List.append_assoc]
  apply take_raw_bits
  · rw [uartBits_length]
    simp
  · rw [uartBits_length]
    simp

theorem rawWindow_take_eq_iff :
    (keyTransferWindow header padding p₁ c₁).take frameMaxSize =
        (keyTransferWindow header padding p₂ c₂).take frameMaxSize ↔
      p₁ = p₂ ∧ crcFieldLow c₁ = crcFieldLow c₂ := by
  rw [← unpackMsb_injective.eq_iff, rawWindow_take_bits, rawWindow_take_bits,
    List.append_cancel_left_eq, crcFieldLow, crcFieldLow, ← take_five_byteBits_iff]
  constructor
  · intro h
    obtain ⟨hp, hc⟩ := List.append_inj h (by simp [uartBits_length])
    exact ⟨Vector.toList_inj.1 (uartBits_injective hp), (List.cons.inj hc).2⟩
  · rintro ⟨rfl, hc⟩
    rw [hc]

/-- When the two windows log the same text. A window without a confirmed frame shows its first 32
raw bytes, which hold the whole payload. -/
def RedactionHolds : Prop :=
  let v := keyTransferWindow header padding p₁ c₁
  let w := keyTransferWindow header padding p₂ c₂
  (∃ f g, FirstFrame v f ∧ FirstFrame w g ∧ SameOutsideMask f g) ∨
    (¬CarriesFrame v ∧ ¬CarriesFrame w ∧ p₁ = p₂ ∧ crcFieldLow c₁ = crcFieldLow c₂) ∨
    (∃ f, FirstFrame v f ∧ ¬CarriesFrame w ∧ f = w.take frameMaxSize) ∨
    (∃ g, ¬CarriesFrame v ∧ FirstFrame w g ∧ g = v.take frameMaxSize)

theorem key_transfer_log_identical_iff (capture : RadioCaptureInfo) :
    receptionLog capture (keyTransferWindow header padding p₁ c₁) =
        receptionLog capture (keyTransferWindow header padding p₂ c₂) ↔
      RedactionHolds header padding p₁ p₂ c₁ c₂ := by
  rw [receptionLog_eq_iff capture (keyTransferWindow_length header padding p₁ c₁)
    (keyTransferWindow_length header padding p₂ c₂)]
  have hraw₁ := rawWindow_not_masked header padding p₁ c₁
  have hraw₂ := rawWindow_not_masked header padding p₂ c₂
  have htake := rawWindow_take_eq_iff header padding p₁ p₂ c₁ c₂
  unfold RedactionHolds
  generalize keyTransferWindow header padding p₁ c₁ = v at *
  generalize keyTransferWindow header padding p₂ c₂ = w at *
  by_cases hv : CarriesFrame v <;> by_cases hw : CarriesFrame w
  · -- both windows deliver a frame, whose key transfer payload is masked
    obtain ⟨f, hf⟩ := exists_firstFrame hv
    obtain ⟨g, hg⟩ := exists_firstFrame hw
    rw [delivered_of_firstFrame hf, delivered_of_firstFrame hg]
    constructor
    · intro h
      exact .inl ⟨f, g, hf, hg, h⟩
    · rintro (⟨f', g', hf', hg', h⟩ | ⟨h, -⟩ | ⟨-, -, h, -⟩ | ⟨-, h, -⟩)
      · rwa [← delivered_of_firstFrame hf, ← delivered_of_firstFrame hg,
          delivered_of_firstFrame hf', delivered_of_firstFrame hg']
      · exact absurd hv h
      · exact absurd hw h
      · exact absurd hv h
  · -- only the first window delivers a frame
    obtain ⟨f, hf⟩ := exists_firstFrame hv
    rw [delivered_of_firstFrame hf, delivered_of_not_carriesFrame hw]
    constructor
    · intro h
      exact .inr (.inr (.inl ⟨f, hf, hw, ((sameOutsideMask_of_unmasked hraw₂).1 h.symm).symm⟩))
    · rintro (⟨-, g', -, hg', -⟩ | ⟨h, -⟩ | ⟨f', hf', -, h⟩ | ⟨-, h, -⟩)
      · exact absurd (carriesFrame_of_firstFrame hg') hw
      · exact absurd hv h
      · rw [← delivered_of_firstFrame hf, delivered_of_firstFrame hf']
        exact .inl h
      · exact absurd hv h
  · -- only the second window delivers a frame
    obtain ⟨g, hg⟩ := exists_firstFrame hw
    rw [delivered_of_not_carriesFrame hv, delivered_of_firstFrame hg]
    constructor
    · intro h
      exact .inr (.inr (.inr ⟨g, hv, hg, ((sameOutsideMask_of_unmasked hraw₁).1 h).symm⟩))
    · rintro (⟨f', -, hf', -⟩ | ⟨-, h, -⟩ | ⟨-, -, h, -⟩ | ⟨g', -, hg', h⟩)
      · exact absurd (carriesFrame_of_firstFrame hf') hv
      · exact absurd hw h
      · exact absurd hw h
      · rw [← delivered_of_firstFrame hg, delivered_of_firstFrame hg']
        exact .inl h.symm
  · -- both windows deliver raw bytes, in which nothing is masked
    rw [delivered_of_not_carriesFrame hv, delivered_of_not_carriesFrame hw,
      sameOutsideMask_of_unmasked hraw₁, htake]
    constructor
    · intro h
      exact .inr (.inl ⟨hv, hw, h⟩)
    · rintro (⟨f', -, hf', -⟩ | ⟨-, -, h⟩ | ⟨f', hf', -⟩ | ⟨g', -, hg', -⟩)
      · exact absurd (carriesFrame_of_firstFrame hf') hv
      · exact h
      · exact absurd (carriesFrame_of_firstFrame hf') hv
      · exact absurd (carriesFrame_of_firstFrame hg') hw

end TwoWindows

/-- A key transfer whose CRC is damaged is logged undecoded, payload included. -/
theorem damaged_key_transfer_shows_payload :
    let header : Vector UInt8 8 := #v[0x18, 0, 0x12, 0x34, 0x56, 0x65, 0x43, 0x21]
    let padding : Vector Bool 114 := Vector.replicate 114 false
    let payload : Vector UInt8 16 := Vector.replicate 16 0
    let payload' : Vector UInt8 16 := Vector.replicate 16 1
    let crc : Vector UInt8 2 := #v[0, 0]
    keyTransferCrcMatches header payload crc = false ∧
      keyTransferCrcMatches header payload' crc = false ∧
      receptionLog {} (keyTransferWindow header padding payload crc) ≠
        receptionLog {} (keyTransferWindow header padding payload' crc) := by
  decide +kernel

end HomeIoControl
