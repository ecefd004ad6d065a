import HomeIoControl.BitStream
import HomeIoControl.Frame

namespace HomeIoControl
open BitStream

def radioPacketBufferSize : ℕ := 64
def uartProbeMaxBitOffset : ℕ := 10

/-! ## Line coding -/

/-- A byte on the air: start bit 0, data bits least significant first, stop bit 1. -/
def uartSymbol (b : UInt8) : List Bool := false :: (byteBits b ++ [true])

def uartBits (bytes : List UInt8) : List Bool := bytes.flatMap uartSymbol

/-- The encoded bytes, or none when the output buffer is too small. -/
def uartEncodePacket (data : List UInt8) (encodedMaxLen : ℕ) : Option (List UInt8) :=
  if data.length = 0 ∨ encodedMaxLen = 0 then none
  else if (data.length * 10 + 7) / 8 > encodedMaxLen then none
  else some (packMsb (uartBits data))

/-- Decodes symbols from the front of the stream until one has a wrong start or stop bit. -/
def decodeUart : ℕ → List Bool → List UInt8
  | 0, _ => []
  | decodedMaxLen + 1, bits =>
    if bits.length < 10 then []
    else if bits.getD 0 false != false || bits.getD 9 false != true then []
    else ofBits ((bits.drop 1).take 8) :: decodeUart decodedMaxLen (bits.drop 10)

def decodeUartProbe (raw : List UInt8) (bitOffset : ℕ) (decodedMaxLen : ℕ) : List UInt8 :=
  decodeUart decodedMaxLen ((unpackMsb raw).drop bitOffset)

theorem uartBits_length (bytes : List UInt8) : (uartBits bytes).length = 10 * bytes.length := by
  induction bytes with
  | nil => rfl
  | cons b bytes ih =>
    have hcons : uartBits (b :: bytes) = uartSymbol b ++ uartBits bytes := rfl
    rw [hcons, List.length_append, ih, List.length_cons]
    simp only [uartSymbol, List.length_cons, List.length_append, byteBits_length, List.length_nil]
    omega

theorem uartBits_append (p q : List UInt8) : uartBits (p ++ q) = uartBits p ++ uartBits q :=
  List.flatMap_append

theorem uartSymbol_injective : Function.Injective uartSymbol := by
  intro a b h
  have hbits := (List.cons.inj h).2
  exact byteBits_injective (List.append_inj hbits (by simp)).1

theorem uartBits_injective {p q : List UInt8} (h : uartBits p = uartBits q) : p = q := by
  have hlen := congrArg List.length h
  rw [uartBits_length, uartBits_length] at hlen
  induction p generalizing q with
  | nil => exact (List.length_eq_zero_iff.1 (by simpa using hlen.symm)).symm
  | cons a p ih =>
    cases q with
    | nil => simp at hlen
    | cons b q =>
      have hcons : uartSymbol a ++ uartBits p = uartSymbol b ++ uartBits q := h
      obtain ⟨hab, htail⟩ := List.append_inj hcons (by simp [uartSymbol])
      rw [uartSymbol_injective hab, ih htail (by simpa using hlen)]

theorem uartBits_cons (b : UInt8) (bytes : List UInt8) :
    uartBits (b :: bytes) = uartSymbol b ++ uartBits bytes := rfl

theorem uartBits_stop (bytes : List UInt8) (k : ℕ) (hk : k < bytes.length) :
    (uartBits bytes)[10 * k + 9]? = some true := by
  induction bytes generalizing k with
  | nil => simp at hk
  | cons b bytes ih =>
    rw [uartBits_cons]
    cases k with
    | zero => simp [uartSymbol, byteBits]
    | succ k =>
      rw [List.getElem?_append_right (by simp [uartSymbol]; omega)]
      have hidx : 10 * (k + 1) + 9 - (uartSymbol b).length = 10 * k + 9 := by
        simp only [uartSymbol, List.length_cons, List.length_append, byteBits_length,
          List.length_nil]
        omega
      rw [hidx]
      exact ih k (by simpa using hk)

/-- Decoding undoes the encoding as far as the output buffer reaches. -/
theorem decodeUart_uartBits (bytes : List UInt8) (n : ℕ) (rest : List Bool) :
    decodeUart (bytes.length + n) (uartBits bytes ++ rest) = bytes ++ decodeUart n rest := by
  induction bytes with
  | nil => simp [uartBits]
  | cons b bytes ih =>
    have hlen : (uartSymbol b).length = 10 := by simp [uartSymbol]
    have hstop : (uartSymbol b ++ (uartBits bytes ++ rest)).getD 9 false = true := by
      simp [uartSymbol, byteBits, List.getD_eq_getElem?_getD]
    have hdata : ((uartSymbol b ++ (uartBits bytes ++ rest)).drop 1).take 8 = byteBits b := by
      simp [uartSymbol]
    have hdrop : (uartSymbol b ++ (uartBits bytes ++ rest)).drop 10 = uartBits bytes ++ rest :=
      List.drop_left' hlen
    rw [List.length_cons, Nat.add_right_comm, decodeUart, uartBits_cons, List.append_assoc,
      if_neg (by rw [List.length_append, hlen]; omega), hstop, hdata, hdrop, ofBits_byteBits, ih]
    rfl

/-! ## Finding a frame -/

def knownIoCommands : List UInt8 :=
  [cmdExecute, cmdActivateMode, cmdPrivate, cmdPrivateResp, cmdSetSensor, cmdSetSensorAck,
    cmdIdentify, cmdWritePrivate, cmdWritePrivateAck, cmdDiscoverReq, cmdDiscoverResp,
    cmdDiscoverSpeReq, cmdDiscoverSpeResp, cmdDiscoverConfirm, cmdDiscoverConfirmAck,
    cmdDiscoverAltReq, cmdDiscoverAltResp, cmdKeyInit, cmdKeyTransfer, cmdKeyConfirm,
    cmdAddressReq, cmdAddressResp, cmdLaunchKeyTransfer, cmdChallengeReq, cmdChallengeResp,
    cmdGetName, cmdGetNameResp, cmdSetName, cmdSetNameResp, cmdGetInfo2, cmdGetInfo2Resp,
    cmdSetConfig1, cmdSetConfig1Resp, cmdStatusUpdate, cmdStatusUpdateResp, cmdErrorResp]

def isKnownIoCommand (cmd : UInt8) : Bool := knownIoCommands.contains cmd

def isPlausibleUartFrame (frame : IoFrame) (candidateLen : ℕ) : Bool :=
  if candidateLen < frameMinSize then false
  else isKnownIoCommand frame.cmd || frame.is1W

/-- The two bytes after a candidate, low byte first. -/
def receivedCrc (decoded : List UInt8) (candidateLen : ℕ) : UInt16 :=
  (decoded.getD candidateLen 0).toUInt16 ||| ((decoded.getD (candidateLen + 1) 0).toUInt16 <<< 8)

/-- Whether the stream starts with a plausible frame of this length followed by its CRC. -/
def isCrcValidCandidate (decoded : List UInt8) (candidateLen : ℕ) : Bool :=
  match parse (decoded.take candidateLen) with
  | none => false
  | some frame =>
    isPlausibleUartFrame frame candidateLen && decide (candidateLen + 2 ≤ decoded.length) &&
      crcCcitt (decoded.take candidateLen) == receivedCrc decoded candidateLen

/-- The candidate lengths at one start, longest first. -/
def candidateLengths (available : ℕ) : List ℕ :=
  (List.range' frameMinSize (min available frameMaxSize + 1 - frameMinSize)).reverse

def findCrcValidFrame (decoded : List UInt8) : Option (ℕ × ℕ) :=
  (List.range decoded.length).findSome? fun start =>
    ((candidateLengths (decoded.length - start)).find?
      (isCrcValidCandidate (decoded.drop start))).map (start, ·)

structure UartProbeResult where
  valid : Bool := false
  bitOffset : ℕ := 0
  decoded : List UInt8 := []
  frameStart : ℕ := 0
  frameLen : ℕ := 0
  deriving DecidableEq, Repr

/-- The slice of the decoded stream that was found. -/
def UartProbeResult.frame (r : UartProbeResult) : List UInt8 :=
  (r.decoded.drop r.frameStart).take r.frameLen

/-- Tries the remaining offsets; without a valid frame the longest decode so far is kept. -/
def probeOffsets (raw : List UInt8) : List ℕ → UartProbeResult → UartProbeResult
  | [], best => best
  | bitOffset :: rest, best =>
    let decoded := decodeUartProbe raw bitOffset radioPacketBufferSize
    if decoded = [] then probeOffsets raw rest best
    else
      match findCrcValidFrame decoded with
      | some (frameStart, frameLen) => { valid := true, bitOffset, decoded, frameStart, frameLen }
      | none =>
        probeOffsets raw rest
          (if best.decoded.length < decoded.length ∧ best.valid = false then
            { best with bitOffset, decoded }
          else best)

def findUartProbe (raw : List UInt8) : UartProbeResult :=
  probeOffsets raw (List.range uartProbeMaxBitOffset) {}

/-! ## What the probe finds -/

/-- At `start` the stream holds a plausible frame of `len` bytes that its CRC confirms. -/
structure IsFrameAt (decoded : List UInt8) (start len : ℕ) (frame : IoFrame) : Prop where
  parsed : parse ((decoded.drop start).take len) = some frame
  looksLikeFrame : isPlausibleUartFrame frame len = true
  fits : start + len + 2 ≤ decoded.length
  crc : crcCcitt ((decoded.drop start).take len) = receivedCrc (decoded.drop start) len

/-- Some bit offset decodes to a stream with a confirmed frame. -/
def CarriesFrame (raw : List UInt8) : Prop :=
  ∃ bitOffset < uartProbeMaxBitOffset, ∃ start len frame,
    IsFrameAt (decodeUartProbe raw bitOffset radioPacketBufferSize) start len frame

theorem isCrcValidCandidate_iff (decoded : List UInt8) (start len : ℕ)
    (hstart : start < decoded.length) :
    isCrcValidCandidate (decoded.drop start) len = true ↔
      ∃ frame, IsFrameAt decoded start len frame := by
  have hlen : (decoded.drop start).length = decoded.length - start := List.length_drop
  unfold isCrcValidCandidate
  cases hparse : parse ((decoded.drop start).take len) with
  | none =>
    simp only [Bool.false_eq_true, false_iff, not_exists]
    intro frame h
    rw [h.parsed] at hparse
    cases hparse
  | some frame =>
    simp only [Bool.and_eq_true, decide_eq_true_eq, beq_iff_eq, hlen]
    constructor
    · rintro ⟨⟨hp, hfits⟩, hcrc⟩
      exact ⟨frame, hparse, hp, by omega, hcrc⟩
    · rintro ⟨frame', h⟩
      obtain rfl : frame = frame' := by simpa [hparse] using h.parsed
      have hfits := h.fits
      exact ⟨⟨h.looksLikeFrame, by omega⟩, h.crc⟩

namespace IsFrameAt

variable {decoded : List UInt8} {start len : ℕ} {frame : IoFrame}

theorem slice_length (h : IsFrameAt decoded start len frame) :
    ((decoded.drop start).take len).length = len := by
  have hfits := h.fits
  simp only [List.length_take, List.length_drop]
  omega

/-- The length is the one that the frame's first byte announces. -/
theorem len_eq (h : IsFrameAt decoded start len frame) :
    len = announcedLength (decoded.drop start) := by
  obtain ⟨hmin, hannounced, -⟩ := (parse_eq_some_iff _ _).1 h.parsed
  rw [h.slice_length] at hmin hannounced
  have hpos : 0 < len := lt_of_lt_of_le (by decide) hmin
  rw [hannounced]
  simp [announcedLength, List.getD_eq_getElem?_getD, hpos]

theorem len_bounds (h : IsFrameAt decoded start len frame) :
    frameMinSize ≤ len ∧ len ≤ frameMaxSize := by
  obtain ⟨hmin, hannounced, -⟩ := (parse_eq_some_iff _ _).1 h.parsed
  rw [h.slice_length] at hmin hannounced
  have hmax := frameLength_le (readFrame ((decoded.drop start).take len))
  rw [show (readFrame ((decoded.drop start).take len)).frameLength = len from hannounced.symm]
    at hmax
  exact ⟨hmin, hmax⟩

theorem mem_candidateLengths (h : IsFrameAt decoded start len frame) :
    len ∈ candidateLengths (decoded.length - start) := by
  obtain ⟨hmin, hmax⟩ := h.len_bounds
  have hfits := h.fits
  simp only [candidateLengths, List.mem_reverse, List.mem_range'_1, frameMinSize, frameMaxSize]
    at hmin hmax ⊢
  omega

end IsFrameAt

theorem range_split {n a : ℕ} {l₁ l₂ : List ℕ} (h : List.range n = l₁ ++ a :: l₂) :
    a < n ∧ ∀ s < a, s ∈ l₁ := by
  have hmem : a ∈ List.range n := by simp [h]
  have hlen := congrArg List.length h
  simp only [List.length_range, List.length_append, List.length_cons] at hlen
  have ha : l₁.length = a := by
    have hget : (List.range n)[l₁.length]? = some a := by simp [h]
    rw [List.getElem?_range (by omega)] at hget
    exact Option.some.inj hget
  refine ⟨List.mem_range.1 hmem, fun s hs => ?_⟩
  have hget : (l₁ ++ a :: l₂)[s]? = some s := by
    rw [← h, List.getElem?_range (by omega)]
  rw [List.getElem?_append_left (by omega)] at hget
  exact List.mem_of_getElem? hget

/-- The search over starts returns the first one that holds a confirmed frame. -/
theorem findCrcValidFrame_eq_some {decoded : List UInt8} {start len : ℕ}
    (h : findCrcValidFrame decoded = some (start, len)) :
    (∃ frame, IsFrameAt decoded start len frame) ∧
      ∀ s < start, ∀ l frame, ¬IsFrameAt decoded s l frame := by
  obtain ⟨l₁, s, l₂, hrange, hfind, hnone⟩ := List.findSome?_eq_some_iff.1 h
  obtain ⟨l, hl, heq⟩ := Option.map_eq_some_iff.1 hfind
  obtain ⟨rfl, rfl⟩ : s = start ∧ l = len := by simpa using heq
  obtain ⟨hs, hbefore⟩ := range_split hrange
  refine ⟨(isCrcValidCandidate_iff decoded s l hs).1 (List.find?_some hl), ?_⟩
  intro s' hs' l' frame hframe
  have hno := hnone s' (hbefore s' hs')
  rw [Option.map_eq_none_iff, List.find?_eq_none] at hno
  exact hno l' hframe.mem_candidateLengths
    ((isCrcValidCandidate_iff decoded s' l' (by omega)).2 ⟨frame, hframe⟩)

theorem findCrcValidFrame_isSome {decoded : List UInt8} {start len : ℕ} {frame : IoFrame}
    (h : IsFrameAt decoded start len frame) : (findCrcValidFrame decoded).isSome := by
  have hfits := h.fits
  have hstart : start < decoded.length := by omega
  rw [findCrcValidFrame, List.findSome?_isSome_iff]
  refine ⟨start, List.mem_range.2 hstart, ?_⟩
  rw [Option.isSome_map, List.find?_isSome]
  exact ⟨len, h.mem_candidateLengths, (isCrcValidCandidate_iff _ _ _ hstart).2 ⟨frame, h⟩⟩

/-- A confirmed frame before which, at any smaller offset or start, there is none. -/
structure IsFirstFrame (raw : List UInt8) (bitOffset start len : ℕ) : Prop where
  offset_lt : bitOffset < uartProbeMaxBitOffset
  confirmed : ∃ frame,
    IsFrameAt (decodeUartProbe raw bitOffset radioPacketBufferSize) start len frame
  first_offset : ∀ o < bitOffset, ∀ s l frame,
    ¬IsFrameAt (decodeUartProbe raw o radioPacketBufferSize) s l frame
  first_start : ∀ s < start, ∀ l frame,
    ¬IsFrameAt (decodeUartProbe raw bitOffset radioPacketBufferSize) s l frame

/-- The bytes of the first confirmed frame. -/
def FirstFrame (raw bytes : List UInt8) : Prop :=
  ∃ bitOffset start len, IsFirstFrame raw bitOffset start len ∧
    bytes = ((decodeUartProbe raw bitOffset radioPacketBufferSize).drop start).take len

theorem not_isFrameAt_of_findCrcValidFrame_eq_none {decoded : List UInt8}
    (h : findCrcValidFrame decoded = none) (start len : ℕ) (frame : IoFrame) :
    ¬IsFrameAt decoded start len frame := by
  intro hframe
  have := findCrcValidFrame_isSome hframe
  simp [h] at this

/-- What the search over the offsets from `n` on returns when it succeeds and no earlier offset
holds a frame. -/
theorem probeOffsets_first (raw : List UInt8) (k n : ℕ) (best : UartProbeResult)
    (hk : n + k = uartProbeMaxBitOffset) (hbest : best.valid = false)
    (hbefore : ∀ o < n, ∀ s l frame,
      ¬IsFrameAt (decodeUartProbe raw o radioPacketBufferSize) s l frame)
    (r : UartProbeResult) (hr : probeOffsets raw (List.range' n k) best = r)
    (h : r.valid = true) :
    IsFirstFrame raw r.bitOffset r.frameStart r.frameLen ∧
      r.decoded = decodeUartProbe raw r.bitOffset radioPacketBufferSize := by
  induction k generalizing n best with
  | zero =>
    rw [List.range'_zero, probeOffsets] at hr
    rw [← hr, hbest] at h
    exact absurd h Bool.false_ne_true
  | succ k ih =>
    rw [List.range'_succ, probeOffsets] at hr
    have hstep : (∀ s l frame, ¬IsFrameAt (decodeUartProbe raw n radioPacketBufferSize) s l frame) →
        ∀ o < n + 1, ∀ s l frame,
          ¬IsFrameAt (decodeUartProbe raw o radioPacketBufferSize) s l frame := by
      intro hn o ho
      rcases Nat.lt_succ_iff_lt_or_eq.1 ho with ho | rfl
      · exact hbefore o ho
      · exact hn
    by_cases hd : decodeUartProbe raw n radioPacketBufferSize = []
    · rw [if_pos hd] at hr
      refine ih (n + 1) best (by omega) hbest (hstep ?_) hr
      intro s l frame hframe
      have hfits := hframe.fits
      simp [hd] at hfits
    · rw [if_neg hd] at hr
      cases hf : findCrcValidFrame (decodeUartProbe raw n radioPacketBufferSize) with
      | some p =>
        obtain ⟨start, len⟩ := p
        simp only [hf] at hr
        subst hr
        obtain ⟨hframe, hfirst⟩ := findCrcValidFrame_eq_some hf
        have hn : n < uartProbeMaxBitOffset := by omega
        exact ⟨⟨hn, hframe, hbefore, hfirst⟩, rfl⟩
      | none =>
        simp only [hf] at hr
        exact ih (n + 1) _ (by omega) (by split_ifs <;> simp_all)
          (hstep (not_isFrameAt_of_findCrcValidFrame_eq_none hf)) hr

theorem probeOffsets_complete (raw : List UInt8) (offsets : List ℕ) (best : UartProbeResult)
    {bitOffset start len : ℕ} {frame : IoFrame} (hmem : bitOffset ∈ offsets)
    (h : IsFrameAt (decodeUartProbe raw bitOffset radioPacketBufferSize) start len frame) :
    (probeOffsets raw offsets best).valid = true := by
  induction offsets generalizing best with
  | nil => simp at hmem
  | cons offset rest ih =>
    rw [probeOffsets]
    by_cases hd : decodeUartProbe raw offset radioPacketBufferSize = []
    · rw [if_pos hd]
      rcases List.mem_cons.1 hmem with rfl | hmem
      · have hfits := h.fits
        simp [hd] at hfits
      · exact ih best hmem
    · rw [if_neg hd]
      cases hf : findCrcValidFrame (decodeUartProbe raw offset radioPacketBufferSize) with
      | some r => rfl
      | none =>
        rcases List.mem_cons.1 hmem with rfl | hmem
        · have := findCrcValidFrame_isSome h
          simp [hf] at this
        · exact ih _ hmem

/-- A valid result is the first confirmed frame. -/
theorem findUartProbe_first (raw : List UInt8) (h : (findUartProbe raw).valid = true) :
    IsFirstFrame raw (findUartProbe raw).bitOffset (findUartProbe raw).frameStart
        (findUartProbe raw).frameLen ∧
      (findUartProbe raw).decoded =
        decodeUartProbe raw (findUartProbe raw).bitOffset radioPacketBufferSize := by
  refine probeOffsets_first raw uartProbeMaxBitOffset 0 {} (Nat.zero_add _) rfl ?_ _ ?_ h
  · intro o ho
    exact absurd ho (Nat.not_lt_zero o)
  · rw [← List.range_eq_range']
    rfl

theorem findUartProbe_valid_iff (raw : List UInt8) :
    (findUartProbe raw).valid = true ↔ CarriesFrame raw := by
  constructor
  · intro h
    obtain ⟨frame, hframe⟩ := (findUartProbe_first raw h).1.confirmed
    exact ⟨_, (findUartProbe_first raw h).1.offset_lt, _, _, frame, hframe⟩
  · rintro ⟨bitOffset, hlt, start, len, frame, hframe⟩
    exact probeOffsets_complete raw _ _ (List.mem_range.2 hlt) hframe

theorem findUartProbe_frame (raw : List UInt8) (h : (findUartProbe raw).valid = true) :
    ∃ frame, IsFrameAt (findUartProbe raw).decoded (findUartProbe raw).frameStart
      (findUartProbe raw).frameLen frame := by
  obtain ⟨hfirst, hdecoded⟩ := findUartProbe_first raw h
  rw [hdecoded]
  exact hfirst.confirmed

theorem IsFrameAt.len_unique {decoded : List UInt8} {start len len' : ℕ} {frame frame' : IoFrame}
    (h : IsFrameAt decoded start len frame) (h' : IsFrameAt decoded start len' frame') :
    len = len' := by
  rw [h.len_eq, h'.len_eq]

theorem IsFirstFrame.unique {raw : List UInt8} {o s l o' s' l' : ℕ}
    (h : IsFirstFrame raw o s l) (h' : IsFirstFrame raw o' s' l') : o = o' ∧ s = s' ∧ l = l' := by
  obtain ⟨frame, hframe⟩ := h.confirmed
  obtain ⟨frame', hframe'⟩ := h'.confirmed
  have ho : o = o' := by
    rcases lt_trichotomy o o' with hlt | heq | hlt
    · exact absurd hframe (h'.first_offset o hlt s l frame)
    · exact heq
    · exact absurd hframe' (h.first_offset o' hlt s' l' frame')
  subst ho
  have hs : s = s' := by
    rcases lt_trichotomy s s' with hlt | heq | hlt
    · exact absurd hframe (h'.first_start s hlt l frame)
    · exact heq
    · exact absurd hframe' (h.first_start s' hlt l' frame')
  subst hs
  exact ⟨rfl, rfl, hframe.len_unique hframe'⟩

theorem IsFirstFrame.found {raw : List UInt8} {o start len : ℕ}
    (h : IsFirstFrame raw o start len) :
    (findUartProbe raw).valid = true ∧ (findUartProbe raw).bitOffset = o ∧
      (findUartProbe raw).frameStart = start ∧
      (findUartProbe raw).frame =
        ((decodeUartProbe raw o radioPacketBufferSize).drop start).take len := by
  obtain ⟨frame, hframe⟩ := h.confirmed
  have hvalid := (findUartProbe_valid_iff raw).2 ⟨o, h.offset_lt, start, len, frame, hframe⟩
  obtain ⟨hprobe, hdecoded⟩ := findUartProbe_first raw hvalid
  obtain ⟨hoffset, hstart, hlen⟩ := hprobe.unique h
  refine ⟨hvalid, hoffset, hstart, ?_⟩
  rw [UartProbeResult.frame, hdecoded, hoffset, hstart, hlen]

/-- A plausible frame that is first in the decode of offset zero, followed by its CRC, is found
before any other. -/
theorem isFirstFrame_of_front {raw bytes rest : List UInt8} {frame : IoFrame} {low high : UInt8}
    (hdecoded : decodeUartProbe raw 0 radioPacketBufferSize = bytes ++ low :: high :: rest)
    (hparse : parse bytes = some frame)
    (hshape : isPlausibleUartFrame frame bytes.length = true)
    (hcrc : crcCcitt bytes = low.toUInt16 ||| (high.toUInt16 <<< 8)) :
    IsFirstFrame raw 0 0 bytes.length := by
  have htake : (bytes ++ low :: high :: rest).take bytes.length = bytes := List.take_left' rfl
  have hfield : receivedCrc (bytes ++ low :: high :: rest) bytes.length =
      low.toUInt16 ||| (high.toUInt16 <<< 8) := by
    simp [receivedCrc, List.getD_eq_getElem?_getD]
  refine ⟨by decide, ⟨frame, ⟨?_, hshape, ?_, ?_⟩⟩, ?_, ?_⟩
  · rw [hdecoded, List.drop_zero, htake, hparse]
  · rw [hdecoded, List.length_append, List.length_cons, List.length_cons]
    omega
  · rw [hdecoded, List.drop_zero, htake, hfield, hcrc]
  · intro o ho
    exact absurd ho (Nat.not_lt_zero o)
  · intro s hs
    exact absurd hs (Nat.not_lt_zero s)

/-- The recovered bytes are those of the first confirmed frame. -/
theorem firstFrame_iff (raw bytes : List UInt8) :
    FirstFrame raw bytes ↔
      (findUartProbe raw).valid = true ∧ bytes = (findUartProbe raw).frame := by
  constructor
  · rintro ⟨o, s, l, hfirst, rfl⟩
    obtain ⟨hvalid, -, -, hframe⟩ := hfirst.found
    exact ⟨hvalid, hframe.symm⟩
  · rintro ⟨hvalid, rfl⟩
    obtain ⟨hprobe, hdecoded⟩ := findUartProbe_first raw hvalid
    exact ⟨_, _, _, hprobe, by rw [UartProbeResult.frame, hdecoded]⟩

end HomeIoControl
