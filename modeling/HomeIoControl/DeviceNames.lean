import HomeIoControl.DeviceStatus
import HomeIoControl.Latin1

namespace HomeIoControl

/-! ## Writing a name -/

def deviceNameWriteCharLimit : ℕ := 15
/-- The characters and a trailing null. -/
def deviceNameWritePayloadSize : ℕ := deviceNameWriteCharLimit + 1
def latin1CodepointMax : UInt16 := 0x00FF
def asciiMax : UInt8 := 0x7F
def utf8TwoByteMask : UInt8 := 0xE0
def utf8TwoBytePrefix : UInt8 := 0xC0
def utf8ThreeByteMask : UInt8 := 0xF0
def utf8ThreeBytePrefix : UInt8 := 0xE0
def utf8FourByteMask : UInt8 := 0xF8
def utf8FourBytePrefix : UInt8 := 0xF0
def utf8ContinuationPrefixMask : UInt8 := 0xC0
def utf8ContinuationPrefix : UInt8 := 0x80

inductive DeviceNameValidationError
  | empty
  | tooLong
  | invalidUtf8
  | unsupportedChar
  deriving DecidableEq, Repr

def deviceNameValidationErrorDescription : DeviceNameValidationError → String
  | .empty => "device name must not be empty"
  | .tooLong => "device name exceeds the 15-character write limit"
  | .invalidUtf8 => "device name must be valid UTF-8"
  | .unsupportedChar => "device name contains characters outside Latin-1"

/-- `std::isspace` -/
def isSpace (c : UInt8) : Bool := c == 0x20 || decide (0x09 ≤ c) && decide (c ≤ 0x0D)

def trimAsciiWhitespace (value : List UInt8) : List UInt8 :=
  (value.dropWhile isSpace).rdropWhile isSpace

def pushCodepoint (latin1 : List UInt8) (codepoint : UInt16) :
    Except DeviceNameValidationError (List UInt8) :=
  if codepoint > latin1CodepointMax then .error .unsupportedChar
  else if deviceNameWriteCharLimit ≤ latin1.length then .error .tooLong
  else .ok (latin1 ++ [codepoint.toUInt8])

/-- Reads UTF-8 and appends to the Latin-1 characters. -/
def encodeLatin1 (latin1 : List UInt8) :
    List UInt8 → Except DeviceNameValidationError (List UInt8)
  | [] => .ok latin1
  | byte :: rest =>
    if byte ≤ asciiMax then do
      let latin1 ← pushCodepoint latin1 byte.toUInt16
      encodeLatin1 latin1 rest
    else if byte &&& utf8TwoByteMask = utf8TwoBytePrefix then
      match rest with
      | [] => .error .invalidUtf8
      | continuation :: rest =>
        if continuation &&& utf8ContinuationPrefixMask ≠ utf8ContinuationPrefix then
          .error .invalidUtf8
        else
          let codepoint := Latin1.codepoint byte continuation
          if codepoint < utf8SingleByteMax.toUInt16 then .error .invalidUtf8
          else do
            let latin1 ← pushCodepoint latin1 codepoint
            encodeLatin1 latin1 rest
    else if byte &&& utf8ThreeByteMask = utf8ThreeBytePrefix ∨
        byte &&& utf8FourByteMask = utf8FourBytePrefix then .error .unsupportedChar
    else .error .invalidUtf8

/-- The write payload and the normalized name. -/
def encodeDeviceNamePayload (name : List UInt8) :
    Except DeviceNameValidationError (Vector UInt8 deviceNameWritePayloadSize × List UInt8) :=
  let trimmedName := trimAsciiWhitespace name
  if trimmedName = [] then .error .empty
  else do
    let latin1 ← encodeLatin1 [] trimmedName
    .ok (.ofFn fun i => latin1.getD i 0, latin1ToUtf8 latin1)

/-- The bytes before the first null. -/
def cString (buffer : Vector UInt8 32) : List UInt8 := buffer.toList.takeWhile (· != 0)

/-! ## What is accepted -/

theorem pushCodepoint_eq_ok {latin1 out : List UInt8} {codepoint : UInt16}
    (h : pushCodepoint latin1 codepoint = .ok out) :
    codepoint ≤ latin1CodepointMax ∧ latin1.length < deviceNameWriteCharLimit ∧
      out = latin1 ++ [codepoint.toUInt8] := by
  unfold pushCodepoint at h
  split_ifs at h with hmax hlen
  exact ⟨UInt16.not_lt.1 hmax, Nat.lt_of_not_le hlen, (Except.ok.inj h).symm⟩

theorem bind_eq_ok {ε α β : Type} {x : Except ε α} {f : α → Except ε β} {b : β}
    (h : x >>= f = .ok b) : ∃ a, x = .ok a ∧ f a = .ok b := by
  cases x with
  | error e => cases h
  | ok a => exact ⟨a, rfl, h⟩

/-- One more character, and then the rest of the name. -/
theorem encodes_push {latin1 rest bytes out : List UInt8} {codepoint : UInt16}
    (hpush : (pushCodepoint latin1 codepoint >>= fun latin1 => encodeLatin1 latin1 rest) = .ok out)
    (hbytes : codepoint ≤ latin1CodepointMax → Latin1.utf8 codepoint.toUInt8 = bytes)
    (ih : ∀ latin1, encodeLatin1 latin1 rest = .ok out →
      latin1.length ≤ deviceNameWriteCharLimit →
      ∃ chars, out = latin1 ++ chars ∧ chars.flatMap Latin1.utf8 = rest ∧
        out.length ≤ deviceNameWriteCharLimit) :
    ∃ chars, out = latin1 ++ chars ∧ chars.flatMap Latin1.utf8 = bytes ++ rest ∧
      out.length ≤ deviceNameWriteCharLimit := by
  obtain ⟨pushed, hpushed, hrest⟩ := bind_eq_ok hpush
  obtain ⟨hmax, hlen, rfl⟩ := pushCodepoint_eq_ok hpushed
  obtain ⟨chars, hout, hchars, hle⟩ := ih _ hrest (by simp; omega)
  refine ⟨codepoint.toUInt8 :: chars, by simp [hout], ?_, hle⟩
  rw [List.flatMap_cons, hbytes hmax, hchars]

/-- The accepted characters are those of the name. -/
theorem encodeLatin1_eq_ok {latin1 name out : List UInt8} (h : encodeLatin1 latin1 name = .ok out)
    (hlen : latin1.length ≤ deviceNameWriteCharLimit) :
    ∃ chars, out = latin1 ++ chars ∧ chars.flatMap Latin1.utf8 = name ∧
      out.length ≤ deviceNameWriteCharLimit := by
  fun_induction encodeLatin1 latin1 name with
  | case1 latin1 =>
    obtain rfl := Except.ok.inj h
    exact ⟨[], by simp, rfl, hlen⟩
  | case2 latin1 byte rest hascii ih =>
    have hbyte : byte.toUInt16.toUInt8 = byte := by simp
    have hlt : byte < 0x80 := by
      rw [UInt8.lt_iff_toNat_lt]
      exact Nat.lt_succ_of_le (UInt8.le_iff_toNat_le.1 hascii)
    have hbytes : Latin1.utf8 byte.toUInt16.toUInt8 = [byte] := by
      rw [hbyte, Latin1.utf8_of_lt hlt]
    exact encodes_push h (fun _ => hbytes) ih
  | case6 latin1 byte _ htwo continuation rest hcontinuation codepoint hmin ih =>
    have hbytes (hmax : codepoint ≤ latin1CodepointMax) :
        Latin1.utf8 codepoint.toUInt8 = [byte, continuation] :=
      Latin1.utf8_codepoint htwo (not_not.1 hcontinuation) (UInt16.not_lt.1 hmin) hmax
    exact encodes_push h hbytes ih
  | case3 | case4 | case5 | case7 | case8 => cases h

/-- Both size tests ask for the same: behind the character there is room for a null. -/
theorem latin1ToUtf8From_cons (result : List UInt8) (byte : UInt8) (data : List UInt8) :
    latin1ToUtf8From result (byte :: data) =
      if result.length + (Latin1.utf8 byte).length < deviceNameBufferSize then
        latin1ToUtf8From (result ++ Latin1.utf8 byte) data
      else result := by
  rw [latin1ToUtf8From]
  by_cases hascii : byte < utf8SingleByteMax
  · have hutf8 : Latin1.utf8 byte = [byte] := Latin1.utf8_of_lt hascii
    rw [if_pos hascii, hutf8, List.length_singleton]
    split_ifs with hfull hfits hfits
    · omega
    · rfl
    · rfl
    · omega
  · have hutf8 : Latin1.utf8 byte = [utf8TwoByteLeadBase ||| (byte >>> 6),
        utf8ContinuationBase ||| (byte &&& utf8ContinuationMask)] := if_neg hascii
    rw [if_neg hascii, hutf8, List.length_cons, List.length_singleton]
    split_ifs with hfull hfits hfits
    · omega
    · rfl
    · rfl
    · omega

/-- The characters that leave room for a null are read. -/
theorem latin1ToUtf8From_eq {result : List UInt8} (h : result.length < deviceNameBufferSize)
    (data : List UInt8) :
    latin1ToUtf8From result data =
      result ++
        (Latin1.fitting (deviceNameBufferSize - 1 - result.length) data).flatMap Latin1.utf8 := by
  induction data generalizing result with
  | nil => exact (List.append_nil result).symm
  | cons byte data ih =>
    rw [latin1ToUtf8From_cons, Latin1.fitting]
    by_cases hfits : result.length + (Latin1.utf8 byte).length < deviceNameBufferSize
    · rw [if_pos hfits, if_pos (by omega), ih (by rwa [List.length_append]), List.length_append,
        List.flatMap_cons, List.append_assoc, Nat.sub_add_eq]
    · rw [if_neg hfits, if_neg (by omega), List.flatMap_nil, List.append_nil]

theorem latin1ToUtf8_eq_fitting (data : List UInt8) :
    latin1ToUtf8 data = (Latin1.fitting (deviceNameBufferSize - 1) data).flatMap Latin1.utf8 :=
  latin1ToUtf8From_eq (by decide) data

theorem decodeDeviceNamePayload_length_lt (data : List UInt8) :
    (decodeDeviceNamePayload data).length < deviceNameBufferSize := by
  unfold decodeDeviceNamePayload
  rw [latin1ToUtf8_eq_fitting]
  exact Nat.lt_of_le_pred (by decide) (Latin1.length_fitting_le _ _)

/-- Names of the write limit fit the read buffer. -/
theorem latin1ToUtf8_eq {data : List UInt8} (h : data.length ≤ deviceNameWriteCharLimit) :
    latin1ToUtf8 data = data.flatMap Latin1.utf8 := by
  have hfits : 2 * deviceNameWriteCharLimit ≤ deviceNameBufferSize - 1 := by decide
  have hsize := Latin1.flatMap_utf8_length_le data
  rw [latin1ToUtf8_eq_fitting, Latin1.fitting_eq_self (by omega)]

/-- A zeroed buffer into which a list is copied. -/
theorem toList_ofFn_getD {n : ℕ} {l : List UInt8} (h : l.length ≤ n) :
    (Vector.ofFn fun i : Fin n => l.getD i 0).toList = l ++ List.replicate (n - l.length) 0 := by
  apply List.ext_getElem
  · simp
    omega
  · intro i hi _
    rw [Vector.length_toList] at hi
    rw [Vector.getElem_toList, Vector.getElem_ofFn, List.getElem_append]
    split_ifs with hl
    · rw [List.getD_eq_getElem?_getD, List.getElem?_eq_getElem hl, Option.getD_some]
    · rw [List.getD_eq_getElem?_getD, List.getElem?_eq_none (Nat.le_of_not_lt hl),
        List.getElem_replicate]
      rfl

/-- One more byte behind the list in its buffer. -/
theorem ofFn_getD_push {n : ℕ} (l : List UInt8) (b : UInt8) :
    (Vector.ofFn fun i : Fin n => l.getD i 0).setIfInBounds l.length b =
      .ofFn fun i : Fin n => (l ++ [b]).getD i 0 := by
  apply Vector.ext
  intro i hi
  rw [Vector.getElem_setIfInBounds hi, Vector.getElem_ofFn, Vector.getElem_ofFn,
    List.getD_eq_getElem?_getD, List.getD_eq_getElem?_getD]
  rcases Nat.lt_trichotomy i l.length with hlt | rfl | hgt
  · rw [if_neg (Nat.ne_of_gt hlt), List.getElem?_append_left hlt]
  · simp
  · rw [if_neg (Nat.ne_of_lt hgt), List.getElem?_eq_none (Nat.le_of_lt hgt),
      List.getElem?_eq_none (by simpa using Nat.succ_le_of_lt hgt)]

/-- An accepted name is normalized to itself without the whitespace around it, and the payload is
its characters and nulls. -/
theorem encodeDeviceNamePayload_eq_ok {name normalized : List UInt8}
    {payload : Vector UInt8 deviceNameWritePayloadSize}
    (h : encodeDeviceNamePayload name = .ok (payload, normalized)) :
    ∃ chars, chars ≠ [] ∧ chars.length ≤ deviceNameWriteCharLimit ∧
      chars.flatMap Latin1.utf8 = trimAsciiWhitespace name ∧
      normalized = trimAsciiWhitespace name ∧
      payload.toList = chars ++ List.replicate (deviceNameWritePayloadSize - chars.length) 0 := by
  unfold encodeDeviceNamePayload at h
  dsimp only at h
  split_ifs at h with hempty
  obtain ⟨chars, hencode, hok⟩ := bind_eq_ok h
  obtain ⟨_, rfl, hchars, hlen⟩ := encodeLatin1_eq_ok hencode (Nat.zero_le _)
  obtain ⟨rfl, rfl⟩ := Prod.mk.inj (Except.ok.inj hok)
  have hsize : deviceNameWritePayloadSize = deviceNameWriteCharLimit + 1 := rfl
  refine ⟨_, ?_, hlen, hchars, ?_, toList_ofFn_getD (by omega)⟩
  · intro hnil
    rw [hnil] at hchars
    exact hempty hchars.symm
  · rw [latin1ToUtf8_eq hlen]
    exact hchars

/-! ## Reading it back -/

theorem getLast_trimAsciiWhitespace {name l : List UInt8} {c : UInt8}
    (h : trimAsciiWhitespace name = l ++ [c]) : isSpace c = false := by
  have hne : trimAsciiWhitespace name ≠ [] := by simp [h]
  have hlast := List.rdropWhile_last_not isSpace (name.dropWhile isSpace) hne
  have hc : (trimAsciiWhitespace name).getLast hne = c := by simp [h]
  unfold trimAsciiWhitespace at hc
  rw [hc] at hlast
  simpa using hlast

/-- Copied into the record and read up to the first null. -/
theorem cString_nameBuffer {name : List UInt8} (hlen : name.length < deviceNameBufferSize) :
    cString (nameBuffer name) = name.takeWhile (· != 0) := by
  have hbuffer : (nameBuffer name).toList =
      name ++ List.replicate (deviceNameBufferSize - name.length) 0 :=
    toList_ofFn_getD (Nat.le_of_lt hlen)
  rw [cString, hbuffer, List.takeWhile_append]
  split_ifs with hall
  · have hpad : (List.replicate (deviceNameBufferSize - name.length) (0 : UInt8)).takeWhile
        (· != 0) = [] := by
      cases deviceNameBufferSize - name.length <;> simp [List.replicate_succ]
    rw [hpad, List.append_nil]
    exact ((List.takeWhile_prefix _).eq_of_length hall).symm
  · rfl

theorem takeWhile_ne_zero_iff {name : List UInt8} :
    name.takeWhile (· != 0) = name ↔ 0 ∉ name := by
  rw [List.takeWhile_eq_self_iff]
  constructor
  · intro h hzero
    exact absurd (h 0 hzero) (by decide)
  · intro h c hc
    rw [bne_iff_ne]
    rintro rfl
    exact h hc

theorem zero_not_mem_cString (buffer : Vector UInt8 32) : 0 ∉ cString buffer := by
  intro h
  exact absurd (List.mem_takeWhile_imp h) (by decide)

/-- The padding behind the characters is dropped. -/
theorem rdropWhile_padding (chars : List UInt8) (k : ℕ) :
    (chars ++ List.replicate k 0).rdropWhile isNamePadding = chars.rdropWhile isNamePadding := by
  induction k with
  | zero => simp
  | succ k ih =>
    rw [List.replicate_succ', ← List.append_assoc, List.rdropWhile_concat_pos _ _ _ rfl, ih]

/-- The name begins, without the whitespace around it, with something above the blank, and there is
no null in it. -/
def ReadableName (name : List UInt8) : Prop :=
  (∃ first ∈ (trimAsciiWhitespace name).head?, namePaddingSpace < first) ∧
    namePaddingNul ∉ trimAsciiWhitespace name

/-- The first character is above the blank when its first byte is. -/
theorem head_utf8_iff (b : UInt8) (l : List UInt8) :
    (∃ first ∈ ((b :: l).flatMap Latin1.utf8).head?, namePaddingSpace < first) ↔
      namePaddingSpace < b := by
  have hspace : namePaddingSpace < 0x80 := by decide
  by_cases hb : b < 0x80
  · simp [Latin1.utf8_of_lt hb]
  · have hlead : 0x80 ≤ Latin1.leadByte b := by
      apply Latin1.le_of_mem_utf8 hb
      simp [Latin1.utf8, hb]
    have hlarge : ∀ c : UInt8, 0x80 ≤ c → namePaddingSpace < c := fun c hc =>
      UInt8.lt_of_lt_of_le hspace hc
    simp [Latin1.utf8, hb, hlarge _ hlead, hlarge b (UInt8.not_lt.1 hb)]

/-- What is read of a written name: its characters, or all but the first. -/
theorem decodeDeviceNamePayload_written (b : UInt8) (rest : List UInt8) (k : ℕ) :
    decodeDeviceNamePayload (b :: rest ++ List.replicate k 0) =
      latin1ToUtf8 ((if namePaddingSpace < b then b :: rest else rest).rdropWhile
        isNamePadding) := by
  show latin1ToUtf8 ((if namePaddingSpace < b then b :: (rest ++ List.replicate k 0)
    else rest ++ List.replicate k 0).rdropWhile isNamePadding) = _
  split_ifs
  · rw [← List.cons_append, rdropWhile_padding]
  · rw [rdropWhile_padding]

/-- Without nulls and without a blank at the end nothing is taken for padding. -/
theorem rdropWhile_chars {name chars : List UInt8}
    (hchars : chars.flatMap Latin1.utf8 = trimAsciiWhitespace name) (hnul : 0 ∉ chars) :
    chars.rdropWhile isNamePadding = chars := by
  rcases List.eq_nil_or_concat chars with rfl | ⟨l, c, rfl⟩
  · rfl
  · rw [List.concat_eq_append] at hchars hnul ⊢
    apply List.rdropWhile_concat_neg
    intro hpadding
    rw [isNamePadding, Bool.or_eq_true, beq_iff_eq, beq_iff_eq] at hpadding
    rcases hpadding with rfl | rfl
    · exact hnul (by simp [namePaddingNul])
    · rw [List.flatMap_append, List.flatMap_singleton, Latin1.utf8_of_lt (by decide)] at hchars
      exact absurd (getLast_trimAsciiWhitespace hchars.symm) (by decide)

/-- Without its first character the name is shorter. -/
theorem latin1ToUtf8_rest_length_lt {b : UInt8} {rest : List UInt8}
    (hlen : (b :: rest).length ≤ deviceNameWriteCharLimit) :
    (latin1ToUtf8 (rest.rdropWhile isNamePadding)).length <
      ((b :: rest).flatMap Latin1.utf8).length := by
  obtain ⟨dropped, hrest⟩ := List.rdropWhile_prefix isNamePadding rest
  have hkept : (rest.rdropWhile isNamePadding).length ≤ rest.length :=
    (List.rdropWhile_prefix isNamePadding rest).length_le
  have hfirst : 0 < (Latin1.utf8 b).length := by
    unfold Latin1.utf8
    split_ifs <;> simp
  rw [List.length_cons] at hlen
  rw [latin1ToUtf8_eq (by omega), List.flatMap_cons, List.length_append]
  conv_rhs => rw [← hrest, List.flatMap_append, List.length_append]
  omega

/-- A device that stores the written payload and returns it: its name in the record is the
normalized name exactly when the name is readable. -/
theorem name_reads_back_iff {name normalized : List UInt8}
    {payload : Vector UInt8 deviceNameWritePayloadSize}
    (h : encodeDeviceNamePayload name = .ok (payload, normalized)) (dev : IoDevice)
    {frame : IoFrame} (hframe : frame.payload = payload.toList) :
    cString (dev.applyNameResponse frame).name = normalized ↔ ReadableName name := by
  obtain ⟨chars, hne, hlen, hchars, rfl, hpayload⟩ := encodeDeviceNamePayload_eq_ok h
  obtain ⟨b, rest, rfl⟩ := List.exists_cons_of_ne_nil hne
  have hbuffer : 2 * deviceNameWriteCharLimit < deviceNameBufferSize := by decide
  have hsize := Latin1.flatMap_utf8_length_le (b :: rest)
  have hname : (dev.applyNameResponse frame).name = nameBuffer (latin1ToUtf8
      ((if namePaddingSpace < b then b :: rest else rest).rdropWhile isNamePadding)) := by
    unfold IoDevice.applyNameResponse
    dsimp only
    rw [hframe, hpayload, decodeDeviceNamePayload_written]
  have hzero : (0 : UInt8) < 0x80 := by decide
  rw [ReadableName, hname, ← hchars, head_utf8_iff, namePaddingNul, Latin1.mem_flatMap_utf8 hzero]
  constructor
  · intro heq
    have hnul : 0 ∉ (b :: rest).flatMap Latin1.utf8 := heq ▸ zero_not_mem_cString _
    rw [Latin1.mem_flatMap_utf8 hzero] at hnul
    refine ⟨?_, hnul⟩
    by_contra hb
    rw [if_neg hb] at heq
    have hshort := latin1ToUtf8_rest_length_lt hlen
    have hread := (List.takeWhile_prefix (· != 0)
      (l := latin1ToUtf8 (rest.rdropWhile isNamePadding))).length_le
    rw [← cString_nameBuffer (by omega), heq] at hread
    omega
  · rintro ⟨hb, hnul⟩
    rw [if_pos hb, rdropWhile_chars hchars hnul, latin1ToUtf8_eq hlen]
    rw [cString_nameBuffer (by omega), takeWhile_ne_zero_iff, Latin1.mem_flatMap_utf8 hzero]
    exact hnul

/-- The answer of a device that has stored a name. -/
def storedNameResponse (payload : Vector UInt8 deviceNameWritePayloadSize) : IoFrame :=
  { IoFrame.zero with
    cmd := cmdGetNameResp
    data := zeroFilled payload.toList
    dataLen := deviceNameWritePayloadSize }

def accentedName : List UInt8 := [0x4B, 0xC3, 0xBC, 0x63, 0x68, 0x65, 0x20]

def accentedPayload : Vector UInt8 deviceNameWritePayloadSize :=
  #v[0x4B, 0xFC, 0x63, 0x68, 0x65, 0, 0, 0, 0, 0, 0, 0, 0, 0, 0, 0]

/-- A name with a letter outside of ASCII and a blank behind it. -/
theorem accented_name_reads_back :
    cString (({} : IoDevice).applyNameResponse (storedNameResponse accentedPayload)).name =
      [0x4B, 0xC3, 0xBC, 0x63, 0x68, 0x65] :=
  have hencode : encodeDeviceNamePayload accentedName =
      .ok (accentedPayload, [0x4B, 0xC3, 0xBC, 0x63, 0x68, 0x65]) := rfl
  (name_reads_back_iff hencode {} (by decide)).2 ⟨⟨0x4B, by decide, by decide⟩, by decide⟩

def controlPayload : Vector UInt8 deviceNameWritePayloadSize :=
  #v[0x01, 0x41, 0, 0, 0, 0, 0, 0, 0, 0, 0, 0, 0, 0, 0, 0]

/-- The control character in front is taken for the extra byte of some devices. -/
theorem control_character_lost :
    encodeDeviceNamePayload [0x01, 0x41] = .ok (controlPayload, [0x01, 0x41]) ∧
      cString (({} : IoDevice).applyNameResponse (storedNameResponse controlPayload)).name ≠
        [0x01, 0x41] :=
  ⟨rfl, by decide⟩

end HomeIoControl
