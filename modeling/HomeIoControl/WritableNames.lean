import HomeIoControl.DeviceNames

namespace HomeIoControl

/-! ## Names in the caller's buffers -/

/-- What a call leaves behind: an error or none, the payload buffer and the normalized name. -/
structure EncodedName where
  error : Option DeviceNameValidationError
  payload : Vector UInt8 deviceNameWritePayloadSize
  normalizedName : List UInt8
  deriving DecidableEq

def storeCodepoint (payload : Vector UInt8 deviceNameWritePayloadSize) (latin1Len : ℕ)
    (codepoint : UInt16) :
    Except DeviceNameValidationError (Vector UInt8 deviceNameWritePayloadSize) :=
  if codepoint > latin1CodepointMax then .error .unsupportedChar
  else if deviceNameWriteCharLimit ≤ latin1Len then .error .tooLong
  else .ok (payload.setIfInBounds latin1Len codepoint.toUInt8)

/-- The loop over the trimmed name. An error keeps the characters that are stored before it. -/
def storeName (payload : Vector UInt8 deviceNameWritePayloadSize) (latin1Len : ℕ) :
    List UInt8 → Option DeviceNameValidationError × Vector UInt8 deviceNameWritePayloadSize × ℕ
  | [] => (none, payload, latin1Len)
  | byte :: rest =>
    if byte ≤ asciiMax then
      match storeCodepoint payload latin1Len byte.toUInt16 with
      | .error e => (some e, payload, latin1Len)
      | .ok payload => storeName payload (latin1Len + 1) rest
    else if byte &&& utf8TwoByteMask = utf8TwoBytePrefix then
      match rest with
      | [] => (some .invalidUtf8, payload, latin1Len)
      | continuation :: rest =>
        if continuation &&& utf8ContinuationPrefixMask ≠ utf8ContinuationPrefix then
          (some .invalidUtf8, payload, latin1Len)
        else if Latin1.codepoint byte continuation < utf8SingleByteMax.toUInt16 then
          (some .invalidUtf8, payload, latin1Len)
        else
          match storeCodepoint payload latin1Len (Latin1.codepoint byte continuation) with
          | .error e => (some e, payload, latin1Len)
          | .ok payload => storeName payload (latin1Len + 1) rest
    else if byte &&& utf8ThreeByteMask = utf8ThreeBytePrefix ∨
        byte &&& utf8FourByteMask = utf8FourBytePrefix then
      (some .unsupportedChar, payload, latin1Len)
    else (some .invalidUtf8, payload, latin1Len)

/-- Both buffers are cleared first, and the name is set when there is no error. -/
def encodeDeviceNameInto (name : List UInt8) : EncodedName :=
  let payload := Vector.replicate deviceNameWritePayloadSize 0
  let trimmedName := trimAsciiWhitespace name
  if trimmedName = [] then { error := some .empty, payload, normalizedName := [] }
  else
    match storeName payload 0 trimmedName with
    | (some e, payload, _) => { error := some e, payload, normalizedName := [] }
    | (none, payload, latin1Len) =>
      { error := none, payload
        normalizedName := latin1ToUtf8 (payload.toList.take latin1Len) }

def latin1Payload (latin1 : List UInt8) : Vector UInt8 deviceNameWritePayloadSize :=
  .ofFn fun i => latin1.getD i 0

theorem latin1Payload_push (latin1 : List UInt8) (b : UInt8) :
    (latin1Payload latin1).setIfInBounds latin1.length b = latin1Payload (latin1 ++ [b]) :=
  ofFn_getD_push latin1 b

theorem storeCodepoint_eq {latin1 : List UInt8} {codepoint : UInt16} :
    storeCodepoint (latin1Payload latin1) latin1.length codepoint =
      (pushCodepoint latin1 codepoint).map latin1Payload := by
  unfold storeCodepoint pushCodepoint
  split_ifs with hmax hlen
  · rfl
  · rfl
  · rw [latin1Payload_push]
    rfl

/-- The buffer holds the characters that the list collects, or both are refused alike. -/
def Stores (encoded : Except DeviceNameValidationError (List UInt8))
    (stored : Option DeviceNameValidationError × Vector UInt8 deviceNameWritePayloadSize × ℕ) :
    Prop :=
  match encoded with
  | .ok out => stored = (none, latin1Payload out, out.length)
  | .error e => stored.1 = some e

theorem Stores.push {latin1 rest : List UInt8} {codepoint : UInt16}
    (ih : ∀ latin1, Stores (encodeLatin1 latin1 rest)
      (storeName (latin1Payload latin1) latin1.length rest)) :
    Stores (pushCodepoint latin1 codepoint >>= fun latin1 => encodeLatin1 latin1 rest)
      (match storeCodepoint (latin1Payload latin1) latin1.length codepoint with
      | .error e => (some e, latin1Payload latin1, latin1.length)
      | .ok payload => storeName payload (latin1.length + 1) rest) := by
  rw [storeCodepoint_eq]
  cases hpush : pushCodepoint latin1 codepoint with
  | error e => rfl
  | ok out =>
    obtain ⟨-, -, rfl⟩ := pushCodepoint_eq_ok hpush
    have hrest := ih (latin1 ++ [codepoint.toUInt8])
    rw [List.length_append, List.length_singleton] at hrest
    exact hrest

theorem storeName_stores (latin1 name : List UInt8) :
    Stores (encodeLatin1 latin1 name) (storeName (latin1Payload latin1) latin1.length name) := by
  fun_induction encodeLatin1 latin1 name with
  | case1 => rfl
  | case2 latin1 byte rest hascii ih =>
    rw [storeName.eq_def]
    dsimp only
    rw [if_pos hascii]
    exact Stores.push ih
  | case3 latin1 byte hascii htwo =>
    rw [storeName, if_neg hascii, if_pos htwo]
    rfl
  | case4 latin1 byte hascii htwo continuation rest hcontinuation =>
    rw [storeName, if_neg hascii, if_pos htwo, if_pos hcontinuation]
    rfl
  | case5 latin1 byte hascii htwo continuation rest hcontinuation codepoint hmin =>
    rw [storeName, if_neg hascii, if_pos htwo, if_neg hcontinuation, if_pos hmin]
    rfl
  | case6 latin1 byte hascii htwo continuation rest hcontinuation codepoint hmin ih =>
    rw [storeName, if_neg hascii, if_pos htwo, if_neg hcontinuation, if_neg hmin]
    exact Stores.push ih
  | case7 latin1 byte rest hascii htwo hlong =>
    rw [storeName.eq_def]
    dsimp only
    rw [if_neg hascii, if_neg htwo, if_pos hlong]
    rfl
  | case8 latin1 byte rest hascii htwo hlong =>
    rw [storeName.eq_def]
    dsimp only
    rw [if_neg hascii, if_neg htwo, if_neg hlong]
    rfl

theorem latin1Payload_take {latin1 : List UInt8}
    (h : latin1.length ≤ deviceNameWriteCharLimit) :
    (latin1Payload latin1).toList.take latin1.length = latin1 := by
  have hsize : deviceNameWritePayloadSize = deviceNameWriteCharLimit + 1 := rfl
  rw [latin1Payload, toList_ofFn_getD (by omega), List.take_left' rfl]

theorem encodeDeviceNameInto_eq (name : List UInt8) :
    match encodeDeviceNamePayload name with
    | .ok (payload, normalized) => encodeDeviceNameInto name =
        { error := none, payload, normalizedName := normalized }
    | .error e => (encodeDeviceNameInto name).error = some e ∧
        (encodeDeviceNameInto name).normalizedName = [] := by
  have hempty : Vector.replicate deviceNameWritePayloadSize 0 = latin1Payload [] := by decide
  have hstores := storeName_stores [] (trimAsciiWhitespace name)
  unfold encodeDeviceNamePayload encodeDeviceNameInto
  rw [hempty]
  dsimp only
  by_cases htrimmed : trimAsciiWhitespace name = []
  · rw [if_pos htrimmed, if_pos htrimmed]
    exact ⟨rfl, rfl⟩
  rw [if_neg htrimmed, if_neg htrimmed]
  cases hencode : encodeLatin1 [] (trimAsciiWhitespace name) with
  | ok out =>
    obtain ⟨_, rfl, -, hlen⟩ := encodeLatin1_eq_ok hencode (Nat.zero_le _)
    rw [hencode] at hstores
    have hstored : storeName (latin1Payload []) 0 (trimAsciiWhitespace name) = _ := hstores
    rw [hstored]
    change EncodedName.mk none (latin1Payload out)
      (latin1ToUtf8 ((latin1Payload out).toList.take out.length)) = _
    rw [latin1Payload_take hlen]
    rfl
  | error e =>
    rw [hencode] at hstores
    have hstored : (storeName (latin1Payload []) 0 (trimAsciiWhitespace name)).1 = some e :=
      hstores
    cases hresult : storeName (latin1Payload []) 0 (trimAsciiWhitespace name) with
    | mk error rest =>
      rw [hresult] at hstored
      obtain rfl : error = some e := hstored
      exact ⟨rfl, rfl⟩

/-! ## Which names are accepted -/

structure IsTrimmed (value trimmed : List UInt8) : Prop where
  split : ∃ before after, value = before ++ trimmed ++ after ∧
    ∀ c ∈ before ++ after, isSpace c = true
  head : ∀ c ∈ trimmed.head?, isSpace c = false
  last : ∀ c ∈ trimmed.getLast?, isSpace c = false

theorem isTrimmed_trimAsciiWhitespace (value : List UInt8) :
    IsTrimmed value (trimAsciiWhitespace value) where
  split := by
    refine ⟨value.takeWhile isSpace, (value.dropWhile isSpace).rtakeWhile isSpace, ?_, ?_⟩
    · rw [trimAsciiWhitespace, List.append_assoc, List.rdropWhile_append_rtakeWhile,
        List.takeWhile_append_dropWhile]
    · intro c hc
      rcases List.mem_append.1 hc with hbefore | hafter
      · exact List.mem_takeWhile_imp hbefore
      · exact List.mem_rtakeWhile_imp hafter
  head := by
    intro c hc
    obtain ⟨l, hl⟩ := List.head?_eq_some_iff.1 hc
    obtain ⟨tail, htail⟩ := List.rdropWhile_prefix isSpace (value.dropWhile isSpace)
    have hdrop : value.dropWhile isSpace = c :: (l ++ tail) := by
      rw [← htail, ← List.cons_append, ← hl]
      rfl
    have hhead := List.head?_dropWhile_not isSpace value
    rw [hdrop] at hhead
    exact hhead
  last := by
    intro c hc
    obtain ⟨l, hl⟩ := List.getLast?_eq_some_iff.1 hc
    exact getLast_trimAsciiWhitespace hl

/-- Characters that a device can store. -/
structure IsWritable (chars : List Char) : Prop where
  length_pos : 1 ≤ chars.length
  length_le : chars.length ≤ 15
  le_max : ∀ c ∈ chars, c.toNat ≤ 0xFF

/-- The characters spell out a byte string in UTF-8. -/
def Spells (chars : List Char) (bytes : List UInt8) : Prop :=
  chars.flatMap String.utf8EncodeChar = bytes

def latin1Byte (c : Char) : UInt8 := UInt8.ofNat c.toNat

/-- Characters of Latin-1 are spelled as the device's characters. -/
theorem spells_iff {chars : List Char} (h : ∀ c ∈ chars, c.toNat ≤ 0xFF) (bytes : List UInt8) :
    Spells chars bytes ↔ (chars.map latin1Byte).flatMap Latin1.utf8 = bytes := by
  rw [Spells, List.flatMap_map]
  have hbytes : chars.flatMap String.utf8EncodeChar =
      chars.flatMap fun c => Latin1.utf8 (latin1Byte c) :=
    List.flatMap_congr fun c hc => Latin1.utf8EncodeChar_eq (h c hc)
  rw [hbytes]

def latin1Chars (bytes : List UInt8) : List Char := bytes.map Char.ofUInt8

theorem latin1Byte_ofUInt8 (b : UInt8) : latin1Byte (Char.ofUInt8 b) = b := UInt8.ofNat_toNat

@[simp] theorem map_latin1Byte_latin1Chars (bytes : List UInt8) :
    (latin1Chars bytes).map latin1Byte = bytes := by
  have hid : latin1Byte ∘ Char.ofUInt8 = id := funext latin1Byte_ofUInt8
  rw [latin1Chars, List.map_map, hid, List.map_id]

theorem latin1Chars_le_max (bytes : List UInt8) : ∀ c ∈ latin1Chars bytes, c.toNat ≤ 0xFF := by
  intro c hc
  obtain ⟨b, -, rfl⟩ := List.mem_map.1 hc
  exact Nat.le_of_lt_succ b.toNat_lt

theorem spells_latin1Chars (bytes : List UInt8) :
    Spells (latin1Chars bytes) (bytes.flatMap Latin1.utf8) := by
  rw [spells_iff (latin1Chars_le_max bytes), map_latin1Byte_latin1Chars]

theorem pushCodepoint_byte {latin1 : List UInt8}
    (h : latin1.length < deviceNameWriteCharLimit) (b : UInt8) :
    pushCodepoint latin1 b.toUInt16 = .ok (latin1 ++ [b]) := by
  have hmax : ¬b.toUInt16 > latin1CodepointMax := by
    rw [gt_iff_lt, UInt16.lt_iff_toNat_lt, UInt8.toNat_toUInt16]
    exact Nat.not_lt.2 (Nat.le_of_lt_succ b.toNat_lt)
  rw [pushCodepoint, if_neg hmax, if_neg (Nat.not_le.2 h), UInt8.toUInt8_toUInt16]

/-- One character of Latin-1 is read and stored while there is room. -/
theorem encodeLatin1_utf8_append {latin1 : List UInt8}
    (h : latin1.length < deviceNameWriteCharLimit) (b : UInt8) (rest : List UInt8) :
    encodeLatin1 latin1 (Latin1.utf8 b ++ rest) = encodeLatin1 (latin1 ++ [b]) rest := by
  have hpush := pushCodepoint_byte h b
  by_cases hascii : b < 0x80
  · have hmax : b ≤ asciiMax := by
      rw [UInt8.le_iff_toNat_le]
      exact Nat.le_of_lt_succ (UInt8.lt_iff_toNat_lt.1 hascii)
    rw [Latin1.utf8_of_lt hascii, List.singleton_append, encodeLatin1.eq_def]
    dsimp only
    rw [if_pos hmax, hpush]
    rfl
  · have hlead : ¬Latin1.leadByte b ≤ asciiMax := by
      rw [UInt8.le_iff_toNat_le, Latin1.leadByte_toNat]
      change ¬192 + b.toNat / 64 ≤ 127
      omega
    have htwo : Latin1.leadByte b &&& utf8TwoByteMask = utf8TwoBytePrefix :=
      Latin1.leadByte_and_mask b
    have hcontinuation : Latin1.continuationByte b &&& utf8ContinuationPrefixMask =
        utf8ContinuationPrefix := Latin1.continuationByte_and_mask b
    have hmin : ¬b.toUInt16 < utf8SingleByteMax.toUInt16 := by
      rw [UInt16.lt_iff_toNat_lt, UInt8.toNat_toUInt16, UInt8.toNat_toUInt16,
        ← UInt8.lt_iff_toNat_lt]
      exact hascii
    rw [Latin1.utf8, if_neg hascii, List.cons_append, List.singleton_append, encodeLatin1,
      if_neg hlead, if_pos htwo, if_neg (not_not.2 hcontinuation), Latin1.codepoint_bytes]
    dsimp only
    rw [if_neg hmin, hpush]
    rfl

/-- The loop accepts every character of Latin-1 while there is room. -/
theorem encodeLatin1_flatMap (latin1 chars : List UInt8)
    (h : latin1.length + chars.length ≤ deviceNameWriteCharLimit) :
    encodeLatin1 latin1 (chars.flatMap Latin1.utf8) = .ok (latin1 ++ chars) := by
  induction chars generalizing latin1 with
  | nil => simp [encodeLatin1]
  | cons b chars ih =>
    rw [List.length_cons] at h
    rw [List.flatMap_cons, encodeLatin1_utf8_append (by omega), ih _ (by simp; omega),
      List.append_assoc, List.singleton_append]

theorem encodeDeviceNameInto_of_spells {name : List UInt8} {chars : List Char}
    (h : IsWritable chars) (hspells : Spells chars (trimAsciiWhitespace name)) :
    encodeDeviceNameInto name =
      { error := none, payload := latin1Payload (chars.map latin1Byte)
        normalizedName := trimAsciiWhitespace name } := by
  have hbytes := (spells_iff h.le_max _).1 hspells
  have hlen : (chars.map latin1Byte).length ≤ deviceNameWriteCharLimit := by
    rw [List.length_map]
    exact h.length_le
  have hne : trimAsciiWhitespace name ≠ [] := by
    intro hnil
    rw [hnil, Spells, List.flatMap_eq_nil_iff] at hspells
    obtain ⟨c, hc⟩ := List.exists_mem_of_length_pos h.length_pos
    exact String.utf8EncodeChar_ne_nil (hspells c hc)
  have hencode := encodeLatin1_flatMap [] (chars.map latin1Byte) (by simpa using hlen)
  rw [hbytes, List.nil_append] at hencode
  have hinto := encodeDeviceNameInto_eq name
  unfold encodeDeviceNamePayload at hinto
  dsimp only at hinto
  rw [if_neg hne, hencode] at hinto
  rw [← hbytes, ← latin1ToUtf8_eq hlen]
  exact hinto

/-- An accepted name spells out writable characters. -/
theorem exists_isWritable {name : List UInt8} (h : (encodeDeviceNameInto name).error = none) :
    ∃ chars, IsWritable chars ∧ Spells chars (trimAsciiWhitespace name) := by
  have hinto := encodeDeviceNameInto_eq name
  cases hencode : encodeDeviceNamePayload name with
  | error e =>
    rw [hencode] at hinto
    rw [hinto.1] at h
    cases h
  | ok encoded =>
    obtain ⟨chars, hne, hlen, hchars, -, -⟩ := encodeDeviceNamePayload_eq_ok hencode
    have hwritable : IsWritable (latin1Chars chars) := by
      refine ⟨?_, ?_, latin1Chars_le_max chars⟩
      · rw [latin1Chars, List.length_map]
        exact List.length_pos_of_ne_nil hne
      · rw [latin1Chars, List.length_map]
        exact hlen
    refine ⟨latin1Chars chars, hwritable, ?_⟩
    rw [← hchars]
    exact spells_latin1Chars chars

/-- Exactly the names are accepted that are, without the whitespace around them, UTF-8 of one to
fifteen characters up to U+00FF. They are written as these characters. -/
theorem encodeDeviceNameInto_accepts (name : List UInt8) :
    IsTrimmed name (trimAsciiWhitespace name) ∧
      ((encodeDeviceNameInto name).error = none ↔
        ∃ chars, IsWritable chars ∧ Spells chars (trimAsciiWhitespace name)) ∧
      (∀ chars, IsWritable chars → Spells chars (trimAsciiWhitespace name) →
        (encodeDeviceNameInto name).payload.toList =
          chars.map latin1Byte ++ List.replicate (16 - chars.length) 0 ∧
        (encodeDeviceNameInto name).normalizedName = trimAsciiWhitespace name) ∧
      ((encodeDeviceNameInto name).error ≠ none →
        (encodeDeviceNameInto name).normalizedName = []) := by
  refine ⟨isTrimmed_trimAsciiWhitespace name, ⟨exists_isWritable, ?_⟩, ?_, ?_⟩
  · rintro ⟨chars, hwritable, hspells⟩
    rw [encodeDeviceNameInto_of_spells hwritable hspells]
  · intro chars hwritable hspells
    have hlen := hwritable.length_le
    rw [encodeDeviceNameInto_of_spells hwritable hspells]
    refine ⟨?_, rfl⟩
    have hpayload : (chars.map latin1Byte).length ≤ deviceNameWritePayloadSize := by
      rw [List.length_map]
      exact Nat.le_succ_of_le hlen
    have hlist := toList_ofFn_getD hpayload
    rw [List.length_map] at hlist
    exact hlist
  · intro herror
    have hinto := encodeDeviceNameInto_eq name
    cases hencode : encodeDeviceNamePayload name with
    | error e =>
      rw [hencode] at hinto
      exact hinto.2
    | ok encoded =>
      rw [hencode] at hinto
      exact absurd (congrArg EncodedName.error hinto) herror

end HomeIoControl
