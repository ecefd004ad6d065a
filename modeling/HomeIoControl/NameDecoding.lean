import HomeIoControl.WritableNames

namespace HomeIoControl

/-! ## Where a name is cut -/

/-- The characters that a name response holds, without what is not part of the name. -/
def strippedName (data : List UInt8) : List UInt8 :=
  let name :=
    match data with
    | [] => []
    | first :: rest => if first > namePaddingSpace then data else rest
  name.rdropWhile isNamePadding

theorem decodeDeviceNamePayload_eq (data : List UInt8) :
    decodeDeviceNamePayload data = latin1ToUtf8 (strippedName data) := rfl

/-- The name is spelled by the first characters, and there was no room for the next one. -/
structure IsCutName (stripped : List UInt8) (chars : List Char) (name : List UInt8) : Prop where
  spells : Spells chars name
  le_max : ∀ c ∈ chars, c.toNat ≤ 0xFF
  exists_rest : ∃ rest, chars.map latin1Byte ++ rest = stripped
  length_lt : name.length < deviceNameBufferSize
  next_too_long : ∀ next rest, next.toNat ≤ 0xFF →
    (chars ++ [next]).map latin1Byte ++ rest = stripped →
    deviceNameBufferSize ≤ (name ++ String.utf8EncodeChar next).length

theorem map_latin1Byte_snoc (bytes : List UInt8) (next : Char) :
    (latin1Chars bytes ++ [next]).map latin1Byte = bytes ++ [latin1Byte next] := by
  rw [List.map_append, map_latin1Byte_latin1Chars, List.map_singleton]

/-- The decoded name is cut where the next character would leave no room for a null. -/
theorem isCutName_decode (data : List UInt8) :
    IsCutName (strippedName data)
      (latin1Chars (Latin1.fitting (deviceNameBufferSize - 1) (strippedName data)))
      (decodeDeviceNamePayload data) := by
  have hname := latin1ToUtf8_eq_fitting (strippedName data)
  refine
    { spells := ?_
      le_max := latin1Chars_le_max _
      exists_rest := ?_
      length_lt := decodeDeviceNamePayload_length_lt data
      next_too_long := ?_ }
  · rw [decodeDeviceNamePayload_eq, hname]
    exact spells_latin1Chars _
  · rw [map_latin1Byte_latin1Chars]
    exact Latin1.exists_fitting_append _ _
  · intro next rest hmax hstripped
    rw [map_latin1Byte_snoc, List.append_assoc, List.singleton_append] at hstripped
    rw [decodeDeviceNamePayload_eq, hname, Latin1.utf8EncodeChar_eq hmax]
    exact Nat.le_of_pred_lt (Latin1.lt_length_next hstripped)

/-! ## The name in the record -/

namespace Indexed

/-- A byte past the end of the buffer has no place. -/
def memcpy (buffer : Vector UInt8 32) (start : ℕ) : List UInt8 → Option (Vector UInt8 32)
  | [] => some buffer
  | byte :: src =>
    if start < deviceNameBufferSize then memcpy (buffer.setIfInBounds start byte) (start + 1) src
    else none

/-- The record's name is cleared first, and an empty name is not copied. -/
def applyNameResponse (dev : IoDevice) (frame : IoFrame) : Option IoDevice := do
  let decoded := decodeDeviceNamePayload frame.payload
  let cleared := Vector.replicate 32 0
  let name ← if decoded.isEmpty then some cleared else memcpy cleared 0 decoded
  return { dev with name }

/-- Behind what the buffer holds the bytes are stored one after the other. -/
theorem memcpy_nameBuffer (stored src : List UInt8)
    (hfits : stored.length + src.length ≤ deviceNameBufferSize) :
    memcpy (nameBuffer stored) stored.length src = some (nameBuffer (stored ++ src)) := by
  induction src generalizing stored with
  | nil => rw [memcpy, List.append_nil]
  | cons byte src ih =>
    have hpush : (nameBuffer stored).setIfInBounds stored.length byte =
        nameBuffer (stored ++ [byte]) := ofFn_getD_push stored byte
    have hlength : (stored ++ [byte]).length = stored.length + 1 := List.length_append
    rw [List.length_cons] at hfits
    rw [memcpy, if_pos (by omega), hpush, ← hlength, ih _ (by omega), List.append_assoc,
      List.singleton_append]

theorem nameBuffer_nil : nameBuffer [] = Vector.replicate 32 0 := by decide

theorem applyNameResponse_eq (dev : IoDevice) (frame : IoFrame) :
    applyNameResponse dev frame = some (dev.applyNameResponse frame) := by
  have hlength := decodeDeviceNamePayload_length_lt frame.payload
  unfold applyNameResponse IoDevice.applyNameResponse
  generalize decodeDeviceNamePayload frame.payload = decoded at hlength
  have hcopy := memcpy_nameBuffer [] decoded (by simpa using Nat.le_of_lt hlength)
  rw [nameBuffer_nil, List.length_nil, List.nil_append] at hcopy
  dsimp only
  rw [hcopy]
  cases decoded with
  | nil =>
    rw [nameBuffer_nil]
    rfl
  | cons b l => rfl

end Indexed

theorem toList_name_applyNameResponse (dev : IoDevice) (frame : IoFrame) :
    (dev.applyNameResponse frame).name.toList =
      decodeDeviceNamePayload frame.payload ++
        List.replicate (deviceNameBufferSize - (decodeDeviceNamePayload frame.payload).length) 0 :=
  toList_ofFn_getD (Nat.le_of_lt (decodeDeviceNamePayload_length_lt frame.payload))

/-- A name is cut before the character that would not fit, and stays within the record. -/
theorem decodeDeviceNamePayload_cut :
    (∀ data, ∃ chars, IsCutName (strippedName data) chars (decodeDeviceNamePayload data)) ∧
      ∀ (dev : IoDevice) (frame : IoFrame),
        Indexed.applyNameResponse dev frame = some (dev.applyNameResponse frame) ∧
          0 ∈ (dev.applyNameResponse frame).name.toList := by
  refine ⟨fun data => ⟨_, isCutName_decode data⟩, fun dev frame => ?_⟩
  refine ⟨Indexed.applyNameResponse_eq dev frame, ?_⟩
  have hlength := decodeDeviceNamePayload_length_lt frame.payload
  rw [toList_name_applyNameResponse]
  apply List.mem_append_right
  rw [List.mem_replicate]
  exact ⟨by omega, rfl⟩

end HomeIoControl
