import HomeIoControl.Commands

namespace HomeIoControl

/-! ## Frames on indices

The same functions as they address their buffers, with every check of a bound. An access outside of
a buffer has no result. -/

namespace Indexed

def slice (buf : List UInt8) (start len : ℕ) : Option (List UInt8) :=
  if start + len ≤ buf.length then some ((buf.drop start).take len) else none

def nodeIdAt (buf : List UInt8) (offset : ℕ) : Option NodeId :=
  if offset + 3 ≤ buf.length then
    some #v[buf.getD offset 0, buf.getD (offset + 1) 0, buf.getD (offset + 2) 0]
  else none

def parse (buf : List UInt8) : Option (Option IoFrame) := do
  if buf.length < frameMinSize then return none
  let ctrl0 ← buf[0]?
  let ctrl1 ← buf[1]?
  let f := { IoFrame.zero with ctrl0, ctrl1 }
  let len := f.frameLength
  if len < frameMinSize ∨ len > frameMaxSize then return none
  if buf.length ≠ len then return none
  if 2 + 3 > buf.length then return none
  let dst ← nodeIdAt buf 2
  if 5 + 3 > buf.length then return none
  let src ← nodeIdAt buf 5
  if 8 ≥ buf.length then return none
  let cmd ← buf[8]?
  let dataLen := len - frameMinSize
  if dataLen > frameMaxDataSize then return none
  if 9 + dataLen > buf.length then return none
  let data ← slice buf 9 dataLen
  return some { f with dst, src, cmd, data := zeroFilled data, dataLen }

/-- Without parameters nothing is copied. -/
def copiedParams (params : Option (List UInt8)) (paramsLen : ℕ) : Option (List UInt8) :=
  match params with
  | none => some []
  | some params => slice params 0 paramsLen

def setCmd (f : IoFrame) (cmd : UInt8) (params : Option (List UInt8)) (paramsLen : ℕ) :
    Option (Option IoFrame) := do
  if paramsLen > frameMaxDataSize then return none
  let copied ← copiedParams params paramsLen
  let total := frameMinSize + paramsLen
  if total > frameMaxSize then return none
  return some { f with
    cmd
    dataLen := paramsLen
    data := .ofFn fun i => copied.getD i (f.byte i)
    ctrl0 := (f.ctrl0 &&& ~~~ctrl0LengthMask) ||| (UInt8.ofNat (total - 1) &&& ctrl0LengthMask) }

theorem getElem?_eq_getD {α : Type} {buf : List α} {offset : ℕ} (h : offset < buf.length)
    (default : α) : buf[offset]? = some (buf.getD offset default) := by
  rw [List.getD_eq_getElem?_getD, List.getElem?_eq_getElem h, Option.getD_some]

/-- Once the announced length is that of the buffer, the checks of single bounds never fail. -/
theorem parse_eq (buf : List UInt8) : parse buf = some (HomeIoControl.parse buf) := by
  have hmax := frameLength_le (readFrame buf)
  unfold parse HomeIoControl.parse
  by_cases hmin : buf.length < frameMinSize
  · rw [if_pos hmin, if_pos hmin]
    rfl
  have hlong : 9 ≤ buf.length := Nat.le_of_not_lt hmin
  have hget (offset : ℕ) (h : offset < 9) : buf[offset]? = some (buf.getD offset 0) :=
    getElem?_eq_getD (by omega) 0
  have hctrl : IoFrame.frameLength { IoFrame.zero with
      ctrl0 := buf.getD 0 0, ctrl1 := buf.getD 1 0 } = (readFrame buf).frameLength := rfl
  rw [if_neg hmin, if_neg hmin, hget 0 (by decide), hget 1 (by decide)]
  simp only [Option.bind_eq_bind, Option.bind_some, hctrl]
  by_cases hbounds : (readFrame buf).frameLength < frameMinSize ∨
      (readFrame buf).frameLength > frameMaxSize
  · rw [if_pos hbounds, if_pos hbounds]
    rfl
  rw [if_neg hbounds, if_neg hbounds]
  by_cases hlen : buf.length ≠ (readFrame buf).frameLength
  · rw [if_pos hlen, if_pos hlen]
    rfl
  rw [if_neg hlen, if_neg hlen]
  rw [not_ne_iff] at hlen
  have hdata : slice buf 9 ((readFrame buf).frameLength - frameMinSize) =
      some (buf.drop frameMinSize) := by
    unfold frameMinSize
    rw [slice, if_pos (by omega), ← hlen, List.take_of_length_le (by simp)]
  have hroom : ¬(readFrame buf).frameLength - frameMinSize > frameMaxDataSize := by
    unfold frameMinSize frameMaxDataSize frameMaxSize at *
    omega
  have hspace : ¬9 + ((readFrame buf).frameLength - frameMinSize) > buf.length := by
    unfold frameMinSize
    omega
  have hnode (offset : ℕ) (h : offset + 2 < 9) : nodeIdAt buf offset =
      some #v[buf.getD offset 0, buf.getD (offset + 1) 0, buf.getD (offset + 2) 0] :=
    if_pos (by omega)
  rw [if_neg (by omega), hnode 2 (by decide), Option.bind_some, if_neg (by omega),
    hnode 5 (by decide), Option.bind_some, if_neg (by omega), hget 8 (by decide),
    Option.bind_some, if_neg hroom, if_neg hspace, hdata, Option.bind_some, ← hlen]
  rfl

/-- The parameters of a caller that passes their length with them. -/
theorem setCmd_eq (f : IoFrame) (cmd : UInt8) (params : List UInt8) :
    setCmd f cmd (some params) params.length = some (HomeIoControl.setCmd f cmd params) := by
  unfold setCmd HomeIoControl.setCmd
  by_cases hlen : params.length > frameMaxDataSize
  · rw [if_pos hlen, if_pos hlen]
    rfl
  · have hcopied : copiedParams (some params) params.length = some params := by
      simp [copiedParams, slice]
    have htotal : ¬frameMinSize + params.length > frameMaxSize := by
      unfold frameMinSize frameMaxSize frameMaxDataSize at *
      omega
    have hdata : (Vector.ofFn fun i : Fin 23 => params.getD i (f.byte i)) =
        .ofFn fun i : Fin 23 => params.getD i f.data[i] := by
      congr 1
      funext i
      rw [IoFrame.byte, Vector.getElem?_eq_getElem i.isLt, Option.getD_some]
      rfl
    rw [if_neg hlen, if_neg hlen]
    simp only [hcopied, Option.bind_eq_bind, Option.bind_some, if_neg htotal, hdata]
    rfl

/-- A successful call makes the announced length that of the payload. -/
theorem serialize_of_setCmd {f g : IoFrame} {cmd : UInt8} {params : Option (List UInt8)}
    {paramsLen : ℕ} (h : setCmd f cmd params paramsLen = some (some g)) :
    serialize g frameMaxSize = some (g.header ++ g.payload) := by
  unfold setCmd at h
  by_cases hlen : paramsLen > frameMaxDataSize
  · rw [if_pos hlen] at h
    cases h
  have htotal : ¬frameMinSize + paramsLen > frameMaxSize := by
    unfold frameMinSize frameMaxSize frameMaxDataSize at *
    omega
  rw [if_neg hlen] at h
  simp only [if_neg htotal] at h
  cases hcopied : copiedParams params paramsLen with
  | none =>
    rw [hcopied] at h
    cases h
  | some copied =>
  rw [hcopied] at h
  obtain rfl := Option.some.inj (Option.some.inj h)
  apply serialize_eq_some
  · simp only [IoFrame.frameLength, setLength_and_mask]
    rw [ofNat_and_mask (by unfold frameMinSize frameMaxSize at *; omega)]
    unfold frameMinSize
    omega
  · exact Nat.le_of_not_gt hlen

end Indexed

/-! ## Parsing and serializing -/

theorem header_readFrame {buf : List UInt8} (h : frameMinSize ≤ buf.length) :
    (readFrame buf).header = buf.take frameMinSize := by
  match buf, h with
  | _ :: _ :: _ :: _ :: _ :: _ :: _ :: _ :: _ :: _, _ => rfl

/-- A buffer that is accepted is what its frame is serialized to. -/
theorem serialize_of_parse {buf : List UInt8} {f : IoFrame} {n : ℕ} (h : parse buf = some f)
    (hn : buf.length ≤ n) : serialize f n = some buf := by
  obtain ⟨hmin, hannounced, rfl⟩ := (parse_eq_some_iff buf f).1 h
  have hmax := frameLength_le (readFrame buf)
  have hlength : (readFrame buf).frameLength = buf.length := hannounced.symm
  have hdata : (readFrame buf).dataLen = buf.length - frameMinSize := rfl
  have hpayload : (readFrame buf).payload = buf.drop frameMinSize := by
    have hshort : (buf.drop frameMinSize).length ≤ frameMaxDataSize := by
      rw [List.length_drop]
      unfold frameMinSize frameMaxDataSize frameMaxSize at *
      omega
    have htake := zeroFilled_take hshort
    rw [List.length_drop] at htake
    exact htake
  rw [hlength] at hmax
  unfold serialize
  dsimp only
  rw [hlength, hdata, hpayload, header_readFrame hmin, List.take_append_drop,
    if_neg (by omega), if_neg (by unfold frameMaxDataSize frameMinSize frameMaxSize at *; omega),
    if_neg (by omega), if_neg (by omega)]

theorem getElem?_zeroFilled {payload : List UInt8} (h : payload.length ≤ frameMaxDataSize)
    (i : ℕ) : (zeroFilled payload)[i]?.getD 0 = payload.getD i 0 := by
  unfold frameMaxDataSize at h
  by_cases hi : i < 23
  · simp [zeroFilled, hi]
  · rw [Vector.getElem?_eq_none (by omega), List.getD_eq_getElem?_getD,
      List.getElem?_eq_none (by omega)]

/-- A frame that is serialized comes back with its payload, and with zeros behind it. -/
theorem parse_of_serialize_bytes {f : IoFrame} {n : ℕ} {bytes : List UInt8}
    (h : serialize f n = some bytes) :
    ∃ g, parse bytes = some g ∧ { g with data := f.data } = f ∧
      (∀ i < f.dataLen, g.byte i = f.byte i) ∧ ∀ i, f.dataLen ≤ i → g.byte i = 0 := by
  have hdata : f.dataLen ≤ frameMaxDataSize := by
    unfold serialize at h
    dsimp only at h
    split_ifs at h with hlen hdata
    exact Nat.le_of_not_gt hdata
  have hlength := payload_length hdata
  refine ⟨{ f with data := zeroFilled f.payload },
    parse_of_serialize (serialize_frameMaxSize h), rfl, ?_, ?_⟩
  · intro i hi
    unfold IoFrame.byte
    rw [getElem?_zeroFilled (hlength ▸ hdata), IoFrame.payload, List.getD_eq_getElem?_getD,
      List.getElem?_take_of_lt hi, Vector.getElem?_toList]
  · intro i hi
    unfold IoFrame.byte
    rw [getElem?_zeroFilled (hlength ▸ hdata), List.getD_eq_getElem?_getD,
      List.getElem?_eq_none (hlength ▸ hi)]
    rfl

/-- What is accepted is exactly what is serialized, and nothing is read outside of the buffer. -/
theorem parse_serialize_inverse :
    (∀ buf, (parse buf).isSome ↔ 9 ≤ buf.length ∧ buf.length ≤ 32 ∧
      buf.length = (buf.getD 0 0 &&& 0x1F).toNat + 1) ∧
      (∀ buf f n, parse buf = some f → buf.length ≤ n → serialize f n = some buf) ∧
      (∀ f n bytes, serialize f n = some bytes → ∃ g, parse bytes = some g ∧
        { g with data := f.data } = f ∧ (∀ i < f.dataLen, g.byte i = f.byte i) ∧
        ∀ i, f.dataLen ≤ i → g.byte i = 0) ∧
      (∀ is2W start «end» lowPower cmd params paramsLen f,
        Indexed.setCmd (initFrame is2W start «end» lowPower) cmd params paramsLen =
          some (some f) → (serialize f frameMaxSize).isSome = true) ∧
      ∀ buf, Indexed.parse buf = some (parse buf) := by
  refine ⟨?_, fun buf f n => serialize_of_parse, fun f n bytes => parse_of_serialize_bytes, ?_,
    Indexed.parse_eq⟩
  · intro buf
    have hmax : announcedLength buf ≤ frameMaxSize := frameLength_le (readFrame buf)
    rw [parse_isSome_iff]
    constructor
    · rintro ⟨hmin, hannounced⟩
      exact ⟨hmin, hannounced ▸ hmax, hannounced⟩
    · rintro ⟨hmin, -, hannounced⟩
      exact ⟨hmin, hannounced⟩
  · intro is2W start «end» lowPower cmd params paramsLen f h
    rw [Indexed.serialize_of_setCmd h]
    rfl

end HomeIoControl
