import HomeIoControl.Constants
import Mathlib.Logic.Function.Iterate

namespace HomeIoControl

/-- A frame without its CRC. Only the first `dataLen` bytes of `data` belong to it. -/
structure IoFrame where
  ctrl0 : UInt8
  ctrl1 : UInt8
  dst : NodeId
  src : NodeId
  cmd : UInt8
  data : Vector UInt8 23
  dataLen : ℕ
  deriving DecidableEq, Repr

/-- The first bytes of a payload buffer, the rest being zero. -/
def zeroFilled (payload : List UInt8) : Vector UInt8 23 :=
  .ofFn fun i => payload.getD i 0

namespace IoFrame

def zero : IoFrame where
  ctrl0 := 0
  ctrl1 := 0
  dst := .replicate 3 0
  src := .replicate 3 0
  cmd := 0
  data := zeroFilled []
  dataLen := 0

/-- A byte of the payload buffer. -/
def byte (f : IoFrame) (offset : ℕ) : UInt8 := f.data[offset]?.getD 0

def payload (f : IoFrame) : List UInt8 := f.data.toList.take f.dataLen

/-- The length that the control byte announces. -/
def frameLength (f : IoFrame) : ℕ := (f.ctrl0 &&& ctrl0LengthMask).toNat + 1

def isStart (f : IoFrame) : Bool := f.ctrl0 &&& ctrl0Start != 0

def is1W (f : IoFrame) : Bool := f.ctrl0 &&& ctrl0Protocol1W != 0

def header (f : IoFrame) : List UInt8 :=
  f.ctrl0 :: f.ctrl1 :: (f.dst.toList ++ f.src.toList ++ [f.cmd])

end IoFrame

def initFrame (is2W start «end» lowPower : Bool) : IoFrame :=
  { IoFrame.zero with
    ctrl0 := (if «end» then ctrl0End else 0) ||| (if start then ctrl0Start else 0) |||
      (if is2W then 0 else ctrl0Protocol1W)
    ctrl1 := if lowPower then ctrl1LowPower else 0 }

def setDst (f : IoFrame) (id : NodeId) : IoFrame := { f with dst := id }

def setSrc (f : IoFrame) (id : NodeId) : IoFrame := { f with src := id }

/-- Sets command, payload and announced length. -/
def setCmd (f : IoFrame) (cmd : UInt8) (params : List UInt8) : Option IoFrame :=
  if params.length > frameMaxDataSize then none
  else
    let total := frameMinSize + params.length
    some { f with
      cmd := cmd
      dataLen := params.length
      data := .ofFn fun i => params.getD i f.data[i]
      ctrl0 := (f.ctrl0 &&& ~~~ctrl0LengthMask) ||| (UInt8.ofNat (total - 1) &&& ctrl0LengthMask) }

/-- The bytes on the wire, if the announced length and the payload length agree. -/
def serialize (f : IoFrame) (bufSize : ℕ) : Option (List UInt8) :=
  let len := f.frameLength
  if len < frameMinSize ∨ len > frameMaxSize then none
  else if f.dataLen > frameMaxDataSize then none
  else if frameMinSize + f.dataLen ≠ len then none
  else if bufSize < len then none
  else some (f.header ++ f.payload)

/-- The frame that a buffer of at least nine bytes spells out. -/
def readFrame (buf : List UInt8) : IoFrame where
  ctrl0 := buf.getD 0 0
  ctrl1 := buf.getD 1 0
  dst := #v[buf.getD 2 0, buf.getD 3 0, buf.getD 4 0]
  src := #v[buf.getD 5 0, buf.getD 6 0, buf.getD 7 0]
  cmd := buf.getD frameCmdOffset 0
  data := zeroFilled (buf.drop frameMinSize)
  dataLen := buf.length - frameMinSize

/-- A buffer is a frame when its length is the one its first byte announces. -/
def parse (buf : List UInt8) : Option IoFrame :=
  if buf.length < frameMinSize then none
  else
    let f := readFrame buf
    let len := f.frameLength
    if len < frameMinSize ∨ len > frameMaxSize then none
    else if buf.length ≠ len then none
    else some f

/-- `parse` into the caller's frame, of which a rejected buffer leaves at most its control bytes. -/
def parseInto (buf : List UInt8) (f : IoFrame) : Bool × IoFrame :=
  match parse buf with
  | some g => (true, g)
  | none =>
    (false, if buf.length < frameMinSize then f
      else { IoFrame.zero with ctrl0 := buf.getD 0 0, ctrl1 := buf.getD 1 0 })

/-! ## Node IDs as text -/

def hexDigit (n : ℕ) : Char :=
  if n < 10 then Char.ofNat ('0'.toNat + n) else Char.ofNat ('A'.toNat + (n - 10))

def byteHex (b : UInt8) : List Char := [hexDigit (b.toNat / 16), hexDigit (b.toNat % 16)]

/-- Six uppercase hex digits. -/
def nodeIdToString (id : NodeId) : String := String.ofList (id.toList.flatMap byteHex)

theorem hexDigit_inj {m n : ℕ} (hm : m < 16) (hn : n < 16) (h : hexDigit m = hexDigit n) :
    m = n := by
  have hall : ∀ i j : Fin 16, hexDigit i = hexDigit j → i = j := by decide
  exact Fin.mk.inj (hall ⟨m, hm⟩ ⟨n, hn⟩ h)

theorem byteHex_injective : Function.Injective byteHex := by
  intro a b h
  obtain ⟨hhigh, htail⟩ := List.cons.inj h
  obtain ⟨hlow, -⟩ := List.cons.inj htail
  have ha := a.toNat_lt
  have hb := b.toNat_lt
  have hdiv := hexDigit_inj (by omega) (by omega) hhigh
  have hmod := hexDigit_inj (Nat.mod_lt _ (by omega)) (Nat.mod_lt _ (by omega)) hlow
  apply UInt8.toNat_inj.1
  omega

theorem flatMap_byteHex_injective : Function.Injective (List.flatMap byteHex) := by
  intro xs ys h
  induction xs generalizing ys with
  | nil =>
    cases ys with
    | nil => rfl
    | cons y ys => cases h
  | cons x xs ih =>
    cases ys with
    | nil => cases h
    | cons y ys =>
      rw [List.flatMap_cons, List.flatMap_cons] at h
      obtain ⟨hbyte, hrest⟩ := List.append_inj h rfl
      rw [byteHex_injective hbyte, ih hrest]

/-- A node is known by its text. -/
theorem nodeIdToString_injective : Function.Injective nodeIdToString :=
  fun _ _ h => Vector.toList_inj.1 (flatMap_byteHex_injective (String.ofList_injective h))

theorem nodeIdToString_ne_empty (id : NodeId) : nodeIdToString id ≠ "" := by
  intro h
  have hempty : id.toList.flatMap byteHex = [] := String.ofList_injective h
  have hlength := congrArg List.length hempty
  obtain ⟨⟨bytes⟩, hbytes⟩ := id
  obtain ⟨a, b, c, rfl⟩ := List.length_eq_three.1 hbytes
  simp [byteHex] at hlength

/-! ## CRC -/

def crcPolynomialReversed : UInt16 := 0x8408

/-- One bit of the reflected CRC. -/
def crcShift (crc : UInt16) : UInt16 :=
  if crc &&& 1 != 0 then (crc >>> 1) ^^^ crcPolynomialReversed else crc >>> 1

def crcByte (crc : UInt16) (b : UInt8) : UInt16 := crcShift^[8] (crc ^^^ b.toUInt16)

def crcCcitt (data : List UInt8) : UInt16 := data.foldl crcByte 0

/-! ## What parsing accepts -/

theorem frameLength_le (f : IoFrame) : f.frameLength ≤ frameMaxSize := by
  have h : (f.ctrl0 &&& ctrl0LengthMask).toNat ≤ 31 := by
    rw [UInt8.toNat_and]
    exact Nat.and_le_right
  simp only [IoFrame.frameLength, frameMaxSize]
  omega

/-- The frame length that the first byte of a buffer announces. -/
def announcedLength (buf : List UInt8) : ℕ := (buf.getD 0 0 &&& ctrl0LengthMask).toNat + 1

theorem parse_eq_some_iff (buf : List UInt8) (f : IoFrame) :
    parse buf = some f ↔
      frameMinSize ≤ buf.length ∧ buf.length = announcedLength buf ∧ f = readFrame buf := by
  have hmax := frameLength_le (readFrame buf)
  have hlen : (readFrame buf).frameLength = announcedLength buf := rfl
  rw [hlen] at hmax
  simp only [parse, hlen, gt_iff_lt, ne_eq]
  split_ifs with h h' h''
  · simp only [false_iff]
    omega
  · simp only [false_iff]
    omega
  · rw [Option.some.injEq]
    constructor
    · intro hf
      exact ⟨by omega, by omega, hf.symm⟩
    · intro hf
      exact hf.2.2.symm
  · simp only [false_iff]
    omega

theorem parse_isSome_iff (buf : List UInt8) :
    (parse buf).isSome ↔ frameMinSize ≤ buf.length ∧ buf.length = announcedLength buf := by
  rw [Option.isSome_iff_exists]
  simp only [parse_eq_some_iff]
  constructor
  · rintro ⟨f, h, h', -⟩
    exact ⟨h, h'⟩
  · rintro ⟨h, h'⟩
    exact ⟨readFrame buf, h, h', rfl⟩

theorem serialize_eq_some {f : IoFrame} (hlen : f.frameLength = frameMinSize + f.dataLen)
    (hdata : f.dataLen ≤ frameMaxDataSize) :
    serialize f frameMaxSize = some (f.header ++ f.payload) := by
  have hsize : frameMaxSize = frameMinSize + frameMaxDataSize := rfl
  unfold serialize
  simp only [hlen]
  rw [if_neg (by omega), if_neg (by omega), if_neg (by omega), if_neg (by omega)]

/-- The size of the caller's buffer has no say in the bytes. -/
theorem serialize_frameMaxSize {f : IoFrame} {bytes : List UInt8} {n : ℕ}
    (h : serialize f n = some bytes) : serialize f frameMaxSize = some bytes := by
  unfold serialize at h ⊢
  dsimp only at h ⊢
  split_ifs at h with hlen hdata hagree hbuf
  rw [if_neg hlen, if_neg hdata, if_neg hagree, if_neg (by omega)]
  exact h

theorem payload_length {f : IoFrame} (h : f.dataLen ≤ frameMaxDataSize) :
    f.payload.length = f.dataLen := by
  rw [IoFrame.payload, List.length_take, Vector.length_toList]
  exact Nat.min_eq_left h

theorem readFrame_header_append (f : IoFrame) (payload : List UInt8) :
    readFrame (f.header ++ payload) =
      { f with data := zeroFilled payload, dataLen := payload.length } := by
  obtain ⟨ctrl0, ctrl1, ⟨⟨dst⟩, hdst⟩, ⟨⟨src⟩, hsrc⟩, cmd, data, dataLen⟩ := f
  obtain ⟨d0, d1, d2, rfl⟩ := List.length_eq_three.1 hdst
  obtain ⟨s0, s1, s2, rfl⟩ := List.length_eq_three.1 hsrc
  simp [readFrame, IoFrame.header, frameCmdOffset, frameMinSize]

/-- A serialized frame parses to itself, up to the bytes behind its payload. -/
theorem parse_of_serialize {f : IoFrame} {bytes : List UInt8}
    (h : serialize f frameMaxSize = some bytes) :
    parse bytes = some { f with data := zeroFilled f.payload } := by
  unfold serialize at h
  dsimp only at h
  split_ifs at h with hlen hdata hagree
  obtain rfl := Option.some.inj h
  have hpayload := payload_length (Nat.le_of_not_gt hdata)
  have hbytes : (f.header ++ f.payload).length = frameMinSize + f.dataLen := by
    simp [IoFrame.header, frameMinSize, hpayload]
    omega
  have hannounced : announcedLength (f.header ++ f.payload) = f.frameLength := rfl
  rw [parse_eq_some_iff, hannounced, hbytes, readFrame_header_append, hpayload]
  exact ⟨by omega, by omega, rfl⟩

theorem parseInto_of_parse {buf : List UInt8} {g : IoFrame} (h : parse buf = some g)
    (f : IoFrame) : parseInto buf f = (true, g) := by
  rw [parseInto, h]

theorem parseInto_of_parse_eq_none {buf : List UInt8} (h : parse buf = none) (f : IoFrame) :
    ∃ g, parseInto buf f = (false, g) := by
  rw [parseInto, h]
  exact ⟨_, rfl⟩

end HomeIoControl
