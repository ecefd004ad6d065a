import HomeIoControl.Frame
import Mathlib.Data.Int.Notation
import Mathlib.Tactic.Common

namespace HomeIoControl

def frameLogHexBufferSize : ℕ := 220

/-- What the driver records about the last reception, as far as the hub reads it. -/
structure RadioCaptureInfo where
  valid : Bool := false
  timestampMs : ℕ := 0
  freqHz : ℕ := 0
  rssiDbm : ℤ := 0
  deriving DecidableEq, Repr

/-! ## Rendering bytes -/

/-- Writes "XX " for each byte while four more characters fit. -/
def bytesToHexFrom (outSize pos : ℕ) : List UInt8 → List Char
  | [] => []
  | b :: data =>
    if pos + 4 < outSize then byteHex b ++ ' ' :: bytesToHexFrom outSize (pos + 3) data else []

def bytesToHex (data : List UInt8) (outSize : ℕ) : List Char := bytesToHexFrom outSize 0 data

def decimal (n : ℕ) : List Char := (toString n).toList

def commandCarriesKeyMaterial (cmd : UInt8) : Bool := cmd == cmdKeyTransfer

/-- Whether the bytes are rendered with their payload masked. -/
def isMasked (data : List UInt8) : Bool :=
  decide (frameMinSize ≤ data.length) && commandCarriesKeyMaterial (data.getD frameCmdOffset 0)

def renderFrameHexRedacted (data : List UInt8) (outSize : ℕ) : List Char :=
  if isMasked data then
    bytesToHex (data.take frameMinSize) (frameMinSize * 3 + 4) ++
      '[' :: (decimal (data.length - frameMinSize) ++ " bytes masked]".toList)
  else bytesToHex data outSize

/-! ## The capture log of the component -/

/-- The fields that a decoded frame adds to the line. -/
def captureFrameFields (frame : IoFrame) : List Char :=
  " cmd=0x".toList ++ byteHex frame.cmd ++ " src=".toList ++ frame.src.toList.flatMap byteHex ++
    " dst=".toList ++ frame.dst.toList.flatMap byteHex

/-- The line up to the payload. -/
def captureHead (chipName : List Char) (capture : RadioCaptureInfo) (stage : List Char) (len : ℕ)
    (frame : Option IoFrame) : List Char :=
  "chip=".toList ++ chipName ++ " phase=component stage=".toList ++ stage ++
    " freq=".toList ++ decimal capture.freqHz ++ " ts=".toList ++ decimal capture.timestampMs ++
    " len=".toList ++ decimal len ++ (frame.map captureFrameFields).getD [] ++ " payload".toList

def logComponentCapture (chipName : List Char) (capture : RadioCaptureInfo) (stage : List Char)
    (buf : List UInt8) (frame : Option IoFrame) : List Char :=
  captureHead chipName capture stage buf.length frame ++
    '=' :: renderFrameHexRedacted buf frameLogHexBufferSize

/-- The line that passive reception logs before anything else. -/
def receivedPacketLog (chipName : List Char) (capture : RadioCaptureInfo) (data : List UInt8) :
    List Char :=
  match parse data with
  | none => logComponentCapture chipName capture "parse_fail".toList data none
  | some frame => logComponentCapture chipName capture "parse_ok".toList data (some frame)

/-! ## What the text shows -/

/-- Characters of rendered bytes. -/
def isHexChar (c : Char) : Bool := c.isDigit || ('A' ≤ c && c ≤ 'F') || c == ' '

theorem isHexChar_hexDigit : ∀ n : Fin 16, isHexChar (hexDigit n) = true := by decide

theorem isHexChar_byteHex (b : UInt8) : ∀ c ∈ byteHex b, isHexChar c = true := by
  have hb := b.toNat_lt
  intro c hc
  rcases (by simpa [byteHex] using hc : c = _ ∨ c = _) with rfl | rfl
  · exact isHexChar_hexDigit ⟨b.toNat / 16, by omega⟩
  · exact isHexChar_hexDigit ⟨b.toNat % 16, by omega⟩

/-- The text of bytes that fit. -/
def hexText (data : List UInt8) : List Char := data.flatMap fun b => byteHex b ++ [' ']

theorem bytesToHexFrom_eq (outSize pos : ℕ) (data : List UInt8)
    (h : pos + 3 * data.length + 1 < outSize) : bytesToHexFrom outSize pos data = hexText data := by
  induction data generalizing pos with
  | nil => rfl
  | cons b data ih =>
    rw [List.length_cons] at h
    rw [bytesToHexFrom, if_pos (by omega), ih (pos + 3) (by omega)]
    simp [hexText]

theorem bytesToHex_eq {outSize : ℕ} {data : List UInt8} (h : 3 * data.length + 1 < outSize) :
    bytesToHex data outSize = hexText data :=
  bytesToHexFrom_eq outSize 0 data (by omega)

theorem hexText_cons (b : UInt8) (data : List UInt8) :
    hexText (b :: data) = byteHex b ++ ' ' :: hexText data := by
  simp [hexText]

theorem hexText_length (data : List UInt8) : (hexText data).length = 3 * data.length := by
  induction data with
  | nil => rfl
  | cons b data ih =>
    rw [hexText_cons, List.length_append, List.length_cons, List.length_cons, ih]
    simp only [byteHex, List.length_cons, List.length_nil]
    omega

theorem isHexChar_hexText (data : List UInt8) : ∀ c ∈ hexText data, isHexChar c = true := by
  intro c hc
  obtain ⟨b, -, hb⟩ := List.mem_flatMap.1 hc
  rcases List.mem_append.1 hb with hb | hb
  · exact isHexChar_byteHex b c hb
  · rw [List.mem_singleton.1 hb]
    decide

theorem hexText_injective {p q : List UInt8} (h : hexText p = hexText q) : p = q := by
  induction p generalizing q with
  | nil =>
    have hl := congrArg List.length h
    rw [hexText_length, hexText_length, List.length_nil] at hl
    exact (List.length_eq_zero_iff.1 (by omega)).symm
  | cons b p ih =>
    cases q with
    | nil => simp [hexText, byteHex] at h
    | cons d q =>
      rw [hexText_cons, hexText_cons] at h
      obtain ⟨hb, htail⟩ := List.append_inj h rfl
      rw [byteHex_injective hb, ih (List.cons.inj htail).2]

/-- Two byte strings that differ at most inside a masked payload. -/
def SameOutsideMask (p q : List UInt8) : Prop :=
  p = q ∨ (isMasked p = true ∧ isMasked q = true ∧ p.length = q.length ∧
    p.take frameMinSize = q.take frameMinSize)

theorem decimal_injective : ∀ m n : Fin 64, decimal m = decimal n → m = n := by decide +kernel

theorem render_unmasked {data : List UInt8} (h : isMasked data = false) (hlen : data.length ≤ 64) :
    renderFrameHexRedacted data frameLogHexBufferSize = hexText data := by
  rw [renderFrameHexRedacted, h, if_neg Bool.false_ne_true, bytesToHex_eq]
  rw [frameLogHexBufferSize]
  omega

theorem render_masked {data : List UInt8} (h : isMasked data = true) :
    renderFrameHexRedacted data frameLogHexBufferSize =
      hexText (data.take frameMinSize) ++
        '[' :: (decimal (data.length - frameMinSize) ++ " bytes masked]".toList) := by
  rw [renderFrameHexRedacted, h, if_pos rfl, bytesToHex_eq]
  simp only [List.length_take, frameMinSize]
  omega

theorem length_of_isMasked {data : List UInt8} (h : isMasked data = true) :
    frameMinSize ≤ data.length := by
  simp only [isMasked, Bool.and_eq_true, decide_eq_true_eq] at h
  exact h.1

/-- The rendered text determines the bytes up to a masked payload. -/
theorem render_eq_iff {p q : List UInt8} (hp : p.length ≤ 64) (hq : q.length ≤ 64) :
    renderFrameHexRedacted p frameLogHexBufferSize =
        renderFrameHexRedacted q frameLogHexBufferSize ↔ SameOutsideMask p q := by
  have hbracket : ∀ data : List UInt8, '[' ∉ hexText data := fun data hmem =>
    absurd (isHexChar_hexText data '[' hmem) (by decide)
  -- a mask shows as a bracket, which no plain dump has
  cases hmp : isMasked p <;> cases hmq : isMasked q
  · rw [render_unmasked hmp hp, render_unmasked hmq hq]
    constructor
    · intro h
      exact .inl (hexText_injective h)
    · rintro (rfl | ⟨h, -⟩)
      · rfl
      · exact absurd (hmp.symm.trans h) Bool.false_ne_true
  · rw [render_unmasked hmp hp, render_masked hmq]
    constructor
    · intro h
      exact absurd (by rw [h]; simp) (hbracket p)
    · rintro (rfl | ⟨h, -⟩)
      · exact absurd (hmp.symm.trans hmq) Bool.false_ne_true
      · exact absurd (hmp.symm.trans h) Bool.false_ne_true
  · rw [render_masked hmp, render_unmasked hmq hq]
    constructor
    · intro h
      exact absurd (by rw [← h]; simp) (hbracket q)
    · rintro (rfl | ⟨-, h, -⟩)
      · exact absurd (hmq.symm.trans hmp) Bool.false_ne_true
      · exact absurd (hmq.symm.trans h) Bool.false_ne_true
  · rw [render_masked hmp, render_masked hmq]
    have hlp := length_of_isMasked hmp
    have hlq := length_of_isMasked hmq
    constructor
    · intro h
      obtain ⟨hhead, htail⟩ := List.append_inj h (by
        simp only [hexText_length, List.length_take]
        omega)
      have hdec := List.append_cancel_right (List.cons.inj htail).2
      have hn := decimal_injective ⟨p.length - frameMinSize, by simp only [frameMinSize]; omega⟩
        ⟨q.length - frameMinSize, by simp only [frameMinSize]; omega⟩ hdec
      simp only [Fin.mk.injEq] at hn
      exact .inr ⟨hmp, hmq, by omega, hexText_injective hhead⟩
    · rintro (rfl | ⟨-, -, hlen, htake⟩)
      · rfl
      · rw [hlen, htake]

end HomeIoControl
