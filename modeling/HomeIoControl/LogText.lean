import HomeIoControl.CorpusLog
import HomeIoControl.FrameLogLine
import Mathlib.Data.List.Chain

namespace HomeIoControl.Corpus
open RegexMatch

/-! ## Printed characters -/

/-- A character of printable ASCII. -/
def IsPrintable (c : Char) : Prop := 32 ≤ c.toNat ∧ c.toNat < 127

instance : DecidablePred IsPrintable := fun _ => inferInstanceAs (Decidable (_ ∧ _))

theorem IsPrintable.isLineBreak {c : Char} (h : IsPrintable c) : isLineBreak c = false := by
  obtain ⟨hlow, hhigh⟩ := h
  simp only [Corpus.isLineBreak, List.contains_cons, List.contains_nil, Bool.or_false,
    Bool.or_eq_false_iff, beq_eq_false_iff_ne]
  omega

theorem isDigit_isPrintable {c : Char} (h : c.isDigit = true) : IsPrintable c := by
  have hrange := Char.isDigit_iff_toNat.1 h
  have hzero : '0'.toNat = 48 := rfl
  have hnine : '9'.toNat = 57 := rfl
  constructor <;> omega

/-- A character of a word. -/
def IsVisible (c : Char) : Prop := IsPrintable c ∧ c ≠ ' '

instance : DecidablePred IsVisible := fun _ => inferInstanceAs (Decidable (_ ∧ _))

/-- A characterwise check of a text. -/
theorem forall_mem_of_all {p : Char → Prop} [DecidablePred p] {s : List Char}
    (h : (s.all fun c => decide (p c)) = true) : ∀ c ∈ s, p c := by
  intro c hc
  exact of_decide_eq_true (List.all_eq_true.1 h c hc)

/-- The value of a field, of visible characters. -/
def IsValue (s : List Char) : Prop := s ≠ [] ∧ ∀ c ∈ s, IsVisible c ∧ c ≠ '='

instance : DecidablePred IsValue := fun s =>
  decidable_of_iff (s ≠ [] ∧ (s.all fun c => decide (IsVisible c ∧ c ≠ '=')) = true)
    (by simp only [IsValue, List.all_eq_true, decide_eq_true_eq])

theorem isDigit_isVisible {c : Char} (h : c.isDigit = true) : IsVisible c := by
  refine ⟨isDigit_isPrintable h, ?_⟩
  rintro rfl
  exact absurd h (by decide)

theorem hexDigit_isVisible {n : ℕ} (h : n < 16) : IsVisible (hexDigit n) := by
  have hall : ∀ i : Fin 16, IsVisible (hexDigit i) := by decide
  exact hall ⟨n, h⟩

theorem byteHex_isVisible (b : UInt8) : ∀ c ∈ byteHex b, IsVisible c := by
  have hb := b.toNat_lt
  intro c hc
  rcases (by simpa [byteHex] using hc : c = _ ∨ c = _) with rfl | rfl
  · exact hexDigit_isVisible (by omega)
  · exact hexDigit_isVisible (by omega)

theorem isHex_byteHex (b : UInt8) : ∀ c ∈ byteHex b, isHex c = true := by
  have hb := b.toNat_lt
  intro c hc
  rcases (by simpa [byteHex] using hc : c = _ ∨ c = _) with rfl | rfl
  · rw [isHex, asciiDigit_hexDigit (by omega), Option.isSome_some]
  · rw [isHex, asciiDigit_hexDigit (by omega), Option.isSome_some]

theorem decimal_eq (n : ℕ) : decimal n = Nat.toDigits 10 n := Nat.toList_repr

theorem isDigit_decimal (n : ℕ) : ∀ c ∈ decimal n, c.isDigit = true := by
  rw [decimal_eq]
  exact fun c hc => Nat.isDigit_of_mem_toDigits (by decide) (by decide) hc

theorem decimal_ne_nil (n : ℕ) : decimal n ≠ [] := by
  rw [decimal_eq]
  exact Nat.toDigits_ne_nil

/-- A digit below ten is the one of its ASCII code. -/
theorem asciiDigit_of_isDigit {c : Char} (h : c.isDigit = true) :
    PythonInt.asciiDigit c = some (c.toNat - '0'.toNat) := by
  have hrange := Char.isDigit_iff_toNat.1 h
  rw [PythonInt.asciiDigit, if_pos ⟨hrange.1, hrange.2⟩]

namespace CharData

variable (data : CharData) {c : Char}

theorem isSpace_of_isVisible (h : IsVisible c) : data.isSpace c = false := by
  obtain ⟨⟨hlow, hhigh⟩, hblank⟩ := h
  rw [isSpace, ← Bool.not_eq_true, data.text.isSpace_ascii c (by omega)]
  intro hmem
  have hall : ∀ d ∈ strSpaces, 32 ≤ d.toNat → d = ' ' := forall_mem_of_all (by decide)
  exact hblank (hall c hmem hlow)

theorem isSpace_blank : data.isSpace ' ' = true := Corpus.isSpace_blank data.text

theorem isSpace_escape : data.isSpace (Char.ofNat 0x1B) = false := by
  rw [isSpace, ← Bool.not_eq_true, data.text.isSpace_ascii _ (by decide)]
  decide

theorem isSolid_of_isVisible (h : IsVisible c) : data.isSolid c = true := by
  rw [isSolid, data.isSpace_of_isVisible h]
  rfl

theorem isSolid_blank : data.isSolid ' ' = false := by
  rw [isSolid, data.isSpace_blank]
  rfl

theorem isDecimal_of_isDigit (h : c.isDigit = true) : data.isDecimal c = true := by
  obtain ⟨hlow, hhigh⟩ := isDigit_isPrintable h
  have hnine : c.toNat ≤ 57 := (Char.isDigit_iff_toNat.1 h).2
  have halpha : c.isAlpha = false := by
    change (decide ('A'.val ≤ c.val ∧ c.val ≤ 'Z'.val) ||
      decide ('a'.val ≤ c.val) && decide (c.val ≤ 'z'.val)) = false
    rw [← Bool.not_eq_true]
    simp only [Bool.or_eq_true, Bool.and_eq_true, decide_eq_true_eq, UInt32.le_iff_toNat_le]
    change ¬ (65 ≤ c.toNat ∧ c.toNat ≤ 90 ∨ 97 ≤ c.toNat ∧ c.toNat ≤ 122)
    omega
  rw [isDecimal, data.text.digit_ascii c (by omega), asciiDigit_of_isDigit h, halpha]
  rfl

theorem isDecimal_blank : data.isDecimal ' ' = false := by
  rw [isDecimal, data.text.digit_ascii ' ' (by decide)]
  rfl

/-- A decimal number reads back. -/
theorem decimalValue_decimal (n : ℕ) : data.decimalValue (decimal n) = n := by
  have hfold : ∀ (w : List Char) (k : ℕ), (∀ c ∈ w, c.isDigit = true) →
      w.foldl (fun n c => 10 * n + (data.text.digit c).getD 0) k = Nat.ofDigitChars 10 w k := by
    intro w
    induction w with
    | nil =>
      intro k _
      rw [Nat.ofDigitChars_nil]
      rfl
    | cons c w ih =>
      intro k hw
      obtain ⟨hc, hw⟩ := List.forall_mem_cons.1 hw
      have hascii := (isDigit_isPrintable hc).2
      rw [List.foldl_cons, data.text.digit_ascii c (by omega), asciiDigit_of_isDigit hc, ih _ hw,
        Nat.ofDigitChars_cons]
      rfl
  rw [decimalValue, hfold _ 0 (isDigit_decimal n), decimal_eq, Nat.ofDigitChars_ten_toDigits]

end CharData

/-! ## Pieces of a line -/

section
variable (data : CharData) {w rest : List Char}

theorem finds_spaced {w : String} {c : Char} {s : List Char} (hw : w.toList = c :: s)
    (hc : IsVisible c) (rest : List Char) :
    Finds (spaced data w) (' ' :: (w.toList ++ rest)) () rest := by
  have hstop : Stops data.isSpace (w.toList ++ rest) := by
    rw [hw]
    exact stops_cons (data.isSpace_of_isVisible hc) (s ++ rest)
  have hblank : ∀ d ∈ [' '], data.isSpace d = true := by
    simpa using data.isSpace_blank
  have hrun : Finds (run1 data.isSpace) ([' '] ++ (w.toList ++ rest)) [' '] (w.toList ++ rest) :=
    finds_run1 (List.cons_ne_nil _ _) hblank hstop
  exact hrun.bind (k := fun _ => literal w.toList) (finds_literal w.toList rest)

theorem finds_value (hw : IsValue w) (rest : List Char) :
    Finds (run1 data.isSolid) (w ++ ' ' :: rest) w (' ' :: rest) :=
  finds_run1 hw.1 (fun c hc => data.isSolid_of_isVisible (hw.2 c hc).1)
    (stops_cons data.isSolid_blank rest)

theorem finds_decimal (n : ℕ) (hrest : Stops data.isDecimal rest) :
    Finds (run1 data.isDecimal) (decimal n ++ rest) (decimal n) rest :=
  finds_run1 (decimal_ne_nil n)
    (fun c hc => data.isDecimal_of_isDigit (isDigit_decimal n c hc)) hrest

theorem stops_decimal_blank (rest : List Char) : Stops data.isDecimal (' ' :: rest) :=
  stops_cons data.isDecimal_blank rest

theorem consumes_spaced (w : String) : Consumes (spaced data w) := by
  unfold spaced
  exact (consumes_run1 _).bind fun _ => consumes_literal _

theorem needs_spaced (w : String) : Needs w.toList (spaced data w) := by
  unfold spaced
  exact Needs.bind_right (consumes_run1 _) fun _ => needs_literal _

end

/-! ## What a line shows of a frame -/

/-- The bytes that a log line shows. -/
def shownBytes (buf : List UInt8) : List UInt8 :=
  if isMasked buf then buf.take frameMinSize else buf

/-- A masked payload leaves its length. -/
def maskText (buf : List UInt8) : List Char :=
  if isMasked buf then '[' :: (decimal (buf.length - frameMinSize) ++ " bytes masked]".toList)
  else []

theorem render_eq {buf : List UInt8} (hlen : buf.length ≤ frameMaxSize) :
    renderFrameHexRedacted buf frameLogHexBufferSize =
      hexText (shownBytes buf) ++ maskText buf := by
  have h64 : buf.length ≤ 64 := hlen.trans (by decide)
  cases h : isMasked buf with
  | false =>
    rw [render_unmasked h h64, shownBytes, maskText, h, if_neg Bool.false_ne_true,
      if_neg Bool.false_ne_true, List.append_nil]
  | true => rw [render_masked h, shownBytes, maskText, h, if_pos rfl, if_pos rfl]

/-- A payload that no line shows. -/
def HidesPayload (buf : List UInt8) : Prop := isMasked buf = true ∧ frameMinSize < buf.length

instance : DecidablePred HidesPayload := fun _ => inferInstanceAs (Decidable (_ ∧ _))

theorem shownBytes_eq_self_iff (buf : List UInt8) : shownBytes buf = buf ↔ ¬ HidesPayload buf := by
  cases h : isMasked buf with
  | false =>
    rw [shownBytes, HidesPayload, h, if_neg Bool.false_ne_true]
    exact iff_of_true rfl fun hhides => Bool.false_ne_true hhides.1
  | true =>
    rw [shownBytes, HidesPayload, h, if_pos rfl, List.take_eq_self_iff, ← Nat.not_lt]
    simp only [true_and]

theorem shownBytes_length_ge {buf : List UInt8} (h : frameMinSize ≤ buf.length) :
    frameMinSize ≤ (shownBytes buf).length := by
  unfold shownBytes
  split_ifs with hmasked
  · rw [List.length_take]
    omega
  · exact h

theorem shownBytes_length_eq_iff (buf : List UInt8) :
    (shownBytes buf).length = buf.length ↔ ¬ HidesPayload buf := by
  rw [← shownBytes_eq_self_iff]
  constructor
  · intro hlen
    unfold shownBytes at hlen ⊢
    split_ifs at hlen ⊢
    · rw [List.length_take] at hlen
      exact List.take_of_length_le (by omega)
    · rfl
  · intro hself
    rw [hself]

theorem shownBytes_ne_nil {buf : List UInt8} (h : frameMinSize ≤ buf.length) :
    shownBytes buf ≠ [] := by
  have hshown := shownBytes_length_ge h
  intro hnil
  rw [hnil] at hshown
  exact absurd hshown (by decide)

theorem getD_shownBytes (buf : List UInt8) {i : ℕ} (hi : i < frameMinSize) :
    (shownBytes buf).getD i 0 = buf.getD i 0 := by
  unfold shownBytes
  split_ifs with hmasked
  · rw [List.getD_eq_getElem?_getD, List.getElem?_take_of_lt hi, ← List.getD_eq_getElem?_getD]
  · rfl

/-- What the logger puts around a message: time, level and tag before it and, on a coloured
console, an escape sequence after it. -/
structure LoggerText where
  head : List Char
  tail : List Char
  head_plain : ∀ c ∈ head, c ≠ '=' ∧ c ≠ 'X' ∧ isLineBreak c = false
  tail_plain : ∀ c ∈ tail, c ≠ '=' ∧ isLineBreak c = false
  tail_escape : ∀ c ∈ tail.head?, c = Char.ofNat 0x1B

namespace LoggerText

def line (t : LoggerText) (message : List Char) : List Char := t.head ++ (message ++ t.tail)

theorem stops_tail (t : LoggerText) {p : Char → Bool} (h : p (Char.ofNat 0x1B) = false) :
    Stops p t.tail := by
  have hescape := t.tail_escape
  cases hc : t.tail.head? with
  | none => rw [Stops, hc, Option.all_none]
  | some c => rw [Stops, hc, Option.all_some, hescape c hc, h, Bool.not_false]

/-- No payload goes on after the bytes of a frame. -/
theorem stops_maskText (t : LoggerText) (buf : List UInt8) {p : Char → Bool}
    (h : p (Char.ofNat 0x1B) = false) (hmask : p '[' = false) :
    Stops p (maskText buf ++ t.tail) := by
  unfold maskText
  split_ifs
  · exact stops_cons hmask _
  · exact t.stops_tail h

end LoggerText

/-! ## Fields that a line does not have -/

/-- A piece of one line in which no field has a name that ends in this character. -/
def NoField (x : Char) (s : List Char) : Prop :=
  s.IsChain (fun c d => ¬ (c = x ∧ d = '=')) ∧ (∀ d ∈ s.head?, d ≠ '=') ∧
    ∀ c ∈ s, isLineBreak c = false

instance (x : Char) : DecidablePred (NoField x) := fun s =>
  decidable_of_iff
    (s.IsChain (fun c d => ¬ (c = x ∧ d = '=')) ∧ s.head? ≠ some '=' ∧
      (s.all fun c => !isLineBreak c) = true)
    (by
      rw [NoField]
      refine and_congr Iff.rfl (and_congr ?_ (by simp))
      cases s with
      | nil => simp
      | cons c s => simp)

section
variable {x : Char} {s s' : List Char}

theorem NoField.append (h : NoField x s) (h' : NoField x s') : NoField x (s ++ s') := by
  refine ⟨h.1.append h'.1 ?_, ?_, ?_⟩
  · intro c _ d hd hfield
    exact h'.2.1 d hd hfield.2
  · intro d hd
    rw [List.head?_append] at hd
    cases hs : s.head? with
    | none =>
      rw [hs] at hd
      exact h'.2.1 d hd
    | some c =>
      rw [hs] at hd
      exact h.2.1 d (by rw [hs]; exact hd)
  · intro c hc
    rcases List.mem_append.1 hc with hc | hc
    · exact h.2.2 c hc
    · exact h'.2.2 c hc

theorem noField_of_forall (h : ∀ c ∈ s, c ≠ '=' ∧ isLineBreak c = false) : NoField x s := by
  refine ⟨?_, fun d hd => (h d (List.mem_of_mem_head? hd)).1, fun c hc => (h c hc).2⟩
  induction s with
  | nil => exact List.IsChain.nil
  | cons c s ih =>
    obtain ⟨-, hs⟩ := List.forall_mem_cons.1 h
    refine (ih hs).cons fun d hd hfield => ?_
    exact (hs d (List.mem_of_mem_head? hd)).1 hfield.2

theorem noField_of_isVisible (h : ∀ c ∈ s, IsVisible c ∧ c ≠ '=') : NoField x s :=
  noField_of_forall fun c hc => ⟨(h c hc).2, (h c hc).1.1.isLineBreak⟩

theorem IsValue.noField (h : IsValue s) : NoField x s := noField_of_isVisible h.2

theorem noField_nil : NoField x [] := noField_of_forall fun _ hc => absurd hc List.not_mem_nil

theorem NoField.blank_cons (h : NoField x s) : NoField x (' ' :: s) := by
  have hblank : ∀ c ∈ [' '], c ≠ '=' ∧ isLineBreak c = false := forall_mem_of_all (by decide)
  exact (noField_of_forall hblank).append h

theorem noField_decimal (n : ℕ) : NoField x (decimal n) := by
  refine noField_of_isVisible fun c hc => ⟨isDigit_isVisible (isDigit_decimal n c hc), ?_⟩
  rintro rfl
  exact absurd (isDigit_decimal n '=' hc) (by decide)

theorem noField_byteHex (b : UInt8) : NoField x (byteHex b) := by
  refine noField_of_isVisible fun c hc => ⟨byteHex_isVisible b c hc, ?_⟩
  rintro rfl
  exact absurd (isHex_byteHex b '=' hc) (by decide)

theorem noField_flatMap {α : Type} {l : List α} {g : α → List Char}
    (h : ∀ a ∈ l, NoField x (g a)) : NoField x (l.flatMap g) := by
  induction l with
  | nil => exact noField_nil
  | cons a l ih =>
    obtain ⟨ha, hl⟩ := List.forall_mem_cons.1 h
    rw [List.flatMap_cons]
    exact ha.append (ih hl)

theorem noField_hexText (bytes : List UInt8) : NoField x (hexText bytes) :=
  noField_flatMap fun b _ => (noField_byteHex b).append noField_nil.blank_cons

theorem noField_maskText (buf : List UInt8) : NoField x (maskText buf) := by
  unfold maskText
  split_ifs
  · have hbracket : NoField x ['['] := noField_of_forall (forall_mem_of_all (by decide))
    have hmasked : NoField x " bytes masked]".toList :=
      noField_of_forall (forall_mem_of_all (by decide))
    exact hbracket.append ((noField_decimal _).append hmasked)
  · exact noField_nil

theorem LoggerText.noField_line (t : LoggerText) (h : NoField x s) : NoField x (t.line s) := by
  have hhead : NoField x t.head :=
    noField_of_forall fun c hc => ⟨(t.head_plain c hc).1, (t.head_plain c hc).2.2⟩
  exact hhead.append (h.append (noField_of_forall t.tail_plain))

/-- A text with this end of a field name in it. -/
theorem NoField.not_isInfix {u : List Char} (h : NoField x s) (hu : [x, '='] <:+: u) :
    ¬ u <:+: s := by
  intro hus
  obtain ⟨before, after, hsplit⟩ := hu.trans hus
  have hfields := h.1
  rw [← hsplit] at hfields
  have hchain := hfields.left_of_append.right_of_append
  rw [List.isChain_pair] at hchain
  exact hchain ⟨rfl, rfl⟩

end

/-! ## Physical frames -/

/-- A frame on the air, of the size of a frame. What is sent is a serialised frame, what is
received may be no frame that parses. -/
structure PhysicalFrame where
  direction : Direction
  bytes : List UInt8
  length_ge : frameMinSize ≤ bytes.length
  length_le : bytes.length ≤ frameMaxSize
  sent : direction = .tx → (parse bytes).isSome = true

/-! ## Extracted frames -/

/-- An extracted frame has the direction of the frame on the air and the bytes that its lines
show, and a chip when one of these lines is of the capture log. -/
structure RawFrame.IsOf (data : CharData) (e : RawFrame) (f : PhysicalFrame) (captured : Bool) :
    Prop where
  direction : e.direction = f.direction
  hexBytes : compact data.text e.hexBytes = (shownBytes f.bytes).flatMap byteHex
  chip : e.chip.isSome = captured
  chip_ne : e.chip ≠ some []

section
variable (data : CharData)

theorem compact_strip (s : List Char) : compact data.text (data.strip s) = compact data.text s := by
  have hblanks {w : List Char} (hw : ∀ c ∈ w, data.isSpace c = true) :
      compact data.text w = [] := by
    refine List.filter_eq_nil_iff.2 fun c hc hsolid => ?_
    have hspace : data.text.isSpace c = true := hw c hc
    rw [hspace] at hsolid
    exact absurd hsolid (by decide)
  have hleft : compact data.text (s.dropWhile data.isSpace) = compact data.text s := by
    have hsplit := congrArg (compact data.text)
      (List.takeWhile_append_dropWhile (p := data.isSpace) (l := s))
    rw [compact_append, hblanks fun c hc => List.mem_takeWhile_imp hc, List.nil_append] at hsplit
    exact hsplit
  have hright (w : List Char) :
      compact data.text (w.rdropWhile data.isSpace) = compact data.text w := by
    have hsplit := congrArg (compact data.text)
      (List.rdropWhile_append_rtakeWhile (p := data.isSpace) (l := w))
    rw [compact_append, hblanks fun c hc => List.mem_rtakeWhile_imp hc, List.append_nil] at hsplit
    exact hsplit
  rw [CharData.strip, hright, hleft]

theorem compact_hexText (bytes : List UInt8) :
    compact data.text (hexText bytes) = bytes.flatMap byteHex := by
  induction bytes with
  | nil => rfl
  | cons b bytes ih =>
    rw [hexText_cons, compact_append, compact_byteHex, compact_blank_cons, ih, List.flatMap_cons]

theorem readHex_of_compact {s : List Char} {bytes : List UInt8}
    (h : compact data.text s = bytes.flatMap byteHex) : readHex data s = .ok bytes := by
  rw [readHex, parseHex, h, bytesFromHex_flatMap]

end

end HomeIoControl.Corpus
