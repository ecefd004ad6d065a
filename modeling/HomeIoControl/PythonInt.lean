import Mathlib.Data.List.TakeWhile
import Mathlib.Tactic.Common

namespace PythonInt

/-! ## Characters -/

/-- The value of an ASCII hex digit. -/
def asciiDigit (c : Char) : Option ℕ :=
  if '0' ≤ c ∧ c ≤ '9' then some (c.toNat - '0'.toNat)
  else if 'A' ≤ c ∧ c ≤ 'F' then some (c.toNat - 'A'.toNat + 10)
  else if 'a' ≤ c ∧ c ≤ 'f' then some (c.toNat - 'a'.toNat + 10)
  else none

/-- Tab, newline, vertical tab, form feed, carriage return and blank. -/
def asciiSpaces : List Char := [9, 10, 11, 12, 13, 32].map Char.ofNat

/-- What the character database says: full uppercase forms, whitespace, and digits, decimal digits
of other scripts included. -/
structure Text where
  upper : Char → List Char
  isSpace : Char → Bool
  digit : Char → Option ℕ
  upper_ascii : ∀ c, c.toNat < 128 → upper c = [c.toUpper]
  isSpace_ascii : ∀ c, c.toNat < 128 → (isSpace c = true ↔ c ∈ asciiSpaces)
  digit_ascii : ∀ c, c.toNat < 128 → digit c = asciiDigit c
  digit_of_space : ∀ c, isSpace c = true → digit c = none

theorem asciiDigit_isSome {c : Char} (h : (asciiDigit c).isSome = true) :
    '0' ≤ c ∧ c ≤ '9' ∨ 'A' ≤ c ∧ c ≤ 'F' ∨ 'a' ≤ c ∧ c ≤ 'f' := by
  unfold asciiDigit at h
  split_ifs at h with hdec hupper hlower
  · exact .inl hdec
  · exact .inr (.inl hupper)
  · exact .inr (.inr hlower)
  · cases h

theorem asciiDigit_lt {c : Char} (h : (asciiDigit c).isSome = true) : c.toNat < 128 := by
  have hle {d : Char} (hcd : c ≤ d) (hd : d.toNat < 128) : c.toNat < 128 := by
    have : c.toNat ≤ d.toNat := hcd
    omega
  rcases asciiDigit_isSome h with h | h | h
  · exact hle h.2 (by decide)
  · exact hle h.2 (by decide)
  · exact hle h.2 (by decide)

theorem asciiDigit_of_space {c : Char} (h : c ∈ asciiSpaces) : asciiDigit c = none := by
  have hall : ∀ c ∈ asciiSpaces, asciiDigit c = none := by simp [asciiSpaces, asciiDigit]
  exact hall c h

/-- The characters of ASCII alone. -/
def Text.ascii : Text where
  upper c := [c.toUpper]
  isSpace c := decide (c ∈ asciiSpaces)
  digit := asciiDigit
  upper_ascii _ _ := rfl
  isSpace_ascii _ _ := by simp
  digit_ascii _ _ := rfl
  digit_of_space _ h := asciiDigit_of_space (of_decide_eq_true h)

namespace Text

variable (text : Text)

/-- `str.upper` -/
def upperString (s : String) : String := String.ofList (s.toList.flatMap text.upper)

/-! ## `int(value, 16)` -/

def splitSign : List Char → ℤ × List Char
  | '+' :: s => (1, s)
  | '-' :: s => (-1, s)
  | s => (1, s)

/-- The zero may be one of another script, and an underscore may follow. -/
def stripRadix : List Char → List Char
  | zero :: x :: s =>
    if text.digit zero = some 0 ∧ (x = 'x' ∨ x = 'X') then
      match s with
      | '_' :: s => s
      | s => s
    else zero :: x :: s
  | s => s

/-- The value of digits with single underscores between them. -/
def digitsValue (acc : ℕ) : List Char → Option ℕ
  | [] => none
  | [c] => (text.digit c).map (16 * acc + ·)
  | c :: '_' :: s => (text.digit c).bind fun d => digitsValue (16 * acc + d) s
  | c :: s => (text.digit c).bind fun d => digitsValue (16 * acc + d) s

def isRunChar (c : Char) : Bool := c == '_' || (text.digit c).isSome

def int16 (s : List Char) : Option ℤ :=
  let (sign, s) := splitSign (s.dropWhile text.isSpace)
  let s := text.stripRadix s
  if (s.dropWhile text.isRunChar).all text.isSpace then
    (text.digitsValue 0 (s.takeWhile text.isRunChar)).map fun n : ℕ => sign * (n : ℤ)
  else none

end Text

/-! ## Literals -/

/-- Digits with single underscores between them. -/
inductive DigitRun (text : Text) : List Char → Prop
  | last {c : Char} (hc : (text.digit c).isSome = true) : DigitRun text [c]
  | next {c : Char} {s : List Char} (hc : (text.digit c).isSome = true) (hs : DigitRun text s) :
    DigitRun text (c :: s)
  | underscore {c : Char} {s : List Char} (hc : (text.digit c).isSome = true)
    (hs : DigitRun text s) : DigitRun text (c :: '_' :: s)

def signs : List (List Char) := [[], ['+'], ['-']]

/-- What may stand before the digits. -/
inductive Radix (text : Text) : List Char → Prop
  | none : Radix text []
  | hex {zero x : Char} (hzero : text.digit zero = some 0) (hx : x = 'x' ∨ x = 'X') :
    Radix text [zero, x]
  | underscore {zero x : Char} (hzero : text.digit zero = some 0) (hx : x = 'x' ∨ x = 'X') :
    Radix text [zero, x, '_']

/-- A hexadecimal integer as it may be written. -/
structure Literal (text : Text) where
  before : List Char
  sign : List Char
  radix : List Char
  digits : List Char
  after : List Char
  before_spaces : ∀ c ∈ before, text.isSpace c = true
  sign_mem : sign ∈ signs
  is_radix : Radix text radix
  run : DigitRun text digits
  after_spaces : ∀ c ∈ after, text.isSpace c = true

namespace Literal

variable {text : Text}

def chars (l : Literal text) : List Char := l.before ++ l.sign ++ l.radix ++ l.digits ++ l.after

/-- Nothing but ASCII digits. -/
structure Plain (l : Literal text) : Prop where
  before : l.before = []
  sign : l.sign = []
  radix : l.radix = []
  digits : ∀ c ∈ l.digits, c ≠ '_' ∧ c.toNat < 128
  after : l.after = []

end Literal

variable {text : Text} {s : List Char} {c : Char}

theorem isSpace_eq_false_of_digit (h : (text.digit c).isSome = true) : text.isSpace c = false := by
  by_contra hspace
  rw [text.digit_of_space c (by simpa using hspace)] at h
  cases h

theorem DigitRun.head (h : DigitRun text s) :
    ∃ c t, s = c :: t ∧ (text.digit c).isSome = true := by
  cases h with
  | last hc => exact ⟨_, _, rfl, hc⟩
  | next hc _ => exact ⟨_, _, rfl, hc⟩
  | underscore hc _ => exact ⟨_, _, rfl, hc⟩

theorem DigitRun.head_cons (h : DigitRun text (c :: s)) : (text.digit c).isSome = true := by
  obtain ⟨d, t, heq, hd⟩ := h.head
  rwa [(List.cons.inj heq).1]

theorem DigitRun.isRunChar (h : DigitRun text s) : ∀ c ∈ s, text.isRunChar c = true := by
  induction h with
  | last hc => simp [Text.isRunChar, hc]
  | next hc _ ih => simpa [Text.isRunChar, hc] using ih
  | underscore hc _ ih => simpa [Text.isRunChar, hc] using ih

theorem digit_underscore (text : Text) : text.digit '_' = none := by
  rw [text.digit_ascii '_' (by decide)]
  decide

theorem digitsValue_isSome_iff (s : List Char) (acc : ℕ) :
    (text.digitsValue acc s).isSome = true ↔ DigitRun text s := by
  fun_induction Text.digitsValue text acc s with
  | case1 acc => exact iff_of_false (by simp) (fun h => by cases h)
  | case2 acc c =>
    rw [Option.isSome_map]
    constructor
    · exact fun hc => .last hc
    · intro h
      cases h with
      | last hc => exact hc
      | next hc hs => cases hs
  | case3 acc c s ih =>
    cases hc : text.digit c with
    | none => exact iff_of_false (by simp) fun h => absurd h.head_cons (by simp [hc])
    | some d =>
      rw [Option.bind_some, ih]
      constructor
      · exact fun h => .underscore (by simp [hc]) h
      · intro h
        cases h with
        | next _ hs =>
          -- an underscore is no digit
          exact absurd hs.head_cons (by simp [digit_underscore])
        | underscore _ hs => exact hs
  | case4 acc c s hne hunderscore ih =>
    cases hc : text.digit c with
    | none => exact iff_of_false (by simp) fun h => absurd h.head_cons (by simp [hc])
    | some d =>
      rw [Option.bind_some, ih]
      constructor
      · exact fun h => .next (by simp [hc]) h
      · intro h
        cases h with
        | last _ => exact absurd rfl hne
        | next _ hs => exact hs
        | underscore _ hs => exact absurd rfl (hunderscore _)

/-! ## What is accepted -/

theorem splitSign_eq (s : List Char) : ∃ sign ∈ signs, s = sign ++ (Text.splitSign s).2 := by
  unfold Text.splitSign
  split
  · exact ⟨['+'], by decide, rfl⟩
  · exact ⟨['-'], by decide, rfl⟩
  · exact ⟨[], by decide, rfl⟩

theorem stripRadix_eq (text : Text) (s : List Char) :
    ∃ radix, Radix text radix ∧ s = radix ++ text.stripRadix s := by
  unfold Text.stripRadix
  split
  · rename_i zero x s
    split_ifs with hradix
    · obtain ⟨hzero, hx⟩ := hradix
      split
      · exact ⟨[zero, x, '_'], .underscore hzero hx, rfl⟩
      · exact ⟨[zero, x], .hex hzero hx, rfl⟩
    · exact ⟨[], .none, rfl⟩
  · exact ⟨[], .none, rfl⟩

theorem exists_literal (h : (text.int16 s).isSome = true) : ∃ l : Literal text, l.chars = s := by
  obtain ⟨sign, hsign, hsplit⟩ := splitSign_eq (s.dropWhile text.isSpace)
  obtain ⟨radix, hradix, hstrip⟩ :=
    stripRadix_eq text (Text.splitSign (s.dropWhile text.isSpace)).2
  unfold Text.int16 at h
  dsimp only at h
  generalize Text.splitSign (s.dropWhile text.isSpace) = split at hsplit hstrip h
  generalize text.stripRadix split.2 = rest at hstrip h
  split_ifs at h with hafter
  · rw [Option.isSome_map, digitsValue_isSome_iff] at h
    let l : Literal text :=
      { before := s.takeWhile text.isSpace, sign, radix, digits := rest.takeWhile text.isRunChar,
        after := rest.dropWhile text.isRunChar,
        before_spaces := fun c hc => List.mem_takeWhile_imp hc, sign_mem := hsign,
        is_radix := hradix, run := h, after_spaces := List.all_eq_true.1 hafter }
    refine ⟨l, ?_⟩
    show s.takeWhile text.isSpace ++ sign ++ radix ++ rest.takeWhile text.isRunChar ++
      rest.dropWhile text.isRunChar = s
    rw [List.append_assoc, List.takeWhile_append_dropWhile, List.append_assoc, ← hstrip,
      List.append_assoc, ← hsplit, List.takeWhile_append_dropWhile]
  · cases h

theorem ne_of_digit {d : Char} (hd : d.toNat < 128) (hnone : asciiDigit d = none)
    (h : (text.digit c).isSome = true) : c ≠ d := by
  rintro rfl
  rw [text.digit_ascii c hd, hnone] at h
  cases h

theorem splitSign_append {sign : List Char} (hsign : sign ∈ signs)
    (hc : c ≠ '+' ∧ c ≠ '-') (t : List Char) :
    (Text.splitSign (sign ++ c :: t)).2 = c :: t := by
  have hnone : Text.splitSign (c :: t) = (1, c :: t) := by
    unfold Text.splitSign
    split
    · rename_i heq
      exact absurd (List.cons.inj heq).1 hc.1
    · rename_i heq
      exact absurd (List.cons.inj heq).1 hc.2
    · rfl
  simp only [signs, List.mem_cons, List.not_mem_nil, or_false] at hsign
  rcases hsign with rfl | rfl | rfl
  · rw [List.nil_append, hnone]
  · rfl
  · rfl

/-- The first digit is not read as part of a prefix. -/
theorem stripRadix_append {radix : List Char} (hradix : Radix text radix) {t : List Char}
    (hc : c ≠ '_') (ht : ∀ x u, t = x :: u → x ≠ 'x' ∧ x ≠ 'X') :
    text.stripRadix (radix ++ c :: t) = c :: t := by
  have hdigits : (match c :: t with
      | '_' :: s => s
      | s => s) = c :: t := by
    split
    · rename_i heq
      exact absurd (List.cons.inj heq).1 hc
    · rfl
  cases hradix with
  | none =>
    rw [List.nil_append]
    unfold Text.stripRadix
    split
    · rename_i zero x u heq
      obtain ⟨rfl, rfl⟩ := List.cons.inj heq
      rw [if_neg fun h => not_or.2 (ht x u rfl) h.2]
    · rfl
  | hex hzero hx =>
    exact (if_pos ⟨hzero, hx⟩).trans hdigits
  | underscore hzero hx => exact if_pos ⟨hzero, hx⟩

/-- Behind a first digit come digits, underscores and whitespace. -/
theorem not_radix_of_run {t after : List Char} (hrun : DigitRun text (c :: t))
    (hafter : ∀ c ∈ after, text.isSpace c = true) :
    ∀ x u, t ++ after = x :: u → x ≠ 'x' ∧ x ≠ 'X' := by
  intro x u heq
  have hx : text.isRunChar x = true ∨ text.isSpace x = true := by
    cases t with
    | nil => exact .inr (hafter x (by rw [List.nil_append] at heq; simp [heq]))
    | cons y t =>
      rw [← (List.cons.inj heq).1]
      exact .inl (hrun.isRunChar y (by simp))
  have hno (d : Char) (hd : d.toNat < 128) (hrunchar : d ≠ '_') (hnone : asciiDigit d = none)
      (hspace : d ∉ asciiSpaces) : x ≠ d := by
    rintro rfl
    rcases hx with hx | hx
    · simp [Text.isRunChar, hrunchar, text.digit_ascii x hd, hnone] at hx
    · exact hspace ((text.isSpace_ascii x hd).1 hx)
  exact ⟨hno 'x' (by decide) (by decide) (by decide) (by decide),
    hno 'X' (by decide) (by decide) (by decide) (by decide)⟩

/-- Every prefix begins with a digit, as the number without one does. -/
theorem exists_digit_cons {radix : List Char} (hradix : Radix text radix)
    (hc : (text.digit c).isSome = true) (t : List Char) :
    ∃ d u, radix ++ c :: t = d :: u ∧ (text.digit d).isSome = true := by
  cases hradix with
  | none => exact ⟨c, t, rfl, hc⟩
  | hex hzero _ => exact ⟨_, _, rfl, by rw [hzero]; rfl⟩
  | underscore hzero _ => exact ⟨_, _, rfl, by rw [hzero]; rfl⟩

theorem dropWhile_before {before sign : List Char}
    (hbefore : ∀ c ∈ before, text.isSpace c = true) (hsign : sign ∈ signs)
    (hc : text.isSpace c = false) (t : List Char) :
    (before ++ (sign ++ c :: t)).dropWhile text.isSpace = sign ++ c :: t := by
  have hno (d : Char) (hd : d.toNat < 128) (hspace : d ∉ asciiSpaces) :
      ¬ text.isSpace d = true := fun h => hspace ((text.isSpace_ascii d hd).1 h)
  rw [List.dropWhile_append_of_pos hbefore]
  simp only [signs, List.mem_cons, List.not_mem_nil, or_false] at hsign
  rcases hsign with rfl | rfl | rfl
  · exact List.dropWhile_cons_of_neg (by simp [hc])
  · exact List.dropWhile_cons_of_neg (hno '+' (by decide) (by decide))
  · exact List.dropWhile_cons_of_neg (hno '-' (by decide) (by decide))

/-- The digits end where the whitespace begins. -/
theorem span_run {digits after : List Char} (hrun : DigitRun text digits)
    (hafter : ∀ c ∈ after, text.isSpace c = true) :
    (digits ++ after).takeWhile text.isRunChar = digits ∧
      (digits ++ after).dropWhile text.isRunChar = after := by
  have hstop : ∀ c, text.isSpace c = true → ¬ text.isRunChar c = true := by
    intro c hspace hrunchar
    simp only [Text.isRunChar, text.digit_of_space c hspace, Option.isSome_none, Bool.or_false,
      beq_iff_eq] at hrunchar
    subst hrunchar
    exact absurd ((text.isSpace_ascii '_' (by decide)).1 hspace) (by decide)
  rw [List.takeWhile_append_of_pos hrun.isRunChar, List.dropWhile_append_of_pos hrun.isRunChar]
  cases after with
  | nil => simp
  | cons c after =>
    have hc := hstop c (hafter c (by simp))
    rw [List.takeWhile_cons_of_neg hc, List.dropWhile_cons_of_neg hc, List.append_nil]
    exact ⟨rfl, rfl⟩

theorem int16_chars (l : Literal text) : (text.int16 l.chars).isSome = true := by
  obtain ⟨before, sign, radix, digits, after, hbefore, hsign, hradix, hrun, hafter⟩ := l
  obtain ⟨c, t, rfl, hc⟩ := hrun.head
  obtain ⟨d, u, hdigit, hd⟩ := exists_digit_cons hradix hc (t ++ after)
  have hchars : before ++ sign ++ radix ++ (c :: t) ++ after = before ++ (sign ++ d :: u) := by
    rw [← hdigit]
    simp
  have hsplit : (Text.splitSign (sign ++ d :: u)).2 = d :: u :=
    splitSign_append hsign ⟨ne_of_digit (by decide) (by decide) hd,
      ne_of_digit (by decide) (by decide) hd⟩ u
  have hstrip : text.stripRadix (d :: u) = c :: t ++ after := by
    rw [← hdigit]
    apply stripRadix_append hradix (ne_of_digit (by decide) (by decide) hc)
    exact not_radix_of_run hrun hafter
  obtain ⟨htake, hdrop⟩ := span_run hrun hafter
  show (text.int16 (before ++ sign ++ radix ++ (c :: t) ++ after)).isSome = true
  unfold Text.int16
  dsimp only
  rw [hchars, dropWhile_before hbefore hsign (isSpace_eq_false_of_digit hd), hsplit, hstrip, htake,
    hdrop, if_pos (List.all_eq_true.2 hafter), Option.isSome_map, digitsValue_isSome_iff]
  exact hrun

/-- The accepted texts are the literals. -/
theorem int16_isSome_iff (s : List Char) :
    (text.int16 s).isSome = true ↔ ∃ l : Literal text, l.chars = s := by
  constructor
  · exact exists_literal
  · rintro ⟨l, rfl⟩
    exact int16_chars l

theorem DigitRun.isSome_of_plain (h : DigitRun text s)
    (hplain : ∀ c ∈ s, c ≠ '_' ∧ c.toNat < 128) : ∀ c ∈ s, (asciiDigit c).isSome = true := by
  intro c hc
  have hrunchar := h.isRunChar c hc
  obtain ⟨hne, hascii⟩ := hplain c hc
  rw [Text.isRunChar, text.digit_ascii c hascii, Bool.or_eq_true, beq_iff_eq] at hrunchar
  exact hrunchar.resolve_left hne

theorem Literal.mem_chars (l : Literal text) :
    c ∈ l.chars ↔ c ∈ l.before ∨ c ∈ l.sign ∨ c ∈ l.radix ∨ c ∈ l.digits ∨ c ∈ l.after := by
  simp [chars]

theorem eq_nil_of_digits {part : List Char} (hdigits : ∀ c ∈ part, (asciiDigit c).isSome = true)
    (hno : ∀ c ∈ part, asciiDigit c = none) : part = [] := by
  apply List.eq_nil_iff_forall_not_mem.2
  intro c hc
  exact absurd (hdigits c hc) (by simp [hno c hc])

theorem eq_nil_of_spaces {part : List Char} (hdigits : ∀ c ∈ part, (asciiDigit c).isSome = true)
    (hspaces : ∀ c ∈ part, text.isSpace c = true) : part = [] := by
  apply eq_nil_of_digits hdigits
  intro c hc
  have hascii := asciiDigit_lt (hdigits c hc)
  rw [← text.digit_ascii c hascii]
  exact text.digit_of_space c (hspaces c hc)

/-- Every prefix has an x in it. -/
theorem radix_eq_nil {radix : List Char} (hradix : Radix text radix)
    (hdigits : ∀ c ∈ radix, (asciiDigit c).isSome = true) : radix = [] := by
  have hno {x : Char} (hx : x = 'x' ∨ x = 'X') : ¬(asciiDigit x).isSome = true := by
    rcases hx with rfl | rfl
    · decide
    · decide
  cases hradix with
  | none => rfl
  | hex _ hx => exact absurd (hdigits _ (by simp)) (hno hx)
  | underscore _ hx => exact absurd (hdigits _ (by simp)) (hno hx)

/-- A literal is plain when there is nothing but ASCII hex digits in it. -/
theorem Literal.plain_iff (l : Literal text) :
    l.Plain ↔ ∀ c ∈ l.chars, (asciiDigit c).isSome = true := by
  constructor
  · intro h
    have hchars : l.chars = l.digits := by
      rw [chars, h.before, h.sign, h.radix, h.after, List.append_nil, List.append_nil,
        List.append_nil, List.nil_append]
    rw [hchars]
    exact l.run.isSome_of_plain h.digits
  · intro h
    have hsign : ∀ sign ∈ signs, ∀ c ∈ sign, asciiDigit c = none := by simp [signs, asciiDigit]
    simp only [l.mem_chars] at h
    exact {
      before := eq_nil_of_spaces (fun c hc => h c (.inl hc)) l.before_spaces
      sign := eq_nil_of_digits (fun c hc => h c (.inr (.inl hc))) (hsign l.sign l.sign_mem)
      radix := radix_eq_nil l.is_radix fun c hc => h c (.inr (.inr (.inl hc)))
      digits := by
        intro c hc
        have hdigit := h c (.inr (.inr (.inr (.inl hc))))
        refine ⟨?_, asciiDigit_lt hdigit⟩
        rintro rfl
        exact absurd hdigit (by decide)
      after := eq_nil_of_spaces (fun c hc => h c (.inr (.inr (.inr (.inr hc))))) l.after_spaces }

/-- ASCII hex digits without anything else are accepted. -/
theorem exists_plain (hne : s ≠ []) (h : ∀ c ∈ s, (asciiDigit c).isSome = true) :
    ∃ l : Literal text, l.chars = s := by
  have hdigit : ∀ c ∈ s, (text.digit c).isSome = true := by
    intro c hc
    rw [text.digit_ascii c (asciiDigit_lt (h c hc))]
    exact h c hc
  have hrun : DigitRun text s := by
    clear h
    induction s with
    | nil => exact absurd rfl hne
    | cons c s ih =>
      have hc := hdigit c (by simp)
      by_cases hs : s = []
      · subst hs
        exact .last hc
      · exact .next hc (ih hs fun d hd => hdigit d (by simp [hd]))
  let l : Literal text :=
    { before := [], sign := [], radix := [], digits := s, after := [], before_spaces := (by simp),
      sign_mem := (by decide), is_radix := .none, run := hrun, after_spaces := (by simp) }
  exact ⟨l, by simp [l, Literal.chars]⟩

end PythonInt
