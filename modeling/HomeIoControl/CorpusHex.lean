import HomeIoControl.Frame
import HomeIoControl.PythonInt

namespace HomeIoControl.Corpus

/-! ## Characters of a string -/

/-- The ASCII characters that `str.isspace` takes: the four separators of information as well,
which `int` and `bytes.fromhex` do not skip. -/
def strSpaces : List Char := [9, 10, 11, 12, 13, 28, 29, 30, 31, 32].map Char.ofNat

/-- What the methods of `str` ask the character database: full uppercase forms, whitespace, and
digits, decimal digits of other scripts included. -/
structure StrText where
  upper : Char → List Char
  isSpace : Char → Bool
  digit : Char → Option ℕ
  upper_ascii : ∀ c, c.toNat < 128 → upper c = [c.toUpper]
  isSpace_ascii : ∀ c, c.toNat < 128 → (isSpace c = true ↔ c ∈ strSpaces)
  digit_ascii : ∀ c, c.toNat < 128 → digit c = PythonInt.asciiDigit c

/-- The characters of ASCII alone. -/
def StrText.ascii : StrText where
  upper := PythonInt.Text.ascii.upper
  isSpace c := decide (c ∈ strSpaces)
  digit := PythonInt.Text.ascii.digit
  upper_ascii := PythonInt.Text.ascii.upper_ascii
  isSpace_ascii _ _ := decide_eq_true_iff
  digit_ascii := PythonInt.Text.ascii.digit_ascii

/-! ## Hex text -/

/-- `bytes.fromhex` -/
def bytesFromHex : List Char → Option (List UInt8)
  | [] => some []
  | [c] => if c ∈ PythonInt.asciiSpaces then some [] else none
  | c :: d :: rest =>
    if c ∈ PythonInt.asciiSpaces then bytesFromHex (d :: rest)
    else
      match PythonInt.asciiDigit c, PythonInt.asciiDigit d with
      | some high, some low => (bytesFromHex rest).map (UInt8.ofNat (16 * high + low) :: ·)
      | _, _ => none

/-- `"".join(s.split())` -/
def compact (text : StrText) (s : List Char) : List Char :=
  s.filter fun c => !text.isSpace c

def parseHex (text : StrText) (s : List Char) : Option (List UInt8) :=
  bytesFromHex (compact text s)

/-- `" ".join(f"{b:02X}" for b in raw)` -/
def joinHex : List UInt8 → List Char
  | [] => []
  | [b] => byteHex b
  | b :: c :: rest => byteHex b ++ ' ' :: joinHex (c :: rest)

/-! ## Reading back -/

theorem asciiDigit_hexDigit {n : ℕ} (h : n < 16) : PythonInt.asciiDigit (hexDigit n) = some n := by
  have hall : ∀ i : Fin 16, PythonInt.asciiDigit (hexDigit i) = some i.val := by decide
  exact hall ⟨n, h⟩

theorem hexDigit_notMem_asciiSpaces {n : ℕ} (h : n < 16) :
    hexDigit n ∉ PythonInt.asciiSpaces := by
  intro hmem
  have hnone := PythonInt.asciiDigit_of_space hmem
  rw [asciiDigit_hexDigit h] at hnone
  cases hnone

theorem hexDigit_notMem_strSpaces {n : ℕ} (h : n < 16) : hexDigit n ∉ strSpaces := by
  have hall : ∀ i : Fin 16, hexDigit i ∉ strSpaces := by decide
  exact hall ⟨n, h⟩

theorem bytesFromHex_byteHex (b : UInt8) (rest : List Char) :
    bytesFromHex (byteHex b ++ rest) = (bytesFromHex rest).map (b :: ·) := by
  have hb := b.toNat_lt
  have hhigh : b.toNat / 16 < 16 := by omega
  have hlow : b.toNat % 16 < 16 := Nat.mod_lt _ (by omega)
  have hvalue : UInt8.ofNat (16 * (b.toNat / 16) + b.toNat % 16) = b := by
    rw [Nat.div_add_mod, UInt8.ofNat_toNat]
  rw [byteHex, List.cons_append, List.cons_append, List.nil_append, bytesFromHex,
    if_neg (hexDigit_notMem_asciiSpaces hhigh), asciiDigit_hexDigit hhigh,
    asciiDigit_hexDigit hlow]
  dsimp only
  rw [hvalue]

theorem bytesFromHex_flatMap (bytes : List UInt8) :
    bytesFromHex (bytes.flatMap byteHex) = some bytes := by
  induction bytes with
  | nil => rfl
  | cons b bytes ih => rw [List.flatMap_cons, bytesFromHex_byteHex, ih, Option.map_some]

section
variable (text : StrText)

theorem isSpace_hexDigit {n : ℕ} (h : n < 16) : text.isSpace (hexDigit n) = false := by
  have hsome : (PythonInt.asciiDigit (hexDigit n)).isSome = true := by
    rw [asciiDigit_hexDigit h, Option.isSome_some]
  have hascii := PythonInt.asciiDigit_lt hsome
  rw [← Bool.not_eq_true, text.isSpace_ascii _ hascii]
  exact hexDigit_notMem_strSpaces h

theorem isSpace_blank : text.isSpace ' ' = true :=
  (text.isSpace_ascii ' ' (by decide)).2 (by simp [strSpaces])

theorem compact_append (s t : List Char) :
    compact text (s ++ t) = compact text s ++ compact text t :=
  List.filter_append ..

theorem compact_byteHex (b : UInt8) : compact text (byteHex b) = byteHex b := by
  have hb := b.toNat_lt
  have hhigh : b.toNat / 16 < 16 := by omega
  rw [compact, byteHex, List.filter_cons_of_pos (by rw [isSpace_hexDigit text hhigh]; rfl),
    List.filter_cons_of_pos
      (by rw [isSpace_hexDigit text (Nat.mod_lt _ (by omega))]; rfl), List.filter_nil]

theorem compact_blank_cons (s : List Char) : compact text (' ' :: s) = compact text s := by
  rw [compact, compact, List.filter_cons_of_neg]
  rw [isSpace_blank]
  exact Bool.false_ne_true

theorem compact_joinHex (bytes : List UInt8) :
    compact text (joinHex bytes) = bytes.flatMap byteHex := by
  induction bytes with
  | nil => rfl
  | cons b bytes ih =>
    cases bytes with
    | nil => rw [joinHex, compact_byteHex, List.flatMap_cons, List.flatMap_nil, List.append_nil]
    | cons c bytes =>
      rw [joinHex, compact_append, compact_byteHex, compact_blank_cons, ih,
        ← List.flatMap_cons]

/-- The text of some bytes reads back as these bytes. -/
theorem parseHex_joinHex (bytes : List UInt8) : parseHex text (joinHex bytes) = some bytes := by
  rw [parseHex, compact_joinHex, bytesFromHex_flatMap]

end

end HomeIoControl.Corpus
