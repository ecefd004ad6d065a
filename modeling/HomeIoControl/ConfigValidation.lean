import HomeIoControl.DeviceRegistry
import HomeIoControl.PythonInt

namespace HomeIoControl
open PythonInt

/-! ## At build time -/

/-- The checks of the three validators, which differ in length and messages. -/
def validateHex (length : ℕ) (lengthError hexError : String) (text : Text) (value : String) :
    Except String String :=
  let value := text.upperString value
  if value.length ≠ length then .error lengthError
  else
    match text.int16 value.toList with
    | none => .error hexError
    | some _ => .ok value

def validateNodeId : Text → String → Except String String :=
  validateHex 6 "Node ID must be exactly 6 hex characters (3 bytes)"
    "Node ID must be valid hexadecimal"

def validateSystemKey : Text → String → Except String String :=
  validateHex 32 "System key must be exactly 32 hex characters (16 bytes)"
    "System key must be valid hexadecimal"

def validateDeviceId : Text → String → Except String String :=
  validateHex 6 "Device ID must be exactly 6 hex characters (3 bytes)"
    "Device ID must be valid hexadecimal"

/-! ## At run time -/

def nodeIdSize : ℕ := 3
def aesKeySize : ℕ := 16

/-- Pairs of hex digits as bytes. -/
def hexPairs : List Char → Option (List UInt8)
  | [] => some []
  | [_] => none
  | high :: low :: rest => do
    let byte ← hexByte high low
    let bytes ← hexPairs rest
    pure (byte :: bytes)

/-- `hex_to_bytes` with the caller's length. -/
def hexToBytesOf (len : ℕ) (hex : String) : Option (List UInt8) :=
  if hex.length ≠ len * 2 then none else hexPairs hex.toList

theorem hexNibble_isSome (c : Char) : (hexNibble c).isSome = (asciiDigit c).isSome := by
  unfold hexNibble asciiDigit
  split_ifs <;> rfl

theorem hexByte_isSome (high low : Char) :
    (hexByte high low).isSome = ((asciiDigit high).isSome && (asciiDigit low).isSome) := by
  rw [← hexNibble_isSome, ← hexNibble_isSome, hexByte]
  cases hexNibble high <;> cases hexNibble low <;> rfl

theorem hexPairs_isSome_iff (s : List Char) :
    (hexPairs s).isSome = true ↔
      s.length % 2 = 0 ∧ ∀ c ∈ s, (asciiDigit c).isSome = true := by
  fun_induction hexPairs s with
  | case1 => simp
  | case2 c => simp
  | case3 high low rest ih =>
    have hlength : (high :: low :: rest).length % 2 = rest.length % 2 := by
      simp only [List.length_cons]
      omega
    have hbind : (do
        let byte ← hexByte high low
        let bytes ← hexPairs rest
        pure (byte :: bytes)).isSome = ((hexByte high low).isSome && (hexPairs rest).isSome) := by
      cases hexByte high low <;> cases hexPairs rest <;> rfl
    rw [hbind, hexByte_isSome, Bool.and_eq_true, Bool.and_eq_true, ih, hlength,
      List.forall_mem_cons, List.forall_mem_cons]
    tauto

theorem hexToBytesOf_isSome_iff (len : ℕ) (hex : String) :
    (hexToBytesOf len hex).isSome = true ↔
      hex.length = len * 2 ∧ ∀ c ∈ hex.toList, (asciiDigit c).isSome = true := by
  unfold hexToBytesOf
  split_ifs with hlen
  · exact iff_of_false (by simp) fun h => hlen h.1
  · rw [hexPairs_isSome_iff, String.length_toList]
    have hlen' : hex.length = len * 2 := not_not.1 hlen
    rw [hlen', Nat.mul_mod_left]
    tauto

/-- Node IDs are the case of three bytes. -/
theorem hexToBytes_eq (hex : String) :
    (hexToBytes hex).map Vector.toList = hexToBytesOf nodeIdSize hex := by
  unfold hexToBytes hexToBytesOf
  rw [← String.length_toList]
  generalize hex.toList = s
  match s with
  | [] | [_] | [_, _] | [_, _, _] | [_, _, _, _] | [_, _, _, _, _] => rfl
  | [a, b, c, d, e, f] =>
    simp only [List.length_cons, List.length_nil, hexPairs, nodeIdSize]
    cases hexByte a b <;> cases hexByte c d <;> cases hexByte e f <;> rfl
  | _ :: _ :: _ :: _ :: _ :: _ :: _ :: rest =>
    rw [if_pos]
    · rfl
    · simp only [List.length_cons, nodeIdSize]
      omega

/-! ## Both sides -/

/-- What the validator accepts is read at run time, and texts of the right length that are read at
run time are accepted. -/
def ValidatorAgrees (validate : String → Except String String) (len : ℕ) (value : String) : Prop :=
  (∀ v, validate value = .ok v → (hexToBytesOf len v).isSome = true) ∧
    (value.length = len * 2 → (hexToBytesOf len value).isSome = true →
      ∃ v, validate value = .ok v)

/-- In upper case the text has the right length and is an integer with a sign, a prefix,
whitespace around it, underscores in it or digits of another script. -/
def DecoratedInteger (text : Text) (len : ℕ) (value : String) : Prop :=
  (text.upperString value).length = len * 2 ∧
    ∃ l : Literal text, l.chars = (text.upperString value).toList ∧ ¬ l.Plain

theorem validateHex_eq_ok_iff {text : Text} {length : ℕ} {lengthError hexError value v : String} :
    validateHex length lengthError hexError text value = .ok v ↔
      v = text.upperString value ∧ v.length = length ∧
        ∃ l : Literal text, l.chars = v.toList := by
  rw [← int16_isSome_iff]
  unfold validateHex
  dsimp only
  split_ifs with hlen
  · refine iff_of_false (by simp) ?_
    rintro ⟨rfl, h, -⟩
    exact hlen h
  · cases hint : text.int16 (text.upperString value).toList with
    | none =>
      refine iff_of_false (by simp) ?_
      rintro ⟨rfl, -, h⟩
      rw [hint] at h
      cases h
    | some n =>
      rw [Except.ok.injEq]
      constructor
      · rintro rfl
        exact ⟨rfl, not_not.1 hlen, by rw [hint]; rfl⟩
      · exact fun h => h.1.symm

theorem upperString_length_of_hex (text : Text) {value : String}
    (h : ∀ c ∈ value.toList, (asciiDigit c).isSome = true) :
    (text.upperString value).length = value.length ∧
      ∀ c ∈ (text.upperString value).toList, (asciiDigit c).isSome = true := by
  have hall : ∀ n : Fin 128, (asciiDigit (Char.ofNat n)).isSome = true →
      (asciiDigit (Char.ofNat n).toUpper).isSome = true := by decide
  have hupper : value.toList.flatMap text.upper = value.toList.map Char.toUpper := by
    generalize value.toList = s at h
    induction s with
    | nil => rfl
    | cons c s ih =>
      have hc := text.upper_ascii c (asciiDigit_lt (h c (by simp)))
      rw [List.flatMap_cons, hc, ih fun d hd => h d (by simp [hd])]
      rfl
  unfold Text.upperString
  rw [hupper]
  refine ⟨by rw [← String.length_toList, String.toList_ofList, List.length_map,
    String.length_toList], ?_⟩
  rw [String.toList_ofList]
  intro c hc
  obtain ⟨d, hd, rfl⟩ := List.mem_map.1 hc
  have hdigit := h d hd
  have hlt := asciiDigit_lt hdigit
  have := hall ⟨d.toNat, hlt⟩
  rw [Char.ofNat_toNat] at this
  exact this hdigit

theorem validateHex_agrees_iff (text : Text) (len : ℕ) (hpos : 0 < len)
    (lengthError hexError value : String) :
    ValidatorAgrees (validateHex (len * 2) lengthError hexError text) len value ↔
      ¬ DecoratedInteger text len value := by
  unfold ValidatorAgrees DecoratedInteger
  simp only [validateHex_eq_ok_iff, hexToBytesOf_isSome_iff]
  constructor
  · rintro ⟨h, -⟩ ⟨hlen, l, hl, hplain⟩
    apply hplain
    rw [l.plain_iff, hl]
    exact (h _ ⟨rfl, hlen, l, hl⟩).2
  · intro h
    constructor
    · rintro v ⟨rfl, hlen, l, hl⟩
      refine ⟨hlen, ?_⟩
      rw [← hl, ← l.plain_iff]
      by_contra hplain
      exact h ⟨hlen, l, hl, hplain⟩
    · rintro hlen ⟨-, hhex⟩
      obtain ⟨hupper, hdigits⟩ := upperString_length_of_hex text hhex
      rw [hlen] at hupper
      refine ⟨_, rfl, hupper, exists_plain ?_ hdigits⟩
      intro hnil
      rw [← String.length_toList, hnil] at hupper
      simp at hupper
      omega

/-- Build time and run time agree on exactly the texts that are no decorated integers. -/
theorem validators_agree_iff (text : Text) (value : String) :
    (ValidatorAgrees (validateNodeId text) nodeIdSize value ↔
        ¬ DecoratedInteger text nodeIdSize value) ∧
      (ValidatorAgrees (validateDeviceId text) nodeIdSize value ↔
        ¬ DecoratedInteger text nodeIdSize value) ∧
      (ValidatorAgrees (validateSystemKey text) aesKeySize value ↔
        ¬ DecoratedInteger text aesKeySize value) :=
  ⟨validateHex_agrees_iff text nodeIdSize (by decide) _ _ value,
    validateHex_agrees_iff text nodeIdSize (by decide) _ _ value,
    validateHex_agrees_iff text aesKeySize (by decide) _ _ value⟩

/-- A prefix counts as two of the six characters. -/
theorem prefixed_node_id_accepted :
    ¬ ValidatorAgrees (validateNodeId .ascii) nodeIdSize "0x1234" := by
  intro h
  have hread := h.1 "0X1234" (by decide +kernel)
  exact absurd hread (by decide +kernel)

end HomeIoControl
