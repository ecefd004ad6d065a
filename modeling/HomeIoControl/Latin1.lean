import Mathlib.Algebra.Group.Nat.Defs
import Mathlib.Data.List.Basic
import Mathlib.Tactic.Common

namespace Latin1

def leadByte (b : UInt8) : UInt8 := (0xC0 : UInt8) ||| (b >>> 6)

def continuationByte (b : UInt8) : UInt8 := 0x80 ||| (b &&& 0x3F)

/-- The UTF-8 form of a Latin-1 character. -/
def utf8 (b : UInt8) : List UInt8 :=
  if b < 0x80 then [b] else [leadByte b, continuationByte b]

/-- The code point of a two-byte UTF-8 character. -/
def codepoint (lead continuation : UInt8) : UInt16 :=
  ((lead &&& 0x1F).toUInt16 <<< 6) ||| (continuation &&& 0x3F).toUInt16

theorem mul_two_pow_or {a b k : ℕ} (hb : b < 2 ^ k) : a * 2 ^ k ||| b = a * 2 ^ k + b := by
  rw [← Nat.shiftLeft_eq, Nat.shiftLeft_add_eq_or_of_lt hb]

theorem codepoint_toNat (lead continuation : UInt8) :
    (codepoint lead continuation).toNat = lead.toNat % 32 * 64 + continuation.toNat % 64 := by
  have hlead := Nat.and_two_pow_sub_one_eq_mod lead.toNat 5
  have hcontinuation := Nat.and_two_pow_sub_one_eq_mod continuation.toNat 6
  have hshift : ((lead &&& 0x1F).toUInt16 <<< 6).toNat = lead.toNat % 32 * 2 ^ 6 := by
    rw [UInt16.toNat_shiftLeft, UInt8.toNat_toUInt16, UInt8.toNat_and,
      show (0x1F : UInt8).toNat = 2 ^ 5 - 1 from rfl, hlead, Nat.shiftLeft_eq,
      show (6 : UInt16).toNat % 16 = 6 from rfl]
    omega
  have hsum : (codepoint lead continuation).toNat =
      lead.toNat % 32 * 2 ^ 6 + continuation.toNat % 2 ^ 6 := by
    rw [codepoint, UInt16.toNat_or, hshift, UInt8.toNat_toUInt16, UInt8.toNat_and,
      show (0x3F : UInt8).toNat = 2 ^ 6 - 1 from rfl, hcontinuation,
      mul_two_pow_or (Nat.mod_lt _ (by decide))]
  omega

theorem leadByte_toNat (b : UInt8) : (leadByte b).toNat = 192 + b.toNat / 64 := by
  have hb := b.toNat_lt
  have hshift : (b >>> 6).toNat = b.toNat / 64 := by
    rw [UInt8.toNat_shiftRight]
    exact Nat.shiftRight_eq_div_pow b.toNat 6
  have hor : 3 * 2 ^ 6 ||| b.toNat / 64 = 3 * 2 ^ 6 + b.toNat / 64 := mul_two_pow_or (by omega)
  rw [leadByte, UInt8.toNat_or, hshift]
  exact hor

theorem continuationByte_toNat (b : UInt8) :
    (continuationByte b).toNat = 128 + b.toNat % 64 := by
  have hmask := Nat.and_two_pow_sub_one_eq_mod b.toNat 6
  have hor : 2 * 2 ^ 6 ||| b.toNat % 64 = 2 * 2 ^ 6 + b.toNat % 64 :=
    mul_two_pow_or (Nat.mod_lt _ (by decide))
  rw [continuationByte, UInt8.toNat_or, UInt8.toNat_and,
    show (0x3F : UInt8).toNat = 2 ^ 6 - 1 from rfl, hmask]
  exact hor

/-- A two-byte character up to U+00FF, not longer than necessary, is the form of its code point. -/
theorem utf8_codepoint {lead continuation : UInt8} (hlead : lead &&& 0xE0 = 0xC0)
    (hcontinuation : continuation &&& 0xC0 = 0x80) (hmin : 0x80 ≤ codepoint lead continuation)
    (hmax : codepoint lead continuation ≤ 0xFF) :
    utf8 (codepoint lead continuation).toUInt8 = [lead, continuation] := by
  have hleadRange : ∀ b : Fin 256, UInt8.ofNat b.val &&& 0xE0 = 0xC0 →
      192 ≤ b.val ∧ b.val < 224 := by
    decide +kernel
  have hcontinuationRange : ∀ b : Fin 256, UInt8.ofNat b.val &&& 0xC0 = 0x80 →
      128 ≤ b.val ∧ b.val < 192 := by
    decide +kernel
  have h₁ := hleadRange ⟨lead.toNat, lead.toNat_lt⟩ (by simpa using hlead)
  have h₂ := hcontinuationRange ⟨continuation.toNat, continuation.toNat_lt⟩
    (by simpa using hcontinuation)
  have hpoint := codepoint_toNat lead continuation
  have hmin' : 128 ≤ (codepoint lead continuation).toNat := UInt16.le_iff_toNat_le.1 hmin
  have hmax' : (codepoint lead continuation).toNat ≤ 255 := UInt16.le_iff_toNat_le.1 hmax
  have hbyte : (codepoint lead continuation).toUInt8.toNat =
      (codepoint lead continuation).toNat := by
    rw [UInt16.toNat_toUInt8]
    omega
  dsimp only at h₁ h₂
  have hlarge : ¬ (codepoint lead continuation).toUInt8 < 0x80 := by
    rw [UInt8.lt_iff_toNat_lt, hbyte]
    exact Nat.not_lt.2 hmin'
  rw [utf8, if_neg hlarge]
  congr 1
  · apply UInt8.toNat_inj.1
    rw [leadByte_toNat, hbyte]
    omega
  · congr 1
    apply UInt8.toNat_inj.1
    rw [continuationByte_toNat, hbyte]
    omega

/-- The form of a Latin-1 character that is not ASCII is a lead and a continuation byte. -/
theorem codepoint_bytes (b : UInt8) :
    codepoint (leadByte b) (continuationByte b) = b.toUInt16 := by
  have hb := b.toNat_lt
  apply UInt16.toNat_inj.1
  rw [codepoint_toNat, leadByte_toNat, continuationByte_toNat, UInt8.toNat_toUInt16]
  omega

theorem leadByte_and_mask (b : UInt8) : leadByte b &&& 0xE0 = 0xC0 := by
  have hall : ∀ b : Fin 256, leadByte (UInt8.ofNat b.val) &&& 0xE0 = 0xC0 := by decide +kernel
  simpa using hall ⟨b.toNat, b.toNat_lt⟩

theorem continuationByte_and_mask (b : UInt8) : continuationByte b &&& 0xC0 = 0x80 := by
  have hall : ∀ b : Fin 256, continuationByte (UInt8.ofNat b.val) &&& 0xC0 = 0x80 := by
    decide +kernel
  simpa using hall ⟨b.toNat, b.toNat_lt⟩

/-- Up to U+00FF the form is that of the code point. -/
theorem utf8EncodeChar_eq {c : Char} (h : c.toNat ≤ 0xFF) :
    String.utf8EncodeChar c = utf8 (UInt8.ofNat c.toNat) := by
  have hbyte : (UInt8.ofNat c.toNat).toNat = c.toNat := by
    rw [UInt8.toNat_ofNat']
    omega
  unfold String.utf8EncodeChar utf8
  change (if c.toNat ≤ 0x7F then _ else if c.toNat ≤ 0x7FF then _ else _) = _
  by_cases hascii : c.toNat ≤ 0x7F
  · have hlt : UInt8.ofNat c.toNat < 0x80 := by
      rw [UInt8.lt_iff_toNat_lt, hbyte]
      exact Nat.lt_succ_of_le hascii
    rw [if_pos hascii, if_pos hlt]
    rfl
  · have hge : ¬UInt8.ofNat c.toNat < 0x80 := by
      rw [UInt8.lt_iff_toNat_lt, hbyte]
      exact fun hlt => hascii (Nat.le_of_lt_succ hlt)
    rw [if_neg hascii, if_pos (by omega), if_neg hge]
    congr 1
    · apply UInt8.toNat_inj.1
      rw [leadByte_toNat, hbyte, UInt8.toNat_ofNat']
      change (c.toNat / 64 % 0x20 + 0xC0) % 2 ^ 8 = _
      omega
    · congr 1
      apply UInt8.toNat_inj.1
      rw [continuationByte_toNat, hbyte, UInt8.toNat_ofNat']
      change (c.toNat % 0x40 + 0x80) % 2 ^ 8 = _
      omega

theorem utf8_length_le (b : UInt8) : (utf8 b).length ≤ 2 := by
  unfold utf8
  split_ifs <;> simp

theorem flatMap_utf8_length_le (l : List UInt8) : (l.flatMap utf8).length ≤ 2 * l.length := by
  induction l with
  | nil => simp
  | cons b l ih =>
    have hb := utf8_length_le b
    rw [List.flatMap_cons, List.length_append, List.length_cons]
    omega

/-- The bytes of a character that is not ASCII are not ASCII. -/
theorem le_of_mem_utf8 {b c : UInt8} (hb : ¬ b < 0x80) (hc : c ∈ utf8 b) : 0x80 ≤ c := by
  rw [utf8, if_neg hb, List.mem_cons, List.mem_singleton] at hc
  rw [UInt8.le_iff_toNat_le]
  rcases hc with rfl | rfl
  · rw [leadByte_toNat]
    show 128 ≤ _
    omega
  · rw [continuationByte_toNat]
    show 128 ≤ _
    omega

/-- An ASCII byte of a character is the character. -/
theorem eq_of_mem_utf8 {b c : UInt8} (hascii : c < 0x80) (hc : c ∈ utf8 b) : b = c := by
  by_cases hb : b < 0x80
  · rw [utf8, if_pos hb, List.mem_singleton] at hc
    exact hc.symm
  · exact absurd (le_of_mem_utf8 hb hc) (UInt8.not_le.2 hascii)

theorem utf8_of_lt {b : UInt8} (hb : b < 0x80) : utf8 b = [b] := if_pos hb

theorem mem_flatMap_utf8 {l : List UInt8} {c : UInt8} (hascii : c < 0x80) :
    c ∈ l.flatMap utf8 ↔ c ∈ l := by
  rw [List.mem_flatMap]
  constructor
  · rintro ⟨b, hb, hc⟩
    rwa [← eq_of_mem_utf8 hascii hc]
  · intro hc
    exact ⟨c, hc, by rw [utf8_of_lt hascii, List.mem_singleton]⟩

/-! ## Characters that fit -/

/-- Whole characters, as long as there is room for the next one. -/
def fitting : ℕ → List UInt8 → List UInt8
  | _, [] => []
  | room, b :: l =>
    if (utf8 b).length ≤ room then b :: fitting (room - (utf8 b).length) l else []

theorem exists_fitting_append (room : ℕ) (l : List UInt8) : ∃ rest, fitting room l ++ rest = l := by
  induction l generalizing room with
  | nil => exact ⟨[], rfl⟩
  | cons b l ih =>
    unfold fitting
    split
    · obtain ⟨rest, hrest⟩ := ih (room - (utf8 b).length)
      exact ⟨rest, congrArg (b :: ·) hrest⟩
    · exact ⟨b :: l, rfl⟩

theorem length_fitting_le (room : ℕ) (l : List UInt8) :
    ((fitting room l).flatMap utf8).length ≤ room := by
  induction l generalizing room with
  | nil => exact Nat.zero_le room
  | cons b l ih =>
    unfold fitting
    split
    · have htail := ih (room - (utf8 b).length)
      rw [List.flatMap_cons, List.length_append]
      omega
    · exact Nat.zero_le room

/-- The character behind those that fit does not fit any more. -/
theorem lt_length_next {room : ℕ} {l rest : List UInt8} {next : UInt8}
    (h : fitting room l ++ next :: rest = l) :
    room < ((fitting room l).flatMap utf8 ++ utf8 next).length := by
  induction l generalizing room with
  | nil => simp [fitting] at h
  | cons b l ih =>
    unfold fitting at h ⊢
    split at h
    · rename_i hfits
      rw [if_pos hfits, List.flatMap_cons, List.append_assoc, List.length_append]
      have htail := ih (List.cons.inj h).2
      omega
    · rename_i hfull
      rw [if_neg hfull, (List.cons.inj h).1]
      exact Nat.lt_of_not_le hfull

theorem fitting_eq_self {room : ℕ} {l : List UInt8} (h : (l.flatMap utf8).length ≤ room) :
    fitting room l = l := by
  obtain ⟨rest, hrest⟩ := exists_fitting_append room l
  cases rest with
  | nil => exact (List.append_nil _).symm.trans hrest
  | cons next rest =>
    have hnext := lt_length_next hrest
    rw [← hrest, List.flatMap_append, List.flatMap_cons, ← List.append_assoc,
      List.length_append] at h
    omega

end Latin1
