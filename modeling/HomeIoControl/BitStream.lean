import Mathlib.Data.List.Basic
import Mathlib.Tactic.Common
import Mathlib.Tactic.IntervalCases

namespace HomeIoControl.BitStream

/-- The bits of a byte, least significant first. -/
def byteBits (b : UInt8) : List Bool := (List.range 8).map fun i => b.toNat.testBit i

/-- The byte with the given bits, least significant first. -/
def ofBits (l : List Bool) : UInt8 := UInt8.ofNat (l.foldr (fun b n => b.toNat + 2 * n) 0)

@[simp] theorem byteBits_length (b : UInt8) : (byteBits b).length = 8 := by simp [byteBits]

@[simp] theorem ofBits_byteBits (b : UInt8) : ofBits (byteBits b) = b := by
  have h : ∀ n : Fin 256, ofBits (byteBits (UInt8.ofNat n.val)) = UInt8.ofNat n.val := by
    decide +kernel
  simpa using h ⟨b.toNat, b.toNat_lt⟩

theorem byteBits_injective : Function.Injective byteBits :=
  Function.LeftInverse.injective ofBits_byteBits

theorem byteBits_ofBits (l : List Bool) (hl : l.length = 8) : byteBits (ofBits l) = l := by
  have h : ∀ b0 b1 b2 b3 b4 b5 b6 b7 : Bool,
      byteBits (ofBits [b0, b1, b2, b3, b4, b5, b6, b7]) = [b0, b1, b2, b3, b4, b5, b6, b7] := by
    decide +kernel
  match l, hl with
  | [b0, b1, b2, b3, b4, b5, b6, b7], _ => exact h b0 b1 b2 b3 b4 b5 b6 b7

/-! ## Bytes as a most-significant-bit-first stream -/

def unpackMsb (bytes : List UInt8) : List Bool := bytes.flatMap fun b => (byteBits b).reverse

/-- Packs a bit stream into bytes, filling the last one with zeros. -/
def packMsb : List Bool → List UInt8
  | b7 :: b6 :: b5 :: b4 :: b3 :: b2 :: b1 :: b0 :: rest =>
    ofBits [b0, b1, b2, b3, b4, b5, b6, b7] :: packMsb rest
  | [] => []
  | short => [ofBits (short ++ List.replicate (8 - short.length) false).reverse]

@[simp] theorem unpackMsb_nil : unpackMsb [] = [] := rfl

@[simp] theorem unpackMsb_cons (b : UInt8) (bs : List UInt8) :
    unpackMsb (b :: bs) = (byteBits b).reverse ++ unpackMsb bs := by
  simp [unpackMsb]

@[simp] theorem unpackMsb_length (bs : List UInt8) : (unpackMsb bs).length = 8 * bs.length := by
  induction bs with
  | nil => rfl
  | cons b bs ih => simp [ih]; omega

theorem packMsb_cons_byte (l rest : List Bool) (hl : l.length = 8) :
    packMsb (l ++ rest) = ofBits l.reverse :: packMsb rest := by
  match l, hl with
  | [b7, b6, b5, b4, b3, b2, b1, b0], _ => rfl

theorem packMsb_unpackMsb (bs : List UInt8) : packMsb (unpackMsb bs) = bs := by
  induction bs with
  | nil => rfl
  | cons b bs ih => rw [unpackMsb_cons, packMsb_cons_byte _ _ (by simp), ih]; simp

theorem unpackMsb_injective : Function.Injective unpackMsb :=
  Function.LeftInverse.injective packMsb_unpackMsb

/-- Packing whole bytes loses nothing. -/
theorem unpackMsb_packMsb (n : ℕ) (l : List Bool) (hl : l.length = 8 * n) :
    unpackMsb (packMsb l) = l := by
  induction n generalizing l with
  | zero =>
    obtain rfl := List.length_eq_zero_iff.1 hl
    rfl
  | succ n ih =>
    have htake : (l.take 8).length = 8 := by simp; omega
    have hdrop : (l.drop 8).length = 8 * n := by simp; omega
    have hpack := packMsb_cons_byte (l.take 8) (l.drop 8) htake
    rw [List.take_append_drop] at hpack
    rw [hpack, unpackMsb_cons, ih _ hdrop, byteBits_ofBits _ (by simpa using htake),
      List.reverse_reverse, List.take_append_drop]

theorem packMsb_short (l : List Bool) (hne : l ≠ []) (hl : l.length < 8) :
    packMsb l = [ofBits (l ++ List.replicate (8 - l.length) false).reverse] := by
  match l, hne, hl with
  | [_], _, _ | [_, _], _, _ | [_, _, _], _, _ | [_, _, _, _], _, _ | [_, _, _, _, _], _, _
  | [_, _, _, _, _, _], _, _ | [_, _, _, _, _, _, _], _, _ => rfl

/-- Unpacking gives the stream back, filled up to whole bytes. -/
theorem unpackMsb_packMsb_append (l : List Bool) :
    ∃ k < 8, unpackMsb (packMsb l) = l ++ List.replicate k false := by
  induction hn : l.length using Nat.strong_induction_on generalizing l with
  | _ n ih =>
    subst hn
    rcases Nat.lt_or_ge l.length 8 with hshort | hlong
    · by_cases hne : l = []
      · exact ⟨0, by decide, by simp [hne, packMsb]⟩
      · have hpos := List.length_pos_iff.2 hne
        have hfilled : (l ++ List.replicate (8 - l.length) false).reverse.length = 8 := by
          simp
          omega
        refine ⟨8 - l.length, by omega, ?_⟩
        rw [packMsb_short l hne hshort, unpackMsb_cons, unpackMsb_nil, byteBits_ofBits _ hfilled,
          List.reverse_reverse, List.append_nil]
    · have htake : (l.take 8).length = 8 := by simp; omega
      have hpack := packMsb_cons_byte (l.take 8) (l.drop 8) htake
      rw [List.take_append_drop] at hpack
      obtain ⟨k, hk, hrest⟩ := ih (l.drop 8).length (by simp; omega) (l.drop 8) rfl
      refine ⟨k, hk, ?_⟩
      rw [hpack, unpackMsb_cons, hrest, byteBits_ofBits _ (by simpa using htake),
        List.reverse_reverse, ← List.append_assoc, List.take_append_drop]

theorem packMsb_length (n : ℕ) (l : List Bool) (hl : l.length = 8 * n) :
    (packMsb l).length = n := by
  have h := congrArg List.length (unpackMsb_packMsb n l hl)
  rw [unpackMsb_length, hl] at h
  omega

theorem unpackMsb_take (n : ℕ) (bs : List UInt8) :
    unpackMsb (bs.take n) = (unpackMsb bs).take (8 * n) := by
  induction bs generalizing n with
  | nil => simp
  | cons b bs ih =>
    cases n with
    | zero => simp
    | succ n =>
      have hb : (byteBits b).reverse.take (8 * (n + 1)) = (byteBits b).reverse :=
        List.take_of_length_le (by simp)
      rw [List.take_succ_cons, unpackMsb_cons, unpackMsb_cons, ih, List.take_append, hb,
        List.length_reverse, byteBits_length, show 8 * (n + 1) - 8 = 8 * n by omega]

theorem unpackMsb_drop (n : ℕ) (bs : List UInt8) :
    unpackMsb (bs.drop n) = (unpackMsb bs).drop (8 * n) := by
  induction bs generalizing n with
  | nil => simp
  | cons b bs ih =>
    cases n with
    | zero => simp
    | succ n =>
      have hb : (byteBits b).reverse.drop (8 * (n + 1)) = [] :=
        List.drop_eq_nil_of_le (by simp)
      rw [List.drop_succ_cons, unpackMsb_cons, ih, List.drop_append, hb, List.nil_append,
        List.length_reverse, byteBits_length, show 8 * (n + 1) - 8 = 8 * n by omega]

theorem unpackMsb_getElem? (bs : List UInt8) (i j : ℕ) (hi : i < bs.length) (hj : j < 8) :
    (unpackMsb bs)[8 * i + j]? = (byteBits (bs.getD i 0)).reverse[j]? := by
  have hdrop := unpackMsb_drop i bs
  rw [List.drop_eq_getElem_cons hi, unpackMsb_cons] at hdrop
  have hget := congrArg (fun l : List Bool => l[j]?) hdrop
  simp only [List.getElem?_drop] at hget
  rw [← hget, List.getElem?_append_left (by simpa using hj), List.getD_eq_getElem?_getD,
    List.getElem?_eq_getElem hi, Option.getD_some]

end HomeIoControl.BitStream
