import HomeIoControl.PhyRoundTrip
import HomeIoControl.ShiftRegister
import Mathlib.Data.List.GetD

namespace HomeIoControl
open AffineRegister BitStream ShiftRegister

/-! ## The CRC as a shift register -/

/-- A word under exclusive or. -/
@[ext] structure XorWord where
  word : UInt16
  deriving DecidableEq

namespace XorWord

instance : Add XorWord := ⟨fun a b => ⟨a.word ^^^ b.word⟩⟩
instance : Zero XorWord := ⟨⟨0⟩⟩
instance : Neg XorWord := ⟨id⟩

@[simp] theorem word_add (a b : XorWord) : (a + b).word = a.word ^^^ b.word := rfl
@[simp] theorem word_zero : (0 : XorWord).word = 0 := rfl

instance : AddCommGroup XorWord where
  add_assoc a b c := by ext; simp [UInt16.xor_assoc]
  zero_add a := by ext; simp
  add_zero a := by ext; simp
  neg_add_cancel _ := XorWord.ext UInt16.xor_self
  add_comm a b := by ext; simp [UInt16.xor_comm]
  nsmul := nsmulRec
  zsmul := zsmulRec

end XorWord

theorem lowBit_eq (crc : UInt16) : (crc &&& 1 != 0) = crc.toNat.testBit 0 := by
  have hmask : (crc &&& 1).toNat = crc.toNat % 2 := by
    rw [UInt16.toNat_and]
    exact Nat.and_one_is_mod crc.toNat
  rw [Nat.testBit_zero, ← hmask, bne, beq_eq_decide, ← decide_not, decide_eq_decide,
    ← UInt16.toNat_inj, hmask, UInt16.toNat_zero]
  omega

/-- The polynomial, if the lowest bit is set. -/
def crcFeedback (crc : UInt16) : UInt16 :=
  if crc.toNat.testBit 0 then crcPolynomialReversed else 0

theorem crcShift_eq (crc : UInt16) : crcShift crc = (crc >>> 1) ^^^ crcFeedback crc := by
  unfold crcShift crcFeedback
  rw [lowBit_eq]
  split
  · rfl
  · exact UInt16.xor_zero.symm

theorem crcFeedback_xor (a b : UInt16) :
    crcFeedback (a ^^^ b) = crcFeedback a ^^^ crcFeedback b := by
  unfold crcFeedback
  rw [UInt16.toNat_xor, Nat.testBit_xor]
  cases a.toNat.testBit 0 <;> cases b.toNat.testBit 0 <;> simp

/-- One bit of the CRC is linear. -/
def crcRegister : AddMonoid.End XorWord where
  toFun w := ⟨crcShift w.word⟩
  map_zero' := rfl
  map_add' a b := by
    ext
    simp only [XorWord.word_add, crcShift_eq, UInt16.shiftRight_xor, crcFeedback_xor]
    ac_rfl

theorem shiftRight_one_toNat (crc : UInt16) : (crc >>> 1).toNat = crc.toNat / 2 := by
  rw [UInt16.toNat_shiftRight]
  exact Nat.shiftRight_eq_div_pow crc.toNat 1

/-- Only zero is shifted to zero: the polynomial has the top bit that a shift leaves free. -/
theorem crcShift_eq_zero {crc : UInt16} (h : crcShift crc = 0) : crc = 0 := by
  have hlt := crc.toNat_lt
  rw [crcShift_eq, UInt16.xor_eq_zero_iff] at h
  have hhalf := congrArg UInt16.toNat h
  rw [shiftRight_one_toNat] at hhalf
  unfold crcFeedback at hhalf
  apply UInt16.toNat_inj.1
  split at hhalf
  · rw [show crcPolynomialReversed.toNat = 33800 from rfl] at hhalf
    omega
  · rename_i hlow
    rw [Nat.testBit_zero, decide_eq_true_eq] at hlow
    rw [UInt16.toNat_zero] at hhalf ⊢
    omega

theorem crcRegister_injective : Function.Injective crcRegister := by
  rw [injective_iff_map_eq_zero]
  intro w h
  exact XorWord.ext (crcShift_eq_zero (congrArg XorWord.word h))

/-- The word with one bit set. -/
def unitWord (i : ℕ) : XorWord := ⟨.ofNat (2 ^ i)⟩

theorem crcRegister_movesDown : MovesDown crcRegister unitWord 16 := by
  intro i hi
  have hplace : i < 15 := by omega
  interval_cases i <;> rfl

/-! ## Words of the bit stream -/

/-- The bytes as they are sent, least significant bit first. -/
def unpackLsb (bytes : List UInt8) : List Bool := bytes.flatMap byteBits

@[simp] theorem unpackLsb_nil : unpackLsb [] = [] := rfl

@[simp] theorem unpackLsb_cons (b : UInt8) (bs : List UInt8) :
    unpackLsb (b :: bs) = byteBits b ++ unpackLsb bs := List.flatMap_cons

theorem unpackLsb_length (bs : List UInt8) : (unpackLsb bs).length = 8 * bs.length := by
  induction bs with
  | nil => rfl
  | cons b bs ih =>
    rw [unpackLsb_cons, List.length_append, byteBits_length, ih, List.length_cons]
    omega

theorem unitWord_testBit {i : ℕ} (hi : i < 16) (j : ℕ) :
    (unitWord i).word.toNat.testBit j = decide (i = j) := by
  have hlt : 2 ^ i < 2 ^ 16 := Nat.pow_lt_pow_right (by decide) hi
  rw [unitWord, UInt16.toNat_ofNat', Nat.mod_eq_of_lt hlt, Nat.testBit_two_pow]

theorem word_testBit (bits : List Bool) (i : ℕ) (hfits : i + bits.length ≤ 16) (j : ℕ) :
    (word unitWord i bits).word.toNat.testBit j = (decide (i ≤ j) && bits.getD (j - i) false) := by
  induction bits generalizing i with
  | nil => simp [word]
  | cons b bits ih =>
    rw [List.length_cons] at hfits
    have hbit : (bitAt unitWord i b).word.toNat.testBit j = (decide (i = j) && b) := by
      cases b with
      | false => simp [bitAt]
      | true => simpa [bitAt] using unitWord_testBit (by omega) j
    rw [word, XorWord.word_add, UInt16.toNat_xor, Nat.testBit_xor, hbit, ih (i + 1) (by omega)]
    rcases Nat.lt_trichotomy i j with hlt | heq | hgt
    · obtain ⟨k, rfl⟩ := Nat.exists_eq_add_of_lt hlt
      have hne : i ≠ i + k + 1 := by omega
      have hle : i ≤ i + k + 1 := by omega
      simp [hne, hle, show i + k + 1 - i = k + 1 by omega, show i + k + 1 - (i + 1) = k by omega]
    · simp [heq]
    · simp [show ¬i ≤ j by omega, show ¬i = j by omega, show ¬i + 1 ≤ j by omega]

/-- Sixteen bits are told apart by the word they make up. -/
theorem word_inj {bits bits' : List Bool} (hlength : bits.length = bits'.length)
    (hfits : bits.length ≤ 16) (h : word unitWord 0 bits = word unitWord 0 bits') :
    bits = bits' := by
  apply List.ext_getElem hlength
  intro j hj hj'
  have hbit := congrArg (fun w : XorWord => w.word.toNat.testBit j) h
  rw [word_testBit bits 0 (by omega), word_testBit bits' 0 (by omega)] at hbit
  simpa [hj, hj'] using hbit

/-- A word is made up of its own bits. -/
theorem word_of_bits (w : UInt16) {bits : List Bool} (hlength : bits.length ≤ 16)
    (h : ∀ j < 16, bits.getD j false = w.toNat.testBit j) : word unitWord 0 bits = ⟨w⟩ := by
  apply XorWord.ext
  apply UInt16.toNat_inj.1
  apply Nat.eq_of_testBit_eq
  intro j
  rw [word_testBit bits 0 (by omega)]
  rcases Nat.lt_or_ge j 16 with hj | hj
  · simpa using h j hj
  · have hhigh : w.toNat.testBit j = false :=
      Nat.testBit_lt_two_pow (w.toNat_lt.trans_le (Nat.pow_le_pow_right (by decide) hj))
    simp [hhigh, List.getElem?_eq_none (hlength.trans hj)]

theorem byteBits_getD (b : UInt8) {j : ℕ} (hj : j < 8) :
    (byteBits b).getD j false = b.toNat.testBit j := by
  simp [byteBits, hj]

theorem testBit_of_ge (b : UInt8) {j : ℕ} (hj : 8 ≤ j) : b.toNat.testBit j = false :=
  Nat.testBit_lt_two_pow (b.toNat_lt.trans_le (Nat.pow_le_pow_right (by decide) hj))

theorem word_byteBits (b : UInt8) : word unitWord 0 (byteBits b) = ⟨b.toUInt16⟩ := by
  apply word_of_bits _ (by simp)
  intro j _
  rw [UInt8.toNat_toUInt16]
  rcases Nat.lt_or_ge j 8 with hj | hj
  · exact byteBits_getD b hj
  · rw [testBit_of_ge b hj, List.getD_eq_default _ _ (by simpa using hj)]

/-! ## The CRC runs over the bit stream -/

theorem crcRegister_pow (n : ℕ) (crc : UInt16) :
    (crcRegister ^ n) ⟨crc⟩ = ⟨crcShift^[n] crc⟩ := by
  rw [AddMonoid.End.coe_pow]
  induction n generalizing crc with
  | zero => rfl
  | succ n ih => exact ih (crcShift crc)

theorem runBits_byteBits (crc : UInt16) (b : UInt8) :
    runBits crcRegister unitWord ⟨crc⟩ (byteBits b) = ⟨crcByte crc b⟩ := by
  have hsum : (⟨crc⟩ + ⟨b.toUInt16⟩ : XorWord) = ⟨crc ^^^ b.toUInt16⟩ := rfl
  rw [runBits_eq crcRegister_movesDown _ _ (by simp), byteBits_length, word_byteBits, hsum,
    crcRegister_pow, crcByte]

theorem runBits_unpackLsb (crc : UInt16) (data : List UInt8) :
    runBits crcRegister unitWord ⟨crc⟩ (unpackLsb data) = ⟨data.foldl crcByte crc⟩ := by
  induction data generalizing crc with
  | nil => rfl
  | cons b data ih => rw [unpackLsb_cons, runBits_append, runBits_byteBits, ih, List.foldl_cons]

theorem crcCcitt_eq_runBits (data : List UInt8) :
    runBits crcRegister unitWord 0 (unpackLsb data) = ⟨crcCcitt data⟩ := runBits_unpackLsb 0 data

/-! ## What the receiver relies on -/

theorem toNat_shiftLeft_eight (high : UInt8) :
    (high.toUInt16 <<< 8).toNat = 2 ^ 8 * high.toNat := by
  have hhigh := high.toNat_lt
  rw [UInt16.toNat_shiftLeft, UInt8.toNat_toUInt16, show (8 : UInt16).toNat % 16 = 8 from rfl,
    Nat.shiftLeft_eq]
  omega

/-- The two bytes behind a frame hold the bits of the CRC that the receiver reads. -/
theorem word_crcBytes (low high : UInt8) :
    word unitWord 0 (unpackLsb [low, high]) = ⟨low.toUInt16 ||| (high.toUInt16 <<< 8)⟩ := by
  apply word_of_bits _ (by simp)
  intro j _
  rw [unpackLsb_cons, unpackLsb_cons, unpackLsb_nil, List.append_nil, UInt16.toNat_or,
    UInt8.toNat_toUInt16, toNat_shiftLeft_eight, Nat.testBit_or, Nat.testBit_two_pow_mul]
  rcases Nat.lt_or_ge j 8 with hlow | hhigh
  · rw [List.getD_append _ _ _ _ (by simpa using hlow), byteBits_getD _ hlow]
    simp [hlow]
  · rw [List.getD_append_right _ _ _ _ (by simpa using hhigh), byteBits_length,
      byteBits_getD _ (by omega), testBit_of_ge low hhigh]
    simp [hhigh]

/-- The receiver's check asks whether the register is empty behind the CRC. -/
theorem crcCcitt_append_eq_zero_iff (data : List UInt8) (low high : UInt8) :
    crcCcitt (data ++ [low, high]) = 0 ↔
      crcCcitt data = low.toUInt16 ||| (high.toUInt16 <<< 8) := by
  have hrun := runBits_unpackLsb (crcCcitt data) [low, high]
  rw [runBits_eq crcRegister_movesDown _ _ (by simp), word_crcBytes] at hrun
  have hinjective : Function.Injective (crcRegister ^ (unpackLsb [low, high]).length) := by
    rw [AddMonoid.End.coe_pow]
    exact crcRegister_injective.iterate _
  have hsum : crcCcitt (data ++ [low, high]) = [low, high].foldl crcByte (crcCcitt data) :=
    List.foldl_append
  rw [hsum, ← @UInt16.xor_eq_zero_iff (crcCcitt data)]
  constructor
  · intro hzero
    rw [hzero] at hrun
    exact congrArg XorWord.word (hinjective (hrun.trans (map_zero _).symm))
  · intro hzero
    have hstart : (⟨crcCcitt data⟩ + ⟨low.toUInt16 ||| (high.toUInt16 <<< 8)⟩ : XorWord) = 0 :=
      XorWord.ext hzero
    rw [hstart, map_zero] at hrun
    exact (congrArg XorWord.word hrun).symm

/-- A frame with its own CRC behind it leaves the register empty. -/
theorem crcCcitt_frameWithCrc (data : List UInt8) : crcCcitt (frameWithCrc data) = 0 := by
  rw [frameWithCrc, crcCcitt_append_eq_zero_iff, crcLow_or_crcHigh]

theorem unpackLsb_injective {data data' : List UInt8} (hlength : data.length = data'.length)
    (h : unpackLsb data = unpackLsb data') : data = data' := by
  induction data generalizing data' with
  | nil => exact (List.length_eq_zero_iff.1 hlength.symm).symm
  | cons b data ih =>
    match data', hlength with
    | b' :: data', hlength =>
      rw [unpackLsb_cons, unpackLsb_cons] at h
      have hsplit := List.append_inj h (by simp)
      rw [byteBits_injective hsplit.1, ih (Nat.succ_inj.1 hlength) hsplit.2]

/-- A burst of at most sixteen bits changes the CRC. -/
theorem crcCcitt_ne_of_burst {data data' : List UInt8} {start : ℕ}
    (hlength : data.length = data'.length) (hne : data ≠ data')
    (hburst : DifferWithin start 16 (unpackLsb data) (unpackLsb data')) :
    crcCcitt data ≠ crcCcitt data' := by
  have hbits : (unpackLsb data).length = (unpackLsb data').length := by
    rw [unpackLsb_length, unpackLsb_length, hlength]
  have hstreams : unpackLsb data ≠ unpackLsb data' := fun h => hne (unpackLsb_injective hlength h)
  intro hcrc
  apply runBits_ne_of_burst crcRegister_movesDown crcRegister_injective
    (fun _ _ hsame hfits => word_inj hsame hfits) 0 hbits hstreams hburst
  rw [crcCcitt_eq_runBits, crcCcitt_eq_runBits, hcrc]

/-- A frame leaves the register empty with its CRC behind it, and a burst of at most sixteen bits
does not stay hidden from it. -/
theorem crcCcitt_detects_bursts :
    (∀ data : List UInt8, crcCcitt (frameWithCrc data) = 0) ∧
      ∀ data data' : List UInt8, data.length = data'.length → data ≠ data' →
        (∃ start, DifferWithin start 16 (unpackLsb data) (unpackLsb data')) →
        crcCcitt data ≠ crcCcitt data' := by
  refine ⟨crcCcitt_frameWithCrc, fun data data' hlength hne hburst => ?_⟩
  obtain ⟨start, hburst⟩ := hburst
  exact crcCcitt_ne_of_burst hlength hne hburst

/-- Two bytes of a frame may change in any way. -/
theorem crcCcitt_detects_two_bytes : crcCcitt [0x5A, 0x00] ≠ crcCcitt [0xA5, 0xFF] := by
  refine crcCcitt_detects_bursts.2 [0x5A, 0x00] [0xA5, 0xFF] rfl (by decide) ?_
  refine ⟨0, fun i hi => ⟨Nat.zero_le i, ?_⟩⟩
  by_contra hpast
  apply hi
  rw [List.getElem?_eq_none (by simpa using hpast), List.getElem?_eq_none (by simpa using hpast)]

end HomeIoControl
