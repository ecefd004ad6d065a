import HomeIoControl.AesInverse
import HomeIoControl.Rijndael

namespace HomeIoControl
open Rijndael

/-! ## Bytes as field elements -/

def byteBits (b : UInt8) : Fin 8 → ZMod 2 := fun i => if b.toNat.testBit i then 1 else 0

noncomputable def cell (b : UInt8) : Cell := ofBits (byteBits b)

theorem byteBits_injective : Function.Injective byteBits := by
  intro a b h
  apply UInt8.toNat_inj.1
  apply Nat.eq_of_testBit_eq
  intro i
  by_cases hi : i < 8
  · have hbit := congrFun h ⟨i, hi⟩
    unfold byteBits at hbit
    cases ha : a.toNat.testBit i <;> cases hb : b.toNat.testBit i <;> simp_all
  · have hpow : 2 ^ 8 ≤ 2 ^ i := Nat.pow_le_pow_right (by decide) (by omega)
    rw [Nat.testBit_lt_two_pow (a.toNat_lt.trans_le hpow),
      Nat.testBit_lt_two_pow (b.toNat_lt.trans_le hpow)]

theorem cell_injective : Function.Injective cell := ofBits_injective.comp byteBits_injective

theorem byteBits_xor (a b : UInt8) : byteBits (a ^^^ b) = byteBits a + byteBits b := by
  funext i
  simp only [byteBits, UInt8.toNat_xor, Nat.testBit_xor, Pi.add_apply]
  cases a.toNat.testBit i <;> cases b.toNat.testBit i <;> decide

theorem cell_xor (a b : UInt8) : cell (a ^^^ b) = cell a + cell b := by
  rw [cell, byteBits_xor, ofBits_add]
  rfl

theorem cell_zero : cell 0 = 0 := by
  have h := cell_xor 0 0
  rw [UInt8.xor_self] at h
  exact left_eq_add.1 h

theorem cell_one : cell 1 = 1 := by
  rw [cell, ofBits_eq_sum, Fin.sum_univ_eight]
  simp [byteBits, Nat.testBit_succ]

theorem byteBits_shiftLeft_one (a : UInt8) :
    byteBits (a <<< 1) = ![0, byteBits a 0, byteBits a 1, byteBits a 2, byteBits a 3,
      byteBits a 4, byteBits a 5, byteBits a 6] := by
  have hshift : (a <<< 1).toNat = a.toNat <<< 1 % 2 ^ 8 := by simp
  funext i
  simp only [byteBits, hshift, Nat.testBit_mod_two_pow, Nat.testBit_shiftLeft]
  fin_cases i <;> rfl

theorem byteBits_shiftRight_one (a : UInt8) :
    byteBits (a >>> 1) = ![byteBits a 1, byteBits a 2, byteBits a 3, byteBits a 4, byteBits a 5,
      byteBits a 6, byteBits a 7, 0] := by
  have hshift : (a >>> 1).toNat = a.toNat >>> 1 := by simp
  have htop : a.toNat.testBit 8 = false := Nat.testBit_lt_two_pow a.toNat_lt
  funext i
  simp only [byteBits, hshift, Nat.testBit_shiftRight]
  fin_cases i <;> simp [htop]

theorem byteBits_top (a : UInt8) : byteBits a 7 = if a ≥ 128 then 1 else 0 := by
  have htop : a.toNat.testBit 7 = decide (a ≥ 128) := by
    have hlt := a.toNat_lt
    rw [Nat.testBit_eq_decide_div_mod_eq, decide_eq_decide, ge_iff_le, UInt8.le_iff_toNat_le]
    simp only [UInt8.reduceToNat]
    omega
  simp [byteBits, htop]

theorem cell_aesDouble (a : UInt8) : cell (aesDouble a) = x * cell a := by
  -- 0x1B is the modulus without its top coefficient
  have hreduction : byteBits 0x1B = ![1, 1, 0, 1, 1, 0, 0, 0] := by decide
  have hbits : byteBits (aesDouble a) = ![byteBits a 7, byteBits a 0 + byteBits a 7, byteBits a 1,
      byteBits a 2 + byteBits a 7, byteBits a 3 + byteBits a 7, byteBits a 4, byteBits a 5,
      byteBits a 6] := by
    rw [byteBits_top]
    unfold aesDouble
    rcases topBit_cases a with ⟨-, hmask, hbelow⟩ | ⟨-, hmask, habove⟩
    · rw [if_neg (by simp [hmask]), if_neg hbelow, byteBits_shiftLeft_one]
      simp only [add_zero]
    · rw [if_pos (by simp [hmask]), if_pos habove, byteBits_xor, byteBits_shiftLeft_one,
        hreduction]
      funext i
      fin_cases i <;> simp
  rw [cell, hbits, ← x_mul_ofBits]
  rfl

/-! ## Products -/

theorem cell_and_one (a : UInt8) :
    cell (a &&& 1) = if a &&& (1 : UInt8) != 0 then (1 : Cell) else 0 := by
  have hmod : (a &&& 1).toNat = a.toNat % 2 := by
    rw [UInt8.toNat_and]
    exact Nat.and_one_is_mod a.toNat
  rcases Nat.mod_two_eq_zero_or_one a.toNat with hlow | hlow
  · have hzero : a &&& 1 = 0 := UInt8.toNat_inj.1 (hmod.trans hlow)
    rw [hzero, cell_zero]
    rfl
  · have hone : a &&& 1 = 1 := UInt8.toNat_inj.1 (hmod.trans hlow)
    rw [hone, cell_one]
    rfl

theorem cell_shiftRight (a : UInt8) :
    cell a = (if a &&& (1 : UInt8) != 0 then (1 : Cell) else 0) + x * cell (a >>> 1) := by
  have hbits : byteBits a = byteBits (a &&& 1) + ![0, byteBits a 1, byteBits a 2, byteBits a 3,
      byteBits a 4, byteBits a 5, byteBits a 6, byteBits a 7] := by
    have hmod : (a &&& 1).toNat = a.toNat % 2 ^ 1 := by simp
    funext i
    simp only [byteBits, hmod, Nat.testBit_mod_two_pow, Pi.add_apply]
    fin_cases i <;> simp
  rw [← cell_and_one]
  conv_lhs => rw [cell, hbits, ofBits_add]
  congr 1
  rw [cell, byteBits_shiftRight_one, x_mul_ofBits]
  simp

/-- What is still to be added is the product of the two operands. -/
theorem cell_aesMulLoop (fuel : ℕ) (result value factor : UInt8) (h : factor.toNat < 2 ^ fuel) :
    cell (aesMulLoop fuel result value factor) = cell result + cell value * cell factor := by
  induction fuel generalizing result value factor with
  | zero =>
    have hzero : factor = 0 := UInt8.toNat_inj.1 (by simpa using h)
    rw [hzero, cell_zero, mul_zero, add_zero]
    rfl
  | succ fuel ih =>
    unfold aesMulLoop
    by_cases hzero : factor = 0
    · rw [if_pos hzero, hzero, cell_zero, mul_zero, add_zero]
    · rw [if_neg hzero]
      have hhalf : (factor >>> 1).toNat < 2 ^ fuel := by
        rw [UInt8.toNat_shiftRight]
        simp only [UInt8.reduceToNat, Nat.reduceMod, Nat.shiftRight_one]
        rw [pow_succ] at h
        omega
      -- the value is doubled and the factor halved, but for the bit that is added now
      rw [ih _ _ _ hhalf, cell_aesDouble, cell_shiftRight factor]
      split_ifs
      · rw [cell_xor]
        ring
      · ring

theorem cell_aesMul (a b : UInt8) : cell (aesMul a b) = cell a * cell b := by
  rw [aesMul, cell_aesMulLoop 8 0 a b b.toNat_lt, cell_zero, zero_add]

/-! ## The substitution -/

def rotateByte (b k : UInt8) : UInt8 := (b <<< k) ||| (b >>> (8 - k))

/-- The inverse of the affine map of the standard. -/
def undoAffine (b : UInt8) : UInt8 :=
  rotateByte b 1 ^^^ rotateByte b 3 ^^^ rotateByte b 6 ^^^ 0x05

/-- The table holds the affine image of the inverse: the product is one, but for zero. -/
theorem aesSbox_undoAffine (b : UInt8) :
    (fun i =>
        let inverse := byteBits (undoAffine (aesSbox.getD b.toNat 0))
        inverse i + inverse (i + 4) + inverse (i + 5) + inverse (i + 6) + inverse (i + 7) +
          ![1, 1, 0, 0, 0, 1, 1, 0] i) = byteBits (aesSbox.getD b.toNat 0) ∧
      (b = 0 ∧ undoAffine (aesSbox.getD b.toNat 0) = 0 ∨
        aesMul b (undoAffine (aesSbox.getD b.toNat 0)) = 1) := by
  apply byte_of_nibbles _ b
  decide +kernel

theorem cell_aesSbox (b : UInt8) : cell (aesSbox.getD b.toNat 0) = subCell (cell b) := by
  obtain ⟨hbits, hinverse⟩ := aesSbox_undoAffine b
  have haffine : cell (aesSbox.getD b.toNat 0) =
      affine (cell (undoAffine (aesSbox.getD b.toNat 0))) := by
    simp only [affine, cell, bits_ofBits]
    rw [hbits]
  rw [haffine]
  rcases hinverse with ⟨rfl, hzero⟩ | hone
  · rw [hzero, cell_zero, subCell_zero]
  · rw [subCell_of_mul_eq_one]
    rw [← cell_aesMul, hone, cell_one]

/-! ## States -/

/-- The bytes fill one column after the other. -/
noncomputable def stateOf (byte : ℕ → UInt8) : State := .of fun r c => cell (byte (4 * c + r))

noncomputable def blockState (block : AesBlock) : State := stateOf fun i => block.toList.getD i 0

theorem getD_block (block : AesBlock) {i : ℕ} (h : i < 16) : block.toList.getD i 0 = block[i] := by
  rw [List.getD_eq_getElem?_getD, Vector.getElem?_toList, Vector.getElem?_eq_getElem h,
    Option.getD_some]

theorem blockState_apply (block : AesBlock) (r c : Fin 4) :
    blockState block r c = cell block[4 * c.val + r.val] := by
  rw [← getD_block]
  rfl

theorem blockState_injective : Function.Injective blockState := by
  intro a b h
  apply Vector.ext
  intro i hi
  have hentry := congrFun (congrFun h ⟨i % 4, by omega⟩) ⟨i / 4, by omega⟩
  rw [blockState_apply, blockState_apply] at hentry
  simpa only [Nat.div_add_mod] using cell_injective hentry

theorem blockState_aesSubBytes (s : AesBlock) :
    blockState (aesSubBytes s) = subCells (blockState s) := by
  ext r c
  rw [blockState_apply, subCells, Matrix.map_apply, blockState_apply, ← cell_aesSbox]
  simp only [aesSubBytes, Vector.getElem_map]

theorem blockState_aesShiftRows (s : AesBlock) :
    blockState (aesShiftRows s) = shiftRows (blockState s) := by
  ext r c
  rw [blockState_apply, shiftRows, Matrix.of_apply, blockState_apply]
  fin_cases r <;> fin_cases c <;> rfl

theorem cell_two : cell 2 = x := by
  have h := cell_aesDouble 1
  rwa [cell_one, mul_one] at h

theorem cell_three : cell 3 = x + 1 := by
  have h := cell_xor 2 1
  rwa [cell_two, cell_one] at h

theorem blockState_aesMixColumns (s : AesBlock) :
    blockState (aesMixColumns s) = mixColumns (blockState s) := by
  ext r c
  have hcolumn : (4 * c.val + r.val) / 4 * 4 = 4 * c.val ∧ (4 * c.val + r.val) % 4 = r.val := by
    omega
  rw [blockState_apply, mixColumns_apply]
  simp only [aesMixColumns, mapColumns, Vector.getElem_ofFn, hcolumn]
  have hcell (i : Fin 4) : blockState s i c = cell (s.toList.getD (4 * c.val + i.val) 0) := rfl
  simp only [hcell]
  fin_cases r <;>
    simp [aesMixColumn, cell_xor, cell_aesMul, cell_two, cell_three] <;> ring

theorem blockState_aesAddRoundKey (s : AesBlock) (roundKeys : List UInt8) (round : ℕ) :
    blockState (aesAddRoundKey s roundKeys round) =
      blockState s + stateOf fun i => roundKeys.getD (round * 16 + i) 0 := by
  ext r c
  rw [blockState_apply, Matrix.add_apply, blockState_apply]
  simp only [aesAddRoundKey, Vector.getElem_ofFn, Fin.getElem_fin, cell_xor, stateOf,
    Matrix.of_apply]

/-! ## The key schedule -/

theorem cell_aesRcon {i : ℕ} (h : i < 10) : cell (aesRcon.getD (i + 1) 0) = x ^ i := by
  have hpower : aesRcon.getD (i + 1) 0 = aesDouble^[i] 1 := by
    revert i
    decide
  have hdoubled : ∀ n : ℕ, cell (aesDouble^[n] 1) = x ^ n := by
    intro n
    induction n with
    | zero => exact cell_one
    | succ n ih => rw [Function.iterate_succ_apply', cell_aesDouble, ih, pow_succ']
  rw [hpower, hdoubled]

/-- The bytes so far are the words of the schedule, one after the other. -/
def HoldsWords (key : State) (roundKeys : List UInt8) (words : ℕ) : Prop :=
  roundKeys.length = 4 * words ∧
    ∀ i < words, ∀ r : Fin 4, cell (roundKeys.getD (4 * i + r) 0) = word key i r

theorem holdsWords_key (key : AesKey) : HoldsWords (blockState key) key.toList 4 := by
  refine ⟨key.length_toList, fun i hi r => ?_⟩
  have hword : word (blockState key) i r = blockState key r ⟨i, hi⟩ := by
    interval_cases i <;> rfl
  rw [hword]
  rfl

/-- The next word, from the last one and the one four words before. -/
theorem getD_aesExpandStep (roundKeys : List UInt8) (r : Fin 4) :
    (aesExpandStep roundKeys).getD (roundKeys.length + r) 0 =
      roundKeys.getD (roundKeys.length - 16 + r) 0 ^^^
        if roundKeys.length % 16 = 0 then
          aesSbox.getD (roundKeys.getD (roundKeys.length - 4 + (r + 1 : Fin 4).val) 0).toNat 0 ^^^
            if r = 0 then aesRcon.getD (roundKeys.length / 16) 0 else 0
        else roundKeys.getD (roundKeys.length - 4 + r) 0 := by
  unfold aesExpandStep
  dsimp only
  rw [List.getD_append_right _ _ _ _ (by omega), Nat.add_sub_cancel_left]
  split_ifs <;> fin_cases r <;> simp_all

theorem holdsWords_aesExpandStep {key : State} {roundKeys : List UInt8} {n : ℕ} (hn : n < 40)
    (h : HoldsWords key roundKeys (n + 4)) :
    HoldsWords key (aesExpandStep roundKeys) (n + 5) := by
  obtain ⟨hlength, hwords⟩ := h
  constructor
  · unfold aesExpandStep
    dsimp only
    rw [List.length_append, List.length_mapIdx, hlength]
    split_ifs <;> simp <;> omega
  · intro i hi r
    have hlast : ∀ r : Fin 4, cell (roundKeys.getD (roundKeys.length - 4 + r) 0) =
        word key (n + 3) r := by
      intro r
      rw [← hwords (n + 3) (by omega), hlength]
      congr 2
    have hearlier : ∀ r : Fin 4, cell (roundKeys.getD (roundKeys.length - 16 + r) 0) =
        word key n r := by
      intro r
      rw [← hwords n (by omega), hlength]
      congr 2
    rcases Nat.lt_succ_iff_lt_or_eq.1 hi with hold | rfl
    · rw [← hwords i hold, aesExpandStep, List.getD_append]
      omega
    · have hround : roundKeys.length % 16 = 0 ↔ (n + 4) % 4 = 0 := by omega
      rw [← hlength, getD_aesExpandStep, cell_xor, hearlier, word, Pi.add_apply]
      congr 1
      -- a word that starts a round key comes through the table
      by_cases hfirst : (n + 4) % 4 = 0
      · have hindex : roundKeys.length / 16 = n / 4 + 1 := by omega
        have hrcon : cell (if r = 0 then aesRcon.getD (roundKeys.length / 16) 0 else 0) =
            rcon ((n + 4) / 4) r := by
          rw [hindex, show (n + 4) / 4 = n / 4 + 1 by omega]
          fin_cases r
          · exact cell_aesRcon (by omega)
          all_goals exact cell_zero
        rw [if_pos (hround.2 hfirst), if_pos hfirst, cell_xor, cell_aesSbox, hlast, hrcon]
        rfl
      · rw [if_neg (mt hround.1 hfirst), if_neg hfirst, hlast]

theorem holdsWords_aesExpandKey (key : AesKey) :
    HoldsWords (blockState key) (aesExpandKey key) 44 := by
  have hsteps : ∀ n ≤ 40, HoldsWords (blockState key) (aesExpandStep^[n] key.toList) (n + 4) := by
    intro n hn
    induction n with
    | zero => exact holdsWords_key key
    | succ n ih =>
      rw [Function.iterate_succ_apply']
      exact holdsWords_aesExpandStep hn (ih (Nat.le_of_succ_le hn))
  exact hsteps 40 le_rfl

theorem stateOf_aesExpandKey (key : AesKey) {round : ℕ} (h : round ≤ 10) :
    stateOf (fun i => (aesExpandKey key).getD (round * 16 + i) 0) =
      roundKey (blockState key) round := by
  obtain ⟨-, hwords⟩ := holdsWords_aesExpandKey key
  ext r c
  have hindex : round * 16 + (4 * c.val + r.val) = 4 * (4 * round + c.val) + r.val := by ring
  rw [roundKey, Matrix.of_apply, ← hwords (4 * round + c.val) (by omega)]
  simp only [stateOf, Matrix.of_apply, hindex]

/-! ## The cipher -/

theorem blockState_aesEncryptRound (s : AesBlock) (key : AesKey) {n : ℕ} (h : n ≤ 10) :
    blockState (aesEncryptRound (aesExpandKey key) s n) =
      round (blockState key) (blockState s) n := by
  rw [aesEncryptRound, blockState_aesAddRoundKey, blockState_aesMixColumns,
    blockState_aesShiftRows, blockState_aesSubBytes, stateOf_aesExpandKey key h]
  rfl

theorem blockState_foldl_aesEncryptRound (s : AesBlock) (key : AesKey) (rounds : List ℕ)
    (h : ∀ n ∈ rounds, n ≤ 10) :
    blockState (rounds.foldl (aesEncryptRound (aesExpandKey key)) s) =
      rounds.foldl (round (blockState key)) (blockState s) := by
  induction rounds generalizing s with
  | nil => rfl
  | cons n rounds ih =>
    obtain ⟨hn, hrest⟩ := List.forall_mem_cons.1 h
    rw [List.foldl_cons, ih _ hrest, blockState_aesEncryptRound s key hn, List.foldl_cons]

theorem blockState_aes128Encrypt (block : AesBlock) (key : AesKey) :
    blockState (aes128Encrypt block key) = cipher (blockState key) (blockState block) := by
  rw [aes128Encrypt, blockState_aesAddRoundKey, blockState_aesShiftRows, blockState_aesSubBytes,
    blockState_foldl_aesEncryptRound _ _ _ (by decide), blockState_aesAddRoundKey,
    stateOf_aesExpandKey key (Nat.zero_le 10), stateOf_aesExpandKey key le_rfl]
  rfl

/-- The source encrypts and decrypts with the cipher of the standard. -/
theorem aes128_standard (block ciphertext : AesBlock) (key : AesKey) :
    (aes128Encrypt block key = ciphertext ↔
        blockState ciphertext = cipher (blockState key) (blockState block)) ∧
      (aes128Decrypt ciphertext key = block ↔
        blockState ciphertext = cipher (blockState key) (blockState block)) := by
  have hencrypt : aes128Encrypt block key = ciphertext ↔
      blockState ciphertext = cipher (blockState key) (blockState block) := by
    rw [← blockState_aes128Encrypt, blockState_injective.eq_iff, eq_comm]
  refine ⟨hencrypt, ?_⟩
  rw [← hencrypt, aes128Encrypt_eq, aes128Decrypt_eq]
  constructor
  · intro h
    rw [← h, RoundCipher.encrypt_decrypt]
  · intro h
    rw [← h, RoundCipher.decrypt_encrypt]

end HomeIoControl
