import HomeIoControl.CirculantMix
import HomeIoControl.Crypto
import HomeIoControl.RoundCipher
import HomeIoControl.XorByte
import Mathlib.Data.Fintype.EquivFin
import Mathlib.Tactic.IntervalCases

namespace HomeIoControl
open CirculantMix

/-! ## Products in the field -/

theorem XorByte.add_self (a : XorByte) : a + a = 0 := by
  ext
  rw [byte_add, UInt8.xor_self, byte_zero]

theorem aesDouble_eq (value : UInt8) :
    aesDouble value = (value <<< 1) ^^^ feedback 0x1B value := by
  unfold aesDouble feedback
  rcases topBit_cases value with ⟨hshift, hmask, -⟩ | ⟨hshift, hmask, -⟩ <;>
    simp [hshift, hmask]

theorem aesDouble_xor (a b : UInt8) : aesDouble (a ^^^ b) = aesDouble a ^^^ aesDouble b := by
  rw [aesDouble_eq, aesDouble_eq, aesDouble_eq, feedback_xor, UInt8.shiftLeft_xor]
  ac_rfl

/-- Doubling as an additive map. -/
def fieldDouble : XorByte →+ XorByte where
  toFun a := ⟨aesDouble a.byte⟩
  map_zero' := rfl
  map_add' a b := XorByte.ext (aesDouble_xor a.byte b.byte)

@[simp] theorem fieldDouble_byte (a : XorByte) : (fieldDouble a).byte = aesDouble a.byte := rfl

theorem aesMul_two (a : UInt8) : aesMul a 0x02 = aesDouble a := by
  change 0 ^^^ aesDouble a = _
  rw [UInt8.zero_xor]

theorem aesMul_three (a : UInt8) : aesMul a 0x03 = aesDouble a ^^^ a := by
  change 0 ^^^ a ^^^ aesDouble a = _
  rw [UInt8.zero_xor, UInt8.xor_comm]

theorem aesMul_fourteen (a : UInt8) :
    aesMul a 0x0E = aesDouble (aesDouble (aesDouble a)) ^^^ aesDouble (aesDouble a) ^^^
      aesDouble a := by
  change 0 ^^^ aesDouble a ^^^ aesDouble (aesDouble a) ^^^ aesDouble (aesDouble (aesDouble a)) = _
  rw [UInt8.zero_xor]
  ac_rfl

theorem aesMul_eleven (a : UInt8) :
    aesMul a 0x0B = aesDouble (aesDouble (aesDouble a)) ^^^ aesDouble a ^^^ a := by
  change 0 ^^^ a ^^^ aesDouble a ^^^ aesDouble (aesDouble (aesDouble a)) = _
  rw [UInt8.zero_xor]
  ac_rfl

theorem aesMul_thirteen (a : UInt8) :
    aesMul a 0x0D = aesDouble (aesDouble (aesDouble a)) ^^^ aesDouble (aesDouble a) ^^^ a := by
  change 0 ^^^ a ^^^ aesDouble (aesDouble a) ^^^ aesDouble (aesDouble (aesDouble a)) = _
  rw [UInt8.zero_xor]
  ac_rfl

theorem aesMul_nine (a : UInt8) :
    aesMul a 0x09 = aesDouble (aesDouble (aesDouble a)) ^^^ a := by
  change 0 ^^^ a ^^^ aesDouble (aesDouble (aesDouble a)) = _
  rw [UInt8.zero_xor, UInt8.xor_comm]

/-! ## Columns -/

theorem aesMixColumn_eq (a b c d : XorByte) :
    aesMixColumn a.byte b.byte c.byte d.byte =
      [(row fieldDouble a b c d).byte, (row fieldDouble b c d a).byte,
        (row fieldDouble c d a b).byte, (row fieldDouble d a b c).byte] := by
  simp only [aesMixColumn, row, aesMul_two, aesMul_three, XorByte.byte_add, fieldDouble_byte]
  congr 1
  congr 1
  · ac_rfl
  congr 1
  · ac_rfl
  congr 1
  ac_rfl

theorem aesInvMixColumn_eq (a b c d : XorByte) :
    aesInvMixColumn a.byte b.byte c.byte d.byte =
      [(invRow fieldDouble a b c d).byte, (invRow fieldDouble b c d a).byte,
        (invRow fieldDouble c d a b).byte, (invRow fieldDouble d a b c).byte] := by
  simp only [aesInvMixColumn, invRow, aesMul_fourteen, aesMul_eleven, aesMul_thirteen,
    aesMul_nine, XorByte.byte_add, fieldDouble_byte]
  congr 1
  congr 1
  · ac_rfl
  congr 1
  · ac_rfl
  congr 1
  ac_rfl

/-- A column map that undoes another does so in every column. -/
theorem mapColumns_mapColumns {f g : UInt8 → UInt8 → UInt8 → UInt8 → List UInt8}
    (h : ∀ a b c d, g ((f a b c d).getD 0 0) ((f a b c d).getD 1 0) ((f a b c d).getD 2 0)
      ((f a b c d).getD 3 0) = [a, b, c, d]) (s : AesBlock) :
    mapColumns g (mapColumns f s) = s := by
  have hcell (i j : ℕ) (hi : i < 16) (hj : j < 4) :
      (mapColumns f s).toList.getD (i / 4 * 4 + j) 0 =
        (f (s.toList.getD (i / 4 * 4) 0) (s.toList.getD (i / 4 * 4 + 1) 0)
          (s.toList.getD (i / 4 * 4 + 2) 0) (s.toList.getD (i / 4 * 4 + 3) 0)).getD j 0 := by
    rw [List.getD_eq_getElem?_getD, Vector.getElem?_toList,
      Vector.getElem?_eq_getElem (by omega), Option.getD_some, mapColumns, Vector.getElem_ofFn]
    dsimp only
    rw [show (i / 4 * 4 + j) / 4 = i / 4 by omega, show (i / 4 * 4 + j) % 4 = j by omega]
  apply Vector.ext
  intro i hi
  have hfirst := hcell i 0 hi (by decide)
  rw [Nat.add_zero] at hfirst
  rw [mapColumns, Vector.getElem_ofFn]
  dsimp only
  rw [hfirst, hcell i 1 hi (by decide), hcell i 2 hi (by decide), hcell i 3 hi (by decide), h]
  have hcolumn (j : ℕ) (hj : j < 4) :
      [s.toList.getD (i / 4 * 4) 0, s.toList.getD (i / 4 * 4 + 1) 0,
        s.toList.getD (i / 4 * 4 + 2) 0, s.toList.getD (i / 4 * 4 + 3) 0].getD j 0 =
          s.toList.getD (i / 4 * 4 + j) 0 := by
    interval_cases j <;> rfl
  rw [hcolumn _ (Nat.mod_lt _ (by decide)), Nat.div_add_mod', List.getD_eq_getElem?_getD,
    Vector.getElem?_toList, Vector.getElem?_eq_getElem hi, Option.getD_some]

theorem aesInvMixColumns_aesMixColumns (s : AesBlock) :
    aesInvMixColumns (aesMixColumns s) = s := by
  apply mapColumns_mapColumns
  intro a b c d
  have hmix := aesMixColumn_eq ⟨a⟩ ⟨b⟩ ⟨c⟩ ⟨d⟩
  dsimp only at hmix
  rw [hmix]
  simp only [List.getD_cons_zero, List.getD_cons_succ]
  rw [aesInvMixColumn_eq]
  simp only [invRow_row XorByte.add_self]

theorem aesMixColumns_aesInvMixColumns (s : AesBlock) :
    aesMixColumns (aesInvMixColumns s) = s := by
  apply mapColumns_mapColumns
  intro a b c d
  have hmix := aesInvMixColumn_eq ⟨a⟩ ⟨b⟩ ⟨c⟩ ⟨d⟩
  dsimp only at hmix
  rw [hmix]
  simp only [List.getD_cons_zero, List.getD_cons_succ]
  rw [aesMixColumn_eq]
  simp only [row_invRow XorByte.add_self]

/-! ## Bytes and rows -/

theorem aesInvSbox_aesSbox (b : UInt8) :
    aesInvSbox.getD (aesSbox.getD b.toNat 0).toNat 0 = b := by
  apply byte_of_nibbles _ b
  decide +kernel

/-- There are only as many bytes as the first table has, so the tables are inverse both ways. -/
theorem aesSbox_aesInvSbox (b : UInt8) :
    aesSbox.getD (aesInvSbox.getD b.toNat 0).toNat 0 = b := by
  have hleft : Function.LeftInverse (fun b : UInt8 => aesInvSbox.getD b.toNat 0)
      (fun b : UInt8 => aesSbox.getD b.toNat 0) := aesInvSbox_aesSbox
  have hfinite : Finite UInt8 := .of_injective UInt8.toFin fun _ _ => UInt8.toFin_inj.1
  exact hleft.rightInverse_of_surjective (Finite.injective_iff_surjective.1 hleft.injective) b

theorem aesInvSubBytes_aesSubBytes (s : AesBlock) : aesInvSubBytes (aesSubBytes s) = s := by
  apply Vector.ext
  intro i hi
  rw [aesInvSubBytes, aesSubBytes, Vector.getElem_map, Vector.getElem_map, aesInvSbox_aesSbox]

theorem aesSubBytes_aesInvSubBytes (s : AesBlock) : aesSubBytes (aesInvSubBytes s) = s := by
  apply Vector.ext
  intro i hi
  rw [aesInvSubBytes, aesSubBytes, Vector.getElem_map, Vector.getElem_map, aesSbox_aesInvSbox]

theorem aesInvShiftRows_aesShiftRows (s : AesBlock) : aesInvShiftRows (aesShiftRows s) = s := by
  apply Vector.ext
  intro i hi
  interval_cases i <;> rfl

theorem aesShiftRows_aesInvShiftRows (s : AesBlock) : aesShiftRows (aesInvShiftRows s) = s := by
  apply Vector.ext
  intro i hi
  interval_cases i <;> rfl

/-- A round key is added and removed alike. -/
theorem aesAddRoundKey_involutive (roundKeys : List UInt8) (round : ℕ) :
    Function.Involutive fun state => aesAddRoundKey state roundKeys round := by
  intro state
  apply Vector.ext
  intro i hi
  simp only [aesAddRoundKey, Vector.getElem_ofFn, Fin.getElem_fin, UInt8.xor_assoc,
    UInt8.xor_self, UInt8.xor_zero]

/-! ## The cipher -/

theorem substitute_leftInverse : Function.LeftInverse
    (fun state => aesInvSubBytes (aesInvShiftRows state))
    (fun state => aesShiftRows (aesSubBytes state)) := by
  intro state
  dsimp only
  rw [aesInvShiftRows_aesShiftRows, aesInvSubBytes_aesSubBytes]

theorem substitute_rightInverse : Function.RightInverse
    (fun state => aesInvSubBytes (aesInvShiftRows state))
    (fun state => aesShiftRows (aesSubBytes state)) := by
  intro state
  dsimp only
  rw [aesSubBytes_aesInvSubBytes, aesShiftRows_aesInvShiftRows]

/-- The rounds of the cipher under a key schedule. -/
def aesCipher (roundKeys : List UInt8) : RoundCipher ℕ AesBlock where
  substitute :=
    { toFun := fun state => aesShiftRows (aesSubBytes state)
      invFun := fun state => aesInvSubBytes (aesInvShiftRows state)
      left_inv := substitute_leftInverse
      right_inv := substitute_rightInverse }
  mix :=
    { toFun := aesMixColumns
      invFun := aesInvMixColumns
      left_inv := aesInvMixColumns_aesMixColumns
      right_inv := aesMixColumns_aesInvMixColumns }
  addKey round := (aesAddRoundKey_involutive roundKeys round).toPerm

def aesRounds : List ℕ := [1, 2, 3, 4, 5, 6, 7, 8, 9]

theorem aes128Encrypt_eq (block : AesBlock) (key : AesKey) :
    aes128Encrypt block key = (aesCipher (aesExpandKey key)).encrypt 0 aesRounds 10 block :=
  rfl

theorem aes128Decrypt_eq (block : AesBlock) (key : AesKey) :
    aes128Decrypt block key = (aesCipher (aesExpandKey key)).decrypt 0 aesRounds 10 block :=
  rfl

/-- Decryption and encryption undo each other. -/
theorem aes128_inverse (block : AesBlock) (key : AesKey) :
    aes128Decrypt (aes128Encrypt block key) key = block ∧
      aes128Encrypt (aes128Decrypt block key) key = block := by
  constructor
  · rw [aes128Encrypt_eq, aes128Decrypt_eq, RoundCipher.decrypt_encrypt]
  · rw [aes128Encrypt_eq, aes128Decrypt_eq, RoundCipher.encrypt_decrypt]

end HomeIoControl
