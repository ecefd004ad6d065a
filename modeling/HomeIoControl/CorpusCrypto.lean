import HomeIoControl.Crypto
import HomeIoControl.Frame
import Mathlib.Tactic.IntervalCases

namespace HomeIoControl.Corpus

/-- What the scripts raise. -/
inductive Failure
  | valueError (message : String)
  | typeError
  | keyError
  | indexError
  | validationError (message : String)
  | rekeyError (message : String)
  deriving DecidableEq, Repr

/-! ## Shape of a frame -/

/-- The length without CRC that the first byte announces. -/
def ctrl0ImpliedLength (ctrl0 : UInt8) : ℕ := (ctrl0.toNat &&& 0x1F) + 1

def crcShift (crc : ℕ) : ℕ := if crc &&& 1 ≠ 0 then (crc >>> 1) ^^^ 0x8408 else crc >>> 1

def crcByte (crc : ℕ) (byte : UInt8) : ℕ := crcShift^[8] (crc ^^^ byte.toNat)

def crcCcitt (data : List UInt8) : ℕ := data.foldl crcByte 0 &&& 0xFFFF

/-! ## The authentication code -/

def aesKeySize : ℕ := 16
def aesBlockSize : ℕ := 16
def ivSize : ℕ := 16

/-- One step of the running checksum, on unbounded integers. -/
def computeChecksum (byte c1 c2 : ℕ) : ℕ × ℕ :=
  let tmp := (byte ^^^ c2) &&& 0xFF
  let newC2 := ((c1 &&& 0x7F) <<< 1) &&& 0xFF
  let newC2 := if tmp ≥ 128 then newC2 ||| 1 else newC2
  if c1 &&& 0x80 = 0 then (newC2, (tmp <<< 1) &&& 0xFF)
  else ((newC2 ^^^ 0x55) &&& 0xFF, ((tmp <<< 1) ^^^ 0x5B) &&& 0xFF)

/-- Assignment of an integer to an element of a byte array. -/
def setByte (bytes : List UInt8) (i value : ℕ) : Except Failure (List UInt8) :=
  if value < 256 then .ok (bytes.set i (UInt8.ofNat value))
  else .error (.valueError "byte must be in range(0, 256)")

/-- The vector under construction and the two checksums. -/
structure IvState where
  iv : List UInt8
  c1 : ℕ
  c2 : ℕ

def ivStep (s : IvState) (byte : UInt8 × ℕ) : IvState :=
  let c := computeChecksum byte.1.toNat s.c1 s.c2
  { iv := if byte.2 < 8 then s.iv.set byte.2 byte.1 else s.iv, c1 := c.1, c2 := c.2 }

def ivStart : IvState := { iv := .replicate ivSize 0, c1 := 0, c2 := 0 }

/-- The bytes that short data leaves open. -/
def padIv (len : ℕ) (iv : List UInt8) : List UInt8 :=
  (List.range' len (8 - len)).foldl (fun iv i => iv.set i ivPadding) iv

def constructIv (data challenge : List UInt8) : Except Failure (List UInt8) := do
  if challenge.length ≠ hmacSize then
    throw (.valueError ("challenge must be " ++ toString hmacSize ++ " bytes, got " ++
      toString challenge.length))
  let s := data.zipIdx.foldl ivStep ivStart
  let iv ← setByte (padIv data.length s.iv) 8 s.c1
  let iv ← setByte iv 9 s.c2
  return iv.take 10 ++ challenge ++ iv.drop 16

section
variable (ecb : AesBlock → AesKey → AesBlock)

/-- One block under the cipher of the cryptography package. -/
def aes128EcbEncryptBlock (block key : List UInt8) : Except Failure (List UInt8) :=
  if h : block.length = aesBlockSize ∧ key.length = aesKeySize then
    .ok (ecb ⟨block.toArray, h.1⟩ ⟨key.toArray, h.2⟩).toList
  else .error (.valueError "aes128_ecb_encrypt_block requires a 16-byte block and a 16-byte key")

def createHmac (data challenge key : List UInt8) : Except Failure (List UInt8) := do
  let iv ← constructIv data challenge
  let encrypted ← aes128EcbEncryptBlock ecb iv key
  return encrypted.take hmacSize

def verifyHmac (data hmac challenge key : List UInt8) : Except Failure Bool := do
  let expected ← createHmac ecb data challenge key
  return expected == hmac

/-- Encrypts and decrypts a system key under the transfer key. -/
def cryptKey (data challenge inKey : List UInt8) : Except Failure (List UInt8) := do
  if inKey.length ≠ aesKeySize then
    throw (.valueError ("in_key must be " ++ toString aesKeySize ++ " bytes, got " ++
      toString inKey.length))
  let iv ← constructIv data challenge
  let encIv ← aes128EcbEncryptBlock ecb iv transferKey.toList
  return inKey.zipWith (· ^^^ ·) encIv

end

/-! ## The same numbers on both sides -/

theorem and_255 (n : ℕ) : n &&& 0xFF = n % 256 := Nat.and_two_pow_sub_one_eq_mod n 8

theorem and_65535 (n : ℕ) : n &&& 0xFFFF = n % 65536 := Nat.and_two_pow_sub_one_eq_mod n 16

theorem toNat_and_255 (b : UInt8) : b.toNat &&& 0xFF = b.toNat := by
  rw [and_255, Nat.mod_eq_of_lt b.toNat_lt]

theorem toNat_shiftLeft_one (b : UInt8) : (b.toNat <<< 1) &&& 0xFF = (b <<< 1).toNat := by
  rw [and_255, UInt8.toNat_shiftLeft]
  rfl

/-- Masking after an exclusive or with a byte is masking before it. -/
theorem xor_toNat_and_255 (n : ℕ) (b : UInt8) :
    (n ^^^ b.toNat) &&& 0xFF = (n &&& 0xFF) ^^^ b.toNat := by
  rw [Nat.and_xor_distrib_right, toNat_and_255]

theorem toNat_eq_zero_iff (b : UInt8) : b.toNat = 0 ↔ (b == 0) = true := by
  rw [beq_iff_eq, ← UInt8.toNat_inj]
  rfl

/-- The narrowing of the firmware and the masks of the scripts leave the same checksums. -/
theorem computeChecksum_toNat (byte c1 c2 : UInt8) :
    computeChecksum byte.toNat c1.toNat c2.toNat =
      ((HomeIoControl.computeChecksum (c1, c2) byte).1.toNat,
        (HomeIoControl.computeChecksum (c1, c2) byte).2.toNat) := by
  have htmp : (byte.toNat ^^^ c2.toNat) &&& 0xFF = (byte ^^^ c2).toNat := by
    rw [← UInt8.toNat_xor, toNat_and_255]
  have hcarry : ((byte ^^^ c2).toNat ≥ 128) ↔ (byte ^^^ c2 ≥ 128) := Iff.rfl
  have hshift : ((c1.toNat &&& 0x7F) <<< 1) &&& 0xFF = ((c1 &&& 0x7F) <<< 1).toNat := by
    rw [← toNat_shiftLeft_one, UInt8.toNat_and]
    rfl
  have hhigh : (c1.toNat &&& 0x80 = 0) ↔ ((c1 &&& 0x80 == 0) = true) := by
    rw [← toNat_eq_zero_iff, UInt8.toNat_and]
    rfl
  have hfirst : ∀ b : UInt8, (b.toNat ^^^ 0x55) &&& 0xFF = (b ^^^ 0x55).toNat := by
    intro b
    have h := xor_toNat_and_255 b.toNat 0x55
    rw [toNat_and_255, ← UInt8.toNat_xor] at h
    exact h
  have hsecond : ∀ b : UInt8, ((b.toNat <<< 1) ^^^ 0x5B) &&& 0xFF = ((b <<< 1) ^^^ 0x5B).toNat := by
    intro b
    have h := xor_toNat_and_255 (b.toNat <<< 1) 0x5B
    rw [toNat_shiftLeft_one, ← UInt8.toNat_xor] at h
    exact h
  have hor : ∀ b : UInt8, b.toNat ||| 1 = (b ||| 1).toNat := fun b => (UInt8.toNat_or b 1).symm
  unfold computeChecksum HomeIoControl.computeChecksum
  simp only [htmp, hshift, hhigh, hcarry, hor]
  split_ifs
  · rw [toNat_shiftLeft_one]
  · rw [toNat_shiftLeft_one]
  · rw [hfirst, hsecond]
  · rw [hfirst, hsecond]

/-! ## CRC -/

theorem crcShift_toNat (crc : UInt16) :
    crcShift crc.toNat = (HomeIoControl.crcShift crc).toNat := by
  have hbit : crc.toNat &&& 1 ≠ 0 ↔ (crc &&& 1 != 0) = true := by
    rw [bne_iff_ne, ne_eq, ne_eq, ← UInt16.toNat_inj, UInt16.toNat_and]
    rfl
  unfold crcShift HomeIoControl.crcShift
  simp only [hbit]
  split_ifs
  · rw [UInt16.toNat_xor, UInt16.toNat_shiftRight]
    rfl
  · rw [UInt16.toNat_shiftRight]
    rfl

theorem crcShift_iterate_toNat (n : ℕ) (crc : UInt16) :
    crcShift^[n] crc.toNat = (HomeIoControl.crcShift^[n] crc).toNat := by
  induction n generalizing crc with
  | zero => rfl
  | succ n ih =>
    rw [Function.iterate_succ_apply, Function.iterate_succ_apply, crcShift_toNat, ih]

theorem crcByte_toNat (crc : UInt16) (byte : UInt8) :
    crcByte crc.toNat byte = (HomeIoControl.crcByte crc byte).toNat := by
  have hxor : crc.toNat ^^^ byte.toNat = (crc ^^^ byte.toUInt16).toNat := by
    rw [UInt16.toNat_xor, UInt8.toNat_toUInt16]
  rw [crcByte, HomeIoControl.crcByte, hxor, crcShift_iterate_toNat]

theorem foldl_crcByte_toNat (data : List UInt8) (crc : UInt16) :
    data.foldl crcByte crc.toNat = (data.foldl HomeIoControl.crcByte crc).toNat := by
  induction data generalizing crc with
  | nil => rfl
  | cons byte data ih => rw [List.foldl_cons, List.foldl_cons, crcByte_toNat, ih]

/-- The last mask of the scripts does nothing, since the register never outgrows 16 bits. -/
theorem crcCcitt_toNat (data : List UInt8) :
    crcCcitt data = (HomeIoControl.crcCcitt data).toNat := by
  have h := foldl_crcByte_toNat data 0
  rw [crcCcitt, HomeIoControl.crcCcitt, and_65535]
  rw [show data.foldl crcByte 0 = _ from h]
  exact Nat.mod_eq_of_lt (UInt16.toNat_lt _)

/-! ## The initialization vector -/

@[simp] theorem ivStep_length (s : IvState) (byte : UInt8 × ℕ) :
    (ivStep s byte).iv.length = s.iv.length := by
  unfold ivStep
  dsimp only
  split_ifs
  · exact List.length_set
  · rfl

theorem foldl_ivStep_length (data : List UInt8) (n : ℕ) (s : IvState) :
    ((data.zipIdx n).foldl ivStep s).iv.length = s.iv.length := by
  induction data generalizing n s with
  | nil => rfl
  | cons byte data ih => rw [List.zipIdx_cons, List.foldl_cons, ih, ivStep_length]

/-- The loop carries the checksums of the bytes seen so far. -/
theorem foldl_ivStep_checksums (data : List UInt8) (n : ℕ) (c : UInt8 × UInt8) (s : IvState)
    (h1 : s.c1 = c.1.toNat) (h2 : s.c2 = c.2.toNat) :
    ((data.zipIdx n).foldl ivStep s).c1 =
        (data.foldl HomeIoControl.computeChecksum c).1.toNat ∧
      ((data.zipIdx n).foldl ivStep s).c2 =
        (data.foldl HomeIoControl.computeChecksum c).2.toNat := by
  induction data generalizing n c s with
  | nil => exact ⟨h1, h2⟩
  | cons byte data ih =>
    have hstep := computeChecksum_toNat byte c.1 c.2
    rw [← h1, ← h2] at hstep
    rw [List.zipIdx_cons, List.foldl_cons, List.foldl_cons]
    apply ih
    · simp only [ivStep, hstep]
    · simp only [ivStep, hstep]

/-- The loop leaves the first eight bytes of the data in their places. -/
theorem foldl_ivStep_getElem? (data : List UInt8) (n : ℕ) (s : IvState) (hlen : 8 ≤ s.iv.length)
    (j : ℕ) :
    ((data.zipIdx n).foldl ivStep s).iv[j]? =
      if n ≤ j ∧ j < n + data.length ∧ j < 8 then data[j - n]? else s.iv[j]? := by
  induction data generalizing n s with
  | nil =>
    rw [if_neg (by simp only [List.length_nil]; omega)]
    rfl
  | cons byte data ih =>
    rw [List.zipIdx_cons, List.foldl_cons, ih (n + 1) _ (by rw [ivStep_length]; exact hlen)]
    have hiv : (ivStep s (byte, n)).iv[j]? = if n = j ∧ j < 8 then some byte else s.iv[j]? := by
      simp only [ivStep]
      split_ifs with hn hj hj
      · rw [← hj.1, List.getElem?_set_self (by omega)]
      · rw [List.getElem?_set_ne (by omega)]
      · omega
      · rfl
    rw [hiv, List.length_cons]
    by_cases hj : n = j
    · subst hj
      rw [if_neg (by omega), Nat.sub_self, List.getElem?_cons_zero]
      split_ifs
      · rfl
      · omega
      · omega
      · rfl
    · rw [if_neg (c := n = j ∧ j < 8) (by omega)]
      split_ifs with h h' h'
      · rw [show j - n = j - (n + 1) + 1 by omega, List.getElem?_cons_succ]
      · omega
      · omega
      · rfl

theorem foldl_set_length (value : UInt8) (indices : List ℕ) (iv : List UInt8) :
    (indices.foldl (fun iv i => iv.set i value) iv).length = iv.length := by
  induction indices generalizing iv with
  | nil => rfl
  | cons i indices ih => rw [List.foldl_cons, ih, List.length_set]

theorem foldl_set_getElem? (value : UInt8) (indices : List ℕ) (iv : List UInt8) (j : ℕ)
    (hj : j < iv.length) :
    (indices.foldl (fun iv i => iv.set i value) iv)[j]? =
      if j ∈ indices then some value else iv[j]? := by
  induction indices generalizing iv with
  | nil => simp
  | cons i indices ih =>
    rw [List.foldl_cons, ih _ (by rw [List.length_set]; exact hj)]
    by_cases hi : i = j
    · simp [hi, List.getElem?_set_self hj]
    · simp [Ne.symm hi, List.getElem?_set_ne hi]

/-- The vector after the loop and the padding. -/
def paddedIv (data : List UInt8) : List UInt8 :=
  padIv data.length (data.zipIdx.foldl ivStep ivStart).iv

theorem paddedIv_length (data : List UInt8) : (paddedIv data).length = ivSize := by
  rw [paddedIv, padIv, foldl_set_length, foldl_ivStep_length]
  rfl

theorem paddedIv_getElem? (data : List UInt8) (j : ℕ) (hj : j < 8) :
    (paddedIv data)[j]? = some (data.getD j ivPadding) := by
  have hlen : (data.zipIdx.foldl ivStep ivStart).iv.length = 16 :=
    foldl_ivStep_length data 0 ivStart
  rw [paddedIv, padIv, foldl_set_getElem? _ _ _ _ (by omega),
    foldl_ivStep_getElem? data 0 ivStart (by decide), List.getD_eq_getElem?_getD]
  have hopen : j ∈ List.range' data.length (8 - data.length) ↔ data.length ≤ j := by
    rw [List.mem_range'_1]
    omega
  by_cases hd : j < data.length
  · rw [if_neg (by rw [hopen]; omega), if_pos (by omega), Nat.sub_zero,
      List.getElem?_eq_getElem hd]
    rfl
  · rw [if_pos (by rw [hopen]; omega), List.getElem?_eq_none (by omega)]
    rfl

theorem setByte_toNat (bytes : List UInt8) (i : ℕ) (b : UInt8) :
    setByte bytes i b.toNat = .ok (bytes.set i b) := by
  rw [setByte, if_pos b.toNat_lt, UInt8.ofNat_toNat]

/-- Behind the eight bytes of data stand the two checksums and the challenge. -/
theorem assembled_getElem? {iv : List UInt8} (hlen : iv.length = ivSize) (c1 c2 : UInt8)
    (challenge : Challenge) (j : ℕ) :
    (((iv.set 8 c1).set 9 c2).take 10 ++ challenge.toList ++ ((iv.set 8 c1).set 9 c2).drop 16)[j]? =
      if j < 8 then iv[j]? else if j = 8 then some c1 else if j = 9 then some c2
      else challenge.toList[j - 10]? := by
  have hiv : iv.length = 16 := hlen
  have htake : (((iv.set 8 c1).set 9 c2).take 10).length = 10 := by
    simp only [List.length_take, List.length_set, hiv]
    rfl
  have hdrop : ((iv.set 8 c1).set 9 c2).drop 16 = [] :=
    List.drop_eq_nil_of_le (by rw [List.length_set, List.length_set, hiv])
  rw [hdrop, List.append_nil]
  by_cases hj : j < 10
  · rw [List.getElem?_append_left (by omega), List.getElem?_take, if_pos hj]
    by_cases h9 : j = 9
    · rw [if_neg (by omega), if_neg (by omega), if_pos h9, h9,
        List.getElem?_set_self (by rw [List.length_set]; omega)]
    · rw [List.getElem?_set_ne (by omega)]
      by_cases h8 : j = 8
      · rw [if_neg (by omega), if_pos h8, h8, List.getElem?_set_self (by omega)]
      · rw [if_pos (by omega), List.getElem?_set_ne (by omega)]
  · rw [List.getElem?_append_right (by omega), htake, if_neg (by omega), if_neg (by omega),
      if_neg (by omega)]

theorem constructIv_getElem? (data : List UInt8) (challenge : Challenge) (j : ℕ) :
    (HomeIoControl.constructIv data challenge).toList[j]? =
      if j < 8 then some (data.getD j ivPadding)
      else if j = 8 then some (data.foldl HomeIoControl.computeChecksum (0, 0)).1
      else if j = 9 then some (data.foldl HomeIoControl.computeChecksum (0, 0)).2
      else challenge.toList[j - 10]? := by
  have hchallenge : challenge.toList.length = 6 := Vector.length_toList
  by_cases hj : j < 16
  · rw [List.getElem?_eq_getElem (by rw [Vector.length_toList]; exact hj), Vector.getElem_toList,
      HomeIoControl.constructIv, Vector.getElem_ofFn]
    dsimp only
    split_ifs with h8 h h9
    · rfl
    · rfl
    · rfl
    · rw [List.getD_eq_getElem?_getD, List.getElem?_eq_getElem (by omega), Option.getD_some]
  · rw [List.getElem?_eq_none (by rw [Vector.length_toList]; omega), if_neg (by omega),
      if_neg (by omega), if_neg (by omega), List.getElem?_eq_none (by omega)]

/-- The scripts and the firmware put the same bytes under the cipher. -/
theorem constructIv_eq (data : List UInt8) (challenge : Challenge) :
    constructIv data challenge.toList =
      .ok (HomeIoControl.constructIv data challenge).toList := by
  obtain ⟨h1, h2⟩ := foldl_ivStep_checksums data 0 (0, 0) ivStart rfl rfl
  have hiv : padIv data.length (data.zipIdx.foldl ivStep ivStart).iv = paddedIv data := rfl
  rw [constructIv, if_neg (by rw [Vector.length_toList]; exact fun h => h rfl)]
  dsimp only
  rw [hiv, h1, h2, setByte_toNat]
  dsimp only [bind, Except.bind, pure, Except.pure]
  rw [setByte_toNat]
  dsimp only
  congr 1
  apply List.ext_getElem?
  intro j
  rw [assembled_getElem? (paddedIv_length data), constructIv_getElem?]
  split_ifs with hj
  · exact paddedIv_getElem? data j hj
  · rfl
  · rfl
  · rfl

/-! ## Both sides of the cipher -/

section
variable {ecb : AesBlock → AesKey → AesBlock}

theorem aes128EcbEncryptBlock_toList (block : AesBlock) (key : AesKey) :
    aes128EcbEncryptBlock ecb block.toList key.toList = .ok (ecb block key).toList := by
  rw [aes128EcbEncryptBlock, dif_pos ⟨Vector.length_toList, Vector.length_toList⟩]
  congr 3

theorem createHmac_eq (hecb : ∀ block key, ecb block key = aes128Encrypt block key)
    (data : List UInt8) (challenge : Challenge) (key : AesKey) :
    createHmac ecb data challenge.toList key.toList =
      .ok (HomeIoControl.createHmac data challenge key).toList := by
  -- the code is the front of the encrypted block
  have hfront (encrypted : AesBlock) : encrypted.toList.take hmacSize =
      (#v[encrypted[0], encrypted[1], encrypted[2], encrypted[3], encrypted[4],
        encrypted[5]] : Hmac).toList := by
    apply List.ext_getElem
    · simp [hmacSize]
    · intro i hi hi'
      have hi6 : i < 6 := by simpa [hmacSize] using hi
      rw [List.getElem_take, Vector.getElem_toList, Vector.getElem_toList]
      interval_cases i <;> rfl
  unfold createHmac
  rw [constructIv_eq]
  dsimp only [bind, Except.bind, pure, Except.pure]
  rw [aes128EcbEncryptBlock_toList, hecb]
  exact congrArg Except.ok (hfront _)

theorem cryptKey_eq (hecb : ∀ block key, ecb block key = aes128Encrypt block key)
    (data : List UInt8) (challenge : Challenge) (input : AesKey) :
    cryptKey ecb data challenge.toList input.toList =
      .ok (HomeIoControl.cryptKey data challenge input).toList := by
  unfold cryptKey
  rw [if_neg (by rw [Vector.length_toList]; exact fun h => h rfl), constructIv_eq]
  dsimp only [bind, Except.bind, pure, Except.pure]
  rw [aes128EcbEncryptBlock_toList, hecb]
  apply congrArg Except.ok
  apply List.ext_getElem
  · simp
  · intro i hi hi'
    simp [HomeIoControl.cryptKey]

end

/-- The scripts compute the proprietary functions of the firmware, and with the same block cipher
also its authentication codes and key transfers. -/
theorem scripts_compute_firmware_functions :
    (∀ byte c1 c2 : UInt8, computeChecksum byte.toNat c1.toNat c2.toNat =
        ((HomeIoControl.computeChecksum (c1, c2) byte).1.toNat,
          (HomeIoControl.computeChecksum (c1, c2) byte).2.toNat)) ∧
      (∀ (data : List UInt8) (challenge : Challenge), constructIv data challenge.toList =
        .ok (HomeIoControl.constructIv data challenge).toList) ∧
      (∀ data : List UInt8, crcCcitt data = (HomeIoControl.crcCcitt data).toNat) ∧
      ∀ ecb : AesBlock → AesKey → AesBlock,
        (∀ block key, ecb block key = aes128Encrypt block key) →
        (∀ (data : List UInt8) (challenge : Challenge) (key : AesKey),
          createHmac ecb data challenge.toList key.toList =
            .ok (HomeIoControl.createHmac data challenge key).toList) ∧
        ∀ (data : List UInt8) (challenge : Challenge) (input : AesKey),
          cryptKey ecb data challenge.toList input.toList =
            .ok (HomeIoControl.cryptKey data challenge input).toList :=
  ⟨computeChecksum_toNat, constructIv_eq, crcCcitt_toNat,
    fun _ hecb => ⟨createHmac_eq hecb, cryptKey_eq hecb⟩⟩

/-- A key transfer under the cipher of the firmware itself. -/
theorem scripts_compute_firmware_functions_aes :
    cryptKey aes128Encrypt [0x31] (Vector.replicate 6 7 : Challenge).toList
        (Vector.replicate 16 1 : AesKey).toList =
      .ok (HomeIoControl.cryptKey [0x31] (.replicate 6 7) (.replicate 16 1)).toList :=
  (scripts_compute_firmware_functions.2.2.2 aes128Encrypt fun _ _ => rfl).2 _ _ _

end HomeIoControl.Corpus
