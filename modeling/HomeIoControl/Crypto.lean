import HomeIoControl.Constants
import Mathlib.Logic.Function.Iterate

namespace HomeIoControl

abbrev AesKey := Vector UInt8 16
abbrev AesBlock := Vector UInt8 16
abbrev Challenge := Vector UInt8 6
abbrev Hmac := Vector UInt8 6

/-- The key that hides the system key during pairing. -/
def transferKey : AesKey :=
  #v[0x34, 0xC3, 0x46, 0x6E, 0xD8, 0x8F, 0x4E, 0x8E, 0x16, 0xAA, 0x47, 0x39, 0x49, 0x88, 0x43, 0x73]

/-! ## AES-128 -/

def aesSbox : List UInt8 := [
    0x63, 0x7C, 0x77, 0x7B, 0xF2, 0x6B, 0x6F, 0xC5, 0x30, 0x01, 0x67, 0x2B, 0xFE, 0xD7, 0xAB, 0x76,
    0xCA, 0x82, 0xC9, 0x7D, 0xFA, 0x59, 0x47, 0xF0, 0xAD, 0xD4, 0xA2, 0xAF, 0x9C, 0xA4, 0x72, 0xC0,
    0xB7, 0xFD, 0x93, 0x26, 0x36, 0x3F, 0xF7, 0xCC, 0x34, 0xA5, 0xE5, 0xF1, 0x71, 0xD8, 0x31, 0x15,
    0x04, 0xC7, 0x23, 0xC3, 0x18, 0x96, 0x05, 0x9A, 0x07, 0x12, 0x80, 0xE2, 0xEB, 0x27, 0xB2, 0x75,
    0x09, 0x83, 0x2C, 0x1A, 0x1B, 0x6E, 0x5A, 0xA0, 0x52, 0x3B, 0xD6, 0xB3, 0x29, 0xE3, 0x2F, 0x84,
    0x53, 0xD1, 0x00, 0xED, 0x20, 0xFC, 0xB1, 0x5B, 0x6A, 0xCB, 0xBE, 0x39, 0x4A, 0x4C, 0x58, 0xCF,
    0xD0, 0xEF, 0xAA, 0xFB, 0x43, 0x4D, 0x33, 0x85, 0x45, 0xF9, 0x02, 0x7F, 0x50, 0x3C, 0x9F, 0xA8,
    0x51, 0xA3, 0x40, 0x8F, 0x92, 0x9D, 0x38, 0xF5, 0xBC, 0xB6, 0xDA, 0x21, 0x10, 0xFF, 0xF3, 0xD2,
    0xCD, 0x0C, 0x13, 0xEC, 0x5F, 0x97, 0x44, 0x17, 0xC4, 0xA7, 0x7E, 0x3D, 0x64, 0x5D, 0x19, 0x73,
    0x60, 0x81, 0x4F, 0xDC, 0x22, 0x2A, 0x90, 0x88, 0x46, 0xEE, 0xB8, 0x14, 0xDE, 0x5E, 0x0B, 0xDB,
    0xE0, 0x32, 0x3A, 0x0A, 0x49, 0x06, 0x24, 0x5C, 0xC2, 0xD3, 0xAC, 0x62, 0x91, 0x95, 0xE4, 0x79,
    0xE7, 0xC8, 0x37, 0x6D, 0x8D, 0xD5, 0x4E, 0xA9, 0x6C, 0x56, 0xF4, 0xEA, 0x65, 0x7A, 0xAE, 0x08,
    0xBA, 0x78, 0x25, 0x2E, 0x1C, 0xA6, 0xB4, 0xC6, 0xE8, 0xDD, 0x74, 0x1F, 0x4B, 0xBD, 0x8B, 0x8A,
    0x70, 0x3E, 0xB5, 0x66, 0x48, 0x03, 0xF6, 0x0E, 0x61, 0x35, 0x57, 0xB9, 0x86, 0xC1, 0x1D, 0x9E,
    0xE1, 0xF8, 0x98, 0x11, 0x69, 0xD9, 0x8E, 0x94, 0x9B, 0x1E, 0x87, 0xE9, 0xCE, 0x55, 0x28, 0xDF,
    0x8C, 0xA1, 0x89, 0x0D, 0xBF, 0xE6, 0x42, 0x68, 0x41, 0x99, 0x2D, 0x0F, 0xB0, 0x54, 0xBB, 0x16]

def aesInvSbox : List UInt8 := [
    0x52, 0x09, 0x6A, 0xD5, 0x30, 0x36, 0xA5, 0x38, 0xBF, 0x40, 0xA3, 0x9E, 0x81, 0xF3, 0xD7, 0xFB,
    0x7C, 0xE3, 0x39, 0x82, 0x9B, 0x2F, 0xFF, 0x87, 0x34, 0x8E, 0x43, 0x44, 0xC4, 0xDE, 0xE9, 0xCB,
    0x54, 0x7B, 0x94, 0x32, 0xA6, 0xC2, 0x23, 0x3D, 0xEE, 0x4C, 0x95, 0x0B, 0x42, 0xFA, 0xC3, 0x4E,
    0x08, 0x2E, 0xA1, 0x66, 0x28, 0xD9, 0x24, 0xB2, 0x76, 0x5B, 0xA2, 0x49, 0x6D, 0x8B, 0xD1, 0x25,
    0x72, 0xF8, 0xF6, 0x64, 0x86, 0x68, 0x98, 0x16, 0xD4, 0xA4, 0x5C, 0xCC, 0x5D, 0x65, 0xB6, 0x92,
    0x6C, 0x70, 0x48, 0x50, 0xFD, 0xED, 0xB9, 0xDA, 0x5E, 0x15, 0x46, 0x57, 0xA7, 0x8D, 0x9D, 0x84,
    0x90, 0xD8, 0xAB, 0x00, 0x8C, 0xBC, 0xD3, 0x0A, 0xF7, 0xE4, 0x58, 0x05, 0xB8, 0xB3, 0x45, 0x06,
    0xD0, 0x2C, 0x1E, 0x8F, 0xCA, 0x3F, 0x0F, 0x02, 0xC1, 0xAF, 0xBD, 0x03, 0x01, 0x13, 0x8A, 0x6B,
    0x3A, 0x91, 0x11, 0x41, 0x4F, 0x67, 0xDC, 0xEA, 0x97, 0xF2, 0xCF, 0xCE, 0xF0, 0xB4, 0xE6, 0x73,
    0x96, 0xAC, 0x74, 0x22, 0xE7, 0xAD, 0x35, 0x85, 0xE2, 0xF9, 0x37, 0xE8, 0x1C, 0x75, 0xDF, 0x6E,
    0x47, 0xF1, 0x1A, 0x71, 0x1D, 0x29, 0xC5, 0x89, 0x6F, 0xB7, 0x62, 0x0E, 0xAA, 0x18, 0xBE, 0x1B,
    0xFC, 0x56, 0x3E, 0x4B, 0xC6, 0xD2, 0x79, 0x20, 0x9A, 0xDB, 0xC0, 0xFE, 0x78, 0xCD, 0x5A, 0xF4,
    0x1F, 0xDD, 0xA8, 0x33, 0x88, 0x07, 0xC7, 0x31, 0xB1, 0x12, 0x10, 0x59, 0x27, 0x80, 0xEC, 0x5F,
    0x60, 0x51, 0x7F, 0xA9, 0x19, 0xB5, 0x4A, 0x0D, 0x2D, 0xE5, 0x7A, 0x9F, 0x93, 0xC9, 0x9C, 0xEF,
    0xA0, 0xE0, 0x3B, 0x4D, 0xAE, 0x2A, 0xF5, 0xB0, 0xC8, 0xEB, 0xBB, 0x3C, 0x83, 0x53, 0x99, 0x61,
    0x17, 0x2B, 0x04, 0x7E, 0xBA, 0x77, 0xD6, 0x26, 0xE1, 0x69, 0x14, 0x63, 0x55, 0x21, 0x0C, 0x7D]

def aesRcon : List UInt8 :=
  [0x00, 0x01, 0x02, 0x04, 0x08, 0x10, 0x20, 0x40, 0x80, 0x1B, 0x36]

/-- Doubling in the field. -/
def aesDouble (value : UInt8) : UInt8 :=
  if value &&& 0x80 != 0 then (value <<< 1) ^^^ 0x1B else value <<< 1

/-- Shift-and-add over the bits of the factor, which a byte has at most eight of. -/
def aesMulLoop : ℕ → UInt8 → UInt8 → UInt8 → UInt8
  | 0, result, _, _ => result
  | fuel + 1, result, value, factor =>
    if factor = 0 then result
    else
      aesMulLoop fuel (if factor &&& 1 != 0 then result ^^^ value else result) (aesDouble value)
        (factor >>> 1)

def aesMul (value factor : UInt8) : UInt8 := aesMulLoop 8 0 value factor

def aesAddRoundKey (state : AesBlock) (roundKeys : List UInt8) (round : ℕ) : AesBlock :=
  .ofFn fun i => state[i] ^^^ roundKeys.getD (round * 16 + i) 0

def aesSubBytes (state : AesBlock) : AesBlock := state.map fun b => aesSbox.getD b.toNat 0

def aesInvSubBytes (state : AesBlock) : AesBlock := state.map fun b => aesInvSbox.getD b.toNat 0

def aesShiftRows (s : AesBlock) : AesBlock :=
  #v[s[0], s[5], s[10], s[15], s[4], s[9], s[14], s[3], s[8], s[13], s[2], s[7], s[12], s[1], s[6],
    s[11]]

def aesInvShiftRows (s : AesBlock) : AesBlock :=
  #v[s[0], s[13], s[10], s[7], s[4], s[1], s[14], s[11], s[8], s[5], s[2], s[15], s[12], s[9], s[6],
    s[3]]

def aesMixColumn (a0 a1 a2 a3 : UInt8) : List UInt8 :=
  [aesMul a0 0x02 ^^^ aesMul a1 0x03 ^^^ a2 ^^^ a3,
    a0 ^^^ aesMul a1 0x02 ^^^ aesMul a2 0x03 ^^^ a3,
    a0 ^^^ a1 ^^^ aesMul a2 0x02 ^^^ aesMul a3 0x03,
    aesMul a0 0x03 ^^^ a1 ^^^ a2 ^^^ aesMul a3 0x02]

def aesInvMixColumn (a0 a1 a2 a3 : UInt8) : List UInt8 :=
  [aesMul a0 0x0E ^^^ aesMul a1 0x0B ^^^ aesMul a2 0x0D ^^^ aesMul a3 0x09,
    aesMul a0 0x09 ^^^ aesMul a1 0x0E ^^^ aesMul a2 0x0B ^^^ aesMul a3 0x0D,
    aesMul a0 0x0D ^^^ aesMul a1 0x09 ^^^ aesMul a2 0x0E ^^^ aesMul a3 0x0B,
    aesMul a0 0x0B ^^^ aesMul a1 0x0D ^^^ aesMul a2 0x09 ^^^ aesMul a3 0x0E]

/-- Applies a column map to the four columns. -/
def mapColumns (f : UInt8 → UInt8 → UInt8 → UInt8 → List UInt8) (s : AesBlock) : AesBlock :=
  .ofFn fun i =>
    let c := i.val / 4 * 4
    (f (s.toList.getD c 0) (s.toList.getD (c + 1) 0) (s.toList.getD (c + 2) 0)
      (s.toList.getD (c + 3) 0)).getD (i.val % 4) 0

def aesMixColumns (state : AesBlock) : AesBlock := mapColumns aesMixColumn state

def aesInvMixColumns (state : AesBlock) : AesBlock := mapColumns aesInvMixColumn state

/-- Appends the next four bytes of the key schedule. -/
def aesExpandStep (roundKeys : List UInt8) : List UInt8 :=
  let n := roundKeys.length
  let last i := roundKeys.getD (n - 4 + i) 0
  let sub i := aesSbox.getD (last i).toNat 0
  let temp :=
    if n % 16 = 0 then [sub 1 ^^^ aesRcon.getD (n / 16) 0, sub 2, sub 3, sub 0]
    else [last 0, last 1, last 2, last 3]
  roundKeys ++ temp.mapIdx fun i value => roundKeys.getD (n - 16 + i) 0 ^^^ value

/-- The 176 bytes of the key schedule. -/
def aesExpandKey (key : AesKey) : List UInt8 := aesExpandStep^[40] key.toList

def aesEncryptRound (roundKeys : List UInt8) (state : AesBlock) (round : ℕ) : AesBlock :=
  aesAddRoundKey (aesMixColumns (aesShiftRows (aesSubBytes state))) roundKeys round

def aesDecryptRound (roundKeys : List UInt8) (state : AesBlock) (round : ℕ) : AesBlock :=
  aesInvMixColumns (aesAddRoundKey (aesInvSubBytes (aesInvShiftRows state)) roundKeys round)

def aes128Encrypt (block : AesBlock) (key : AesKey) : AesBlock :=
  let roundKeys := aesExpandKey key
  let state := [1, 2, 3, 4, 5, 6, 7, 8, 9].foldl (aesEncryptRound roundKeys)
    (aesAddRoundKey block roundKeys 0)
  aesAddRoundKey (aesShiftRows (aesSubBytes state)) roundKeys 10

def aes128Decrypt (block : AesBlock) (key : AesKey) : AesBlock :=
  let roundKeys := aesExpandKey key
  let state := [9, 8, 7, 6, 5, 4, 3, 2, 1].foldl (aesDecryptRound roundKeys)
    (aesAddRoundKey block roundKeys 10)
  aesAddRoundKey (aesInvSubBytes (aesInvShiftRows state)) roundKeys 0

/-! ## Authentication codes -/

/-- One step of the protocol's own checksum. -/
def computeChecksum (c : UInt8 × UInt8) (byte : UInt8) : UInt8 × UInt8 :=
  let tmp := byte ^^^ c.2
  let shifted := (c.1 &&& 0x7F) <<< 1
  let carried := if tmp ≥ 128 then shifted ||| 1 else shifted
  if c.1 &&& 0x80 == 0 then (carried, tmp <<< 1)
  else (carried ^^^ 0x55, (tmp <<< 1) ^^^ 0x5B)

def ivPadding : UInt8 := 0x55

/-- Eight bytes of padded data, two checksum bytes and the challenge. -/
def constructIv (data : List UInt8) (challenge : Challenge) : AesBlock :=
  let c := data.foldl computeChecksum (0, 0)
  .ofFn fun i =>
    if i.val < 8 then data.getD i ivPadding
    else if i.val = 8 then c.1
    else if i.val = 9 then c.2
    else challenge.toList.getD (i.val - 10) 0

/-- The first six bytes of the encrypted initialization vector. -/
def createHmac (data : List UInt8) (challenge : Challenge) (key : AesKey) : Hmac :=
  let encrypted := aes128Encrypt (constructIv data challenge) key
  #v[encrypted[0], encrypted[1], encrypted[2], encrypted[3], encrypted[4], encrypted[5]]

def verifyHmac (data : List UInt8) (hmac : Hmac) (challenge : Challenge) (key : AesKey) : Bool :=
  hmac == createHmac data challenge key

/-- Encrypts and decrypts the system key. -/
def cryptKey (data : List UInt8) (challenge : Challenge) (input : AesKey) : AesKey :=
  let encIv := aes128Encrypt (constructIv data challenge) transferKey
  .ofFn fun i => input[i] ^^^ encIv[i]

theorem cryptKey_cryptKey (data : List UInt8) (challenge : Challenge) (input : AesKey) :
    cryptKey data challenge (cryptKey data challenge input) = input := by
  unfold cryptKey
  generalize aes128Encrypt (constructIv data challenge) transferKey = mask
  apply Vector.ext
  intro i hi
  simp only [Vector.getElem_ofFn, Fin.getElem_fin, UInt8.xor_assoc, UInt8.xor_self,
    UInt8.xor_zero]

end HomeIoControl
