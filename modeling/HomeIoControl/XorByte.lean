import Mathlib.Algebra.Group.Basic
import Mathlib.Tactic.Common

namespace HomeIoControl

/-! ## Bytes under exclusive or -/

/-- A byte under exclusive or. -/
@[ext] structure XorByte where
  byte : UInt8
  deriving DecidableEq

namespace XorByte

instance : Add XorByte := ⟨fun a b => ⟨a.byte ^^^ b.byte⟩⟩
instance : Zero XorByte := ⟨⟨0⟩⟩
instance : Neg XorByte := ⟨id⟩

@[simp] theorem byte_add (a b : XorByte) : (a + b).byte = a.byte ^^^ b.byte := rfl
@[simp] theorem byte_zero : (0 : XorByte).byte = 0 := rfl
@[simp] theorem byte_neg (a : XorByte) : (-a).byte = a.byte := rfl

instance : AddCommGroup XorByte where
  add_assoc a b c := by ext; simp [UInt8.xor_assoc]
  zero_add a := by ext; simp
  add_zero a := by ext; simp
  neg_add_cancel a := by ext; simp
  add_comm a b := by ext; simp [UInt8.xor_comm]
  nsmul := nsmulRec
  zsmul := zsmulRec

@[simp] theorem byte_sub (a b : XorByte) : (a - b).byte = a.byte ^^^ b.byte := by
  rw [sub_eq_add_neg, byte_add, byte_neg]

end XorByte

/-- A byte is checked nibble by nibble, which keeps the recursion of `decide` shallow. -/
theorem byte_of_nibbles {P : UInt8 → Prop} (h : ∀ hi < 16, ∀ lo < 16, P (.ofNat (16 * hi + lo)))
    (b : UInt8) : P b := by
  have hlt := b.toNat_lt
  have hb := h (b.toNat / 16) (by omega) (b.toNat % 16) (by omega)
  rwa [Nat.div_add_mod, UInt8.ofNat_toNat] at hb

/-- The feedback byte, if the top bit is set. -/
def feedback (mask byte : UInt8) : UInt8 := ((0 : UInt8) - (byte >>> 7)) &&& mask

theorem topBit_cases (b : UInt8) :
    (b >>> 7 = 0 ∧ b &&& 0x80 = 0 ∧ ¬b ≥ 128) ∨ (b >>> 7 = 1 ∧ b &&& 0x80 = 0x80 ∧ b ≥ 128) := by
  apply byte_of_nibbles _ b
  decide +kernel

theorem feedback_xor (mask a b : UInt8) :
    feedback mask (a ^^^ b) = feedback mask a ^^^ feedback mask b := by
  unfold feedback
  rw [UInt8.shiftRight_xor]
  rcases topBit_cases a with ⟨ha, -⟩ | ⟨ha, -⟩ <;> rcases topBit_cases b with ⟨hb, -⟩ | ⟨hb, -⟩ <;>
    simp [ha, hb]

end HomeIoControl
