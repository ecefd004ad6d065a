import Mathlib.Algebra.Group.Hom.Basic
import Mathlib.Tactic.Abel

/-! ## Mixing four cells

The four outputs are one row of factors, rotated. Where every element is its own negative, two rows
undo each other whatever additive map the doubling is. -/

namespace CirculantMix

variable {α : Type*} [AddCommGroup α] (double : α →+ α)

/-- The row 2, 3, 1, 1. -/
def row (a b c d : α) : α := double a + (double b + b) + c + d

/-- The row 14, 11, 13, 9. -/
def invRow (a b c d : α) : α :=
  (double (double (double a)) + double (double a) + double a) +
    (double (double (double b)) + double b + b) +
    (double (double (double c)) + double (double c) + c) +
    (double (double (double d)) + d)

variable {double} (h : ∀ a : α, a + a = 0)
include h

theorem two_zsmul_eq_zero (a : α) : (2 : ℤ) • a = 0 := by rw [two_zsmul, h]

theorem three_zsmul_eq (a : α) : (3 : ℤ) • a = a := by
  rw [show (3 : ℤ) = 2 + 1 by decide, add_zsmul, two_zsmul_eq_zero h, zero_add, one_zsmul]

theorem four_zsmul_eq_zero (a : α) : (4 : ℤ) • a = 0 := by
  rw [show (4 : ℤ) = 2 + 2 by decide, add_zsmul, two_zsmul_eq_zero h, zero_add]

/-- Every product with another cell occurs an even number of times. -/
theorem invRow_row (a b c d : α) :
    invRow double (row double a b c d) (row double b c d a) (row double c d a b)
      (row double d a b c) = a := by
  unfold row invRow
  simp only [map_add]
  abel_nf
  simp only [two_zsmul_eq_zero h, three_zsmul_eq h, four_zsmul_eq_zero h, zero_add, add_zero]

theorem row_invRow (a b c d : α) :
    row double (invRow double a b c d) (invRow double b c d a) (invRow double c d a b)
      (invRow double d a b c) = a := by
  unfold row invRow
  simp only [map_add]
  abel_nf
  simp only [two_zsmul_eq_zero h, three_zsmul_eq h, four_zsmul_eq_zero h, zero_add, add_zero]

end CirculantMix
