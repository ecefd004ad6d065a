import Mathlib

/-! ## AES over its field

The cipher of the standard with a key of four words, on elements of the field of 256 elements. -/

namespace Rijndael

noncomputable section
open Polynomial

/-! ## The field -/

def modulus : (ZMod 2)[X] := X ^ 8 + X ^ 4 + X ^ 3 + X + 1

theorem modulus_monic : modulus.Monic := by
  unfold modulus
  monicity!

theorem modulus_degree : modulus.degree = 8 := by
  unfold modulus
  compute_degree!

abbrev Cell := AdjoinRoot modulus

def x : Cell := AdjoinRoot.root modulus

/-- The bits are the coefficients, the lowest one first. -/
def ofBits (w : Fin 8 → ZMod 2) : Cell := AdjoinRoot.mk modulus (ofFn 8 w)

def bits (a : Cell) : Fin 8 → ZMod 2 := toFn 8 (AdjoinRoot.modByMonicHom modulus_monic a)

@[simp] theorem bits_ofBits (w : Fin 8 → ZMod 2) : bits (ofBits w) = w := by
  have hdegree : (ofFn 8 w).degree < modulus.degree := by
    rw [modulus_degree]
    exact ofFn_degree_lt w
  rw [bits, ofBits, AdjoinRoot.modByMonicHom_mk,
    (modByMonic_eq_self_iff modulus_monic).2 hdegree, toFn_comp_ofFn_eq_id]

theorem ofBits_injective : Function.Injective ofBits :=
  Function.LeftInverse.injective bits_ofBits

instance : Nontrivial Cell := ofBits_injective.nontrivial

theorem ofBits_add (v w : Fin 8 → ZMod 2) : ofBits (v + w) = ofBits v + ofBits w := by
  rw [ofBits, map_add, map_add]
  rfl

theorem ofBits_eq_sum (w : Fin 8 → ZMod 2) :
    ofBits w = ∑ i : Fin 8, AdjoinRoot.of modulus (w i) * x ^ (i : ℕ) := by
  simp only [ofBits, ofFn_eq_sum_monomial, map_sum, ← C_mul_X_pow_eq_monomial, map_mul, map_pow,
    AdjoinRoot.mk_C, AdjoinRoot.mk_X, x]

theorem two_eq_zero : (2 : Cell) = 0 := by
  have htwo : (2 : ZMod 2) = 0 := rfl
  rw [← map_ofNat (AdjoinRoot.of modulus) 2, htwo, map_zero]

theorem x_pow_eight : x ^ 8 = x ^ 4 + x ^ 3 + x + 1 := by
  have hzero : AdjoinRoot.mk modulus (X ^ 8 + X ^ 4 + X ^ 3 + X + 1) = 0 := AdjoinRoot.mk_self
  simp only [map_add, map_pow, map_one, AdjoinRoot.mk_X] at hzero
  change x ^ 8 + x ^ 4 + x ^ 3 + x + 1 = 0 at hzero
  -- in characteristic two the sign does not matter
  linear_combination hzero - (x ^ 4 + x ^ 3 + x + 1) * two_eq_zero

/-- The bit that leaves at the top comes back in the places of the modulus. -/
theorem x_mul_ofBits (w : Fin 8 → ZMod 2) :
    x * ofBits w =
      ofBits ![w 7, w 0 + w 7, w 1, w 2 + w 7, w 3 + w 7, w 4, w 5, w 6] := by
  rw [ofBits_eq_sum, ofBits_eq_sum, Fin.sum_univ_eight, Fin.sum_univ_eight]
  simp only [Fin.isValue, Matrix.cons_val, map_add, Fin.coe_ofNat_eq_mod, Nat.reduceMod]
  linear_combination AdjoinRoot.of modulus (w 7) * x_pow_eight

/-! ## The steps -/

abbrev State := Matrix (Fin 4) (Fin 4) Cell

/-- Bit by bit, with the indices modulo eight. -/
def affine (a : Cell) : Cell :=
  ofBits fun i => bits a i + bits a (i + 4) + bits a (i + 5) + bits a (i + 6) + bits a (i + 7) +
    ![1, 1, 0, 0, 0, 1, 1, 0] i

/-- Zero, which has no inverse, counts as its own. -/
def subCell (a : Cell) : Cell := affine (Ring.inverse a)

def subCells (s : State) : State := s.map subCell

def shiftRows (s : State) : State := .of fun r c => s r (c + r)

/-- The columns are multiplied by the polynomial of the standard. -/
def mixColumns (s : State) : State := .circulant ![x, 1, 1, x + 1] * s

theorem subCell_zero : subCell 0 = affine 0 := by rw [subCell, Ring.inverse_zero]

theorem subCell_of_mul_eq_one {a b : Cell} (h : a * b = 1) : subCell a = affine b := by
  have hunit : IsUnit a := IsUnit.of_mul_eq_one b h
  rw [subCell, ← (Ring.inverse_mul_eq_iff_eq_mul a 1 b hunit).2 h.symm, mul_one]

theorem mixColumns_apply (s : State) (r c : Fin 4) :
    mixColumns s r c = x * s r c + (x + 1) * s (r + 1) c + s (r + 2) c + s (r + 3) c := by
  fin_cases r <;>
    simp [mixColumns, Matrix.mul_apply, Fin.sum_univ_four, Matrix.circulant_apply] <;> ring

/-! ## The key schedule -/

def rotWord (w : Fin 4 → Cell) : Fin 4 → Cell := fun r => w (r + 1)

def subWord (w : Fin 4 → Cell) : Fin 4 → Cell := fun r => subCell (w r)

def rcon (i : ℕ) : Fin 4 → Cell := ![x ^ (i - 1), 0, 0, 0]

/-- The first four words are the key. -/
def word (key : State) : ℕ → Fin 4 → Cell
  | 0 => fun r => key r 0
  | 1 => fun r => key r 1
  | 2 => fun r => key r 2
  | 3 => fun r => key r 3
  | i + 4 =>
    word key i +
      if (i + 4) % 4 = 0 then subWord (rotWord (word key (i + 3))) + rcon ((i + 4) / 4)
      else word key (i + 3)

def roundKey (key : State) (round : ℕ) : State := .of fun r c => word key (4 * round + c) r

/-! ## The cipher -/

def round (key s : State) (n : ℕ) : State := mixColumns (shiftRows (subCells s)) + roundKey key n

/-- The last round does not mix. -/
def cipher (key block : State) : State :=
  shiftRows (subCells ((List.range' 1 9).foldl (round key) (block + roundKey key 0))) +
    roundKey key 10

end

end Rijndael
