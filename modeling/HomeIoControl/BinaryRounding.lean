import Mathlib.Data.Int.Log
import Mathlib.Data.Rat.Floor
import Mathlib.Tactic.NormNum
import Mathlib.Tactic.Linarith

/-! # Rounding to a binary floating-point format

Numbers are rationals. A format has a precision and a least exponent. -/

namespace BinaryRounding

/-- The nearest integer, the even one of two. -/
def roundHalfEven (x : ℚ) : ℤ :=
  if Int.fract x < 1 / 2 ∨ Int.fract x = 1 / 2 ∧ ⌊x⌋ % 2 = 0 then ⌊x⌋ else ⌊x⌋ + 1

/-- The distance between the neighbours of a number in the format. -/
def step (precision : ℕ) (least : ℤ) (x : ℚ) : ℚ :=
  2 ^ max (Int.log 2 |x| + 1 - precision) least

/-- The number of the format that is nearest. -/
def roundBinary (precision : ℕ) (least : ℤ) (x : ℚ) : ℚ :=
  roundHalfEven (x / step precision least x) * step precision least x

theorem roundHalfEven_le {x : ℚ} {n : ℤ} (h : x ≤ n) : roundHalfEven x ≤ n := by
  have hfloor : ⌊x⌋ ≤ n := Int.floor_le_iff.2 (h.trans_lt (by linarith))
  unfold roundHalfEven
  split_ifs with hdown
  · exact hfloor
  · rcases hfloor.lt_or_eq with hlt | heq
    · omega
    · -- the number is the integer itself, so it is not rounded up
      have hfract : Int.fract x ≤ 0 := by
        rw [← heq] at h
        have hdecompose := Int.floor_add_fract x
        linarith
      exact absurd (.inl (hfract.trans_lt (by norm_num))) hdown

theorem step_pos (precision : ℕ) (least : ℤ) (x : ℚ) : 0 < step precision least x :=
  zpow_pos two_pos _

/-- Below a number of few digits the step divides one. -/
theorem exists_step_mul_eq_one {precision n : ℕ} {least : ℤ} {x : ℚ} (hleast : least ≤ 0)
    (hn : n < 2 ^ precision) (hpos : 0 < x) (hx : x ≤ n) :
    ∃ k : ℕ, k * step precision least x = 1 := by
  have hlog : Int.log 2 |x| + 1 - precision ≤ 0 := by
    rw [abs_of_pos hpos]
    have hlt : Int.log 2 x < precision := by
      apply Int.lt_of_not_ge
      intro hle
      have hpow : (2 : ℚ) ^ (precision : ℤ) ≤ x := by
        have hself := Int.zpow_log_le_self (b := 2) one_lt_two hpos
        exact (zpow_le_zpow_right₀ one_le_two hle).trans (by exact_mod_cast hself)
      have hbound : (n : ℚ) < 2 ^ precision := by exact_mod_cast hn
      rw [zpow_natCast] at hpow
      linarith
    omega
  have hexponent : max (Int.log 2 |x| + 1 - precision) least ≤ 0 := max_le hlog hleast
  obtain ⟨k, hk⟩ := Int.eq_ofNat_of_zero_le (neg_nonneg.2 hexponent)
  refine ⟨2 ^ k, ?_⟩
  unfold step
  rw [← neg_neg (max _ least), hk]
  simp

/-- Rounding passes no whole number of the format. -/
theorem roundBinary_le {precision n : ℕ} {least : ℤ} {x : ℚ} (hleast : least ≤ 0)
    (hn : n < 2 ^ precision) (hx : x ≤ n) : roundBinary precision least x ≤ n := by
  have hstep := step_pos precision least x
  unfold roundBinary
  rcases le_or_gt x 0 with hneg | hpos
  · have hround : roundHalfEven (x / step precision least x) ≤ 0 := by
      apply roundHalfEven_le
      exact_mod_cast div_nonpos_of_nonpos_of_nonneg hneg hstep.le
    have hcast : (roundHalfEven (x / step precision least x) : ℚ) ≤ 0 := by exact_mod_cast hround
    exact (mul_nonpos_of_nonpos_of_nonneg hcast hstep.le).trans (Nat.cast_nonneg n)
  · obtain ⟨k, hk⟩ := exists_step_mul_eq_one hleast hn hpos hx
    have hround : roundHalfEven (x / step precision least x) ≤ (n * k : ℕ) := by
      apply roundHalfEven_le
      rw [div_le_iff₀ hstep]
      push_cast
      rw [mul_assoc, hk, mul_one]
      exact hx
    have hcast : (roundHalfEven (x / step precision least x) : ℚ) ≤ n * k := by
      exact_mod_cast hround
    calc (roundHalfEven (x / step precision least x) : ℚ) * step precision least x
        ≤ n * k * step precision least x := mul_le_mul_of_nonneg_right hcast hstep.le
      _ = n := by rw [mul_assoc, hk, mul_one]

end BinaryRounding
