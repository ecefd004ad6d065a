import Mathlib.Data.Int.Interval
import Mathlib.Logic.Function.Iterate
import Mathlib.Order.Monotone.Basic
import Mathlib.Tactic.Linarith
import Mathlib.Tactic.Ring

/-! ## A running average in fixed point

The average is kept as a multiple of a scale. A new sample replaces the rounded average. -/

namespace RoundedAverage

/-- A rounding to whole units: multiples of the scale are exact, and neighbours at most one unit
apart. -/
structure IsRounding (scale : ℤ) (round : ℤ → ℤ) : Prop where
  exact : ∀ x, round (scale * x) = x
  le_succ : ∀ s, round s ≤ round (s + 1)
  succ_le : ∀ s, round (s + 1) ≤ round s + 1

/-- The average after a sample. -/
def blend (round : ℤ → ℤ) (s x : ℤ) : ℤ := s + x - round s

variable {scale : ℤ} {round : ℤ → ℤ}

namespace IsRounding

theorem monotone (h : IsRounding scale round) {s t : ℤ} (hst : s ≤ t) : round s ≤ round t :=
  monotone_int_of_le_succ h.le_succ hst

theorem blend_monotone (h : IsRounding scale round) (x : ℤ) {s t : ℤ} (hst : s ≤ t) :
    blend round s x ≤ blend round t x := by
  have hmono : Monotone fun s => blend round s x := by
    apply monotone_int_of_le_succ
    intro s
    have hsucc := h.succ_le s
    unfold blend
    omega
  exact hmono hst

/-- At its own value a sample changes nothing. -/
theorem blend_mul (h : IsRounding scale round) (a x : ℤ) :
    blend round (scale * a) x = scale * a + x - a := by
  rw [blend, h.exact]

/-- The average stays between the bounds of the samples. -/
theorem le_blend (h : IsRounding scale round) {a s x : ℤ} (hs : scale * a ≤ s) (hx : a ≤ x) :
    scale * a ≤ blend round s x := by
  have hmono := h.blend_monotone x hs
  rw [h.blend_mul] at hmono
  omega

theorem blend_le (h : IsRounding scale round) {b s x : ℤ} (hs : s ≤ scale * b) (hx : x ≤ b) :
    blend round s x ≤ scale * b := by
  have hmono := h.blend_monotone x hs
  rw [h.blend_mul] at hmono
  omega

/-- How far the average is from a value. -/
def distance (scale x s : ℤ) : ℕ := (s - scale * x).natAbs

/-- Unless it rounds to the sample, the average comes closer. -/
theorem distance_blend (h : IsRounding scale round) {s x : ℤ} (hne : round s ≠ x) :
    distance scale x (blend round s x) < distance scale x s := by
  have hexact := h.exact x
  rcases lt_or_ge s (scale * x) with hlt | hge
  · have hround := h.monotone hlt.le
    have hbound := h.blend_le hlt.le (le_refl x)
    unfold distance blend at *
    omega
  · have hround := h.monotone hge
    have hbound := h.le_blend hge (le_refl x)
    unfold distance blend at *
    omega

theorem blend_of_round (s : ℤ) : blend round s (round s) = s := by
  unfold blend
  omega

/-- As many equal samples as the average is away from them make it round to them. -/
theorem round_iterate (h : IsRounding scale round) (x : ℤ) (n : ℕ) {s : ℤ}
    (hn : distance scale x s ≤ n) : round ((fun s => blend round s x)^[n] s) = x := by
  induction n generalizing s with
  | zero =>
    have hs : s = scale * x := by
      unfold distance at hn
      omega
    rw [Function.iterate_zero_apply, hs, h.exact]
  | succ n ih =>
    rw [Function.iterate_succ_apply]
    by_cases hround : round s = x
    · have hfixed : blend round s x = s := hround ▸ blend_of_round s
      rw [hfixed, Function.iterate_fixed hfixed, hround]
    · have hcloser := h.distance_blend hround
      exact ih (by omega)

end IsRounding
end RoundedAverage
