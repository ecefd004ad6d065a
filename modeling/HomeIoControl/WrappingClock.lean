import Mathlib.Tactic.Common

namespace WrappingClock

/-- What a counter that wraps at `m` shows when `d` has passed since it showed `n`. -/
def reading (m n d : ℕ) : ℕ := (n + d) % m

variable {m n d w : ℕ}

theorem reading_of_lt (h : n + d < m) : reading m n d = n + d := Nat.mod_eq_of_lt h

theorem reading_of_le (hn : n < m) (hd : d < m) (h : m ≤ n + d) : reading m n d = n + d - m := by
  rw [reading, Nat.mod_eq_sub_mod h]
  apply Nat.mod_eq_of_lt
  omega

theorem reading_eq_zero_iff (hn : n < m) (hd : d < m) (hpos : 0 < d) :
    reading m n d = 0 ↔ n + d = m := by
  by_cases h : n + d < m
  · rw [reading_of_lt h]
    omega
  · rw [reading_of_le hn hd (Nat.le_of_not_lt h)]
    omega

/-- Comparing two readings compares the times unless one of them alone has wrapped. -/
theorem reading_le_iff (hn : n < m) (hd : d < m) (hw : w < m) :
    (reading m n d ≤ reading m n w ↔ d ≤ w) ↔ (n + d < m ↔ n + w < m) := by
  by_cases hd' : n + d < m <;> by_cases hw' : n + w < m
  · rw [reading_of_lt hd', reading_of_lt hw']
    omega
  · rw [reading_of_lt hd', reading_of_le hn hw (Nat.le_of_not_lt hw')]
    omega
  · rw [reading_of_le hn hd (Nat.le_of_not_lt hd'), reading_of_lt hw']
    omega
  · rw [reading_of_le hn hd (Nat.le_of_not_lt hd'), reading_of_le hn hw (Nat.le_of_not_lt hw')]
    omega

theorem reading_lt_iff (hn : n < m) (hd : d < m) (hw : w < m) :
    (reading m n d < reading m n w ↔ d < w) ↔ (n + d < m ↔ n + w < m) := by
  have h := reading_le_iff hn hw hd
  rw [← Nat.not_lt, ← Nat.not_lt, not_iff_not] at h
  rw [h]
  exact Iff.comm

end WrappingClock
