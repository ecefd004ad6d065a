import HomeIoControl.AffineRegister

/-! Registers that take one bit at a time, which each step moves down by one place. -/

namespace ShiftRegister
open AffineRegister

variable {M : Type*} [AddCommGroup M] {L : AddMonoid.End M} {unit : ℕ → M} {width : ℕ}

/-- The unit of every place but the lowest moves down by one. -/
def MovesDown (L : AddMonoid.End M) (unit : ℕ → M) (width : ℕ) : Prop :=
  ∀ i, i + 1 < width → L (unit (i + 1)) = unit i

/-- A bit at a place of the register. -/
def bitAt (unit : ℕ → M) (i : ℕ) (b : Bool) : M := if b then unit i else 0

/-- Bits at consecutive places of the register. -/
def word (unit : ℕ → M) : ℕ → List Bool → M
  | _, [] => 0
  | i, b :: bits => bitAt unit i b + word unit (i + 1) bits

/-- The register shifts the bits in at its lowest place. -/
def runBits (L : AddMonoid.End M) (unit : ℕ → M) (s : M) (bits : List Bool) : M :=
  run L s (bits.map (bitAt unit 0))

theorem runBits_append (s : M) (bits bits' : List Bool) :
    runBits L unit s (bits ++ bits') = runBits L unit (runBits L unit s bits) bits' := by
  unfold runBits
  rw [List.map_append, run_append]

theorem map_bitAt (h : MovesDown L unit width) {i : ℕ} (hi : i + 1 < width) (b : Bool) :
    L (bitAt unit (i + 1) b) = bitAt unit i b := by
  cases b with
  | false => exact map_zero L
  | true => exact h i hi

theorem map_word (h : MovesDown L unit width) (bits : List Bool) (i : ℕ)
    (hfits : i + 1 + bits.length ≤ width) : L (word unit (i + 1) bits) = word unit i bits := by
  induction bits generalizing i with
  | nil => exact map_zero L
  | cons b bits ih =>
    rw [List.length_cons] at hfits
    unfold word
    rw [map_add, map_bitAt h (by omega), ih (i + 1) (by omega)]

/-- Bits that fit into the register act as if all of them had been there from the beginning. -/
theorem runBits_eq (h : MovesDown L unit width) (s : M) (bits : List Bool)
    (hfits : bits.length ≤ width) :
    runBits L unit s bits = (L ^ bits.length) (s + word unit 0 bits) := by
  rw [AddMonoid.End.coe_pow]
  induction bits generalizing s with
  | nil => exact (add_zero s).symm
  | cons b bits ih =>
    rw [List.length_cons] at hfits
    have hword := map_word h bits 0 (by omega)
    calc runBits L unit s (b :: bits)
        = L^[bits.length] (L (s + bitAt unit 0 b) + word unit 0 bits) := ih _ (by omega)
      _ = L^[bits.length] (L (s + bitAt unit 0 b + word unit 1 bits)) := by
          rw [← hword, ← map_add]
      _ = L^[bits.length + 1] (s + word unit 0 (b :: bits)) := by
          rw [Function.iterate_succ_apply, add_assoc]
          rfl

/-! ## Bursts -/

/-- A register that forgets nothing ends differently after a burst that fits into it. -/
theorem runBits_ne_of_burst (h : MovesDown L unit width) (hL : Function.Injective L)
    (hword : ∀ burst burst' : List Bool, burst.length = burst'.length → burst.length ≤ width →
      word unit 0 burst = word unit 0 burst' → burst = burst')
    (s : M) {start : ℕ} {bits bits' : List Bool} (hlength : bits.length = bits'.length)
    (hne : bits ≠ bits') (hburst : DifferWithin start width bits bits') :
    runBits L unit s bits ≠ runBits L unit s bits' := by
  intro hrun
  have hsame : ((bits.drop start).take width).length = ((bits'.drop start).take width).length := by
    simp [hlength]
  have hfits : ((bits.drop start).take width).length ≤ width := List.length_take_le _ _
  unfold runBits at hrun
  rw [run_eq_iff_of_differWithin hL s (by simpa using hlength) (hburst.map _), ← List.map_drop,
    ← List.map_drop, ← List.map_take, ← List.map_take, ← runBits, ← runBits,
    runBits_eq h _ _ hfits, runBits_eq h _ _ (hsame ▸ hfits), zero_add, zero_add, hsame,
    AddMonoid.End.coe_pow] at hrun
  have hmiddle := hword _ _ hsame hfits (hL.iterate _ hrun)
  -- before and after the burst the two streams are one
  apply hne
  rw [← take_append_middle start width bits, ← take_append_middle start width bits', hburst.take_eq,
    hburst.drop_eq, hmiddle]

end ShiftRegister
