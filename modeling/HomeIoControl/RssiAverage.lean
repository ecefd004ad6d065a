import HomeIoControl.DeviceStatus
import HomeIoControl.RoundedAverage

namespace HomeIoControl

/-! ## The average without casts -/

/-- What `rssiScaledToDbm` casts. -/
def roundedDbm (scaled : ℤ) : ℤ :=
  (scaled + if 0 ≤ scaled then rssiEmaScale / 2 else -(rssiEmaScale / 2)).tdiv rssiEmaScale

/-- What `updateLinkHealth` casts. -/
def IoDevice.nextRssiEma (dev : IoDevice) (rssiDbm : ℤ) : ℤ :=
  if dev.rssiEmaScaled = rssiUnknownDbm then rssiDbm * rssiEmaScale
  else dev.rssiEmaScaled + rssiDbm - rssiScaledToDbm dev.rssiEmaScaled

def FitsInt16 (x : ℤ) : Prop := -2 ^ 15 ≤ x ∧ x < 2 ^ 15

theorem toInt16_of_fits {x : ℤ} (h : FitsInt16 x) : toInt16 x = x := by
  obtain ⟨hlow, hhigh⟩ := h
  apply Int.bmod_eq_of_le <;> omega

theorem updateLinkHealth_rssiEmaScaled (dev : IoDevice) (rssiDbm : ℤ) (now : Millis) :
    (dev.updateLinkHealth rssiDbm now).rssiEmaScaled = toInt16 (dev.nextRssiEma rssiDbm) := by
  unfold IoDevice.updateLinkHealth IoDevice.nextRssiEma
  dsimp only
  split_ifs <;> rfl

theorem roundedDbm_of_nonneg {scaled : ℤ} (h : 0 ≤ scaled) :
    roundedDbm scaled = (scaled + 4) / 8 := by
  unfold roundedDbm rssiEmaScale
  rw [if_pos h, Int.tdiv_eq_ediv_of_nonneg (by omega)]
  rfl

theorem roundedDbm_of_neg {scaled : ℤ} (h : scaled < 0) :
    roundedDbm scaled = -((4 - scaled) / 8) := by
  unfold roundedDbm rssiEmaScale
  rw [if_neg (not_le.2 h), show scaled + -(8 / 2) = -(4 - scaled) by omega, Int.neg_tdiv,
    Int.tdiv_eq_ediv_of_nonneg (by omega)]

theorem roundedDbm_mul (x : ℤ) : roundedDbm (rssiEmaScale * x) = x := by
  unfold rssiEmaScale
  rcases lt_or_ge (8 * x) 0 with hneg | hnonneg
  · rw [roundedDbm_of_neg hneg]
    omega
  · rw [roundedDbm_of_nonneg hnonneg]
    omega

/-- One eighth more is at most one unit more, also across zero. -/
theorem roundedDbm_succ (s : ℤ) :
    roundedDbm s ≤ roundedDbm (s + 1) ∧ roundedDbm (s + 1) ≤ roundedDbm s + 1 := by
  rcases lt_trichotomy s (-1) with hneg | rfl | hnonneg
  · rw [roundedDbm_of_neg (by omega), roundedDbm_of_neg (by omega)]
    omega
  · decide
  · rw [roundedDbm_of_nonneg (by omega), roundedDbm_of_nonneg (by omega)]
    omega

theorem isRounding_roundedDbm : RoundedAverage.IsRounding rssiEmaScale roundedDbm where
  exact := roundedDbm_mul
  le_succ s := (roundedDbm_succ s).1
  succ_le s := (roundedDbm_succ s).2

/-! ## A stream of samples -/

/-- The record after frames with these samples, each with its time. -/
def IoDevice.hear (dev : IoDevice) (samples : List (ℤ × Millis)) : IoDevice :=
  samples.foldl (fun dev sample => dev.updateLinkHealth sample.1 sample.2) dev

def SamplesWithin (a b : ℤ) (samples : List (ℤ × Millis)) : Prop :=
  ∀ sample ∈ samples, a ≤ sample.1 ∧ sample.1 ≤ b

namespace IoDevice

theorem hear_append (dev : IoDevice) (samples more : List (ℤ × Millis)) :
    dev.hear (samples ++ more) = (dev.hear samples).hear more :=
  List.foldl_append

/-- The average is known and between the bounds. -/
structure AverageWithin (dev : IoDevice) (a b : ℤ) : Prop where
  le_ema : rssiEmaScale * a ≤ dev.rssiEmaScaled
  ema_le : dev.rssiEmaScaled ≤ rssiEmaScale * b

variable {dev : IoDevice} {a b x : ℤ}

theorem AverageWithin.mono (h : dev.AverageWithin a b) {a' b' : ℤ} (ha : a' ≤ a) (hb : b ≤ b') :
    dev.AverageWithin a' b' := by
  obtain ⟨hle, hge⟩ := h
  unfold rssiEmaScale at hle hge
  constructor
  · unfold rssiEmaScale
    omega
  · unfold rssiEmaScale
    omega

theorem AverageWithin.known (ha : -127 ≤ a) (h : dev.AverageWithin a b) :
    dev.rssiEmaScaled ≠ rssiUnknownDbm := by
  have hle := h.le_ema
  unfold rssiEmaScale at hle
  unfold rssiUnknownDbm
  omega

section Bounded
variable (ha : -127 ≤ a) (hb : b ≤ 0)
include ha hb

theorem AverageWithin.rssiScaledToDbm_eq (h : dev.AverageWithin a b) :
    rssiScaledToDbm dev.rssiEmaScaled = roundedDbm dev.rssiEmaScaled := by
  have hlow := isRounding_roundedDbm.monotone h.le_ema
  have hhigh := isRounding_roundedDbm.monotone h.ema_le
  rw [isRounding_roundedDbm.exact] at hlow hhigh
  have hfits : FitsInt16 (roundedDbm dev.rssiEmaScaled) := by
    unfold FitsInt16
    omega
  exact toInt16_of_fits hfits

/-- Before the first sample the average is the sample, and then the blend. -/
theorem nextRssiEma_within (h : dev.rssiEmaScaled = rssiUnknownDbm ∨ dev.AverageWithin a b)
    (hlow : a ≤ x) (hhigh : x ≤ b) :
    rssiEmaScale * a ≤ dev.nextRssiEma x ∧ dev.nextRssiEma x ≤ rssiEmaScale * b := by
  unfold nextRssiEma
  rcases h with hnew | hwithin
  · rw [if_pos hnew]
    unfold rssiEmaScale
    omega
  · rw [if_neg (hwithin.known ha), hwithin.rssiScaledToDbm_eq ha hb]
    exact ⟨isRounding_roundedDbm.le_blend hwithin.le_ema hlow,
      isRounding_roundedDbm.blend_le hwithin.ema_le hhigh⟩

theorem fitsInt16_nextRssiEma
    (h : dev.rssiEmaScaled = rssiUnknownDbm ∨ dev.AverageWithin a b) (hlow : a ≤ x)
    (hhigh : x ≤ b) : FitsInt16 (dev.nextRssiEma x) := by
  obtain ⟨hle, hge⟩ := nextRssiEma_within ha hb h hlow hhigh
  unfold rssiEmaScale at hle hge
  unfold FitsInt16
  omega

theorem averageWithin_updateLinkHealth
    (h : dev.rssiEmaScaled = rssiUnknownDbm ∨ dev.AverageWithin a b) (hlow : a ≤ x)
    (hhigh : x ≤ b) (now : Millis) : (dev.updateLinkHealth x now).AverageWithin a b := by
  obtain ⟨hle, hge⟩ := nextRssiEma_within ha hb h hlow hhigh
  have hema : (dev.updateLinkHealth x now).rssiEmaScaled = dev.nextRssiEma x := by
    rw [updateLinkHealth_rssiEmaScaled,
      toInt16_of_fits (fitsInt16_nextRssiEma ha hb h hlow hhigh)]
  exact ⟨hema ▸ hle, hema ▸ hge⟩

/-- From the first sample on the average stays between the bounds. -/
theorem averageWithin_hear
    (h : dev.rssiEmaScaled = rssiUnknownDbm ∨ dev.AverageWithin a b)
    (samples : List (ℤ × Millis)) (hsamples : SamplesWithin a b samples) :
    samples = [] ∨ (dev.hear samples).AverageWithin a b := by
  induction samples generalizing dev with
  | nil => exact .inl rfl
  | cons sample samples ih =>
    obtain ⟨hlow, hhigh⟩ := hsamples sample (by simp)
    have hfirst := averageWithin_updateLinkHealth ha hb h hlow hhigh sample.2
    rcases ih (.inr hfirst) fun s hs => hsamples s (by simp [hs]) with rfl | hrest
    · exact .inr hfirst
    · exact .inr hrest

end Bounded

/-- Equal samples iterate the blend. -/
theorem hear_constant (h : dev.AverageWithin (-127) 0) (hlow : -127 ≤ x) (hhigh : x ≤ 0)
    (constant : List (ℤ × Millis)) (hconstant : ∀ sample ∈ constant, sample.1 = x) :
    (dev.hear constant).rssiEmaScaled =
      (fun s => RoundedAverage.blend roundedDbm s x)^[constant.length] dev.rssiEmaScaled := by
  induction constant generalizing dev with
  | nil => rfl
  | cons sample constant ih =>
    obtain rfl := hconstant sample (by simp)
    have hfits := fitsInt16_nextRssiEma le_rfl le_rfl (.inr h) hlow hhigh
    have hnext : (dev.updateLinkHealth sample.1 sample.2).rssiEmaScaled =
        RoundedAverage.blend roundedDbm dev.rssiEmaScaled sample.1 := by
      rw [updateLinkHealth_rssiEmaScaled, toInt16_of_fits hfits, nextRssiEma,
        if_neg (h.known le_rfl), h.rssiScaledToDbm_eq le_rfl le_rfl]
      rfl
    have hrest := ih (averageWithin_updateLinkHealth le_rfl le_rfl (.inr h) hlow hhigh sample.2)
      fun s hs => hconstant s (by simp [hs])
    rw [List.length_cons, Function.iterate_succ_apply, ← hnext]
    exact hrest

/-- A steady signal is shown as it is after so many samples that the average can reach it. -/
theorem AverageWithin.deviceRssiEmaDbm_hear (h : dev.AverageWithin (-127) 0) (hlow : -127 ≤ x)
    (hhigh : x ≤ 0) {constant : List (ℤ × Millis)}
    (hconstant : ∀ sample ∈ constant, sample.1 = x) (hlength : 8 * 127 ≤ constant.length) :
    deviceRssiEmaDbm (dev.hear constant) = x := by
  have hafter : (dev.hear constant).AverageWithin (-127) 0 := by
    have hsamples : SamplesWithin (-127) 0 constant := by
      intro sample hsample
      rw [hconstant sample hsample]
      exact ⟨hlow, hhigh⟩
    rcases averageWithin_hear le_rfl le_rfl (.inr h) constant hsamples with rfl | hwithin
    · exact h
    · exact hwithin
  have hdistance : RoundedAverage.IsRounding.distance rssiEmaScale x dev.rssiEmaScaled ≤
      constant.length := by
    obtain ⟨hle, hge⟩ := h
    unfold RoundedAverage.IsRounding.distance rssiEmaScale at *
    omega
  rw [deviceRssiEmaDbm, if_neg (hafter.known le_rfl),
    hafter.rssiScaledToDbm_eq le_rfl le_rfl, hear_constant h hlow hhigh constant hconstant]
  exact isRounding_roundedDbm.round_iterate x _ hdistance

end IoDevice

/-- From the first sample on the average lies between the bounds of the samples, no cast changes
it, and a steady signal is reached and kept. -/
theorem rssi_average_stable {dev : IoDevice} (hnew : dev.rssiEmaScaled = rssiUnknownDbm) {a b : ℤ}
    (ha : -127 ≤ a) (hb : b ≤ 0) {samples : List (ℤ × Millis)} (hne : samples ≠ [])
    (hsamples : SamplesWithin a b samples) :
    let after := dev.hear samples
    (8 * a ≤ after.rssiEmaScaled ∧ after.rssiEmaScaled ≤ 8 * b) ∧
      after.rssiEmaScaled ≠ rssiUnknownDbm ∧
      rssiScaledToDbm after.rssiEmaScaled = roundedDbm after.rssiEmaScaled ∧
      (∀ before sample rest, samples = before ++ sample :: rest →
        FitsInt16 ((dev.hear before).nextRssiEma sample.1)) ∧
      ∀ x, -127 ≤ x → x ≤ 0 → ∃ n, ∀ constant, (∀ sample ∈ constant, sample.1 = x) →
        n ≤ constant.length → deviceRssiEmaDbm (dev.hear (samples ++ constant)) = x := by
  have hwithin : (dev.hear samples).AverageWithin a b :=
    (IoDevice.averageWithin_hear ha hb (.inl hnew) samples hsamples).resolve_left hne
  dsimp only
  refine ⟨⟨hwithin.le_ema, hwithin.ema_le⟩, hwithin.known ha,
    hwithin.rssiScaledToDbm_eq ha hb, ?_, ?_⟩
  · intro before sample rest hsplit
    rw [hsplit] at hsamples
    obtain ⟨hlow, hhigh⟩ := hsamples sample (by simp)
    have hbefore := IoDevice.averageWithin_hear ha hb (.inl hnew) before
      fun s hs => hsamples s (by simp [hs])
    apply IoDevice.fitsInt16_nextRssiEma ha hb _ hlow hhigh
    rcases hbefore with rfl | hbefore
    · exact .inl hnew
    · exact .inr hbefore
  · intro x hlow hhigh
    refine ⟨8 * 127, fun constant hconstant hlength => ?_⟩
    rw [IoDevice.hear_append]
    exact (hwithin.mono ha hb).deviceRssiEmaDbm_hear hlow hhigh hconstant hlength

/-- A strong first sample, and then a weak signal. -/
theorem weak_signal_is_reached :
    ∃ n, ∀ constant : List (ℤ × Millis), (∀ sample ∈ constant, sample.1 = -90) →
      n ≤ constant.length →
        deviceRssiEmaDbm (({} : IoDevice).hear ([(-40, 1000)] ++ constant)) = -90 :=
  (rssi_average_stable rfl (by decide : (-127 : ℤ) ≤ -40) (by decide : (-40 : ℤ) ≤ 0)
    (by simp) (by simp [SamplesWithin])).2.2.2.2 (-90) (by decide) (by decide)

end HomeIoControl
