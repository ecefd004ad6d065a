import HomeIoControl.CoverInversion
import HomeIoControl.RecordInvariants
import Mathlib.Tactic.Linarith

namespace HomeIoControl
open GuardedRun

/-! ## Positions on the scale -/

def IsPercentage (x : ℚ) : Prop := 0 ≤ x ∧ x ≤ 100

/-- A percentage, or the marker of an unknown position. -/
def OnScale (x : ℚ) : Prop := IsPercentage x ∨ x = unknownPosition

theorem onScale_unknownPosition : OnScale unknownPosition := .inr rfl

theorem isPercentage_rawPercent {raw : UInt16} (h : raw ≤ statusPosMax) :
    IsPercentage (rawPercent raw) := by
  have hraw : (raw.toNat : ℚ) ≤ statusPosMax.toNat := Nat.cast_le.2 (UInt16.le_iff_toNat_le.1 h)
  have hmax : (0 : ℚ) < statusPosMax.toNat := by
    show (0 : ℚ) < ((51200 : ℕ) : ℚ)
    norm_num
  unfold IsPercentage rawPercent
  constructor
  · exact div_nonneg (mul_nonneg raw.toNat.cast_nonneg (by norm_num)) hmax.le
  · rw [div_le_iff₀ hmax, mul_comm]
    exact mul_le_mul_of_nonneg_left hraw (by norm_num)

theorem isPercentage_toNat {position : UInt8} (h : position ≤ 100) :
    IsPercentage (position.toNat : ℚ) :=
  ⟨Nat.cast_nonneg _, by exact_mod_cast UInt8.le_iff_toNat_le.1 h⟩

/-- A report with markers in either field stays on the scale. -/
theorem decodePositionReport_onScale (targetRaw currentRaw : UInt16) (isStopped : Bool) :
    OnScale (decodePositionReport targetRaw currentRaw isStopped).target ∧
      OnScale (decodePositionReport targetRaw currentRaw isStopped).position := by
  have honScale : ∀ raw : UInt16, raw ≤ statusPosMax → OnScale (rawPercent raw) :=
    fun raw h => .inl (isPercentage_rawPercent h)
  unfold decodePositionReport
  dsimp only
  by_cases htarget : targetRaw ≤ statusPosMax <;> by_cases hcurrent : currentRaw ≤ statusPosMax <;>
    cases isStopped <;> simp [htarget, hcurrent, honScale, onScale_unknownPosition]

/-! ## The motion of a record -/

/-- Where a device at rest may be. -/
def AtRest (target position : ℚ) : Prop :=
  target = unknownPosition ∨ position = unknownPosition ∨
    |target - position| ≤ rawPercent statusPosToleranceRaw

/-- The motion of a record makes sense. -/
structure MotionState (dev : IoDevice) : Prop where
  target : OnScale dev.target
  position : OnScale dev.position
  stopped : dev.isStopped = true → AtRest dev.target dev.position

theorem atRest_iff (target position : ℚ) :
    AtRest target position ↔
      ¬(target ≠ unknownPosition ∧ position ≠ unknownPosition ∧
        hasReachedTargetPosition target position = false) := by
  unfold AtRest hasReachedTargetPosition
  by_cases htarget : target = unknownPosition
  · simp [htarget]
  · by_cases hposition : position = unknownPosition
    · simp [hposition]
    · simp [htarget, hposition]

namespace MotionState

variable {dev : IoDevice}

/-- What normalising is for. -/
theorem normalizeStoppedState (htarget : OnScale dev.target) (hposition : OnScale dev.position) :
    MotionState dev.normalizeStoppedState := by
  have hstopped := dev.isStopped_normalizeStoppedState
  obtain ⟨isStopped, hresult⟩ := dev.normalizeStoppedState_writes
  rw [hresult] at hstopped ⊢
  refine ⟨htarget, hposition, fun h => ?_⟩
  rw [atRest_iff]
  exact (hstopped.1 h).2

/-- Decoded fields do not depend on what the record held. -/
theorem decodeStatusFields (dev : IoDevice) (frame : IoFrame) (targetOffset currentOffset : ℕ)
    (allowTilt : Bool) :
    MotionState (dev.decodeStatusFields frame targetOffset currentOffset allowTilt) := by
  have hreport := decodePositionReport_onScale (frame.word targetOffset)
    (frame.word currentOffset) dev.isStopped
  unfold IoDevice.decodeStatusFields
  dsimp only
  generalize decodePositionReport _ _ dev.isStopped = report at hreport ⊢
  have h : MotionState { dev with
      target := report.target, position := report.position }.normalizeStoppedState :=
    normalizeStoppedState hreport.1 hreport.2
  split_ifs
  · exact ⟨h.target, h.position, h.stopped⟩
  · exact h

theorem applyPrivateResponse (h : MotionState dev) (frame : IoFrame) (trustPosition : Bool)
    (now : Millis) : MotionState (dev.applyPrivateResponse frame trustPosition now) := by
  unfold IoDevice.applyPrivateResponse
  cases trustPosition with
  | true => exact decodeStatusFields _ frame _ _ true
  | false =>
    -- the flag may be new, the positions are the old ones
    apply normalizeStoppedState
    · exact h.target
    · exact h.position

theorem applyStatusUpdate (dev : IoDevice) (frame : IoFrame) (now : Millis) :
    MotionState (dev.applyStatusUpdate frame now) := by
  unfold IoDevice.applyStatusUpdate
  exact decodeStatusFields _ frame _ _ false

theorem clearCommandResult (h : MotionState dev) : MotionState dev.clearCommandResult :=
  ⟨h.target, h.position, h.stopped⟩

theorem recordCommandResult (h : MotionState dev) (result : UInt8) (now : Millis) :
    MotionState (dev.recordCommandResult result now) := ⟨h.target, h.position, h.stopped⟩

theorem applyInfo2Response (h : MotionState dev) (frame : IoFrame) :
    MotionState (dev.applyInfo2Response frame) := by
  obtain ⟨type, subtype, inverted, hresult⟩ := dev.applyInfo2Response_writes frame
  rw [hresult]
  exact ⟨h.target, h.position, h.stopped⟩

theorem applyNameResponse (h : MotionState dev) (frame : IoFrame) :
    MotionState (dev.applyNameResponse frame) := by
  unfold IoDevice.applyNameResponse
  exact ⟨h.target, h.position, h.stopped⟩

theorem mergeFrame (h : MotionState dev) (frame : IoFrame) (trustPosition : Bool) (now : Millis) :
    MotionState (dev.mergeFrame frame trustPosition now) := by
  unfold IoDevice.mergeFrame
  split_ifs
  · exact h
  · exact (h.applyPrivateResponse frame trustPosition now).clearCommandResult
  · exact h
  · exact (applyStatusUpdate dev frame now).clearCommandResult
  · exact h
  · exact h.applyNameResponse frame
  · exact h
  · exact h.applyInfo2Response frame
  · exact h
  · exact h.recordCommandResult _ now
  · exact h

theorem setTarget (h : MotionState dev) {target : ℚ} (htarget : IsPercentage target) :
    MotionState { dev with target, isStopped := false } :=
  ⟨.inl htarget, h.position, fun hstopped => absurd hstopped Bool.false_ne_true⟩

theorem clearTarget (h : MotionState dev) :
    MotionState { dev with target := unknownPosition, isStopped := true } :=
  ⟨onScale_unknownPosition, h.position, fun _ => .inl rfl⟩

end MotionState

/-! ## What 1W remotes announce -/

theorem isPercentage_onewayIntentToTarget {main0 : UInt8} {target : ℚ}
    (h : onewayIntentToTarget main0 = some target) : IsPercentage target := by
  unfold onewayIntentToTarget at h
  split_ifs at h with hspecial hmain
  rw [← Option.some.inj h]
  have hle : main0.toNat ≤ 200 := UInt8.le_iff_toNat_le.1 hmain
  apply isPercentage_toNat
  rw [UInt8.le_iff_toNat_le, UInt8.toNat_div]
  show main0.toNat / 2 ≤ 100
  omega

/-- A remote stops a device or sends it somewhere. -/
theorem motion_eq_some {info : OneWayFrameInfo} {target : ℚ} {isStopped : Bool}
    (h : info.motion = some (target, isStopped)) :
    target = unknownPosition ∧ isStopped = true ∨ IsPercentage target ∧ isStopped = false := by
  unfold OneWayFrameInfo.motion at h
  by_cases hstop : info.main0 = posStop
  · rw [if_pos hstop, Option.some_inj, Prod.mk.injEq] at h
    exact .inl ⟨h.1.symm, h.2.symm⟩
  · rw [if_neg hstop, Option.map_eq_some_iff] at h
    obtain ⟨announced, hannounced, hmotion⟩ := h
    rw [Prod.mk.injEq] at hmotion
    rw [← hmotion.1]
    exact .inr ⟨isPercentage_onewayIntentToTarget hannounced, hmotion.2.symm⟩

theorem MotionState.applyIntent {dev : IoDevice} (h : MotionState dev) (info : OneWayFrameInfo) :
    MotionState (dev.applyIntent info) := by
  unfold IoDevice.applyIntent
  cases hmotion : info.motion with
  | none => exact h
  | some motion =>
    obtain ⟨target, isStopped⟩ := motion
    dsimp only
    split_ifs
    · obtain ⟨rfl, rfl⟩ | ⟨htarget, rfl⟩ := motion_eq_some hmotion
      · exact h.clearTarget
      · exact h.setTarget htarget
    · exact h

/-! ## What covers announce -/

/-- Home Assistant has covers between closed and open. -/
def CoverCall.InRange (call : CoverCall) : Prop :=
  ∀ position, call.position = some position → 0 ≤ position ∧ position ≤ 1

/-- Rounding takes no number past a whole number that has a float. -/
theorem toFloat_le {x : ℚ} {n : ℕ} (hn : n < 2 ^ 24) (h : x ≤ n) : toFloat x ≤ n :=
  BinaryRounding.roundBinary_le (by decide) hn h

theorem truncatedPercent_le {fraction : ℚ} (h : fraction ≤ 1) :
    truncatedPercent fraction ≤ 100 := by
  have hfloor : (toFloat (fraction * 100)).floor ≤ 100 := by
    have hpercent : toFloat (fraction * 100) ≤ (100 : ℕ) := by
      apply toFloat_le (by norm_num)
      push_cast
      linarith
    have hle := (Rat.floor_le (toFloat (fraction * 100))).trans hpercent
    exact_mod_cast hle
  unfold truncatedPercent
  rw [UInt8.le_iff_toNat_le, UInt8.toNat_ofNat']
  show (toFloat (fraction * 100)).floor.toNat % 2 ^ 8 ≤ 100
  omega

namespace IOHomeCover

theorem ioPosition_le (cover : IOHomeCover) (hub : Hub) {position : ℚ} (hclosed : 0 ≤ position)
    (hopen : position ≤ 1) : cover.ioPosition hub position ≤ 100 := by
  unfold ioPosition
  split_ifs
  · exact truncatedPercent_le hopen
  · have hrest : toFloat (1 - position) ≤ (1 : ℕ) := by
      apply toFloat_le (by norm_num)
      push_cast
      linarith
    exact truncatedPercent_le (by exact_mod_cast hrest)

/-- The calls of a cover are among the allowed events. -/
theorem control_allowed (engine : ExchangeEngine) (cover : IOHomeCover) {call : CoverCall}
    (hcall : call.InRange) (hub : Hub) :
    ∃ events : List HubEvent, cover.control call hub = run engine.step hub events ∧
      ∀ event ∈ events, (ComponentEvent.hub event).Allowed IsPercentage := by
  obtain ⟨events, hrun, htargets⟩ := cover.control_eq_run engine call hub
  refine ⟨events, hrun, fun event hevent => ?_⟩
  unfold ComponentEvent.Allowed
  split
  · rename_i deviceId target heq
    rw [ComponentEvent.hub.injEq] at heq
    rw [heq] at hevent
    obtain ⟨position, hposition, rfl⟩ := htargets deviceId target hevent
    obtain ⟨hclosed, hopen⟩ := hcall position hposition
    exact isPercentage_toNat (cover.ioPosition_le hub hclosed hopen)
  · trivial

end IOHomeCover

/-! ## Every reachable record -/

theorem motionState_invariant : RecordInvariant IsPercentage MotionState where
  added _ _ _ _ _ := ⟨onScale_unknownPosition, onScale_unknownPosition, fun _ => .inl rfl⟩
  discovered d := by
    unfold discoveredDevice parseDeviceFromDiscovery
    exact ⟨onScale_unknownPosition, onScale_unknownPosition, fun _ => .inl rfl⟩
  linkHealth _ _ _ h := ⟨h.target, h.position, h.stopped⟩
  exchangeTimeout _ _ h := ⟨h.target, h.position, h.stopped⟩
  commandResult _ _ _ h := ⟨h.target, h.position, h.stopped⟩
  merged _ frame trustPosition now h := h.mergeFrame frame trustPosition now
  intent _ info h := h.applyIntent info
  optimisticTarget _ _ htarget h := h.setTarget htarget
  optimisticTargetCleared _ h := h.clearTarget

namespace ExchangeEngine

/-- The motion of all records makes sense in every state reached without records at first. -/
theorem always_motionState (engine : ExchangeEngine) {hub : Hub}
    (hempty : ∀ deviceId, hub.getDevice deviceId = none) {events : List ComponentEvent}
    (hevents : ∀ event ∈ events, event.Allowed IsPercentage) :
    Always engine.componentStep
      (fun hub => ∀ deviceId dev, hub.getDevice deviceId = some dev → MotionState dev)
      hub events := by
  refine motionState_invariant.always (fun deviceId dev hdev => ?_) hevents
  have hnone : hub.registry.get deviceId = none := hempty deviceId
  rw [hnone] at hdev
  exact absurd hdev (Option.some_ne_none dev).symm

def startedHub : Hub where
  exchange := { script := { sends := [], windows := [], challenges := [], rssis := [] } }

/-- A shutter is registered and sent down, and says that it has stopped halfway. -/
def haltedRun : List ComponentEvent :=
  [.hub (.deviceAdded "654321" .rollerShutter 0 false true),
    .hub (.optimisticTarget "654321" 100),
    .hub (.packetReceived
      { data := deviceFrame cmdPrivateResp [0x01, 0x00, 0xC8, 0x00, 0x64, 0x00] } (-50))]

theorem always_motionState_haltedRun :
    Always sampleEngine.componentStep
      (fun hub => ∀ deviceId dev, hub.getDevice deviceId = some dev → MotionState dev)
      startedHub haltedRun := by
  apply always_motionState
  · intro deviceId
    simp [startedHub, Hub.getDevice, DeviceRegistry.get]
  · simp [haltedRun, ComponentEvent.Allowed, IsPercentage]

/-- The record does not take the halt for a stop. -/
example :
    ((run sampleEngine.componentStep startedHub haltedRun).getDevice "654321").map
        (fun dev => (dev.target, dev.position, dev.isStopped)) = some (100, 50, false) := by
  decide +kernel

end ExchangeEngine
end HomeIoControl
