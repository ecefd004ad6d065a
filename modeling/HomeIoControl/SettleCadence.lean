import HomeIoControl.PollHistory

namespace HomeIoControl

/-- A private response and the record of its device when it arrives. -/
structure PrivateResponse where
  dev : IoDevice
  frame : IoFrame
  trustPosition : Bool
  time : Millis

/-- What happens to the schedule: a private response of the device, or any call of the policy. -/
inductive SettleEvent
  | response (r : PrivateResponse)
  | call (e : Millis × PollCall)

namespace PrivateResponse

/-- The record and the schedule after the response. -/
def apply (deviceId : DeviceId) (p : StatusPollPolicy) (r : PrivateResponse) :
    IoDevice × StatusPollPolicy :=
  applyPrivateResponseStatus deviceId r.dev r.frame p r.trustPosition r.time

/-- The device's own timer, if the response has one. -/
def hint (r : PrivateResponse) : Option UInt8 :=
  if privateResponseDelayHintOffset < r.frame.dataLen ∧
      r.frame.byte privateResponseDelayHintOffset ≠ privateResponseHintUnused ∧
      r.frame.byte privateResponseDelayHintOffset ≠ privateResponseHintZero then
    some (r.frame.byte privateResponseDelayHintOffset)
  else none

end PrivateResponse

namespace SettleEvent

def response? : SettleEvent → Option PrivateResponse
  | .response r => some r
  | .call _ => none

def step (deviceId : DeviceId) (p : StatusPollPolicy) : SettleEvent → StatusPollPolicy
  | .response r => (r.apply deviceId p).2
  | .call e => p.apply e

/-- The response finds the device tracked and leaves it moving, and no deadline wraps. A call
leaves the device alone. -/
def Settling (deviceId : DeviceId) (p : StatusPollPolicy) : SettleEvent → Prop
  | .response r => (r.apply deviceId p).1.isStopped = false ∧
      p.isTrackingActive deviceId r.time = true ∧
      r.time.toNat + (settleDelayMs (p.getInterval deviceId) 0 false).toNat <
        StatusPollPolicy.counterPeriod
  | .call e => (p.apply e).entry deviceId = p.entry deviceId

instance (deviceId : DeviceId) (p : StatusPollPolicy) (e : SettleEvent) :
    Decidable (Settling deviceId p e) :=
  match e with
  | .response _ => inferInstanceAs (Decidable (_ ∧ _))
  | .call _ => inferInstanceAs (Decidable (_ = _))

end SettleEvent

/-- The responses of a run, the first one first. -/
def responses (events : List SettleEvent) : List PrivateResponse :=
  events.filterMap SettleEvent.response?

/-! ## Delays -/

theorem settleDelayMs_hint_le (intervalMs hintDelayMs : Millis) :
    (settleDelayMs intervalMs hintDelayMs false).toNat ≤
      (settleDelayMs intervalMs 0 false).toNat := by
  unfold settleDelayMs
  simp only [ne_eq, not_true_eq_false, if_false, Bool.false_eq_true]
  split_ifs
  all_goals simp [UInt32.toNat_min]

theorem settleDelayMs_le_hint (intervalMs : Millis) {hintDelayMs : Millis} (h : hintDelayMs ≠ 0) :
    (settleDelayMs intervalMs hintDelayMs false).toNat ≤ hintDelayMs.toNat := by
  unfold settleDelayMs
  simp [h, UInt32.toNat_min]

theorem settleDelayMs_without_hint (intervalMs : Millis) :
    (settleDelayMs intervalMs 0 false).toNat =
      if intervalMs ≠ 0 then intervalMs.toNat else 3000 := by
  unfold settleDelayMs
  split_ifs <;> simp_all [defaultSettlePollDelayMs]

theorem millis_eq_zero_iff (t : Millis) : t = 0 ↔ t.toNat = 0 := by
  rw [← UInt32.toNat_inj, UInt32.toNat_zero]

theorem toNat_add_delay {time delay : Millis}
    (h : time.toNat + delay.toNat < StatusPollPolicy.counterPeriod) :
    (time + delay).toNat = time.toNat + delay.toNat := by
  unfold StatusPollPolicy.counterPeriod at h
  rw [UInt32.toNat_add, Nat.mod_eq_of_lt h]

theorem add_delay_ne_zero {time delay : Millis}
    (h : time.toNat + delay.toNat < StatusPollPolicy.counterPeriod) (hdelay : delay ≠ 0) :
    time + delay ≠ 0 := by
  have hsum := toNat_add_delay h
  rw [ne_eq, millis_eq_zero_iff] at hdelay ⊢
  omega

/-- A timer in milliseconds. It counts from one second on. -/
theorem privateResponseHintDelayMs_toNat {frame : IoFrame}
    (h : privateResponseDelayHintOffset < frame.dataLen ∧
      frame.byte privateResponseDelayHintOffset ≠ privateResponseHintUnused ∧
      frame.byte privateResponseDelayHintOffset ≠ privateResponseHintZero) :
    (privateResponseHintDelayMs frame).toNat =
      ((frame.byte privateResponseDelayHintOffset).toNat + 1) * 1000 := by
  have hlt := (frame.byte privateResponseDelayHintOffset).toNat_lt
  have hscale : privateResponseHintScaleMs.toNat = 1000 := rfl
  have hbias : privateResponseHintBiasMs.toNat = 1000 := rfl
  unfold privateResponseHintDelayMs
  dsimp only
  rw [if_pos h, UInt32.toNat_add, UInt32.toNat_mul, UInt8.toNat_toUInt32, hscale, hbias]
  omega

namespace PrivateResponse

variable {r : PrivateResponse} {hint : UInt8}

theorem hintDelayMs_toNat (h : r.hint = some hint) :
    (privateResponseHintDelayMs r.frame).toNat = (hint.toNat + 1) * 1000 := by
  unfold PrivateResponse.hint at h
  split_ifs at h with hpresent
  obtain rfl := Option.some.inj h
  exact privateResponseHintDelayMs_toNat hpresent

theorem hintDelayMs_ne_zero (h : r.hint = some hint) :
    privateResponseHintDelayMs r.frame ≠ 0 := by
  intro hzero
  have hdelay := hintDelayMs_toNat h
  rw [hzero, UInt32.toNat_zero] at hdelay
  omega

/-! ## One response -/

variable {deviceId : DeviceId} {p : StatusPollPolicy}

/-- A response leaves a poll set that is not later than the one before and not after the delay. -/
theorem entry_apply (h : SettleEvent.Settling deviceId p (.response r)) :
    ∃ next, (r.apply deviceId p).2.entry deviceId =
        { p.entry deviceId with nextUpdate := next } ∧
      next ≠ 0 ∧ (p.getNextUpdate deviceId ≠ 0 → next ≤ p.getNextUpdate deviceId) ∧
      next.toNat ≤ r.time.toNat + (settleDelayMs (p.getInterval deviceId)
        (privateResponseHintDelayMs r.frame) false).toNat := by
  obtain ⟨hmoving, hactive, hfits⟩ := h
  unfold PrivateResponse.apply applyPrivateResponseStatus at *
  dsimp only at hmoving ⊢
  have htime := r.dev.lastStatus_applyPrivateResponse r.frame r.trustPosition r.time
  generalize r.dev.applyPrivateResponse r.frame r.trustPosition r.time = dev at *
  have hdelay : computePrivateResponseDelayMs dev r.frame p deviceId =
      settleDelayMs (p.getInterval deviceId) (privateResponseHintDelayMs r.frame) false := by
    simp [computePrivateResponseDelayMs, hmoving]
  have hle := settleDelayMs_hint_le (p.getInterval deviceId) (privateResponseHintDelayMs r.frame)
  have hpos := settleDelayMs_ne_zero (p.getInterval deviceId) (privateResponseHintDelayMs r.frame)
  unfold StatusPollPolicy.rescheduleAfterPrivateResponse
  rw [htime, hdelay]
  simp only [hmoving, hactive, Bool.not_true, Bool.or_self, Bool.false_eq_true, if_false]
  generalize settleDelayMs _ (privateResponseHintDelayMs r.frame) false = delay at *
  have hroom : r.time.toNat + delay.toNat < StatusPollPolicy.counterPeriod := by omega
  have hsum := toNat_add_delay hroom
  have hnonzero := add_delay_ne_zero hroom hpos
  refine ⟨_, by rw [StatusPollPolicy.entry_setNextUpdate, if_pos rfl], ?_⟩
  -- the earlier one of the poll that is set and the new one
  split_ifs with hearlier
  · refine ⟨hearlier.1, fun _ => UInt32.le_refl _, ?_⟩
    rw [← hsum]
    exact UInt32.le_iff_toNat_le.1 (UInt32.le_of_lt hearlier.2)
  · refine ⟨hnonzero, fun hset => ?_, hsum.le⟩
    exact UInt32.not_lt.1 fun hlt => hearlier ⟨hset, hlt⟩

end PrivateResponse

/-! ## A run of responses -/

namespace SettleEvent

open GuardedRun

variable {deviceId : DeviceId} {p : StatusPollPolicy} {e : SettleEvent}
  {events : List SettleEvent}

theorem getInterval_step (h : Settling deviceId p e) :
    (e.step deviceId p).getInterval deviceId = p.getInterval deviceId := by
  cases e with
  | response r =>
    obtain ⟨next, hentry, -⟩ := PrivateResponse.entry_apply h
    exact (congrArg PollTracking.intervalMs hentry).trans rfl
  | call e => exact congrArg PollTracking.intervalMs h

/-- A poll that is set may only move to an earlier time. -/
theorem getNextUpdate_step (h : Settling deviceId p e) (hset : p.getNextUpdate deviceId ≠ 0) :
    (e.step deviceId p).getNextUpdate deviceId ≠ 0 ∧
      (e.step deviceId p).getNextUpdate deviceId ≤ p.getNextUpdate deviceId := by
  cases e with
  | response r =>
    obtain ⟨next, hentry, hnonzero, hearlier, -⟩ := PrivateResponse.entry_apply h
    have hnext : ((r.apply deviceId p).2).getNextUpdate deviceId = next :=
      congrArg PollTracking.nextUpdate hentry
    unfold step
    rw [hnext]
    exact ⟨hnonzero, hearlier hset⟩
  | call e =>
    have hsame : (p.apply e).getNextUpdate deviceId = p.getNextUpdate deviceId :=
      congrArg PollTracking.nextUpdate h
    unfold step
    rw [hsame]
    exact ⟨hset, UInt32.le_refl _⟩

theorem getNextUpdate_run (h : Guarded (step deviceId) (Settling deviceId) p events)
    (hset : p.getNextUpdate deviceId ≠ 0) :
    (run (step deviceId) p events).getNextUpdate deviceId ≠ 0 ∧
      (run (step deviceId) p events).getNextUpdate deviceId ≤ p.getNextUpdate deviceId := by
  induction events generalizing p with
  | nil => exact ⟨hset, UInt32.le_refl _⟩
  | cons e events ih =>
    obtain ⟨he, hrest⟩ := guarded_cons.1 h
    obtain ⟨hnonzero, hle⟩ := getNextUpdate_step he hset
    obtain ⟨hlast, hlater⟩ := ih hrest hnonzero
    exact ⟨hlast, UInt32.le_trans hlater hle⟩

/-- The bounds that a response sets hold at the end of the run. -/
theorem getNextUpdate_run_of_response {r : PrivateResponse}
    (h : Guarded (step deviceId) (Settling deviceId) p events) (hr : r ∈ responses events) :
    (run (step deviceId) p events).getNextUpdate deviceId ≠ 0 ∧
      ((run (step deviceId) p events).getNextUpdate deviceId).toNat ≤
        r.time.toNat + (settleDelayMs (p.getInterval deviceId)
          (privateResponseHintDelayMs r.frame) false).toNat := by
  induction events generalizing p with
  | nil => cases hr
  | cons e events ih =>
    obtain ⟨he, hrest⟩ := guarded_cons.1 h
    by_cases hlater : r ∈ responses events
    · obtain ⟨hnonzero, hle⟩ := ih hrest hlater
      rw [getInterval_step he] at hle
      exact ⟨hnonzero, hle⟩
    -- the response is the first event, and nothing after it delays the poll
    · obtain rfl : e = .response r := by
        cases e with
        | response first =>
          obtain rfl | hin := List.mem_cons.1 hr
          · rfl
          · exact absurd hin hlater
        | call e => exact absurd hr hlater
      obtain ⟨next, hentry, hnonzero, -, hle⟩ := PrivateResponse.entry_apply he
      have hnext : (step deviceId p (.response r)).getNextUpdate deviceId = next :=
        congrArg PollTracking.nextUpdate hentry
      rw [← hnext] at hnonzero hle
      obtain ⟨hlast, hearlier⟩ := getNextUpdate_run hrest hnonzero
      exact ⟨hlast, (UInt32.le_iff_toNat_le.1 hearlier).trans hle⟩

/-- Once a moving device has answered, its next poll is set. It only moves to an earlier time, and
it comes within the configured interval and within the timer of every response. -/
theorem settle_cadence (deviceId : DeviceId) (p : StatusPollPolicy) (events : List SettleEvent)
    (h : Guarded (step deviceId) (Settling deviceId) p events) (hanswered : responses events ≠ []) :
    let next := (run (step deviceId) p events).getNextUpdate deviceId
    next ≠ 0 ∧
      (∀ before, before <+: events → responses before ≠ [] →
        next ≤ (run (step deviceId) p before).getNextUpdate deviceId) ∧
      (p.getNextUpdate deviceId ≠ 0 → next ≤ p.getNextUpdate deviceId) ∧
      (∀ r ∈ responses events, next.toNat ≤ r.time.toNat +
        if p.getInterval deviceId ≠ 0 then (p.getInterval deviceId).toNat else 3000) ∧
      ∀ r ∈ responses events, ∀ hint, r.hint = some hint →
        next.toNat ≤ r.time.toNat + (hint.toNat + 1) * 1000 := by
  dsimp only
  have hbound {r : PrivateResponse} (hr : r ∈ responses events) :=
    (getNextUpdate_run_of_response h hr).2
  refine ⟨?_, ?_, fun hset => (getNextUpdate_run h hset).2, ?_, ?_⟩
  · obtain ⟨r, hr⟩ := List.exists_mem_of_ne_nil _ hanswered
    exact (getNextUpdate_run_of_response h hr).1
  · rintro before ⟨after, rfl⟩ hbefore
    obtain ⟨hguarded, hrest⟩ := guarded_append.1 h
    obtain ⟨r, hr⟩ := List.exists_mem_of_ne_nil _ hbefore
    rw [run_append]
    exact (getNextUpdate_run hrest (getNextUpdate_run_of_response hguarded hr).1).2
  · intro r hr
    rw [← settleDelayMs_without_hint]
    exact (hbound hr).trans (Nat.add_le_add_left (settleDelayMs_hint_le _ _) _)
  · intro r hr hint hhint
    rw [← PrivateResponse.hintDelayMs_toNat hhint]
    apply (hbound hr).trans
    exact Nat.add_le_add_left
      (settleDelayMs_le_hint _ (PrivateResponse.hintDelayMs_ne_zero hhint)) _

/-- A moving device that answers with a timer of five seconds. -/
def movingResponse (time : Millis) : PrivateResponse where
  dev := {}
  frame := { IoFrame.zero with
    cmd := cmdPrivateResp
    data := zeroFilled [0, 0, 200, 0, 0, 0, 0, 5]
    dataLen := 8 }
  trustPosition := true
  time

def movingResponses : List SettleEvent :=
  [.response (movingResponse 1500), .response (movingResponse 2500)]

/-- The second of two responses leaves the poll within the delay of the first one. -/
theorem movingResponses_settle :
    ((run (step "654321") (StatusPollPolicy.beginTracking {} "654321" 0 1000)
      movingResponses).getNextUpdate "654321").toNat ≤ 4500 := by
  obtain ⟨-, -, -, hinterval, -⟩ := settle_cadence "654321"
    (StatusPollPolicy.beginTracking {} "654321" 0 1000) movingResponses
    (guarded_cons.2 ⟨by decide +kernel, guarded_cons.2 ⟨by decide +kernel, guarded_nil⟩⟩)
    (by simp [movingResponses, responses, response?])
  exact hinterval (movingResponse 1500) (by simp [movingResponses, responses, response?])

end SettleEvent
end HomeIoControl
