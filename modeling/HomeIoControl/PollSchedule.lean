import HomeIoControl.HubOutcome

namespace HomeIoControl

/-! ## The clock -/

namespace Hub

/-- The clock and every deadline that can be set now are far from wrapping. -/
structure ClockFits (hub : Hub) : Prop where
  window : hub.elapsedMs + maxTrackedStatusPollWindowMs.toNat < 2 ^ 32
  interval : ∀ id, hub.elapsedMs + (hub.pollPolicy.getInterval id).toNat < 2 ^ 32

/-- Only the intervals of tracked devices have to be looked at. -/
theorem clockFits_iff (hub : Hub) : hub.ClockFits ↔
    hub.elapsedMs + maxTrackedStatusPollWindowMs.toNat < 2 ^ 32 ∧
      ∀ id ∈ hub.pollPolicy.tracking.keys,
        hub.elapsedMs + (hub.pollPolicy.getInterval id).toNat < 2 ^ 32 := by
  constructor
  · exact fun h => ⟨h.window, fun id _ => h.interval id⟩
  · rintro ⟨hwindow, hinterval⟩
    refine ⟨hwindow, fun id => ?_⟩
    by_cases htracked : id ∈ hub.pollPolicy.tracking
    · exact hinterval id (Std.TreeMap.mem_keys.2 htracked)
    · have hnone : hub.pollPolicy.tracking[id]? = none :=
        Std.TreeMap.getElem?_eq_none htracked
      have hzero : (hub.pollPolicy.getInterval id).toNat = 0 := by
        rw [StatusPollPolicy.getInterval, StatusPollPolicy.entry_eq_default hnone]
        rfl
      omega

instance (hub : Hub) : Decidable hub.ClockFits := decidable_of_iff' _ hub.clockFits_iff

theorem now_toNat {hub : Hub} (h : hub.ClockFits) : hub.now.toNat = hub.elapsedMs := by
  have hwindow := h.window
  unfold now
  rw [UInt32.toNat_ofNat']
  omega

/-- A delay that a window or the interval of a device bounds. -/
theorem ClockFits.now_add {hub : Hub} (h : hub.ClockFits) {delay : Millis} (id : DeviceId)
    (hdelay : delay.toNat ≤ max (hub.pollPolicy.getInterval id).toNat
      maxTrackedStatusPollWindowMs.toNat) :
    (hub.now + delay).toNat = hub.elapsedMs + delay.toNat := by
  have hwindow := h.window
  have hinterval := h.interval id
  rw [UInt32.toNat_add, now_toNat h]
  omega

theorem ClockFits.now_add_ne_zero {hub : Hub} (h : hub.ClockFits) {delay : Millis} (id : DeviceId)
    (hdelay : delay.toNat ≤ max (hub.pollPolicy.getInterval id).toNat
      maxTrackedStatusPollWindowMs.toNat) (hpos : delay ≠ 0) : hub.now + delay ≠ 0 := by
  intro hzero
  have hsum := h.now_add id hdelay
  rw [hzero] at hsum
  apply hpos
  apply UInt32.toNat_inj.1
  have hzero : (0 : Millis).toNat = 0 := rfl
  omega

end Hub

/-! ## Follow-up delays -/

theorem settleDelayMs_cases (intervalMs hintDelayMs : Millis) :
    ∃ delay, delay ≠ 0 ∧ delay.toNat ≤ max intervalMs.toNat maxTrackedStatusPollWindowMs.toNat ∧
      (settleDelayMs intervalMs hintDelayMs false = delay ∨
        hintDelayMs ≠ 0 ∧ settleDelayMs intervalMs hintDelayMs false = min delay hintDelayMs) := by
  refine ⟨if intervalMs ≠ 0 then intervalMs else defaultSettlePollDelayMs, ?_, ?_, ?_⟩
  · split_ifs with h
    · exact h
    · decide
  · split_ifs
    · exact le_max_left _ _
    · exact (show _ ≤ _ by decide).trans (le_max_right _ _)
  · unfold settleDelayMs
    by_cases hhint : hintDelayMs = 0
    · simp [hhint]
    · simp [hhint]

theorem settleDelayMs_le (intervalMs hintDelayMs : Millis) :
    (settleDelayMs intervalMs hintDelayMs false).toNat ≤
      max intervalMs.toNat maxTrackedStatusPollWindowMs.toNat := by
  obtain ⟨delay, -, hle, h | ⟨-, h⟩⟩ := settleDelayMs_cases intervalMs hintDelayMs
  · rw [h]
    exact hle
  · rw [h, UInt32.toNat_min]
    exact (min_le_left _ _).trans hle

theorem settleDelayMs_ne_zero (intervalMs hintDelayMs : Millis) :
    settleDelayMs intervalMs hintDelayMs false ≠ 0 := by
  obtain ⟨delay, hpos, -, h | ⟨hhint, h⟩⟩ := settleDelayMs_cases intervalMs hintDelayMs
  · rwa [h]
  · intro hzero
    have hdelay : delay.toNat ≠ 0 := fun h => hpos (UInt32.toNat_inj.1 h)
    have hhint : hintDelayMs.toNat ≠ 0 := fun h => hhint (UInt32.toNat_inj.1 h)
    have hmin : min delay.toNat hintDelayMs.toNat = 0 := by
      rw [← UInt32.toNat_min, ← h, hzero]
      rfl
    omega

/-! ## What keeps a device polled -/

/-- A schedule that needs nobody else: the window is closed or a poll is set. -/
def PollTracking.Scheduled (t : PollTracking) : Prop := t.pollDeadline = 0 ∨ t.nextUpdate ≠ 0

theorem PollTracking.scheduled_cleared (t : PollTracking) : t.cleared.Scheduled := .inl rfl

namespace StatusPollPolicy

@[simp] theorem getInterval_clear (p : StatusPollPolicy) (deviceId other : DeviceId) :
    (p.clear deviceId).getInterval other = p.getInterval other := by
  unfold getInterval
  rw [entry_clear]
  split_ifs <;> rfl

@[simp] theorem getInterval_setNextUpdate (p : StatusPollPolicy) (deviceId other : DeviceId)
    (absTime : Millis) :
    (p.setNextUpdate deviceId absTime).getInterval other = p.getInterval other := by
  unfold getInterval
  rw [entry_setNextUpdate]
  split_ifs <;> rfl

@[simp] theorem getInterval_beginTracking (p : StatusPollPolicy) (deviceId other : DeviceId)
    (initialDelayMs now : Millis) :
    (p.beginTracking deviceId initialDelayMs now).getInterval other = p.getInterval other := by
  unfold getInterval
  rw [entry_beginTracking]
  split_ifs <;> rfl

@[simp] theorem getInterval_clearFailureStreaks (p : StatusPollPolicy)
    (deviceId other : DeviceId) :
    (p.clearFailureStreaks deviceId).getInterval other = p.getInterval other := by
  unfold getInterval
  rw [entry_clearFailureStreaks]
  split_ifs <;> rfl

@[simp] theorem getInterval_onExchangeFailed (p : StatusPollPolicy) (deviceId other : DeviceId)
    (authLike : Bool) (now : Millis) :
    (p.onExchangeFailed deviceId authLike now).2.getInterval other = p.getInterval other := by
  unfold getInterval
  by_cases heq : deviceId = other
  · subst heq
    have hcount : ((p.entry deviceId).countFailure authLike).intervalMs =
        (p.entry deviceId).intervalMs := by
      unfold PollTracking.countFailure
      split_ifs <;> rfl
    rcases p.entry_onExchangeFailed deviceId authLike now with h | ⟨n, -, -, h⟩
    · rw [h]
      rfl
    · rw [h]
      exact hcount
  · rw [entry_onExchangeFailed_of_ne p heq]

@[simp] theorem getInterval_rescheduleAfterPrivateResponse (p : StatusPollPolicy)
    (deviceId other : DeviceId) (dev : IoDevice) (frame : IoFrame) :
    (p.rescheduleAfterPrivateResponse deviceId dev frame).getInterval other =
      p.getInterval other := by
  unfold rescheduleAfterPrivateResponse
  split_ifs
  · exact getInterval_clear p deviceId other
  · exact getInterval_setNextUpdate p deviceId other _

@[simp] theorem getInterval_rescheduleAfterStatusUpdate (p : StatusPollPolicy)
    (deviceId other : DeviceId) (dev : IoDevice) :
    (p.rescheduleAfterStatusUpdate deviceId dev).getInterval other = p.getInterval other := by
  unfold rescheduleAfterStatusUpdate
  split_ifs
  · exact getInterval_clear p deviceId other
  · exact getInterval_setNextUpdate p deviceId other _

end StatusPollPolicy

namespace Hub

variable {hub : Hub}

/-- A status frame leaves its device with a poll set or without a window. -/
theorem ClockFits.scheduled_privateResponse (h : hub.ClockFits) (deviceId : DeviceId)
    {dev : IoDevice} (hnow : dev.lastStatus = hub.now) (frame : IoFrame) :
    ((hub.pollPolicy.rescheduleAfterPrivateResponse deviceId dev frame).entry
      deviceId).Scheduled := by
  unfold StatusPollPolicy.rescheduleAfterPrivateResponse
  split_ifs with hrest
  · rw [StatusPollPolicy.entry_clear, if_pos rfl]
    exact PollTracking.scheduled_cleared _
  · have hmoving : dev.isStopped = false := by
      simp only [Bool.or_eq_true, not_or] at hrest
      simpa using hrest.1
    have hdelay : computePrivateResponseDelayMs dev frame hub.pollPolicy deviceId =
        settleDelayMs (hub.pollPolicy.getInterval deviceId) (privateResponseHintDelayMs frame)
          false := by
      simp [computePrivateResponseDelayMs, hmoving]
    rw [StatusPollPolicy.entry_setNextUpdate, if_pos rfl]
    right
    dsimp only
    split_ifs with hearlier
    · exact hearlier.1
    · rw [hdelay, hnow]
      exact h.now_add_ne_zero deviceId (settleDelayMs_le _ _) (settleDelayMs_ne_zero _ _)

theorem ClockFits.scheduled_statusUpdate (h : hub.ClockFits) (deviceId : DeviceId)
    {dev : IoDevice} (hnow : dev.lastStatus = hub.now) :
    ((hub.pollPolicy.rescheduleAfterStatusUpdate deviceId dev).entry deviceId).Scheduled := by
  unfold StatusPollPolicy.rescheduleAfterStatusUpdate
  split_ifs with hrest
  · rw [StatusPollPolicy.entry_clear, if_pos rfl]
    exact PollTracking.scheduled_cleared _
  · rw [StatusPollPolicy.entry_setNextUpdate, if_pos rfl]
    have hmoving : dev.isStopped = false := by
      simp only [Bool.or_eq_true, not_or] at hrest
      simpa using hrest.1
    have hdelay : computeStatusUpdateDelayMs dev hub.pollPolicy deviceId =
        settleDelayMs (hub.pollPolicy.getInterval deviceId) 0 false := by
      simp [computeStatusUpdateDelayMs, hmoving]
    right
    rw [hdelay, hnow]
    exact h.now_add_ne_zero deviceId (settleDelayMs_le _ _) (settleDelayMs_ne_zero _ _)

/-- A failure leaves its device with a retry set or without a window. -/
theorem ClockFits.scheduled_onExchangeFailed (h : hub.ClockFits) (deviceId : DeviceId)
    (authLike : Bool) :
    ((hub.pollPolicy.onExchangeFailed deviceId authLike hub.now).2.entry
      deviceId).Scheduled := by
  rcases hub.pollPolicy.entry_onExchangeFailed deviceId authLike hub.now with
    hresult | ⟨n, -, -, hresult⟩
  · rw [hresult]
    exact PollTracking.scheduled_cleared _
  · obtain ⟨hmin, hmax⟩ := StatusPollPolicy.retryDelayMs_mem n authLike
    have hwindow : maxTrackedStatusPollWindowMs.toNat = 600000 := rfl
    right
    rw [hresult]
    refine h.now_add_ne_zero deviceId ?_ ?_
    · omega
    · intro hzero
      rw [hzero] at hmin
      exact absurd hmin (by decide)

end Hub
end HomeIoControl
