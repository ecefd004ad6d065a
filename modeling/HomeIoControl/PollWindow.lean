import HomeIoControl.PollSteps
import HomeIoControl.WrappingClock

namespace HomeIoControl.StatusPollPolicy
open WrappingClock

/-- The millisecond counter wraps after 2^32 ms. -/
def counterPeriod : ℕ := 2 ^ 32

def windowMs : ℕ := maxTrackedStatusPollWindowMs.toNat

theorem windowMs_eq : windowMs = 600000 := rfl

theorem toNat_add_eq_reading (now delay : Millis) :
    (now + delay).toNat = reading counterPeriod now.toNat delay.toNat := UInt32.toNat_add now delay

/-- The window and the poll of a device `elapsed` ms after tracking began with a first poll after
`initialDelayMs`: the window is open up to its length, and the poll is due behind the delay. -/
def KeepsWindow (p : StatusPollPolicy) (deviceId : DeviceId)
    (initialDelayMs now elapsed : Millis) : Prop :=
  ((p.beginTracking deviceId initialDelayMs now).isTrackingActive deviceId (now + elapsed) = true ↔
      elapsed.toNat ≤ windowMs) ∧
    (((p.beginTracking deviceId initialDelayMs now).popDueDevice (now + elapsed)).1 =
        some deviceId ↔
      initialDelayMs.toNat < elapsed.toNat ∧ elapsed.toNat ≤ windowMs)

/-- Neither the deadline nor the current time has wrapped; or the deadline is zero, and the window
is over; or both have wrapped, and if the poll's time has not, no poll is due. -/
def ClockKeepsWindow (initialDelayMs now elapsed : ℕ) : Prop :=
  now + windowMs < counterPeriod ∧ now + elapsed < counterPeriod ∨
  now + windowMs = counterPeriod ∧ windowMs < elapsed ∨
  counterPeriod < now + windowMs ∧ counterPeriod ≤ now + elapsed ∧
    (counterPeriod < now + initialDelayMs ∨ windowMs < elapsed ∨
      now + initialDelayMs = counterPeriod ∧ elapsed = initialDelayMs)

instance (initialDelayMs now elapsed : ℕ) :
    Decidable (ClockKeepsWindow initialDelayMs now elapsed) :=
  inferInstanceAs (Decidable (_ ∨ _ ∨ _))

variable {p : StatusPollPolicy} {deviceId : DeviceId} {initialDelayMs now elapsed : Millis}

theorem isTrackingActive_beginTracking (p : StatusPollPolicy) (deviceId : DeviceId)
    (initialDelayMs now time : Millis) :
    (p.beginTracking deviceId initialDelayMs now).isTrackingActive deviceId time = true ↔
      now + maxTrackedStatusPollWindowMs ≠ 0 ∧ time ≤ now + maxTrackedStatusPollWindowMs := by
  simp [isTrackingActive, PollTracking.isActive, entry_beginTracking]

/-- If no other device is due, the scan returns the tracked one when it is due. -/
theorem popDueDevice_beginTracking (time : Millis)
    (hothers : ∀ other, other ≠ deviceId → p.isDue time other = false) :
    ((p.beginTracking deviceId initialDelayMs now).popDueDevice time).1 = some deviceId ↔
      (p.beginTracking deviceId initialDelayMs now).isDue time deviceId = true := by
  have htracked : deviceId ∈ (p.beginTracking deviceId initialDelayMs now).tracking.keys := by
    rw [Std.TreeMap.mem_keys]
    simp [beginTracking, set]
  have honly : ∀ other, (p.beginTracking deviceId initialDelayMs now).isDue time other = true →
      other = deviceId := by
    intro other hdue
    by_contra hne
    have hentry : (p.beginTracking deviceId initialDelayMs now).entry other = p.entry other := by
      rw [entry_beginTracking, if_neg (Ne.symm hne)]
    have hidle := hothers other hne
    unfold isDue isTrackingActive getNextUpdate at hdue hidle
    rw [hentry, hidle] at hdue
    cases hdue
  rw [popDueDevice, popDue_fst]
  constructor
  · exact fun h => List.find?_some h
  · intro hdue
    cases hfind : (p.beginTracking deviceId initialDelayMs now).tracking.keys.find?
        ((p.beginTracking deviceId initialDelayMs now).isDue time) with
    | none => exact absurd hdue (List.find?_eq_none.1 hfind deviceId htracked)
    | some other => rw [honly other (List.find?_some hfind)]

theorem isDue_beginTracking (hdelay : initialDelayMs ≠ 0) (time : Millis) :
    (p.beginTracking deviceId initialDelayMs now).isDue time deviceId = true ↔
      now + initialDelayMs ≠ 0 ∧ now + initialDelayMs < time ∧
        (p.beginTracking deviceId initialDelayMs now).isTrackingActive deviceId time = true := by
  have hnext : (p.beginTracking deviceId initialDelayMs now).getNextUpdate deviceId =
      now + initialDelayMs := by
    rw [getNextUpdate, entry_beginTracking, if_pos rfl]
    exact if_neg hdelay
  unfold isDue
  rw [hnext, Bool.and_eq_true, Bool.and_eq_true, bne_iff_ne, decide_eq_true_eq, and_assoc]

theorem keepsWindow_iff_readings (hdelay : initialDelayMs ≠ 0)
    (hothers : ∀ other, other ≠ deviceId → p.isDue (now + elapsed) other = false) :
    p.KeepsWindow deviceId initialDelayMs now elapsed ↔
      (reading counterPeriod now.toNat windowMs ≠ 0 ∧
          reading counterPeriod now.toNat elapsed.toNat ≤
            reading counterPeriod now.toNat windowMs ↔
        elapsed.toNat ≤ windowMs) ∧
      (reading counterPeriod now.toNat initialDelayMs.toNat ≠ 0 ∧
          reading counterPeriod now.toNat initialDelayMs.toNat <
            reading counterPeriod now.toNat elapsed.toNat ∧
          elapsed.toNat ≤ windowMs ↔
        initialDelayMs.toNat < elapsed.toNat ∧ elapsed.toNat ≤ windowMs) := by
  have hzero (time : Millis) : time ≠ 0 ↔ time.toNat ≠ 0 := by
    rw [ne_eq, ← UInt32.toNat_inj]
    rfl
  have hwindow : (p.beginTracking deviceId initialDelayMs now).isTrackingActive deviceId
      (now + elapsed) = true ↔
      reading counterPeriod now.toNat windowMs ≠ 0 ∧
        reading counterPeriod now.toNat elapsed.toNat ≤
          reading counterPeriod now.toNat windowMs := by
    rw [isTrackingActive_beginTracking, hzero, UInt32.le_iff_toNat_le, toNat_add_eq_reading,
      toNat_add_eq_reading]
    rfl
  unfold KeepsWindow
  rw [popDueDevice_beginTracking _ hothers, isDue_beginTracking hdelay, ← hwindow]
  apply and_congr_right
  intro hactive
  rw [hactive, hzero, UInt32.lt_iff_toNat_lt, toNat_add_eq_reading, toNat_add_eq_reading]

/-- The deadline zero closes the window at once. -/
theorem window_readings_iff {n d : ℕ} (hn : n < counterPeriod) (hd : d < counterPeriod) :
    (reading counterPeriod n windowMs ≠ 0 ∧
        reading counterPeriod n d ≤ reading counterPeriod n windowMs ↔ d ≤ windowMs) ↔
      if n + windowMs = counterPeriod then windowMs < d
      else (n + d < counterPeriod ↔ n + windowMs < counterPeriod) := by
  have hw : windowMs < counterPeriod := by decide
  have hzero := reading_eq_zero_iff hn hw (by decide)
  split_ifs with hsum
  · rw [hzero.2 hsum]
    simp
  · rw [← reading_le_iff hn hd hw]
    simp only [ne_eq, hzero, hsum, not_false_eq_true, true_and]

/-- The poll time zero is no poll. -/
theorem poll_readings_iff {n delay d : ℕ} (hn : n < counterPeriod) (hpos : 0 < delay)
    (hdelay : delay < counterPeriod) (hd : d < counterPeriod) :
    (reading counterPeriod n delay ≠ 0 ∧ reading counterPeriod n delay < reading counterPeriod n d ∧
        d ≤ windowMs ↔ delay < d ∧ d ≤ windowMs) ↔
      windowMs < d ∨ if n + delay = counterPeriod then d ≤ delay
        else (n + delay < counterPeriod ↔ n + d < counterPeriod) := by
  have hzero := reading_eq_zero_iff hn hdelay hpos
  by_cases hover : windowMs < d
  · simp [hover, Nat.not_le.2 hover]
  have hopen : d ≤ windowMs := Nat.le_of_not_lt hover
  split_ifs with hsum
  · rw [hzero.2 hsum]
    simp [hover, hopen]
  · rw [← reading_lt_iff hn hdelay hd]
    simp only [ne_eq, hzero, hsum, not_false_eq_true, true_and, hopen, and_true, hover, false_or]

/-- The window holds for exactly the times that the wrapping of the counter leaves alone. -/
theorem keepsWindow_iff (hpos : 0 < initialDelayMs)
    (hdelay : initialDelayMs ≤ maxTrackedStatusPollWindowMs) (helapsed : elapsed.toNat < 2 ^ 31)
    (hothers : ∀ other, other ≠ deviceId → p.isDue (now + elapsed) other = false) :
    p.KeepsWindow deviceId initialDelayMs now elapsed ↔
      ClockKeepsWindow initialDelayMs.toNat now.toNat elapsed.toNat := by
  have hpos' : 0 < initialDelayMs.toNat := UInt32.lt_iff_toNat_lt.1 hpos
  have hdelay' : initialDelayMs.toNat ≤ windowMs := UInt32.le_iff_toNat_le.1 hdelay
  have hne : initialDelayMs ≠ 0 := by
    rintro rfl
    exact absurd hpos' (Nat.lt_irrefl 0)
  rw [keepsWindow_iff_readings hne hothers,
    window_readings_iff now.toNat_lt elapsed.toNat_lt,
    poll_readings_iff now.toNat_lt hpos' initialDelayMs.toNat_lt elapsed.toNat_lt]
  unfold ClockKeepsWindow
  rw [windowMs_eq] at *
  unfold counterPeriod
  split_ifs <;> omega

/-- The poll and the deadline both lie behind the wrap. -/
theorem window_kept_across_wrap : KeepsWindow {} "123ABC" 3000 4294966296 5000 :=
  (keepsWindow_iff (by decide) (by decide) (by decide)
    (fun other _ => by simp [isDue, getNextUpdate, entry])).2 (by decide)

/-- The deadline of a window that opens 600000 ms before the counter wraps is zero. -/
theorem window_lost_at_wrap : ¬ KeepsWindow {} "123ABC" 3000 4294367296 5000 := by
  intro h
  have hactive := h.1.2 (by decide)
  exact ((isTrackingActive_beginTracking _ _ _ _ _).1 hactive).1 (by decide)

end HomeIoControl.StatusPollPolicy
