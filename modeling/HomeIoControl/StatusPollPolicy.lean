import HomeIoControl.Constants
import HomeIoControl.OperationQueue
import Std.Data.TreeMap
import Mathlib.Tactic.Common

namespace HomeIoControl

/-! ## Delays -/

def statusRetryAfterFailMs : Millis := 5000
def statusRetryAfterFailStep2Ms : Millis := 15000
def statusRetryAfterFailStep3Ms : Millis := 30000
def statusRetryAfterFailStep4Ms : Millis := 60000
def statusRetryAfterFailMaxMs : Millis := 300000
def statusAuthRetryAfterFailMs : Millis := 30000
def statusAuthRetryAfterFailStep2Ms : Millis := 120000
def statusAuthRetryAfterFailMaxMs : Millis := 300000
def maxTrackedStatusPollWindowMs : Millis := 600000
def remoteActivityStatusPollDelayMs : Millis := 2000
def defaultSettlePollDelayMs : Millis := 3000
def stopSettlePollCapMs : Millis := 1000

/-- A hint and a stop command may only shorten the delay. -/
def settleDelayMs (intervalMs hintDelayMs : Millis) (capForStop : Bool) : Millis :=
  let delay := if intervalMs ≠ 0 then intervalMs else defaultSettlePollDelayMs
  let delay := if hintDelayMs ≠ 0 then min delay hintDelayMs else delay
  if capForStop then min delay stopSettlePollCapMs else delay

def retryDelayMs (consecutiveFailures : UInt8) (authLike : Bool) : Millis :=
  if authLike then
    if consecutiveFailures ≤ 1 then statusAuthRetryAfterFailMs
    else if consecutiveFailures = 2 then statusAuthRetryAfterFailStep2Ms
    else statusAuthRetryAfterFailMaxMs
  else if consecutiveFailures ≤ 1 then statusRetryAfterFailMs
  else if consecutiveFailures = 2 then statusRetryAfterFailStep2Ms
  else if consecutiveFailures = 3 then statusRetryAfterFailStep3Ms
  else if consecutiveFailures = 4 then statusRetryAfterFailStep4Ms
  else statusRetryAfterFailMaxMs

/-! ## Poll bookkeeping -/

/-- Times are absolute. A zero `nextUpdate` is idle, a zero `pollDeadline` is no window. -/
structure PollTracking where
  intervalMs : Millis := 0
  nextUpdate : Millis := 0
  pollDeadline : Millis := 0
  statusPollFailures : UInt8 := 0
  authPollFailures : UInt8 := 0
  deriving DecidableEq, Repr

namespace PollTracking

def isActive (t : PollTracking) (now : Millis) : Bool :=
  t.pollDeadline != 0 && decide (now ≤ t.pollDeadline)

/-- The interval is configuration and stays. -/
def cleared (t : PollTracking) : PollTracking :=
  { t with nextUpdate := 0, pollDeadline := 0, statusPollFailures := 0, authPollFailures := 0 }

/-- One more failure of the given kind ends the other kind's streak. -/
def countFailure (t : PollTracking) (authLike : Bool) : PollTracking :=
  let count (n : UInt8) : UInt8 := if n < 255 then n + 1 else n
  if authLike then { t with statusPollFailures := 0, authPollFailures := count t.authPollFailures }
  else { t with authPollFailures := 0, statusPollFailures := count t.statusPollFailures }

def failures (t : PollTracking) (authLike : Bool) : UInt8 :=
  if authLike then t.authPollFailures else t.statusPollFailures

end PollTracking

structure StatusPollPolicy where
  tracking : Std.TreeMap DeviceId PollTracking := {}

namespace StatusPollPolicy

/-- What the getters read. They answer zero for a device without an entry. -/
def entry (p : StatusPollPolicy) (deviceId : DeviceId) : PollTracking :=
  p.tracking[deviceId]?.getD {}

/-- Writes an entry and creates it where there is none. -/
def set (p : StatusPollPolicy) (deviceId : DeviceId) (f : PollTracking → PollTracking) :
    StatusPollPolicy :=
  { tracking := p.tracking.insert deviceId (f (p.entry deviceId)) }

/-- Writes an existing entry. -/
def update (p : StatusPollPolicy) (deviceId : DeviceId) (f : PollTracking → PollTracking) :
    StatusPollPolicy :=
  match p.tracking[deviceId]? with
  | none => p
  | some t => { tracking := p.tracking.insert deviceId (f t) }

def setInterval (p : StatusPollPolicy) (deviceId : DeviceId) (intervalMs : Millis) :
    StatusPollPolicy :=
  p.set deviceId fun t => { t with intervalMs }

def getInterval (p : StatusPollPolicy) (deviceId : DeviceId) : Millis :=
  (p.entry deviceId).intervalMs

/-- Without an initial delay the first poll is left to somebody else. -/
def beginTracking (p : StatusPollPolicy) (deviceId : DeviceId) (initialDelayMs now : Millis) :
    StatusPollPolicy :=
  p.set deviceId fun t =>
    { t with
      pollDeadline := now + maxTrackedStatusPollWindowMs
      nextUpdate := if initialDelayMs = 0 then 0 else now + initialDelayMs
      statusPollFailures := 0
      authPollFailures := 0 }

def clear (p : StatusPollPolicy) (deviceId : DeviceId) : StatusPollPolicy :=
  p.update deviceId PollTracking.cleared

def setNextUpdate (p : StatusPollPolicy) (deviceId : DeviceId) (absTime : Millis) :
    StatusPollPolicy :=
  p.set deviceId fun t => { t with nextUpdate := absTime }

def getNextUpdate (p : StatusPollPolicy) (deviceId : DeviceId) : Millis :=
  (p.entry deviceId).nextUpdate

def isTrackingActive (p : StatusPollPolicy) (deviceId : DeviceId) (now : Millis) : Bool :=
  (p.entry deviceId).isActive now

/-- Returns the delay, zero when tracking ends because the window does. -/
def onExchangeFailed (p : StatusPollPolicy) (deviceId : DeviceId) (authLike : Bool)
    (now : Millis) : Millis × StatusPollPolicy :=
  match p.tracking[deviceId]? with
  | none => (0, p)
  | some t =>
    let p := p.update deviceId fun t => t.countFailure authLike
    let backoffMs := retryDelayMs ((t.countFailure authLike).failures authLike) authLike
    -- a retry has to fit into the window
    if p.isTrackingActive deviceId now && decide (now + backoffMs ≤ t.pollDeadline) then
      (backoffMs, p.update deviceId fun t => { t with nextUpdate := now + backoffMs })
    else (0, p.clear deviceId)

def clearFailureStreaks (p : StatusPollPolicy) (deviceId : DeviceId) : StatusPollPolicy :=
  p.update deviceId fun t => { t with statusPollFailures := 0, authPollFailures := 0 }

/-- The loop over the entries, in the order of their keys. -/
def popDue (now : Millis) : List DeviceId → StatusPollPolicy → Option DeviceId × StatusPollPolicy
  | [], p => (none, p)
  | deviceId :: rest, p =>
    if p.getNextUpdate deviceId = 0 ∨ now ≤ p.getNextUpdate deviceId then popDue now rest p
    else if !p.isTrackingActive deviceId now then popDue now rest (p.clear deviceId)
    -- the poll is consumed before it is queued
    else (some deviceId, p.update deviceId fun t => { t with nextUpdate := 0 })

def popDueDevice (p : StatusPollPolicy) (now : Millis) : Option DeviceId × StatusPollPolicy :=
  popDue now p.tracking.keys p

/-! ## What the operations do to the entries -/

theorem entry_eq_default {p : StatusPollPolicy} {deviceId : DeviceId}
    (h : p.tracking[deviceId]? = none) : p.entry deviceId = {} := by
  rw [entry, h]
  rfl

theorem entry_set (p : StatusPollPolicy) (deviceId other : DeviceId)
    (f : PollTracking → PollTracking) :
    (p.set deviceId f).entry other =
      if deviceId = other then f (p.entry other) else p.entry other := by
  by_cases heq : deviceId = other
  · subst heq
    simp [set, entry]
  · simp [set, entry, Std.TreeMap.getElem?_insert, heq]

theorem entry_update {f : PollTracking → PollTracking} (hf : f {} = {}) (p : StatusPollPolicy)
    (deviceId other : DeviceId) :
    (p.update deviceId f).entry other =
      if deviceId = other then f (p.entry other) else p.entry other := by
  unfold update
  cases hentry : p.tracking[deviceId]? with
  | none =>
    dsimp only
    split_ifs with heq
    · rw [← heq, entry_eq_default hentry, hf]
    · rfl
  | some t =>
    by_cases heq : deviceId = other
    · subst heq
      simp [entry, hentry]
    · simp [entry, Std.TreeMap.getElem?_insert, heq]

theorem entry_clear (p : StatusPollPolicy) (deviceId other : DeviceId) :
    (p.clear deviceId).entry other =
      if deviceId = other then (p.entry other).cleared else p.entry other :=
  entry_update rfl p deviceId other

theorem entry_clearFailureStreaks (p : StatusPollPolicy) (deviceId other : DeviceId) :
    (p.clearFailureStreaks deviceId).entry other =
      if deviceId = other then
        { p.entry other with statusPollFailures := 0, authPollFailures := 0 }
      else p.entry other :=
  entry_update rfl p deviceId other

theorem entry_setInterval (p : StatusPollPolicy) (deviceId other : DeviceId)
    (intervalMs : Millis) :
    (p.setInterval deviceId intervalMs).entry other =
      if deviceId = other then { p.entry other with intervalMs } else p.entry other :=
  entry_set p deviceId other _

theorem entry_setNextUpdate (p : StatusPollPolicy) (deviceId other : DeviceId)
    (absTime : Millis) :
    (p.setNextUpdate deviceId absTime).entry other =
      if deviceId = other then { p.entry other with nextUpdate := absTime } else p.entry other :=
  entry_set p deviceId other _

theorem entry_beginTracking (p : StatusPollPolicy) (deviceId other : DeviceId)
    (initialDelayMs now : Millis) :
    (p.beginTracking deviceId initialDelayMs now).entry other =
      if deviceId = other then
        { p.entry other with
          pollDeadline := now + maxTrackedStatusPollWindowMs
          nextUpdate := if initialDelayMs = 0 then 0 else now + initialDelayMs
          statusPollFailures := 0
          authPollFailures := 0 }
      else p.entry other :=
  entry_set p deviceId other _

theorem entry_onExchangeFailed_of_ne (p : StatusPollPolicy) {deviceId other : DeviceId}
    (h : deviceId ≠ other) (authLike : Bool) (now : Millis) :
    (p.onExchangeFailed deviceId authLike now).2.entry other = p.entry other := by
  unfold onExchangeFailed
  cases hentry : p.tracking[deviceId]? with
  | none => rfl
  | some t =>
    dsimp only
    split_ifs
    all_goals simp [clear, update, entry, hentry, Std.TreeMap.getElem?_insert, h]

theorem retryDelayMs_mem (consecutiveFailures : UInt8) (authLike : Bool) :
    5000 ≤ (retryDelayMs consecutiveFailures authLike).toNat ∧
      (retryDelayMs consecutiveFailures authLike).toNat ≤ 300000 := by
  unfold retryDelayMs
  split_ifs
  all_goals decide

/-- A failure schedules a retry within the window or ends tracking. -/
theorem entry_onExchangeFailed (p : StatusPollPolicy) (deviceId : DeviceId) (authLike : Bool)
    (now : Millis) :
    (p.onExchangeFailed deviceId authLike now).2.entry deviceId = (p.entry deviceId).cleared ∨
      ∃ n, (p.entry deviceId).isActive now = true ∧
        now + retryDelayMs n authLike ≤ (p.entry deviceId).pollDeadline ∧
        (p.onExchangeFailed deviceId authLike now).2.entry deviceId =
          { (p.entry deviceId).countFailure authLike with
            nextUpdate := now + retryDelayMs n authLike } := by
  unfold onExchangeFailed
  cases hentry : p.tracking[deviceId]? with
  | none =>
    left
    rw [entry_eq_default hentry]
    rfl
  | some t =>
    have ht : p.entry deviceId = t := by
      rw [entry, hentry]
      rfl
    have hcount (t : PollTracking) : (t.countFailure authLike).pollDeadline = t.pollDeadline := by
      unfold PollTracking.countFailure
      split_ifs <;> rfl
    have hclear (t : PollTracking) : (t.countFailure authLike).cleared = t.cleared := by
      unfold PollTracking.countFailure PollTracking.cleared
      split_ifs <;> rfl
    dsimp only
    -- a retry past the deadline ends the tracking
    split_ifs with hactive
    · right
      simp only [Bool.and_eq_true, decide_eq_true_eq] at hactive
      refine ⟨(t.countFailure authLike).failures authLike, ?_, ?_, ?_⟩
      · have h := hactive.1
        simp only [isTrackingActive, update, hentry] at h
        simpa [entry, PollTracking.isActive, hcount, hentry] using h
      · rw [ht]
        exact hactive.2
      · simp [update, entry, hentry]
    · left
      rw [ht]
      simp [clear, update, entry, hentry, hclear]

/-- A scan leaves an entry alone, ends an expired one, or consumes the poll it returns. -/
theorem popDue_cases (now : Millis) (ids : List DeviceId) (p : StatusPollPolicy)
    (other : DeviceId) :
    (popDue now ids p).1 ≠ some other ∧
        ((popDue now ids p).2.entry other = p.entry other ∨
          (p.entry other).isActive now = false ∧
            (popDue now ids p).2.entry other = (p.entry other).cleared) ∨
      (popDue now ids p).1 = some other ∧ (p.entry other).isActive now = true ∧
        (p.entry other).nextUpdate ≠ 0 ∧ (p.entry other).nextUpdate < now ∧
        (popDue now ids p).2.entry other = { p.entry other with nextUpdate := 0 } := by
  induction ids generalizing p with
  | nil => simp [popDue]
  | cons deviceId rest ih =>
    rw [popDue]
    split_ifs with hidle hexpired
    · exact ih p
    · have h := ih (p.clear deviceId)
      rw [entry_clear] at h
      by_cases heq : deviceId = other
      · subst heq
        simp only [isTrackingActive, Bool.not_eq_true'] at hexpired
        rw [if_pos rfl] at h
        -- a cleared entry is idle, so the rest of the scan passes it by
        rcases h with ⟨hne, h⟩ | ⟨-, hactive, -⟩
        · exact .inl ⟨hne, .inr ⟨hexpired, h.elim id And.right⟩⟩
        · exact absurd hactive Bool.false_ne_true
      · rw [if_neg heq] at h
        exact h
    · by_cases heq : deviceId = other
      · subst heq
        right
        rw [not_or, UInt32.not_le] at hidle
        simp only [isTrackingActive, Bool.not_eq_true', Bool.not_eq_false] at hexpired
        refine ⟨rfl, hexpired, hidle.1, hidle.2, ?_⟩
        rw [entry_update rfl, if_pos rfl]
      · left
        refine ⟨by simpa using heq, .inl ?_⟩
        rw [entry_update rfl, if_neg heq]

end StatusPollPolicy
end HomeIoControl
