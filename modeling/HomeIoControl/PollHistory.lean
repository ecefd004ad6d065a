import HomeIoControl.GuardedRun
import HomeIoControl.PollDrain
import HomeIoControl.PollWindow

namespace HomeIoControl

/-- A call of the poll policy. The time it is made at comes with it in a run. -/
inductive PollCall
  | setInterval (deviceId : DeviceId) (intervalMs : Millis)
  | beginTracking (deviceId : DeviceId) (initialDelayMs : Millis)
  | clear (deviceId : DeviceId)
  | setNextUpdate (deviceId : DeviceId) (absTime : Millis)
  | onExchangeFailed (deviceId : DeviceId) (authLike : Bool)
  | clearFailureStreaks (deviceId : DeviceId)
  | popDueDevice
  deriving DecidableEq, Repr

namespace StatusPollPolicy

def apply (p : StatusPollPolicy) (e : Millis × PollCall) : StatusPollPolicy :=
  match e.2 with
  | .setInterval deviceId intervalMs => p.setInterval deviceId intervalMs
  | .beginTracking deviceId initialDelayMs => p.beginTracking deviceId initialDelayMs e.1
  | .clear deviceId => p.clear deviceId
  | .setNextUpdate deviceId absTime => p.setNextUpdate deviceId absTime
  | .onExchangeFailed deviceId authLike => (p.onExchangeFailed deviceId authLike e.1).2
  | .clearFailureStreaks deviceId => p.clearFailureStreaks deviceId
  | .popDueDevice => (p.popDueDevice e.1).2

/-- A new policy after a list of calls. -/
def afterCalls (calls : List (Millis × PollCall)) : StatusPollPolicy :=
  GuardedRun.run apply {} calls

/-- The time at which the call opens a window for the device. -/
def begun (deviceId : DeviceId) (e : Millis × PollCall) : Option Millis :=
  match e.2 with
  | .beginTracking opened _ => if opened = deviceId then some e.1 else none
  | _ => none

/-- The time at which the last window of the device was opened. -/
def lastBegun (deviceId : DeviceId) (calls : List (Millis × PollCall)) : Option Millis :=
  calls.reverse.findSome? (begun deviceId)

/-- The times never go back, and no deadline wraps. -/
structure InOrder (calls : List (Millis × PollCall)) : Prop where
  times : (calls.map Prod.fst).Pairwise (· ≤ ·)
  deadlines : ∀ time deviceId delay, (time, .beginTracking deviceId delay) ∈ calls →
    time.toNat + windowMs < counterPeriod

theorem afterCalls_concat (calls : List (Millis × PollCall)) (e : Millis × PollCall) :
    afterCalls (calls ++ [e]) = (afterCalls calls).apply e := by
  simp [afterCalls, GuardedRun.run]

theorem lastBegun_concat (deviceId : DeviceId) (calls : List (Millis × PollCall))
    (e : Millis × PollCall) :
    lastBegun deviceId (calls ++ [e]) = (begun deviceId e).or (lastBegun deviceId calls) := by
  rw [lastBegun, lastBegun, List.reverse_append, List.reverse_singleton, List.singleton_append,
    List.findSome?_cons]
  cases begun deviceId e <;> rfl

end StatusPollPolicy

/-! ## One entry -/

/-- The window is the one that was opened last, or closed, and one kind of failures is counted. -/
structure PollTracking.Bounded (last : Option Millis) (t : PollTracking) : Prop where
  deadline : t.pollDeadline = 0 ∨
    ∃ time, last = some time ∧ t.pollDeadline = time + maxTrackedStatusPollWindowMs
  failures : t.statusPollFailures = 0 ∨ t.authPollFailures = 0

namespace PollTracking

variable {last : Option Millis} {t : PollTracking}

theorem bounded_new : Bounded last {} := ⟨.inl rfl, .inl rfl⟩

theorem bounded_cleared (t : PollTracking) : t.cleared.Bounded last := ⟨.inl rfl, .inl rfl⟩

theorem Bounded.countFailure (h : t.Bounded last) (authLike : Bool) :
    (t.countFailure authLike).Bounded last := by
  unfold PollTracking.countFailure
  cases authLike with
  | true => exact ⟨h.deadline, .inl rfl⟩
  | false => exact ⟨h.deadline, .inr rfl⟩

theorem Bounded.drained (h : t.Bounded last) (now : Millis) : (t.drained now).Bounded last := by
  unfold PollTracking.drained
  split_ifs
  · exact ⟨h.deadline, h.failures⟩
  · exact bounded_cleared t
  · exact h

end PollTracking

namespace StatusPollPolicy

variable {p : StatusPollPolicy} {deviceId other : DeviceId} {now : Millis}

theorem entry_popDueDevice (p : StatusPollPolicy) (now : Millis) (other : DeviceId) :
    (p.popDueDevice now).2.entry other = p.entry other ∨
      (p.popDueDevice now).2.entry other = (p.entry other).drained now := by
  obtain ⟨passed, hdrains, -⟩ := popDue_drainsIn now p.tracking.keys p
  obtain ⟨hin, hout⟩ := hdrains other
  unfold popDueDevice entry
  by_cases hpassed : other ∈ passed
  · right
    rw [hin hpassed]
    cases p.tracking[other]? with
    | none => rfl
    | some t => rfl
  · left
    rw [hout hpassed]

/-- A call keeps every entry bounded. -/
theorem bounded_apply {last : Option Millis} (e : Millis × PollCall)
    (h : (p.entry other).Bounded last) :
    ((p.apply e).entry other).Bounded ((begun other e).or last) := by
  obtain ⟨time, call⟩ := e
  cases call with
  | setInterval deviceId intervalMs =>
    dsimp only [apply, begun]
    rw [Option.none_or, entry_setInterval]
    split_ifs
    · exact ⟨h.deadline, h.failures⟩
    · exact h
  | beginTracking deviceId initialDelayMs =>
    dsimp only [apply, begun]
    by_cases heq : deviceId = other
    · rw [entry_beginTracking, if_pos heq, if_pos heq]
      exact ⟨.inr ⟨time, rfl, rfl⟩, .inl rfl⟩
    · rw [entry_beginTracking, if_neg heq, if_neg heq]
      exact h
  | clear deviceId =>
    dsimp only [apply, begun]
    rw [Option.none_or, entry_clear]
    split_ifs
    · exact PollTracking.bounded_cleared _
    · exact h
  | setNextUpdate deviceId absTime =>
    dsimp only [apply, begun]
    rw [Option.none_or, entry_setNextUpdate]
    split_ifs
    · exact ⟨h.deadline, h.failures⟩
    · exact h
  | onExchangeFailed deviceId authLike =>
    dsimp only [apply, begun]
    rw [Option.none_or]
    by_cases heq : deviceId = other
    · subst heq
      rcases p.entry_onExchangeFailed deviceId authLike time with hended | ⟨n, -, -, hretry⟩
      · rw [hended]
        exact PollTracking.bounded_cleared _
      · rw [hretry]
        have hcount := h.countFailure authLike
        exact ⟨hcount.deadline, hcount.failures⟩
    · rw [entry_onExchangeFailed_of_ne p heq]
      exact h
  | clearFailureStreaks deviceId =>
    dsimp only [apply, begun]
    rw [Option.none_or, entry_clearFailureStreaks]
    split_ifs
    · exact ⟨h.deadline, .inl rfl⟩
    · exact h
  | popDueDevice =>
    dsimp only [apply, begun]
    rw [Option.none_or]
    rcases p.entry_popDueDevice time other with hsame | hdrained
    · rw [hsame]
      exact h
    · rw [hdrained]
      exact h.drained time

theorem bounded_afterCalls (calls : List (Millis × PollCall)) (deviceId : DeviceId) :
    ((afterCalls calls).entry deviceId).Bounded (lastBegun deviceId calls) := by
  induction calls using List.reverseRecOn with
  | nil => exact PollTracking.bounded_new
  | append_singleton calls e ih =>
    rw [afterCalls_concat, lastBegun_concat]
    exact bounded_apply e ih

/-- An interval is changed by its own setter only. -/
theorem getInterval_apply (p : StatusPollPolicy) (e : Millis × PollCall) (other : DeviceId)
    (h : ∀ intervalMs, e.2 ≠ .setInterval other intervalMs) :
    (p.apply e).getInterval other = p.getInterval other := by
  obtain ⟨time, call⟩ := e
  cases call with
  | setInterval deviceId intervalMs =>
    have hne : deviceId ≠ other := fun heq => h intervalMs (heq ▸ rfl)
    simp [apply, getInterval, entry_setInterval, hne]
  | beginTracking deviceId delay => exact getInterval_beginTracking p deviceId other delay time
  | clear deviceId => exact getInterval_clear p deviceId other
  | setNextUpdate deviceId absTime => exact getInterval_setNextUpdate p deviceId other absTime
  | onExchangeFailed deviceId authLike =>
    exact getInterval_onExchangeFailed p deviceId other authLike time
  | clearFailureStreaks deviceId => exact getInterval_clearFailureStreaks p deviceId other
  | popDueDevice =>
    unfold getInterval
    rcases p.entry_popDueDevice time other with hsame | hdrained
    · exact congrArg PollTracking.intervalMs hsame
    · exact (congrArg PollTracking.intervalMs hdrained).trans PollTracking.intervalMs_drained

/-- What comes out of a scan is overdue in an open window. -/
theorem isDue_of_popDueDevice (h : (p.popDueDevice now).1 = some deviceId) :
    (p.entry deviceId).nextUpdate ≠ 0 ∧ (p.entry deviceId).nextUpdate < now ∧
      now ≤ (p.entry deviceId).pollDeadline ∧ (p.entry deviceId).pollDeadline ≠ 0 := by
  rcases popDue_cases now p.tracking.keys p deviceId with ⟨hne, -⟩ | ⟨-, hactive, hnext, hdue, -⟩
  · exact absurd h hne
  · simp only [PollTracking.isActive, Bool.and_eq_true, bne_iff_ne, decide_eq_true_eq] at hactive
    exact ⟨hnext, hdue, hactive.2, hactive.1⟩

/-! ## Every run -/

theorem lastBegun_mem {calls : List (Millis × PollCall)} {time : Millis}
    (h : lastBegun deviceId calls = some time) :
    ∃ delay, (time, .beginTracking deviceId delay) ∈ calls := by
  obtain ⟨⟨time', call⟩, hmem, hbegun⟩ := List.exists_of_findSome?_eq_some h
  rw [List.mem_reverse] at hmem
  cases call with
  | beginTracking opened delay =>
    dsimp only [begun] at hbegun
    split_ifs at hbegun with heq
    · obtain rfl := Option.some.inj hbegun
      exact ⟨delay, heq ▸ hmem⟩
  | _ => cases hbegun

/-- A poll is popped only in the window that was opened last, which lasts ten minutes. One kind of
failures is counted at a time, a retry fits into the window, and intervals are configuration. -/
theorem polling_bounded (calls : List (Millis × PollCall)) (now : Millis)
    (h : InOrder (calls ++ [(now, .popDueDevice)])) :
    (∀ id, ((afterCalls calls).popDueDevice now).1 = some id →
      let t := (afterCalls calls).entry id
      t.nextUpdate ≠ 0 ∧ t.nextUpdate < now ∧ now ≤ t.pollDeadline ∧
        ∃ time, lastBegun id calls = some time ∧ time ≤ now ∧
          now.toNat ≤ time.toNat + 600000) ∧
      (∀ id, ((afterCalls calls).entry id).statusPollFailures = 0 ∨
        ((afterCalls calls).entry id).authPollFailures = 0) ∧
      (∀ id authLike time,
        let t := ((afterCalls calls).onExchangeFailed id authLike time).2.entry id
        t.nextUpdate ≤ t.pollDeadline ∧ time ≤ t.pollDeadline ∨
          t = ((afterCalls calls).entry id).cleared) ∧
      ∀ e id, (∀ intervalMs, e.2 ≠ .setInterval id intervalMs) →
        ((afterCalls calls).apply e).getInterval id = (afterCalls calls).getInterval id := by
  refine ⟨?_, fun id => (bounded_afterCalls calls id).failures, ?_,
    fun e id => getInterval_apply _ e id⟩
  · intro id hpop
    obtain ⟨hnext, hdue, hopen, hwindow⟩ := isDue_of_popDueDevice hpop
    refine ⟨hnext, hdue, hopen, ?_⟩
    obtain ⟨time, hlast, hdeadline⟩ :=
      (bounded_afterCalls calls id).deadline.resolve_left hwindow
    obtain ⟨delay, hmem⟩ := lastBegun_mem hlast
    have hfits := h.deadlines time id delay (List.mem_append_left _ hmem)
    have htime : time ≤ now := by
      have htimes := h.times
      rw [List.map_append, List.pairwise_append] at htimes
      exact htimes.2.2 time (List.mem_map_of_mem hmem) now (by simp)
    refine ⟨time, hlast, htime, ?_⟩
    -- the deadline is ten minutes after the window was opened
    have hsum : (time + maxTrackedStatusPollWindowMs).toNat = time.toNat + windowMs :=
      (toNat_add_eq_reading _ _).trans (WrappingClock.reading_of_lt hfits)
    rw [hdeadline, UInt32.le_iff_toNat_le, hsum] at hopen
    exact hopen
  · intro id authLike time
    dsimp only
    rcases (afterCalls calls).entry_onExchangeFailed id authLike time with
      hended | ⟨n, hactive, hfits, hretry⟩
    · right
      exact hended
    · left
      have hdeadline (t : PollTracking) :
          (t.countFailure authLike).pollDeadline = t.pollDeadline := by
        cases authLike <;> rfl
      simp only [PollTracking.isActive, Bool.and_eq_true, decide_eq_true_eq] at hactive
      rw [hretry, hdeadline]
      exact ⟨hfits, hactive.2⟩

/-- A window with one failed exchange. -/
def failedOnce : List (Millis × PollCall) :=
  [(0, .setInterval "123ABC" 20000), (1000, .beginTracking "123ABC" 0),
    (1500, .onExchangeFailed "123ABC" false)]

theorem inOrder_failedOnce : InOrder (failedOnce ++ [(7000, .popDueDevice)]) := by
  refine ⟨by decide, ?_⟩
  intro time deviceId delay hmem
  simp only [failedOnce, List.cons_append, List.nil_append, List.mem_cons, Prod.mk.injEq,
    reduceCtorEq, and_false, false_or, PollCall.beginTracking.injEq, List.not_mem_nil,
    or_false] at hmem
  rw [hmem.1]
  decide

/-- The retry comes up within the window. -/
theorem failedOnce_polls :
    ((afterCalls failedOnce).popDueDevice 7000).1 = some "123ABC" ∧
      ∃ time, lastBegun "123ABC" failedOnce = some time ∧ time ≤ 7000 ∧
        (7000 : Millis).toNat ≤ time.toNat + 600000 := by
  have hpop : ((afterCalls failedOnce).popDueDevice 7000).1 = some "123ABC" := by decide +kernel
  obtain ⟨-, -, -, hlast⟩ := (polling_bounded failedOnce 7000 inOrder_failedOnce).1 "123ABC" hpop
  exact ⟨hpop, hlast⟩

end StatusPollPolicy
end HomeIoControl
