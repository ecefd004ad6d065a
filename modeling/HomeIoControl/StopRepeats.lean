import HomeIoControl.PollCommands
import HomeIoControl.SettleCadence
import HomeIoControl.StopConfirmation

namespace HomeIoControl

/-! ## Repeated stops -/

namespace ExchangeEngine

variable (engine : ExchangeEngine)

def stopAfter (deviceId : DeviceId) (hub : Hub) (events : List HubEvent) : Hub :=
  (engine.executeDeviceCommand deviceId .stop (GuardedRun.run engine.step hub events)).2

/-- The stop succeeds, the device still reports motion, and no deadline wraps. -/
structure StopMoves (deviceId : DeviceId) (hub : Hub) (events : List HubEvent) : Prop where
  succeeds : (engine.executeDeviceCommand deviceId .stop
    (GuardedRun.run engine.step hub events)).1 = true
  moves : ∃ dev, (engine.stopAfter deviceId hub events).getDevice deviceId = some dev ∧
    dev.isStopped = false
  clock : (engine.stopAfter deviceId hub events).ClockFits

end ExchangeEngine

namespace Hub

def repliedMs (hub : Hub) : ℕ := hub.elapsedMs + hub.nextBlockingMs

/-- The configured interval brings the poll by the given time: after the command began, or after
the device's own status update. A status frame of the device has to find the window open. -/
def IntervalPollsBy (hub : Hub) (deviceId : DeviceId) (reply : IoFrame) (due : ℕ) : Prop :=
  let interval := (hub.pollPolicy.getInterval deviceId).toNat
  let own := nodeIdToString reply.src = deviceId
  interval ≠ 0 ∧
    (own ∧ (reply.IsStatusUpdate ∨ reply.IsPrivateStatus) →
      hub.repliedMs ≤ hub.elapsedMs + 600000) ∧
    if own ∧ reply.IsStatusUpdate then hub.repliedMs + interval ≤ due
    else hub.elapsedMs + interval ≤ due

end Hub

namespace ExchangeEngine

variable (engine : ExchangeEngine)

/-- The stop returns by the given time, or the interval brings the poll within a second of it. -/
def StopInTime (deviceId : DeviceId) (time : ℕ) (hub : Hub) (events : List HubEvent) : Prop :=
  let hub := GuardedRun.run engine.step hub events
  ∀ dev request reply,
    hub.Takes deviceId (fun dev => knownDeviceMatchesEntityClass dev .cover) dev →
    engine.createStop dev = some request → hub.acceptedReply request = some reply →
    hub.repliedMs ≤ time ∨ hub.IntervalPollsBy deviceId reply (time + 1000)

end ExchangeEngine

/-! ## The schedule after the reply -/

namespace Hub

variable {hub : Hub} {deviceId : DeviceId} {dev : IoDevice} {reply : IoFrame}
  {accepts : IoDevice → Bool}

theorem stopped_elapsedMs (h : hub.Takes deviceId accepts dev) (reply : IoFrame)
    (s : EngineState) : (hub.stopped deviceId reply s).elapsedMs = hub.repliedMs := by
  obtain ⟨registry, pollPolicy, decoded, hresult⟩ :=
    (hub.replied deviceId s).updateDeviceStatus_writes reply false
  rw [stopped, hresult, replied, beginCommand_eq h]
  rfl

theorem getDevice_capStopPoll (hub : Hub) (deviceId : DeviceId) :
    (hub.capStopPoll deviceId).getDevice deviceId = hub.getDevice deviceId := by
  obtain ⟨pollPolicy, hcap⟩ := hub.capStopPoll_writes deviceId
  rw [hcap]
  rfl

theorem elapsedMs_capStopPoll (hub : Hub) (deviceId : DeviceId) :
    (hub.capStopPoll deviceId).elapsedMs = hub.elapsedMs := by
  obtain ⟨pollPolicy, hcap⟩ := hub.capStopPoll_writes deviceId
  rw [hcap]

theorem getNextUpdate_capStopPoll_le_iff (h : hub.getDevice deviceId = some dev)
    (hmoving : dev.isStopped = false) (hfits : hub.elapsedMs + 1000 < 2 ^ 32) (due : ℕ) :
    ((hub.capStopPoll deviceId).pollPolicy.getNextUpdate deviceId).toNat ≤ due ↔
      hub.elapsedMs + 1000 ≤ due ∨ (hub.pollPolicy.getNextUpdate deviceId).toNat ≠ 0 ∧
        (hub.pollPolicy.getNextUpdate deviceId).toNat ≤ due := by
  have hcap : (hub.now + stopSettlePollCapMs).toNat = hub.elapsedMs + 1000 := by
    have hsecond : stopSettlePollCapMs.toNat = 1000 := rfl
    rw [UInt32.toNat_add, now, UInt32.toNat_ofNat', hsecond]
    omega
  have hzero := millis_eq_zero_iff (hub.pollPolicy.getNextUpdate deviceId)
  unfold capStopPoll
  rw [h]
  simp only [Option.any_some, hmoving, Bool.not_false, if_true, hzero, UInt32.lt_iff_toNat_lt, hcap]
  by_cases hearlier : (hub.pollPolicy.getNextUpdate deviceId).toNat = 0 ∨
      hub.elapsedMs + 1000 < (hub.pollPolicy.getNextUpdate deviceId).toNat
  · have hnext : (hub.mapPolicy fun policy => policy.setNextUpdate deviceId
        (hub.now + stopSettlePollCapMs)).pollPolicy.getNextUpdate deviceId =
          hub.now + stopSettlePollCapMs := by
      simp [mapPolicy, StatusPollPolicy.getNextUpdate, StatusPollPolicy.entry_setNextUpdate]
    rw [if_pos hearlier, hnext, hcap]
    omega
  · rw [if_neg hearlier]
    omega

/-- The clock of the reply and the deadlines that it can set are far from wrapping. -/
structure ReplyFits (hub : Hub) (deviceId : DeviceId) : Prop where
  window : hub.repliedMs + 600000 < 2 ^ 32
  interval : hub.repliedMs + (hub.pollPolicy.getInterval deviceId).toNat < 2 ^ 32

theorem ReplyFits.now (h : hub.ReplyFits deviceId) : hub.now.toNat = hub.elapsedMs := by
  have hwindow := h.window
  unfold repliedMs at hwindow
  rw [Hub.now, UInt32.toNat_ofNat']
  omega

theorem ReplyFits.nowAfterBlocking (h : hub.ReplyFits deviceId) :
    hub.nowAfterBlocking.toNat = hub.repliedMs := by
  have hwindow := h.window
  rw [Hub.nowAfterBlocking, UInt32.toNat_ofNat']
  unfold repliedMs at *
  omega

theorem ReplyFits.nowAfterBlocking_add (h : hub.ReplyFits deviceId) (delay : Millis)
    (hdelay : hub.repliedMs + delay.toNat < 2 ^ 32) :
    (hub.nowAfterBlocking + delay).toNat = hub.repliedMs + delay.toNat := by
  rw [UInt32.toNat_add, h.nowAfterBlocking, Nat.mod_eq_of_lt hdelay]

theorem ReplyFits.firstPoll (h : hub.ReplyFits deviceId) :
    (hub.firstPoll deviceId).toNat =
      if (hub.pollPolicy.getInterval deviceId).toNat = 0 then 0
      else hub.elapsedMs + (hub.pollPolicy.getInterval deviceId).toNat := by
  have hinterval := h.interval
  have hzero := millis_eq_zero_iff (hub.pollPolicy.getInterval deviceId)
  unfold Hub.firstPoll
  dsimp only
  simp only [hzero]
  split_ifs
  · rfl
  · unfold repliedMs at hinterval
    rw [UInt32.toNat_add, h.now]
    omega

theorem ReplyFits.isTrackingActive (hfits : hub.ReplyFits deviceId)
    (h : hub.Takes deviceId accepts dev) (s : EngineState) :
    (hub.replied deviceId s).pollPolicy.isTrackingActive deviceId hub.nowAfterBlocking =
      decide (hub.repliedMs ≤ hub.elapsedMs + 600000) := by
  have hwindow := hfits.window
  have hdeadline : (hub.now + maxTrackedStatusPollWindowMs).toNat = hub.elapsedMs + 600000 := by
    have hlength : maxTrackedStatusPollWindowMs.toNat = 600000 := rfl
    rw [UInt32.toNat_add, hfits.now, hlength]
    unfold repliedMs at hwindow
    omega
  have hopen : hub.now + maxTrackedStatusPollWindowMs ≠ 0 := by
    intro hzero
    rw [hzero, UInt32.toNat_zero] at hdeadline
    omega
  rw [StatusPollPolicy.isTrackingActive, PollTracking.isActive, entry_replied h]
  simp only [bne_iff_ne.2 hopen, Bool.true_and, UInt32.le_iff_toNat_le, hdeadline,
    hfits.nowAfterBlocking]

end Hub

namespace StatusPollPolicy

variable (p : StatusPollPolicy) (deviceId : DeviceId) {dev : IoDevice}

theorem getNextUpdate_rescheduleAfterStatusUpdate (h : dev.isStopped = false) :
    (p.rescheduleAfterStatusUpdate deviceId dev).getNextUpdate deviceId =
      if p.isTrackingActive deviceId dev.lastStatus = true then
        dev.lastStatus + settleDelayMs (p.getInterval deviceId) 0 false
      else 0 := by
  unfold rescheduleAfterStatusUpdate computeStatusUpdateDelayMs
  cases hactive : p.isTrackingActive deviceId dev.lastStatus with
  | false => simp [getNextUpdate, entry_clear, PollTracking.cleared]
  | true => simp [h, getNextUpdate, entry_setNextUpdate]

end StatusPollPolicy

theorem privateResponseHintDelayMs_cases (frame : IoFrame) :
    privateResponseHintDelayMs frame = 0 ∨ 2000 ≤ (privateResponseHintDelayMs frame).toNat := by
  by_cases hhint : privateResponseDelayHintOffset < frame.dataLen ∧
      frame.byte privateResponseDelayHintOffset ≠ privateResponseHintUnused ∧
      frame.byte privateResponseDelayHintOffset ≠ privateResponseHintZero
  · right
    have hpos : (frame.byte privateResponseDelayHintOffset).toNat ≠ 0 := fun hzero =>
      hhint.2.2 (UInt8.toNat_inj.1 hzero)
    rw [privateResponseHintDelayMs_toNat hhint]
    omega
  · left
    exact if_neg hhint

/-- The settle delay of a device without an interval is longer than the cap of a stop. -/
theorem settleDelayMs_toNat_cases (intervalMs : Millis) (frame : IoFrame) :
    (settleDelayMs intervalMs (privateResponseHintDelayMs frame) false).toNat =
        intervalMs.toNat ∧ intervalMs.toNat ≠ 0 ∨
      2000 ≤ (settleDelayMs intervalMs (privateResponseHintDelayMs frame) false).toNat := by
  have hdefault : defaultSettlePollDelayMs.toNat = 3000 := rfl
  have hzero := millis_eq_zero_iff intervalMs
  rcases privateResponseHintDelayMs_cases frame with hnone | hhint
  · rw [hnone, settleDelayMs_without_hint]
    split_ifs with hinterval
    · exact .inl ⟨rfl, mt hzero.2 hinterval⟩
    · right
      omega
  · have hpresent : privateResponseHintDelayMs frame ≠ 0 := by
      rintro habsent
      rw [habsent, UInt32.toNat_zero] at hhint
      omega
    unfold settleDelayMs
    simp only [Bool.false_eq_true, if_false, if_pos hpresent, UInt32.toNat_min]
    split_ifs with hinterval
    · rw [ne_eq, hzero] at hinterval
      omega
    · right
      omega

namespace Hub

variable {hub : Hub} {deviceId : DeviceId} {dev dev' : IoDevice} {reply : IoFrame}
  {accepts : IoDevice → Bool}

theorem toNat_earlier (existing next : Millis) :
    (if existing ≠ 0 ∧ existing < next then existing else next).toNat =
      if existing.toNat = 0 ∨ next.toNat ≤ existing.toNat then next.toNat else existing.toNat := by
  simp only [ne_eq, millis_eq_zero_iff, UInt32.lt_iff_toNat_lt]
  split_ifs <;> omega

theorem stopped_pollPolicy_of_isStatusUpdate (h : hub.Takes deviceId accepts dev) (s : EngineState)
    (hown : nodeIdToString reply.src = deviceId) (hupdate : reply.IsStatusUpdate)
    (hdev' : (hub.stopped deviceId reply s).getDevice deviceId = some dev') :
    ∃ after, after.lastStatus = hub.nowAfterBlocking ∧ after.isStopped = dev'.isStopped ∧
      (hub.stopped deviceId reply s).pollPolicy =
        (hub.replied deviceId s).pollPolicy.rescheduleAfterStatusUpdate deviceId after := by
  obtain ⟨-, -, hnow, -⟩ := replied_eq h s
  have hdev := registered_replied h s hown
  unfold stopped at hdev' ⊢
  rw [updateDeviceStatus_of_isStatusUpdate hdev hupdate] at hdev' ⊢
  dsimp only at hdev' ⊢
  rw [hown, hnow] at hdev' ⊢
  simp only [getDevice, store, DeviceRegistry.get_put, if_true, Option.some_inj] at hdev'
  refine ⟨_, IoDevice.lastStatus_applyStatusUpdate _ _ _, ?_, rfl⟩
  rw [← hdev', IoDevice.isStopped_clearCommandResult]

/-- The poll that the reply has set, before it is capped, comes by the given time. -/
def SetBy (hub : Hub) (deviceId : DeviceId) (due : ℕ) : Prop :=
  (hub.pollPolicy.getNextUpdate deviceId).toNat ≠ 0 ∧
    (hub.pollPolicy.getNextUpdate deviceId).toNat ≤ due

section Reply
variable (hfits : hub.ReplyFits deviceId) (h : hub.Takes deviceId accepts dev) (s : EngineState)
include hfits h

theorem setBy_stopped_of_isStatusUpdate
    (hdev' : (hub.stopped deviceId reply s).getDevice deviceId = some dev')
    (hmoving : dev'.isStopped = false) (hown : nodeIdToString reply.src = deviceId)
    (hupdate : reply.IsStatusUpdate) (due : ℕ) :
    hub.repliedMs + 1000 ≤ due ∨ (hub.stopped deviceId reply s).SetBy deviceId due ↔
      hub.repliedMs + 1000 ≤ due ∨ hub.IntervalPollsBy deviceId reply due := by
  have hwindow := hfits.window
  have hinterval := hfits.interval
  have hzero := millis_eq_zero_iff (hub.pollPolicy.getInterval deviceId)
  obtain ⟨after, htime, hstopped, hpolicy⟩ :=
    stopped_pollPolicy_of_isStatusUpdate h s hown hupdate hdev'
  have hdelay := settleDelayMs_without_hint (hub.pollPolicy.getInterval deviceId)
  simp only [ne_eq, hzero] at hdelay
  have hnext := hfits.nowAfterBlocking_add
    (settleDelayMs (hub.pollPolicy.getInterval deviceId) 0 false)
    (by split_ifs at hdelay <;> omega)
  unfold SetBy IntervalPollsBy
  rw [hpolicy, StatusPollPolicy.getNextUpdate_rescheduleAfterStatusUpdate _ _
    (hstopped.trans hmoving), htime, hfits.isTrackingActive h, getInterval_replied h]
  simp only [decide_eq_true_eq, hown, hupdate, true_or, and_self, true_imp_iff, if_true]
  by_cases hopen : hub.repliedMs ≤ hub.elapsedMs + 600000
  · rw [if_pos hopen, hnext]
    split_ifs at hdelay ⊢ <;> omega
  · rw [if_neg hopen, UInt32.toNat_zero]
    omega

theorem setBy_stopped_of_isPrivateStatus
    (hdev' : (hub.stopped deviceId reply s).getDevice deviceId = some dev')
    (hmoving : dev'.isStopped = false) (hown : nodeIdToString reply.src = deviceId)
    (hstatus : ¬reply.IsStatusUpdate) (hprivate : reply.IsPrivateStatus) (due : ℕ) :
    hub.repliedMs + 1000 ≤ due ∨ (hub.stopped deviceId reply s).SetBy deviceId due ↔
      hub.repliedMs + 1000 ≤ due ∨ hub.IntervalPollsBy deviceId reply due := by
  have hwindow := hfits.window
  have hinterval := hfits.interval
  have hlater : hub.elapsedMs ≤ hub.repliedMs := Nat.le_add_right _ _
  have hzero := millis_eq_zero_iff (hub.pollPolicy.getInterval deviceId)
  obtain ⟨after, htime, hstopped, hpolicy⟩ :=
    stopped_pollPolicy_of_isPrivateStatus h s hown hprivate hdev'
  unfold SetBy IntervalPollsBy
  rw [hpolicy, StatusPollPolicy.getNextUpdate_rescheduleAfterPrivateResponse _ _
    (hstopped.trans hmoving), htime, hfits.isTrackingActive h, getInterval_replied h]
  simp only [decide_eq_true_eq, hown, hprivate, hstatus, or_true, and_true, true_imp_iff,
    and_false, if_false]
  by_cases hopen : hub.repliedMs ≤ hub.elapsedMs + 600000
  · rw [if_pos hopen, toNat_earlier, (replied_eq h s).2.1, hfits.firstPoll]
    have hle := settleDelayMs_hint_le (hub.pollPolicy.getInterval deviceId)
      (privateResponseHintDelayMs reply)
    have hcases := settleDelayMs_toNat_cases (hub.pollPolicy.getInterval deviceId) reply
    rw [settleDelayMs_without_hint] at hle
    simp only [ne_eq, hzero] at hle
    generalize settleDelayMs _ (privateResponseHintDelayMs reply) false = delay at *
    rw [hfits.nowAfterBlocking_add delay (by split_ifs at hle <;> omega)]
    split_ifs at hle ⊢ <;> omega
  · rw [if_neg hopen, UInt32.toNat_zero]
    omega

theorem setBy_stopped_of_other
    (hupdate : ¬(nodeIdToString reply.src = deviceId ∧ reply.IsStatusUpdate))
    (hprivate : ¬(nodeIdToString reply.src = deviceId ∧ reply.IsPrivateStatus)) (due : ℕ) :
    hub.repliedMs + 1000 ≤ due ∨ (hub.stopped deviceId reply s).SetBy deviceId due ↔
      hub.repliedMs + 1000 ≤ due ∨ hub.IntervalPollsBy deviceId reply due := by
  have hlater : hub.elapsedMs ≤ hub.repliedMs := Nat.le_add_right _ _
  obtain ⟨-, hnext, -⟩ := stopped_of_other h s hupdate hprivate
  have hnone : ¬(nodeIdToString reply.src = deviceId ∧
      (reply.IsStatusUpdate ∨ reply.IsPrivateStatus)) := by
    rintro ⟨hown, hstatus | hstatus⟩
    · exact hupdate ⟨hown, hstatus⟩
    · exact hprivate ⟨hown, hstatus⟩
  unfold SetBy IntervalPollsBy
  simp only [hnext, hfits.firstPoll, if_neg hupdate, hnone, false_imp_iff, true_and]
  split_ifs <;> omega

theorem getNextUpdate_stop
    (hdev' : (hub.stopped deviceId reply s).getDevice deviceId = some dev')
    (hmoving : dev'.isStopped = false) (due : ℕ) :
    ((((hub.stopped deviceId reply s).capStopPoll deviceId).pollPolicy.getNextUpdate
        deviceId).toNat ≤ due ↔
      hub.repliedMs + 1000 ≤ due ∨ hub.IntervalPollsBy deviceId reply due) := by
  have hwindow := hfits.window
  rw [getNextUpdate_capStopPoll_le_iff hdev' hmoving (by rw [stopped_elapsedMs h]; omega),
    stopped_elapsedMs h]
  by_cases hupdate : nodeIdToString reply.src = deviceId ∧ reply.IsStatusUpdate
  · exact setBy_stopped_of_isStatusUpdate hfits h s hdev' hmoving hupdate.1 hupdate.2 due
  by_cases hprivate : nodeIdToString reply.src = deviceId ∧ reply.IsPrivateStatus
  · exact setBy_stopped_of_isPrivateStatus hfits h s hdev' hmoving hprivate.1
      (fun hstatus => hupdate ⟨hprivate.1, hstatus⟩) hprivate.2 due
  · exact setBy_stopped_of_other hfits h s hupdate hprivate due

end Reply

end Hub

/-! ## Every run of stops -/

namespace ExchangeEngine

variable (engine : ExchangeEngine) {deviceId : DeviceId} {hub : Hub} {events : List HubEvent}

theorem keeps_stop (deviceId : DeviceId) (hub : Hub) :
    hub.Keeps (fun id => deviceId ≠ id) (engine.executeDeviceCommand deviceId .stop hub).2 := by
  have hcall : engine.controlCommand (.executeDeviceCommand deviceId .stop) =
      some (engine.namedCommand deviceId .stop) := rfl
  have hcontrol := engine.keeps_control (engine.namedCommand deviceId .stop) hub
  rw [← engine.execute_eq_control hcall] at hcontrol
  exact hcontrol

/-- A stop that moves leaves the poll within a second of a time exactly when it is in time. -/
theorem getNextUpdate_stopAfter_le_iff (h : engine.StopMoves deviceId hub events) (time : ℕ) :
    ((engine.stopAfter deviceId hub events).pollPolicy.getNextUpdate deviceId).toNat ≤
        time + 1000 ↔
      engine.StopInTime deviceId time hub events := by
  obtain ⟨hsucceeds, ⟨dev', hdev', hmoving⟩, hclock⟩ := h
  unfold stopAfter StopInTime at *
  dsimp only
  generalize GuardedRun.run engine.step hub events = hub at *
  by_cases hreplied : ∃ dev request reply,
      hub.Takes deviceId (fun dev => knownDeviceMatchesEntityClass dev .cover) dev ∧
        engine.createStop dev = some request ∧ hub.acceptedReply request = some reply
  · obtain ⟨dev, request, reply, htakes, hbuild, hreply⟩ := hreplied
    have hkeeps := engine.keeps_stop deviceId hub
    obtain ⟨s, -, hresult⟩ := engine.executeDeviceCommand_stop htakes hbuild hreply
    rw [hresult] at hdev' hclock hkeeps ⊢
    rw [Hub.getDevice_capStopPoll] at hdev'
    have hfits : hub.ReplyFits deviceId := by
      have hwindow := hclock.window
      have hinterval := hclock.interval deviceId
      rw [Hub.elapsedMs_capStopPoll, Hub.stopped_elapsedMs htakes] at hwindow hinterval
      rw [hkeeps.interval] at hinterval
      exact ⟨hwindow, hinterval⟩
    rw [Hub.getNextUpdate_stop hfits htakes s hdev' hmoving, Nat.add_le_add_iff_right]
    -- the device, the request and the reply are the only ones
    constructor
    · intro hle dev₁ request₁ reply₁ htakes₁ hbuild₁ hreply₁
      obtain rfl := Option.some.inj (htakes.registered.symm.trans htakes₁.registered)
      obtain rfl := Option.some.inj (hbuild.symm.trans hbuild₁)
      obtain rfl := Option.some.inj (hreply.symm.trans hreply₁)
      exact hle
    · exact fun hintime => hintime dev request reply htakes hbuild hreply
  -- without an accepted reply the stop fails
  · have hfails : (engine.executeDeviceCommand deviceId .stop hub).1 = false := by
      apply engine.executeDeviceCommand_stop_fails
      intro dev request reply htakes hbuild hreply
      exact hreplied ⟨dev, request, reply, htakes, hbuild, hreply⟩
    rw [hfails] at hsucceeds
    exact absurd hsucceeds Bool.false_ne_true

/-- A run of stops never puts the poll off past a second after the first one exactly when every
stop is in time. -/
theorem stops_keep_poll_iff (deviceId : DeviceId) (hub : Hub) (first : List HubEvent)
    (more : List (List HubEvent))
    (h : GuardedRun.Guarded (engine.stopAfter deviceId) (engine.StopMoves deviceId) hub
      (first :: more)) :
    (∀ stops, stops <+: first :: more → stops ≠ [] →
      ((GuardedRun.run (engine.stopAfter deviceId) hub stops).pollPolicy.getNextUpdate
        deviceId).toNat ≤ (engine.stopAfter deviceId hub first).elapsedMs + 1000) ↔
      GuardedRun.Guarded (engine.stopAfter deviceId)
        (engine.StopInTime deviceId (engine.stopAfter deviceId hub first).elapsedMs) hub
        (first :: more) := by
  generalize (engine.stopAfter deviceId hub first).elapsedMs = time
  have hiff (hub : Hub) (events : List HubEvent) (hmoves : engine.StopMoves deviceId hub events) :=
    engine.getNextUpdate_stopAfter_le_iff hmoves time
  exact GuardedRun.guarded_iff_after (G := engine.StopInTime deviceId time)
    (P := fun hub => (hub.pollPolicy.getNextUpdate deviceId).toNat ≤ time + 1000) hiff h

end ExchangeEngine

/-! ## A shutter that keeps moving -/

def movingShutter (blockingMs : List ℕ) : Hub where
  exchange :=
    { script :=
        { sends := [true, true]
          windows := List.replicate 2
            (oneFrame (deviceFrame cmdPrivateResp [0, 0, 0, 0, 0, 0]))
          challenges := []
          rssis := [] } }
  registry := DeviceRegistry.add {} "654321" .rollerShutter 0 false true
  elapsedMs := 10000
  blockingMs

def Hub.shutterMoves (hub : Hub) (events : List HubEvent) : Bool :=
  let result := sampleEngine.executeDeviceCommand "654321" .stop
    (GuardedRun.run sampleEngine.step hub events)
  result.1 && (result.2.getDevice "654321").any (fun dev => !dev.isStopped) &&
    decide result.2.ClockFits

theorem stopMoves_of_shutterMoves {hub : Hub} {events : List HubEvent}
    (h : hub.shutterMoves events = true) : sampleEngine.StopMoves "654321" hub events := by
  simp only [Hub.shutterMoves, Bool.and_eq_true, decide_eq_true_eq] at h
  obtain ⟨⟨hsucceeds, hmoves⟩, hclock⟩ := h
  rw [Option.any_eq_true] at hmoves
  obtain ⟨dev, hdev, hmoving⟩ := hmoves
  exact ⟨hsucceeds, ⟨dev, hdev, by simpa using hmoving⟩, hclock⟩

def polledShutter : Hub :=
  (movingShutter [500, 300]).setDeviceStatusPollInterval "654321" 500

/-- The interval keeps the poll in place when a second stop follows after a tenth of a second. -/
theorem polledShutter_keeps_poll :
    ((GuardedRun.run (sampleEngine.stopAfter "654321") polledShutter
      [[], [.timePasses 100]]).pollPolicy.getNextUpdate "654321").toNat ≤
      (sampleEngine.stopAfter "654321" polledShutter []).elapsedMs + 1000 := by
  have hmoves : GuardedRun.Guarded (sampleEngine.stopAfter "654321")
      (sampleEngine.StopMoves "654321") polledShutter [[], [.timePasses 100]] :=
    GuardedRun.guarded_cons.2 ⟨stopMoves_of_shutterMoves (by decide +kernel),
      GuardedRun.guarded_cons.2 ⟨stopMoves_of_shutterMoves (by decide +kernel),
        GuardedRun.guarded_nil⟩⟩
  apply (sampleEngine.stops_keep_poll_iff "654321" polledShutter [] [[.timePasses 100]] hmoves).2
    (GuardedRun.guarded_cons.2 ⟨?_, GuardedRun.guarded_cons.2 ⟨?_, GuardedRun.guarded_nil⟩⟩)
    [[], [.timePasses 100]] List.prefix_rfl (by simp)
  · exact fun _ _ _ _ _ _ => .inl (by decide +kernel)
  -- the second stop returns too late for its cap, so the interval has to bring the poll
  · intro dev request reply _ _ _
    refine .inr ⟨by decide +kernel, fun _ => by decide +kernel, ?_⟩
    split_ifs
    · decide +kernel
    · decide +kernel

/-- A second stop, 400 ms after the first one has returned, puts the poll off by 900 ms. -/
theorem second_stop_postpones_poll :
    GuardedRun.Guarded (sampleEngine.stopAfter "654321") (sampleEngine.StopMoves "654321")
        (movingShutter [500, 500]) [[], [.timePasses 400]] ∧
      ¬((GuardedRun.run (sampleEngine.stopAfter "654321") (movingShutter [500, 500])
        [[], [.timePasses 400]]).pollPolicy.getNextUpdate "654321").toNat ≤
        (sampleEngine.stopAfter "654321" (movingShutter [500, 500]) []).elapsedMs + 1000 := by
  constructor
  · exact GuardedRun.guarded_cons.2 ⟨stopMoves_of_shutterMoves (by decide +kernel),
      GuardedRun.guarded_cons.2 ⟨stopMoves_of_shutterMoves (by decide +kernel),
        GuardedRun.guarded_nil⟩⟩
  · decide +kernel

end HomeIoControl
