import HomeIoControl.HubOutcome

namespace HomeIoControl

/-! ## What a stop promises -/

namespace Hub

end Hub

namespace ExchangeEngine

variable (engine : ExchangeEngine)

def createStop (dev : IoDevice) : Option IoFrame :=
  createExecuteCommand engine.nodeId dev.nodeId true .stop

end ExchangeEngine

namespace Hub

def nowAfterBlocking (hub : Hub) : Millis := .ofNat (hub.elapsedMs + hub.nextBlockingMs)

def firstPoll (hub : Hub) (deviceId : DeviceId) : Millis :=
  let interval := hub.pollPolicy.getInterval deviceId
  if interval = 0 then 0 else hub.now + interval

end Hub

namespace ExchangeEngine

variable (engine : ExchangeEngine)

end ExchangeEngine

/-! ## After the reply -/

namespace StatusPollPolicy

variable (p : StatusPollPolicy) (deviceId : DeviceId) {dev : IoDevice}

theorem getNextUpdate_rescheduleAfterPrivateResponse (h : dev.isStopped = false)
    (frame : IoFrame) :
    (p.rescheduleAfterPrivateResponse deviceId dev frame).getNextUpdate deviceId =
      if p.isTrackingActive deviceId dev.lastStatus = true then
        let next := dev.lastStatus +
          settleDelayMs (p.getInterval deviceId) (privateResponseHintDelayMs frame) false
        if p.getNextUpdate deviceId ≠ 0 ∧ p.getNextUpdate deviceId < next then
          p.getNextUpdate deviceId
        else next
      else 0 := by
  unfold rescheduleAfterPrivateResponse computePrivateResponseDelayMs
  cases hactive : p.isTrackingActive deviceId dev.lastStatus with
  | false => simp [getNextUpdate, entry_clear, PollTracking.cleared]
  | true =>
    simp only [h, Bool.not_true, Bool.or_self, Bool.false_eq_true, if_false, if_true]
    rw [getNextUpdate, entry_setNextUpdate, if_pos rfl]

end StatusPollPolicy

namespace Hub

variable {hub : Hub} {deviceId : DeviceId} {dev dev' : IoDevice} {reply : IoFrame}

theorem capStopPoll_writes (hub : Hub) (deviceId : DeviceId) :
    ∃ pollPolicy, hub.capStopPoll deviceId = { hub with pollPolicy } := by
  unfold capStopPoll
  dsimp only
  split_ifs
  · exact ⟨_, rfl⟩
  · exact ⟨_, rfl⟩
  · exact ⟨_, rfl⟩

def replied (hub : Hub) (deviceId : DeviceId) (s : EngineState) : Hub :=
  (hub.beginCommand deviceId).block s

variable {accepts : IoDevice → Bool}

theorem replied_eq (h : hub.Takes deviceId accepts dev) (s : EngineState) :
    (hub.replied deviceId s).registry = hub.registry ∧
      (hub.replied deviceId s).pollPolicy.getNextUpdate deviceId = hub.firstPoll deviceId ∧
      (hub.replied deviceId s).now = hub.nowAfterBlocking ∧
      (hub.replied deviceId s).decoded = hub.decoded := by
  unfold replied
  rw [beginCommand_eq h]
  refine ⟨rfl, ?_, rfl, rfl⟩
  simp [block, mapPolicy, StatusPollPolicy.getNextUpdate, StatusPollPolicy.entry_beginTracking,
    firstPoll]

theorem entry_replied (h : hub.Takes deviceId accepts dev) (s : EngineState) :
    (hub.replied deviceId s).pollPolicy.entry deviceId =
      { hub.pollPolicy.entry deviceId with
        pollDeadline := hub.now + maxTrackedStatusPollWindowMs
        nextUpdate := hub.firstPoll deviceId
        statusPollFailures := 0
        authPollFailures := 0 } := by
  unfold replied
  rw [beginCommand_eq h]
  simp [block, mapPolicy, StatusPollPolicy.entry_beginTracking, firstPoll]

theorem getInterval_replied (h : hub.Takes deviceId accepts dev) (s : EngineState) :
    (hub.replied deviceId s).pollPolicy.getInterval deviceId =
      hub.pollPolicy.getInterval deviceId := by
  rw [StatusPollPolicy.getInterval, entry_replied h]
  rfl

theorem registered_replied (h : hub.Takes deviceId accepts dev) (s : EngineState)
    (hown : nodeIdToString reply.src = deviceId) :
    (hub.replied deviceId s).registry.get (nodeIdToString reply.src) = some dev := by
  rw [(replied_eq h s).1, hown]
  exact h.registered

def stopped (hub : Hub) (deviceId : DeviceId) (reply : IoFrame) (s : EngineState) : Hub :=
  (hub.replied deviceId s).updateDeviceStatus reply false

theorem stopped_pollPolicy_of_isPrivateStatus (h : hub.Takes deviceId accepts dev)
    (s : EngineState) (hown : nodeIdToString reply.src = deviceId)
    (hprivate : reply.IsPrivateStatus)
    (hdev' : (hub.stopped deviceId reply s).getDevice deviceId = some dev') :
    ∃ after, after.lastStatus = hub.nowAfterBlocking ∧ after.isStopped = dev'.isStopped ∧
      (hub.stopped deviceId reply s).pollPolicy =
        (hub.replied deviceId s).pollPolicy.rescheduleAfterPrivateResponse deviceId after
          reply := by
  obtain ⟨-, -, hnow, -⟩ := replied_eq h s
  have hdev := registered_replied h s hown
  unfold stopped at hdev' ⊢
  rw [updateDeviceStatus_of_isPrivateStatus hdev hprivate] at hdev' ⊢
  dsimp only at hdev' ⊢
  rw [hown, hnow] at hdev' ⊢
  simp only [getDevice, store, DeviceRegistry.get_put, if_true, Option.some_inj] at hdev'
  refine ⟨_, IoDevice.lastStatus_applyPrivateResponse _ _ _ _, ?_, rfl⟩
  rw [← hdev', IoDevice.isStopped_clearCommandResult]

theorem stopped_of_other (h : hub.Takes deviceId accepts dev) (s : EngineState)
    (hupdate : ¬(nodeIdToString reply.src = deviceId ∧ reply.IsStatusUpdate))
    (hprivate : ¬(nodeIdToString reply.src = deviceId ∧ reply.IsPrivateStatus)) :
    (∃ dev', (hub.stopped deviceId reply s).getDevice deviceId = some dev' ∧
        dev'.isStopped = dev.isStopped) ∧
      (hub.stopped deviceId reply s).pollPolicy.getNextUpdate deviceId =
        hub.firstPoll deviceId ∧
      ∀ f, (deviceId, f) ∉ (hub.stopped deviceId reply s).decoded.drop hub.decoded.length := by
  obtain ⟨hregistry, hnext, -, hdecoded⟩ := replied_eq h s
  rw [← hdecoded, ← hnext]
  by_cases hown : nodeIdToString reply.src = deviceId
  · have hdev := registered_replied h s hown
    obtain ⟨dev', hmotion, hresult⟩ := updateDeviceStatus_of_other hdev
      (fun hstatus => hprivate ⟨hown, hstatus⟩) (fun hstatus => hupdate ⟨hown, hstatus⟩) false
    rw [stopped, hresult]
    exact ⟨⟨dev', by simp [getDevice, store, hown], hmotion⟩, rfl, by simp [store]⟩
  · obtain ⟨hget, hentry, hnot⟩ := (hub.replied deviceId s).updateDeviceStatus_other hown false
    refine ⟨⟨dev, ?_, rfl⟩, congrArg PollTracking.nextUpdate hentry, hnot⟩
    rw [getDevice, stopped, hget, hregistry]
    exact h.registered

end Hub

namespace ExchangeEngine

variable (engine : ExchangeEngine)

theorem executeDeviceCommand_stop {hub : Hub} {deviceId : DeviceId} {dev : IoDevice}
    {request reply : IoFrame}
    (h : hub.Takes deviceId (fun dev => knownDeviceMatchesEntityClass dev .cover) dev)
    (hbuild : engine.createStop dev = some request)
    (hreply : hub.acceptedReply request = some reply) :
    ∃ s, (∃ p, .rx p ∈ newEvents hub.exchange s ∧ parse p.data = some reply) ∧
      engine.executeDeviceCommand deviceId .stop hub =
        (true, (hub.stopped deviceId reply s).capStopPoll deviceId) := by
  have hcmd : request.cmd = cmdExecute := by
    simp only [createStop, createExecuteCommand] at hbuild
    exact (buildFrame_isCommand hbuild).cmd_eq
  obtain ⟨s, hheard, hresult⟩ := engine.controlDevice_of_some h hbuild hreply false
  refine ⟨s, hheard, ?_⟩
  unfold executeDeviceCommand
  simp only [reduceCtorEq, if_false, bne_self_eq_false, if_true]
  unfold createStop at hresult
  rw [hresult, hcmd]
  simp only [Bool.false_eq_true, false_and, if_false, bne_self_eq_false]
  rfl

theorem executeDeviceCommand_stop_fails {hub : Hub} {deviceId : DeviceId}
    (h : ∀ dev request reply,
      hub.Takes deviceId (fun dev => knownDeviceMatchesEntityClass dev .cover) dev →
      engine.createStop dev = some request → hub.acceptedReply request ≠ some reply) :
    (engine.executeDeviceCommand deviceId .stop hub).1 = false := by
  have hcontrol : (engine.controlDevice deviceId
      (fun dev => knownDeviceMatchesEntityClass dev .cover) engine.createStop false
      hub).1 = false := by
    by_cases htakes : ∃ dev,
        hub.Takes deviceId (fun dev => knownDeviceMatchesEntityClass dev .cover) dev
    · obtain ⟨dev, htakes⟩ := htakes
      cases hbuild : engine.createStop dev with
      | none => rw [engine.controlDevice_of_not_built htakes hbuild]
      | some request =>
        have hreply : hub.acceptedReply request = none :=
          Option.eq_none_iff_forall_ne_some.2 fun reply => h dev request reply htakes hbuild
        obtain ⟨s, f, hresult⟩ := engine.controlDevice_of_none htakes hbuild hreply false
        rw [hresult]
    · rw [engine.controlDevice_of_not_takes fun dev hdev => htakes ⟨dev, hdev⟩]
  unfold executeDeviceCommand
  simp only [reduceCtorEq, if_false, bne_self_eq_false, if_true]
  unfold createStop at hcontrol
  generalize engine.controlDevice deviceId _ _ false hub = result at hcontrol
  obtain ⟨ok, hub'⟩ := result
  obtain rfl : ok = false := hcontrol
  rfl

end ExchangeEngine

/-! ## A shutter that has come to rest -/

end HomeIoControl
