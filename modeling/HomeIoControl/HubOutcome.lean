import HomeIoControl.ExchangeSoundness
import HomeIoControl.Hub

namespace HomeIoControl

/-! ## Frames that report a state -/

namespace IoFrame

/-- A private response that is long enough to be applied. -/
def IsPrivateStatus (f : IoFrame) : Prop :=
  f.cmd = cmdPrivateResp ∧ privateResponseMinDataLen ≤ f.dataLen

/-- A status update that is long enough to be applied. -/
def IsStatusUpdate (f : IoFrame) : Prop :=
  f.cmd = cmdStatusUpdate ∧ statusUpdateMinDataLen ≤ f.dataLen

instance (f : IoFrame) : Decidable f.IsPrivateStatus :=
  inferInstanceAs (Decidable (_ ∧ _))

instance (f : IoFrame) : Decidable f.IsStatusUpdate :=
  inferInstanceAs (Decidable (_ ∧ _))

end IoFrame

namespace Hub

/-- The record of the sender with the frame's link health. -/
def heardFrom (hub : Hub) (dev : IoDevice) : IoDevice :=
  dev.updateLinkHealth hub.exchange.status.lastRssiDbm hub.now

/-! ## What a status frame does -/

theorem updateDeviceStatus_of_unregistered {hub : Hub} {frame : IoFrame}
    (h : hub.registry.get (nodeIdToString frame.src) = none) (trustPosition : Bool) :
    hub.updateDeviceStatus frame trustPosition = hub := by
  simp only [updateDeviceStatus, h]

theorem updateDeviceStatus_of_isPrivateStatus {hub : Hub} {frame : IoFrame} {dev : IoDevice}
    (hdev : hub.registry.get (nodeIdToString frame.src) = some dev) (h : frame.IsPrivateStatus)
    (trustPosition : Bool) :
    hub.updateDeviceStatus frame trustPosition =
      let id := nodeIdToString frame.src
      let dev := (hub.heardFrom dev).applyPrivateResponse frame trustPosition hub.now
      { hub.store id dev.clearCommandResult with
        pollPolicy := hub.pollPolicy.rescheduleAfterPrivateResponse id dev frame
        decoded := if trustPosition then hub.decoded ++ [(id, frame)] else hub.decoded } := by
  simp only [updateDeviceStatus, hdev]
  rw [if_pos h.1, if_neg (Nat.not_lt.2 h.2)]
  rfl

theorem updateDeviceStatus_of_isStatusUpdate {hub : Hub} {frame : IoFrame} {dev : IoDevice}
    (hdev : hub.registry.get (nodeIdToString frame.src) = some dev) (h : frame.IsStatusUpdate)
    (trustPosition : Bool) :
    hub.updateDeviceStatus frame trustPosition =
      let id := nodeIdToString frame.src
      let dev := (hub.heardFrom dev).applyStatusUpdate frame hub.now
      { hub.store id dev.clearCommandResult with
        pollPolicy := hub.pollPolicy.rescheduleAfterStatusUpdate id dev
        decoded := hub.decoded ++ [(id, frame)] } := by
  have hcmd : ¬frame.cmd = cmdPrivateResp := by
    rw [h.1]
    decide
  simp only [updateDeviceStatus, hdev]
  rw [if_neg hcmd, if_pos h.1, if_neg (Nat.not_lt.2 h.2)]
  rfl

/-- Any other frame leaves motion, schedule and log as they were. -/
theorem updateDeviceStatus_of_other {hub : Hub} {frame : IoFrame} {dev : IoDevice}
    (hdev : hub.registry.get (nodeIdToString frame.src) = some dev)
    (hprivate : ¬frame.IsPrivateStatus) (hupdate : ¬frame.IsStatusUpdate)
    (trustPosition : Bool) :
    ∃ dev', dev'.isStopped = dev.isStopped ∧
      hub.updateDeviceStatus frame trustPosition =
        hub.store (nodeIdToString frame.src) dev' := by
  simp only [updateDeviceStatus, hdev]
  by_cases hcmd : frame.cmd = cmdPrivateResp
  · have hlen : frame.dataLen < privateResponseMinDataLen :=
      Nat.not_le.1 fun hlen => hprivate ⟨hcmd, hlen⟩
    rw [if_pos hcmd, if_pos hlen]
    exact ⟨hub.heardFrom dev, rfl, rfl⟩
  rw [if_neg hcmd]
  by_cases hcmd : frame.cmd = cmdStatusUpdate
  · have hlen : frame.dataLen < statusUpdateMinDataLen :=
      Nat.not_le.1 fun hlen => hupdate ⟨hcmd, hlen⟩
    rw [if_pos hcmd, if_pos hlen]
    exact ⟨hub.heardFrom dev, rfl, rfl⟩
  rw [if_neg hcmd]
  split_ifs
  · exact ⟨hub.heardFrom dev, rfl, rfl⟩
  · exact ⟨_, IoDevice.isStopped_applyNameResponse (hub.heardFrom dev) frame, rfl⟩
  · exact ⟨hub.heardFrom dev, rfl, rfl⟩
  · exact ⟨_, IoDevice.isStopped_applyInfo2Response (hub.heardFrom dev) frame, rfl⟩
  · exact ⟨hub.heardFrom dev, rfl, rfl⟩
  · exact ⟨_, IoDevice.isStopped_recordCommandResult (hub.heardFrom dev) _ _, rfl⟩
  · exact ⟨hub.heardFrom dev, rfl, rfl⟩

/-- Only the sender's record, the schedules and the log of decoded positions can change. -/
theorem updateDeviceStatus_of_registered {hub : Hub} {frame : IoFrame} {dev : IoDevice}
    (hdev : hub.registry.get (nodeIdToString frame.src) = some dev) (trustPosition : Bool) :
    ∃ dev' pollPolicy decoded, hub.updateDeviceStatus frame trustPosition =
      { hub.store (nodeIdToString frame.src) dev' with pollPolicy, decoded } := by
  by_cases hprivate : frame.IsPrivateStatus
  · exact ⟨_, _, _, updateDeviceStatus_of_isPrivateStatus hdev hprivate trustPosition⟩
  by_cases hupdate : frame.IsStatusUpdate
  · exact ⟨_, _, _, updateDeviceStatus_of_isStatusUpdate hdev hupdate trustPosition⟩
  · obtain ⟨dev', -, hresult⟩ := updateDeviceStatus_of_other hdev hprivate hupdate trustPosition
    exact ⟨_, _, _, hresult⟩

theorem updateDeviceStatus_writes (hub : Hub) (frame : IoFrame) (trustPosition : Bool) :
    ∃ registry pollPolicy decoded, hub.updateDeviceStatus frame trustPosition =
      { hub with registry, pollPolicy, decoded } := by
  cases hdev : hub.registry.get (nodeIdToString frame.src) with
  | none => exact ⟨_, _, _, updateDeviceStatus_of_unregistered hdev trustPosition⟩
  | some dev =>
    obtain ⟨dev', pollPolicy, decoded, hresult⟩ :=
      updateDeviceStatus_of_registered hdev trustPosition
    exact ⟨_, _, _, hresult⟩

/-- A frame concerns its sender only. -/
theorem updateDeviceStatus_other (hub : Hub) {frame : IoFrame} {deviceId : DeviceId}
    (h : nodeIdToString frame.src ≠ deviceId) (trustPosition : Bool) :
    (hub.updateDeviceStatus frame trustPosition).registry.get deviceId =
        hub.registry.get deviceId ∧
      (hub.updateDeviceStatus frame trustPosition).pollPolicy.entry deviceId =
        hub.pollPolicy.entry deviceId ∧
      ∀ f, (deviceId, f) ∉
        (hub.updateDeviceStatus frame trustPosition).decoded.drop hub.decoded.length := by
  cases hdev : hub.registry.get (nodeIdToString frame.src) with
  | none => simp [updateDeviceStatus_of_unregistered hdev]
  | some dev =>
    by_cases hprivate : frame.IsPrivateStatus
    · rw [updateDeviceStatus_of_isPrivateStatus hdev hprivate]
      refine ⟨by simp [store, h], ?_, ?_⟩
      · exact StatusPollPolicy.entry_rescheduleAfterPrivateResponse_of_ne _ h _ _
      · cases trustPosition <;> simp [h.symm]
    by_cases hupdate : frame.IsStatusUpdate
    · rw [updateDeviceStatus_of_isStatusUpdate hdev hupdate]
      refine ⟨by simp [store, h], ?_, by simp [h.symm]⟩
      exact StatusPollPolicy.entry_rescheduleAfterStatusUpdate_of_ne _ h _
    · obtain ⟨dev', -, hresult⟩ :=
        updateDeviceStatus_of_other hdev hprivate hupdate trustPosition
      rw [hresult]
      simp [store, h]

/-! ## Exchanges -/

/-- The frame that an exchange of the request ends with. -/
def reply (hub : Hub) (request : IoFrame) : Option IoFrame :=
  (ExchangeEngine.outcomes request hub.exchange).findSome? TryOutcome.answer?

/-- The reply, unless it is an explicit refusal. -/
def acceptedReply (hub : Hub) (request : IoFrame) : Option IoFrame :=
  (hub.reply request).filter fun f => f.cmd != cmdErrorResp

end Hub

namespace ExchangeEngine

variable (engine : ExchangeEngine)

/-- Without a reply other than a refusal the request fails. Only counters and results of the
device change, and a tracked poll backs off. -/
theorem executeRequestAndUpdate_of_none {hub : Hub} {request : IoFrame}
    (h : hub.acceptedReply request = none) (deviceId : DeviceId) (retryAfterFailMs : Millis) :
    ∃ s f, engine.executeRequestAndUpdate deviceId request retryAfterFailMs hub =
      (false,
        let hub := (hub.block s).updateDevice deviceId f
        if retryAfterFailMs ≠ 0 then
          hub.scheduleBackgroundPollBackoff deviceId s.status.debug.sawChallenge
        else hub) := by
  obtain ⟨hsuccess, hanswer, -⟩ :=
    engine.sendAndReceive_eq request .zero freqCh2 hub.exchange
  unfold executeRequestAndUpdate
  unfold Hub.acceptedReply Hub.reply at h
  generalize (outcomes request hub.exchange).findSome? TryOutcome.answer? = reply
    at h hsuccess hanswer
  generalize engine.sendAndReceive request .zero freqCh2 hub.exchange = exchanged
    at hsuccess hanswer
  obtain ⟨ok, response, s⟩ := exchanged
  cases reply with
  | none =>
    obtain rfl : ok = false := hsuccess
    exact ⟨s, _, rfl⟩
  -- an error response is a reply that is not accepted
  | some f =>
    obtain rfl : ok = true := hsuccess
    obtain rfl : response = f := hanswer
    have hcmd : response.cmd = cmdErrorResp := by simpa using h
    refine ⟨s, fun dev =>
      let dev := dev.updateLinkHealth s.status.lastRssiDbm (hub.block s).now
      if response.dataLen = 0 then dev
      else dev.recordCommandResult (response.byte 0) (hub.block s).now, ?_⟩
    dsimp only
    rw [if_pos hcmd]

/-- With such a reply it succeeds. The reply was heard in the exchange and goes to the status
path. -/
theorem executeRequestAndUpdate_of_some {hub : Hub} {request f : IoFrame}
    (h : hub.acceptedReply request = some f) (deviceId : DeviceId) (retryAfterFailMs : Millis) :
    ∃ s, (∃ p, .rx p ∈ newEvents hub.exchange s ∧ parse p.data = some f) ∧
      engine.executeRequestAndUpdate deviceId request retryAfterFailMs hub =
        (true,
          let hub := hub.block s
          let hub :=
            if retryAfterFailMs ≠ 0 then hub.mapPolicy fun p => p.clearFailureStreaks deviceId
            else hub
          hub.updateDeviceStatus f (request.cmd != cmdExecute)) := by
  obtain ⟨hreply, hcmd⟩ := Option.filter_eq_some_iff.1 h
  obtain ⟨hsuccess, hanswer, htrace, -⟩ :=
    engine.sendAndReceive_eq request .zero freqCh2 hub.exchange
  obtain ⟨hheard, -⟩ := engine.outcomes_answer hreply freqCh2
  unfold Hub.reply at hreply
  rw [hreply] at hsuccess hanswer
  rw [← newEvents_of_trace htrace] at hheard
  unfold executeRequestAndUpdate
  generalize engine.sendAndReceive request .zero freqCh2 hub.exchange = exchanged
    at hsuccess hanswer hheard
  obtain ⟨ok, response, s⟩ := exchanged
  obtain rfl : ok = true := hsuccess
  obtain rfl : response = f := hanswer
  refine ⟨s, hheard, ?_⟩
  dsimp only
  rw [if_neg (by simpa using hcmd)]

end ExchangeEngine

/-! ## Movement commands -/

/-- The hub runs, and the device is registered and of a type that takes the command. -/
structure Hub.Takes (hub : Hub) (deviceId : DeviceId) (accepts : IoDevice → Bool)
    (dev : IoDevice) : Prop where
  registered : hub.getDevice deviceId = some dev
  initialized : hub.initialized = true
  accepts : accepts dev = true

namespace Hub

variable {hub : Hub} {deviceId : DeviceId} {accepts : IoDevice → Bool} {dev : IoDevice}

@[simp] theorem exchange_beginStatusPollTracking (hub : Hub) (deviceId : DeviceId)
    (initialDelayMs : Millis) :
    (hub.beginStatusPollTracking deviceId initialDelayMs).exchange = hub.exchange := by
  unfold beginStatusPollTracking
  split_ifs <;> rfl

@[simp] theorem acceptedReply_beginStatusPollTracking (hub : Hub) (deviceId : DeviceId)
    (initialDelayMs : Millis) (request : IoFrame) :
    (hub.beginStatusPollTracking deviceId initialDelayMs).acceptedReply request =
      hub.acceptedReply request := by
  simp [acceptedReply, reply]

/-- Tracking as a movement command begins it. -/
def beginCommand (hub : Hub) (deviceId : DeviceId) : Hub :=
  hub.beginStatusPollTracking deviceId (hub.pollPolicy.getInterval deviceId)

theorem beginCommand_eq (h : hub.Takes deviceId accepts dev) :
    hub.beginCommand deviceId =
      hub.mapPolicy fun policy =>
        policy.beginTracking deviceId (hub.pollPolicy.getInterval deviceId) hub.now := by
  unfold beginCommand beginStatusPollTracking
  rw [if_neg (by simp [h.registered])]

end Hub

namespace ExchangeEngine

variable (engine : ExchangeEngine) {hub : Hub} {deviceId : DeviceId} {accepts : IoDevice → Bool}
  {dev : IoDevice} {build : IoDevice → Option IoFrame} {request : IoFrame}

theorem controlDevice_of_not_takes (h : ∀ dev, ¬hub.Takes deviceId accepts dev) (rearms : Bool) :
    engine.controlDevice deviceId accepts build rearms hub = (false, hub) := by
  unfold controlDevice
  cases hdev : hub.getDevice deviceId with
  | none => rfl
  | some dev =>
    dsimp only
    split_ifs with hinitialized haccepts
    · rfl
    · rfl
    · rw [Bool.not_eq_true', Bool.not_eq_false] at hinitialized haccepts
      exact absurd ⟨hdev, hinitialized, haccepts⟩ (h dev)

theorem controlDevice_of_takes (h : hub.Takes deviceId accepts dev)
    (hbuild : build dev = some request) (rearms : Bool) :
    engine.controlDevice deviceId accepts build rearms hub =
      match engine.executeRequestAndUpdate deviceId request 0 (hub.beginCommand deviceId) with
      | (false, hub) =>
        (false,
          hub.scheduleBackgroundPollBackoff deviceId hub.exchange.status.debug.sawChallenge)
      | (true, hub) =>
        (true,
          if rearms ∧ hub.pollPolicy.getInterval deviceId ≠ 0 ∧
              hub.pollPolicy.getNextUpdate deviceId = 0 then hub.beginCommand deviceId
          else hub) := by
  unfold controlDevice
  simp only [h.registered, h.initialized, h.accepts, hbuild, Bool.not_true, Bool.false_eq_true,
    if_false]
  rfl

theorem controlDevice_of_not_built (h : hub.Takes deviceId accepts dev)
    (hbuild : build dev = none) (rearms : Bool) :
    engine.controlDevice deviceId accepts build rearms hub =
      (false, (hub.beginCommand deviceId).mapPolicy fun policy => policy.clear deviceId) := by
  unfold controlDevice
  simp only [h.registered, h.initialized, h.accepts, hbuild, Bool.not_true, Bool.false_eq_true,
    if_false, Hub.beginCommand]

/-- Without a reply other than a refusal, polling backs off. -/
theorem controlDevice_of_none (h : hub.Takes deviceId accepts dev)
    (hbuild : build dev = some request) (hreply : hub.acceptedReply request = none)
    (rearms : Bool) :
    ∃ s f, engine.controlDevice deviceId accepts build rearms hub =
      (false,
        (((hub.beginCommand deviceId).block s).updateDevice deviceId
          f).scheduleBackgroundPollBackoff deviceId s.status.debug.sawChallenge) := by
  have hbegun : (hub.beginCommand deviceId).acceptedReply request = none := by
    rw [Hub.beginCommand, Hub.acceptedReply_beginStatusPollTracking, hreply]
  obtain ⟨s, f, hresult⟩ := engine.executeRequestAndUpdate_of_none hbegun deviceId 0
  refine ⟨s, f, ?_⟩
  rw [engine.controlDevice_of_takes h hbuild, hresult]
  simp only [ne_eq, not_true_eq_false, if_false]
  rfl

/-- With such a reply the command succeeds. -/
theorem controlDevice_of_some {f : IoFrame} (h : hub.Takes deviceId accepts dev)
    (hbuild : build dev = some request) (hreply : hub.acceptedReply request = some f)
    (rearms : Bool) :
    ∃ s, (∃ p, .rx p ∈ newEvents hub.exchange s ∧ parse p.data = some f) ∧
      engine.controlDevice deviceId accepts build rearms hub =
        (true,
          let hub := ((hub.beginCommand deviceId).block s).updateDeviceStatus f
            (request.cmd != cmdExecute)
          if rearms ∧ hub.pollPolicy.getInterval deviceId ≠ 0 ∧
              hub.pollPolicy.getNextUpdate deviceId = 0 then hub.beginCommand deviceId
          else hub) := by
  have hbegun : (hub.beginCommand deviceId).acceptedReply request = some f := by
    rw [Hub.beginCommand, Hub.acceptedReply_beginStatusPollTracking, hreply]
  obtain ⟨s, hheard, hresult⟩ := engine.executeRequestAndUpdate_of_some hbegun deviceId 0
  rw [show (hub.beginCommand deviceId).exchange = hub.exchange from
    Hub.exchange_beginStatusPollTracking hub deviceId _] at hheard
  refine ⟨s, hheard, ?_⟩
  rw [engine.controlDevice_of_takes h hbuild, hresult]
  simp only [ne_eq, not_true_eq_false, if_false]

end ExchangeEngine
end HomeIoControl
