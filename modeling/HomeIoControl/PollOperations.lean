import HomeIoControl.PairingSafety
import HomeIoControl.PollCoverage
import HomeIoControl.StopConfirmation

namespace HomeIoControl

/-! ## Parts of an exchange -/

namespace Hub

variable {hub : Hub} {deviceId : DeviceId}

theorem coveredAt_of_scheduled (hreg : hub.Registered deviceId)
    (h : (hub.pollPolicy.entry deviceId).Scheduled) : hub.CoveredAt deviceId := by
  intro hactive
  exact ⟨hreg, .inl (h.resolve_left (isActive_iff.1 hactive).1)⟩

theorem coveredAt_of_willPoll (hreg : hub.Registered deviceId) (h : hub.WillPoll deviceId) :
    hub.CoveredAt deviceId :=
  fun _ => ⟨hreg, h⟩

theorem Takes.isRegistered {accepts : IoDevice → Bool} {dev : IoDevice}
    (h : hub.Takes deviceId accepts dev) : hub.Registered deviceId := by
  rw [Registered, h.registered]
  rfl

variable (ids : DeviceId → Prop)

/-- The window of the device opens, the others stay as they are. -/
theorem keeps_beginCommand (hub : Hub) (deviceId : DeviceId) :
    hub.Keeps (fun id => deviceId ≠ id) (hub.beginCommand deviceId) := by
  unfold beginCommand beginStatusPollTracking
  split_ifs
  · exact .refl _ hub
  · apply keeps_mapPolicy
    · simp
    · intro _ id hne
      left
      unfold mapPolicy
      rw [StatusPollPolicy.entry_beginTracking, if_neg hne]
      exact ⟨rfl, rfl⟩

/-- A configured interval sets the first poll. -/
theorem next_beginCommand (hclock : hub.ClockFits) (hreg : hub.Registered deviceId)
    (hinterval : hub.pollPolicy.getInterval deviceId ≠ 0) :
    (hub.beginCommand deviceId).pollPolicy.getNextUpdate deviceId ≠ 0 := by
  have hsome : ¬(hub.getDevice deviceId).isNone = true := by
    unfold Registered at hreg
    simpa [Option.isSome_iff_ne_none] using hreg
  unfold beginCommand beginStatusPollTracking
  rw [if_neg hsome]
  unfold mapPolicy StatusPollPolicy.getNextUpdate
  rw [StatusPollPolicy.entry_beginTracking, if_pos rfl]
  dsimp only
  rw [if_neg hinterval]
  exact hclock.now_add_ne_zero deviceId (le_max_left _ _) hinterval

theorem keeps_beginCommand_of_interval (hreg : hub.Registered deviceId)
    (hinterval : hub.pollPolicy.getInterval deviceId ≠ 0) :
    hub.Keeps ids (hub.beginCommand deviceId) := by
  have hkeeps := hub.keeps_beginCommand deviceId
  refine { hkeeps with polls := fun hclock id _ => ?_ }
  by_cases heq : deviceId = id
  · subst heq
    have hnext := next_beginCommand (hkeeps.clockFits hclock) hreg hinterval
    exact .inr (.inr ⟨hkeeps.registered _ hreg, .inl hnext⟩)
  · exact hkeeps.polls hclock id heq

theorem keeps_clear (hub : Hub) (deviceId : DeviceId) :
    hub.Keeps ids (hub.mapPolicy fun policy => policy.clear deviceId) := by
  apply keeps_mapPolicy
  · simp
  · intro _ id _
    unfold PollKept mapPolicy
    rw [StatusPollPolicy.entry_clear]
    split_ifs
    · exact .inr (.inl rfl)
    · exact .inl ⟨rfl, rfl⟩

theorem stopCap_ne_zero (hclock : hub.ClockFits) (deviceId : DeviceId) :
    hub.now + stopSettlePollCapMs ≠ 0 :=
  hclock.now_add_ne_zero deviceId (le_max_of_le_right (by decide)) (by decide)

theorem keeps_capStopPoll (hub : Hub) (deviceId : DeviceId) :
    hub.Keeps ids (hub.capStopPoll deviceId) := by
  unfold capStopPoll
  dsimp only
  split_ifs with hmoving
  · apply keeps_mapPolicy
    · simp
    · intro hclock id _
      by_cases heq : deviceId = id
      · subst heq
        have hreg : hub.Registered deviceId := by
          unfold Registered
          cases hdev : hub.getDevice deviceId with
          | none => simp [hdev] at hmoving
          | some dev => rfl
        refine .inr (.inr ⟨hreg, .inl ?_⟩)
        unfold mapPolicy
        rw [StatusPollPolicy.entry_setNextUpdate, if_pos rfl]
        exact stopCap_ne_zero hclock deviceId
      · left
        unfold mapPolicy
        rw [StatusPollPolicy.entry_setNextUpdate, if_neg heq]
        exact ⟨rfl, rfl⟩
  · exact .refl ids hub
  · exact .refl ids hub

/-- A frame that is not applied leaves the motion of the device as it was. -/
theorem isStopped_updateDeviceStatus {dev : IoDevice} (hdev : hub.getDevice deviceId = some dev)
    {frame : IoFrame} (h : ¬Reports frame deviceId) (trustPosition : Bool) :
    ∃ dev', (hub.updateDeviceStatus frame trustPosition).getDevice deviceId = some dev' ∧
      dev'.isStopped = dev.isStopped := by
  by_cases hown : nodeIdToString frame.src = deviceId
  · subst hown
    rw [Reports, not_and, not_or] at h
    obtain ⟨hprivate, hupdate⟩ := h rfl
    obtain ⟨dev', hmotion, hresult⟩ :=
      updateDeviceStatus_of_other hdev hprivate hupdate trustPosition
    rw [hresult]
    exact ⟨dev', by simp [getDevice, store], hmotion⟩
  · refine ⟨dev, ?_, rfl⟩
    unfold getDevice
    rw [(hub.updateDeviceStatus_other hown trustPosition).1]
    exact hdev

/-- The call lasts longer than the window of the device is open. -/
def OutlastsWindow (hub : Hub) (deviceId : DeviceId) : Prop :=
  (hub.pollPolicy.entry deviceId).pollDeadline < hub.nowAfterBlocking

theorem OutlastsWindow.coveredAt_block (h : hub.OutlastsWindow deviceId) (s : EngineState) :
    (hub.block s).CoveredAt deviceId := by
  intro hactive
  exact absurd (UInt32.lt_of_le_of_lt (isActive_iff.1 hactive).2 h) (UInt32.lt_irrefl _)

end Hub

/-! ## Requests -/

namespace ExchangeEngine

variable (engine : ExchangeEngine) (ids : DeviceId → Prop) {hub : Hub} {deviceId : DeviceId}

theorem exists_createStatusRequest (dev : IoDevice) :
    ∃ request, engine.createStatusRequest dev = some request := by
  unfold createStatusRequest
  split_ifs
  · exact exists_buildFrame _ _ _ _ _ _ (by decide)
  · exact exists_buildFrame _ _ _ _ _ _ (by decide)

theorem requestDeviceStatus_of_takes {dev : IoDevice} {request : IoFrame}
    (h : hub.Takes deviceId knownDeviceSupportsStatusRequests dev)
    (hrequest : engine.createStatusRequest dev = some request) :
    engine.requestDeviceStatus deviceId hub =
      engine.executeRequestAndUpdate deviceId request
        (if hub.pollPolicy.isTrackingActive deviceId hub.now then statusRetryAfterFailMs else 0)
        hub := by
  unfold requestDeviceStatus
  simp only [h.registered, h.initialized, h.accepts, hrequest, Bool.not_true, Bool.false_eq_true,
    if_false]

theorem requestDeviceStatus_of_not_takes
    (h : ∀ dev, ¬hub.Takes deviceId knownDeviceSupportsStatusRequests dev) :
    engine.requestDeviceStatus deviceId hub = (false, hub) := by
  unfold requestDeviceStatus
  cases hdev : hub.getDevice deviceId with
  | none => rfl
  | some dev =>
    by_cases hinitialized : hub.initialized = true
    · have haccepts : ¬knownDeviceSupportsStatusRequests dev = true :=
        fun haccepts => h dev ⟨hdev, hinitialized, haccepts⟩
      simp [hinitialized, haccepts]
    · simp [hinitialized]

theorem keeps_requestDeviceStatus (deviceId : DeviceId) (hub : Hub) :
    hub.Keeps ids (engine.requestDeviceStatus deviceId hub).2 := by
  by_cases htakes : ∃ dev, hub.Takes deviceId knownDeviceSupportsStatusRequests dev
  · obtain ⟨dev, htakes⟩ := htakes
    obtain ⟨request, hrequest⟩ := engine.exists_createStatusRequest dev
    rw [engine.requestDeviceStatus_of_takes htakes hrequest]
    exact engine.keeps_executeRequestAndUpdate ids hub htakes.isRegistered request _
  · rw [engine.requestDeviceStatus_of_not_takes fun dev hdev => htakes ⟨dev, hdev⟩]
    exact .refl ids hub

theorem keeps_requestDeviceName (deviceId : DeviceId) (hub : Hub) :
    hub.Keeps ids (engine.requestDeviceName deviceId hub).2 := by
  unfold requestDeviceName
  cases hdev : hub.getDevice deviceId with
  | none => exact .refl ids hub
  | some dev =>
    dsimp only
    split_ifs
    · exact .refl ids hub
    · cases createGetName engine.nodeId dev.nodeId true with
      | none => exact .refl ids hub
      | some request =>
        have hreg : hub.Registered deviceId := by
          rw [Hub.Registered, hdev]
          rfl
        exact engine.keeps_executeRequestAndUpdate ids hub hreg request 0

/-- A status request that nothing follows has to be taken, and every reply it accepts to report or
to come too late for the window. -/
def RequestPolls (deviceId : DeviceId) (hub : Hub) : Prop :=
  hub.IsActive deviceId → hub.WillPoll deviceId ∨
    ∃ dev, hub.Takes deviceId knownDeviceSupportsStatusRequests dev ∧
      ∀ request reply, engine.createStatusRequest dev = some request →
        hub.acceptedReply request = some reply →
        Hub.Reports reply deviceId ∨ hub.OutlastsWindow deviceId

theorem coveredAt_requestDeviceStatus
    (hclock : (engine.requestDeviceStatus deviceId hub).2.ClockFits)
    (hreg : hub.IsActive deviceId → hub.Registered deviceId)
    (h : engine.RequestPolls deviceId hub) :
    (engine.requestDeviceStatus deviceId hub).2.CoveredAt deviceId := by
  by_cases hcovered : hub.CoveredAt deviceId
  · have hkeeps := engine.keeps_requestDeviceStatus (fun _ => True) deviceId hub
    exact hkeeps.coveredAt hclock trivial hcovered
  · -- the window is open, and only this request is left
    obtain ⟨hactive, hnot⟩ := Classical.not_imp.1 hcovered
    rcases h hactive with hpolls | ⟨dev, htakes, hreplies⟩
    · exact absurd ⟨hreg hactive, hpolls⟩ hnot
    obtain ⟨request, hrequest⟩ := engine.exists_createStatusRequest dev
    rw [engine.requestDeviceStatus_of_takes htakes hrequest] at hclock ⊢
    have htracked : hub.pollPolicy.isTrackingActive deviceId hub.now = true := hactive
    have hretry : statusRetryAfterFailMs ≠ 0 := by decide
    rw [if_pos htracked] at hclock ⊢
    cases hreply : hub.acceptedReply request with
    | none =>
      obtain ⟨s, f, hresult⟩ :=
        engine.executeRequestAndUpdate_of_none hreply deviceId statusRetryAfterFailMs
      rw [hresult] at hclock ⊢
      dsimp only at hclock ⊢
      rw [if_pos hretry] at hclock ⊢
      have hupdated := (hub.keeps_block (fun _ => True) s).trans
        (Hub.keeps_updateDevice (fun _ => True) (hub.block s) deviceId f)
      have hbackoff := Hub.keeps_scheduleBackgroundPollBackoff (fun _ => True)
        ((hub.block s).updateDevice deviceId f)
        (hupdated.registered deviceId htakes.isRegistered) s.status.debug.sawChallenge
      apply Hub.coveredAt_of_scheduled
      · exact hbackoff.registered _ (hupdated.registered _ htakes.isRegistered)
      · exact (hbackoff.clockFits hclock).scheduled_onExchangeFailed deviceId _
    | some reply =>
      obtain ⟨s, -, hresult⟩ :=
        engine.executeRequestAndUpdate_of_some hreply deviceId statusRetryAfterFailMs
      rw [hresult] at hclock ⊢
      dsimp only at hclock ⊢
      rw [if_pos hretry] at hclock ⊢
      have hstreaks := Hub.keeps_clearFailureStreaks (fun _ => True) (hub.block s) deviceId
      have hupdated := Hub.keeps_updateDeviceStatus (fun _ => True)
        ((hub.block s).mapPolicy fun p => p.clearFailureStreaks deviceId) reply
        (request.cmd != cmdExecute)
      rcases hreplies request reply hrequest hreply with hreports | houtlasts
      · have hstreaksReg := hstreaks.registered deviceId htakes.isRegistered
        apply Hub.coveredAt_of_scheduled (hupdated.registered deviceId hstreaksReg)
        exact Hub.scheduled_updateDeviceStatus (hupdated.clockFits hclock) hreports hstreaksReg _
      · exact (hstreaks.trans hupdated).coveredAt hclock trivial (houtlasts.coveredAt_block s)

/-! ## Pairing -/

theorem registry_discoverAndPair (w : PairingWorld) :
    (engine.discoverAndPair w).2.registry = w.registry ∨
      ∃ deviceId device,
        (engine.discoverAndPair w).2.registry = w.registry.put deviceId device := by
  cases engine.discoverAndPair_course w with
  | undiscovered answer heard ends => exact .inl ends.registry_eq
  | alternate answer heard cmd ends => exact .inl ends.registry_eq
  | keyExchangeFailed answer heard cmd node exchanged opens ends => exact .inl ends.registry_eq
  | paired answer heard cmd node exchanged opens ok configured ends =>
    exact .inr ⟨_, _, ends.registry_eq⟩

theorem keeps_hubDiscoverAndPair (hub : Hub) : hub.Keeps ids (engine.hubDiscoverAndPair hub).2 := by
  unfold hubDiscoverAndPair
  split_ifs
  · exact .refl ids hub
  · have hregistry :=
      engine.registry_discoverAndPair { engine := hub.exchange, registry := hub.registry }
    generalize engine.discoverAndPair { engine := hub.exchange, registry := hub.registry } = paired
      at hregistry
    obtain ⟨ok, w⟩ := paired
    dsimp only at hregistry ⊢
    apply (hub.keeps_block ids w.engine).trans
    rcases hregistry with hregistry | ⟨deviceId, device, hregistry⟩
    · rw [hregistry]
      exact Hub.keeps_registry ids _ _ fun _ hid => hid
    · rw [hregistry]
      exact Hub.keeps_store ids _ deviceId device

end ExchangeEngine
end HomeIoControl
