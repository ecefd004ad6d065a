import HomeIoControl.PollOperations

namespace HomeIoControl

/-! ## Movement commands -/

/-- A movement command as the hub carries it out. -/
structure ControlCommand where
  deviceId : DeviceId
  accepts : IoDevice → Bool
  build : IoDevice → Option IoFrame
  rearms : Bool
  isStop : Bool := false

namespace ExchangeEngine

variable (engine : ExchangeEngine)

def control (command : ControlCommand) (hub : Hub) : Bool × Hub :=
  match engine.controlDevice command.deviceId command.accepts command.build command.rearms hub with
  | (false, hub) => (false, hub)
  | (true, hub) => (true, if command.isStop then hub.capStopPoll command.deviceId else hub)

def positionCommand (deviceId : DeviceId) (position : UInt8) : ControlCommand where
  deviceId := deviceId
  accepts dev := knownDeviceAcceptsExecutePosition dev position
  build dev := createExecute engine.nodeId dev.nodeId true position
  rearms := position != posStop

def binaryCommand (deviceId : DeviceId) (expected : DeviceCapabilityClass) (position : UInt8) :
    ControlCommand where
  deviceId := deviceId
  accepts dev :=
    knownDeviceMatchesEntityClass dev expected && knownDeviceAcceptsExecutePosition dev position
  build dev := createExecute engine.nodeId dev.nodeId true position
  rearms := position != posStop

def namedCommand (deviceId : DeviceId) (cmd : CoverCommand) : ControlCommand where
  deviceId := deviceId
  accepts dev := knownDeviceMatchesEntityClass dev .cover
  build dev :=
    if cmd = .forceOpen then
      createForceOpen engine.nodeId dev.nodeId true (if dev.inverted then 100 else 0)
    else createExecuteCommand engine.nodeId dev.nodeId true cmd
  rearms := cmd != .stop
  isStop := cmd = .stop

/-- The movement command of a call, if it is one. -/
def controlCommand : HubCall → Option ControlCommand
  | .setDevicePosition deviceId position => some (engine.positionCommand deviceId position)
  | .setDeviceTilt deviceId tiltPercent =>
    some
      { deviceId
        accepts := knownDeviceAcceptsExecuteTilt
        build := fun dev => createExecuteTilt engine.nodeId dev.nodeId true tiltPercent
        rearms := true }
  | .setDevicePositionAndTilt deviceId position tiltPercent =>
    some
      { deviceId
        accepts := knownDeviceAcceptsExecuteTilt
        build := fun dev =>
          createExecutePositionAndTilt engine.nodeId dev.nodeId true position tiltPercent
        rearms := true }
  | .executeDeviceCommand deviceId cmd => some (engine.namedCommand deviceId cmd)
  | .setLightState deviceId on =>
    some (engine.binaryCommand deviceId .light
      (if on then binaryEntityOnPosition else binaryEntityOffPosition))
  | .setLockState deviceId locked =>
    some (engine.binaryCommand deviceId .lock
      (if locked then binaryEntityOffPosition else binaryEntityOnPosition))
  | .setSwitchState deviceId on =>
    some (engine.binaryCommand deviceId .switch
      (if on then binaryEntityOnPosition else binaryEntityOffPosition))
  | .requestDeviceStatus _ | .requestDeviceName _ | .discoverAndPair => none

theorem control_of_not_isStop {command : ControlCommand} (h : command.isStop = false) (hub : Hub) :
    engine.control command hub =
      engine.controlDevice command.deviceId command.accepts command.build command.rearms hub := by
  unfold control
  obtain ⟨ok, hub'⟩ := engine.controlDevice command.deviceId command.accepts command.build
    command.rearms hub
  cases ok with
  | false => rfl
  | true => simp [h]

/-- The class of the entity and the type of the device are one check. -/
theorem setBinaryState_eq_control (deviceId : DeviceId) (expected : DeviceCapabilityClass)
    (position : UInt8) (hub : Hub) :
    engine.setBinaryState deviceId expected position hub =
      engine.control (engine.binaryCommand deviceId expected position) hub := by
  rw [engine.control_of_not_isStop rfl]
  unfold setBinaryState setDevicePosition controlDevice binaryCommand
  dsimp only
  cases hub.getDevice deviceId with
  | none => rfl
  | some dev =>
    cases hub.initialized with
    | false => rfl
    | true =>
      cases hclass : knownDeviceMatchesEntityClass dev expected with
      | false => simp [hclass]
      | true => simp [hclass]

theorem execute_eq_control {call : HubCall} {command : ControlCommand}
    (h : engine.controlCommand call = some command) (hub : Hub) :
    engine.execute call hub = engine.control command hub := by
  cases call with
  | setDevicePosition deviceId position =>
    obtain rfl := Option.some.inj h
    rw [engine.control_of_not_isStop rfl]
    rfl
  | setDeviceTilt deviceId tiltPercent =>
    obtain rfl := Option.some.inj h
    rw [engine.control_of_not_isStop rfl]
    rfl
  | setDevicePositionAndTilt deviceId position tiltPercent =>
    obtain rfl := Option.some.inj h
    rw [engine.control_of_not_isStop rfl]
    rfl
  | executeDeviceCommand deviceId cmd =>
    obtain rfl := Option.some.inj h
    -- a stop has a follow-up of its own, which the other commands skip
    show engine.executeDeviceCommand deviceId cmd hub =
      engine.control (engine.namedCommand deviceId cmd) hub
    unfold executeDeviceCommand control namedCommand
    dsimp only
    generalize engine.controlDevice deviceId _ _ _ hub = result
    obtain ⟨ok, hub'⟩ := result
    cases ok with
    | false => rfl
    | true => simp
  | setLightState deviceId on =>
    obtain rfl := Option.some.inj h
    exact engine.setBinaryState_eq_control deviceId .light _ hub
  | setLockState deviceId locked =>
    obtain rfl := Option.some.inj h
    exact engine.setBinaryState_eq_control deviceId .lock _ hub
  | setSwitchState deviceId on =>
    obtain rfl := Option.some.inj h
    exact engine.setBinaryState_eq_control deviceId .switch _ hub
  | requestDeviceStatus deviceId => cases h
  | requestDeviceName deviceId => cases h
  | discoverAndPair => cases h

end ExchangeEngine

/-! ## What a movement command does to the polls -/

namespace Hub

/-- The end of a command that has succeeded. -/
def followUp (hub : Hub) (command : ControlCommand) : Hub :=
  let deviceId := command.deviceId
  let hub :=
    if command.rearms ∧ hub.pollPolicy.getInterval deviceId ≠ 0 ∧
        hub.pollPolicy.getNextUpdate deviceId = 0 then hub.beginCommand deviceId
    else hub
  if command.isStop then hub.capStopPoll deviceId else hub

theorem keeps_followUp (ids : DeviceId → Prop) {hub : Hub} {command : ControlCommand}
    (hreg : hub.Registered command.deviceId) : hub.Keeps ids (hub.followUp command) := by
  have hstop (hub : Hub) :
      hub.Keeps ids (if command.isStop then hub.capStopPoll command.deviceId else hub) := by
    split_ifs
    · exact hub.keeps_capStopPoll ids command.deviceId
    · exact .refl ids hub
  unfold followUp
  dsimp only
  by_cases hrearms : command.rearms ∧ hub.pollPolicy.getInterval command.deviceId ≠ 0 ∧
      hub.pollPolicy.getNextUpdate command.deviceId = 0
  · rw [if_pos hrearms]
    exact (keeps_beginCommand_of_interval ids hreg hrearms.2.1).trans (hstop _)
  · rw [if_neg hrearms]
    exact hstop hub

theorem getDevice_beginCommand (hub : Hub) (deviceId other : DeviceId) :
    (hub.beginCommand deviceId).getDevice other = hub.getDevice other := by
  unfold beginCommand beginStatusPollTracking
  split_ifs <;> rfl

/-- The reply to a command finds the record that the command began with. -/
theorem Takes.getDevice_block {hub : Hub} {deviceId : DeviceId} {accepts : IoDevice → Bool}
    {dev : IoDevice} (h : hub.Takes deviceId accepts dev) (s : EngineState) :
    ((hub.beginCommand deviceId).block s).getDevice deviceId = some dev :=
  (hub.getDevice_beginCommand deviceId deviceId).trans h.registered

/-- A stop of a moving device sets a poll. -/
theorem next_capStopPoll {hub : Hub} {deviceId : DeviceId} {dev : IoDevice}
    (hclock : hub.ClockFits) (hdev : hub.getDevice deviceId = some dev)
    (hmoving : dev.isStopped = false) :
    (hub.capStopPoll deviceId).pollPolicy.getNextUpdate deviceId ≠ 0 := by
  unfold capStopPoll
  rw [hdev]
  simp only [Option.any_some, hmoving, Bool.not_false, if_true]
  split_ifs with hearlier
  · simp only [mapPolicy, StatusPollPolicy.getNextUpdate, StatusPollPolicy.entry_setNextUpdate,
      if_true]
    exact stopCap_ne_zero hclock deviceId
  · exact (not_or.1 hearlier).1

theorem next_followUp {hub : Hub} {command : ControlCommand} {dev : IoDevice}
    (hclock : (hub.followUp command).ClockFits) (hstop : command.isStop = true)
    (hdev : hub.getDevice command.deviceId = some dev) (hmoving : dev.isStopped = false) :
    (hub.followUp command).pollPolicy.getNextUpdate command.deviceId ≠ 0 := by
  unfold followUp at hclock ⊢
  dsimp only at hclock ⊢
  rw [if_pos hstop] at hclock ⊢
  have hbefore := (keeps_capStopPoll (fun _ => True) _ _).clockFits hclock
  apply next_capStopPoll hbefore _ hmoving
  split_ifs
  · rw [getDevice_beginCommand]
    exact hdev
  · exact hdev

/-- A call outlasts the window that a command opens if it takes longer than a window. -/
theorem outlastsWindow_beginCommand {hub : Hub} {deviceId : DeviceId} {accepts : IoDevice → Bool}
    {dev : IoDevice} {s : EngineState} (htakes : hub.Takes deviceId accepts dev)
    (hclock : ((hub.beginCommand deviceId).block s).ClockFits) :
    (hub.beginCommand deviceId).OutlastsWindow deviceId ↔
      maxTrackedStatusPollWindowMs.toNat < hub.nextBlockingMs := by
  have hbegun := hub.keeps_beginCommand deviceId
  have hblocked := keeps_block (fun _ => True) (hub.beginCommand deviceId) s
  have hstart := hbegun.clockFits (hblocked.clockFits hclock)
  have hopened : (hub.now + maxTrackedStatusPollWindowMs).toNat =
      hub.elapsedMs + maxTrackedStatusPollWindowMs.toNat :=
    hstart.now_add deviceId (le_max_right _ _)
  have hover := now_toNat hclock
  rw [beginCommand_eq htakes] at hover ⊢
  have hover : hub.nowAfterBlocking.toNat = hub.elapsedMs + hub.nextBlockingMs := hover
  unfold OutlastsWindow mapPolicy
  rw [StatusPollPolicy.entry_beginTracking, if_pos rfl, UInt32.lt_iff_toNat_lt]
  show (hub.now + maxTrackedStatusPollWindowMs).toNat < hub.nowAfterBlocking.toNat ↔ _
  rw [hopened, hover]
  exact Nat.add_lt_add_iff_left

end Hub

namespace ExchangeEngine

variable (engine : ExchangeEngine) {hub : Hub} {command : ControlCommand} {dev : IoDevice}
  {request : IoFrame}

theorem control_of_not_takes (h : ∀ dev, ¬hub.Takes command.deviceId command.accepts dev) :
    engine.control command hub = (false, hub) := by
  unfold control
  rw [engine.controlDevice_of_not_takes h]

theorem control_of_not_built (h : hub.Takes command.deviceId command.accepts dev)
    (hbuild : command.build dev = none) :
    engine.control command hub =
      (false, (hub.beginCommand command.deviceId).mapPolicy fun policy =>
        policy.clear command.deviceId) := by
  unfold control
  rw [engine.controlDevice_of_not_built h hbuild]

theorem control_of_none (h : hub.Takes command.deviceId command.accepts dev)
    (hbuild : command.build dev = some request) (hreply : hub.acceptedReply request = none) :
    ∃ s f, engine.control command hub =
      (false,
        (((hub.beginCommand command.deviceId).block s).updateDevice command.deviceId
          f).scheduleBackgroundPollBackoff command.deviceId s.status.debug.sawChallenge) := by
  obtain ⟨s, f, hresult⟩ := engine.controlDevice_of_none h hbuild hreply command.rearms
  refine ⟨s, f, ?_⟩
  unfold control
  rw [hresult]

theorem control_of_some {reply : IoFrame} (h : hub.Takes command.deviceId command.accepts dev)
    (hbuild : command.build dev = some request) (hreply : hub.acceptedReply request = some reply) :
    ∃ s, engine.control command hub =
      (true,
        (((hub.beginCommand command.deviceId).block s).updateDeviceStatus reply
          (request.cmd != cmdExecute)).followUp command) := by
  obtain ⟨s, -, hresult⟩ := engine.controlDevice_of_some h hbuild hreply command.rearms
  refine ⟨s, ?_⟩
  unfold control
  rw [hresult]
  rfl

/-- A command touches the polls of its own device only. -/
theorem keeps_control (command : ControlCommand) (hub : Hub) :
    hub.Keeps (fun id => command.deviceId ≠ id) (engine.control command hub).2 := by
  by_cases htakes : ∃ dev, hub.Takes command.deviceId command.accepts dev
  · obtain ⟨dev, htakes⟩ := htakes
    have hbegun := hub.keeps_beginCommand command.deviceId
    have hreg := hbegun.registered _ htakes.isRegistered
    cases hbuild : command.build dev with
    | none =>
      rw [engine.control_of_not_built htakes hbuild]
      exact hbegun.trans (Hub.keeps_clear _ _ command.deviceId)
    | some request =>
      cases hreply : hub.acceptedReply request with
      | none =>
        obtain ⟨s, f, hresult⟩ := engine.control_of_none htakes hbuild hreply
        rw [hresult]
        have hupdated := (Hub.keeps_block (fun id => command.deviceId ≠ id) _ s).trans
          (Hub.keeps_updateDevice _ ((hub.beginCommand command.deviceId).block s) command.deviceId
            f)
        have hbackoff := Hub.keeps_scheduleBackgroundPollBackoff
          (fun id => command.deviceId ≠ id) _ (hupdated.registered _ hreg)
        exact hbegun.trans (hupdated.trans (hbackoff _))
      | some reply =>
        obtain ⟨s, hresult⟩ := engine.control_of_some htakes hbuild hreply
        rw [hresult]
        have hupdated := (Hub.keeps_block (fun id => command.deviceId ≠ id) _ s).trans
          (Hub.keeps_updateDeviceStatus _ ((hub.beginCommand command.deviceId).block s) reply
            (request.cmd != cmdExecute))
        have hfollowUp := Hub.keeps_followUp (fun id => command.deviceId ≠ id)
          (hupdated.registered _ hreg)
        exact hbegun.trans (hupdated.trans hfollowUp)
  · rw [engine.control_of_not_takes fun dev hdev => htakes ⟨dev, hdev⟩]
    exact .refl _ hub

/-- A refused command leaves its device to whoever polls it. A reply has to find a poll or to lead
to one: by the interval, by what it reports, or because a stop meets a moving device. -/
structure CommandPolls (command : ControlCommand) (hub : Hub) : Prop where
  refused : (∀ dev, ¬hub.Takes command.deviceId command.accepts dev) →
    hub.IsActive command.deviceId → hub.WillPoll command.deviceId
  replied : ∀ dev request reply, hub.Takes command.deviceId command.accepts dev →
    command.build dev = some request → hub.acceptedReply request = some reply →
    hub.Pending command.deviceId ∨ hub.pollPolicy.getInterval command.deviceId ≠ 0 ∨
      Hub.Reports reply command.deviceId ∨ command.isStop = true ∧ dev.isStopped = false ∨
      maxTrackedStatusPollWindowMs.toNat < hub.nextBlockingMs

/-- The state that a command leaves when the given reply has come in. -/
theorem coveredAt_replied {reply : IoFrame} {s : EngineState} {trustPosition : Bool}
    (htakes : hub.Takes command.deviceId command.accepts dev)
    (hclock : ((((hub.beginCommand command.deviceId).block s).updateDeviceStatus reply
      trustPosition).followUp command).ClockFits)
    (h : hub.Pending command.deviceId ∨ hub.pollPolicy.getInterval command.deviceId ≠ 0 ∨
      Hub.Reports reply command.deviceId ∨ command.isStop = true ∧ dev.isStopped = false ∨
      maxTrackedStatusPollWindowMs.toNat < hub.nextBlockingMs) :
    ((((hub.beginCommand command.deviceId).block s).updateDeviceStatus reply
      trustPosition).followUp command).CoveredAt command.deviceId := by
  have hbegun := hub.keeps_beginCommand command.deviceId
  have hblocked := Hub.keeps_block (fun _ => True) (hub.beginCommand command.deviceId) s
  have hreg := hblocked.registered _ (hbegun.registered _ htakes.isRegistered)
  have hupdated := Hub.keeps_updateDeviceStatus (fun _ => True)
    ((hub.beginCommand command.deviceId).block s) reply trustPosition
  have hfollowUp := Hub.keeps_followUp (fun _ => True) (hupdated.registered _ hreg)
  have hafterReply := hfollowUp.clockFits hclock
  have hafterBlock := hupdated.clockFits hafterReply
  have hstart := hbegun.clockFits (hblocked.clockFits hafterBlock)
  -- as soon as the device is covered on the way, it stays covered
  have hrest := hupdated.trans hfollowUp
  have hbegunReg := hbegun.registered _ htakes.isRegistered
  by_cases hreports : Hub.Reports reply command.deviceId
  · have hscheduled := Hub.scheduled_updateDeviceStatus hafterBlock hreports hreg trustPosition
    exact hfollowUp.coveredAt hclock trivial
      (Hub.coveredAt_of_scheduled (hupdated.registered _ hreg) hscheduled)
  rcases h with hpending | hinterval | hreported | hstop | hlong
  · have hpolls : (hub.beginCommand command.deviceId).Pending command.deviceId := by
      refine hpending.imp (fun hqueued => ?_) (hbegun.remotePolls _)
      unfold Hub.Queued at hqueued ⊢
      rwa [hbegun.opQueue]
    exact (hblocked.trans hrest).coveredAt hclock trivial
      (Hub.coveredAt_of_willPoll hbegunReg (.inr hpolls))
  · have hnext := Hub.next_beginCommand hstart htakes.isRegistered hinterval
    exact (hblocked.trans hrest).coveredAt hclock trivial
      (Hub.coveredAt_of_willPoll hbegunReg (.inl hnext))
  · exact absurd hreported hreports
  · -- the reply does not change the motion, so the cap finds the device moving
    have hdev := htakes.getDevice_block s
    obtain ⟨dev', hdev', hmotion⟩ :=
      Hub.isStopped_updateDeviceStatus hdev hreports trustPosition
    have hnext := Hub.next_followUp hclock hstop.1 hdev' (hmotion.trans hstop.2)
    exact Hub.coveredAt_of_willPoll (hfollowUp.registered _ (hupdated.registered _ hreg))
      (.inl hnext)
  · apply hrest.coveredAt hclock trivial
    exact ((Hub.outlastsWindow_beginCommand htakes hafterBlock).2 hlong).coveredAt_block s

/-- The device of a command is covered when the command is over. -/
theorem coveredAt_control (hclock : (engine.control command hub).2.ClockFits)
    (hreg : hub.IsActive command.deviceId → hub.Registered command.deviceId)
    (h : CommandPolls command hub) :
    (engine.control command hub).2.CoveredAt command.deviceId := by
  by_cases htakes : ∃ dev, hub.Takes command.deviceId command.accepts dev
  · obtain ⟨dev, htakes⟩ := htakes
    have hbegun := hub.keeps_beginCommand command.deviceId
    have hreg := hbegun.registered _ htakes.isRegistered
    cases hbuild : command.build dev with
    | none =>
      rw [engine.control_of_not_built htakes hbuild]
      have hcleared := Hub.keeps_clear (fun _ => True) (hub.beginCommand command.deviceId)
        command.deviceId
      apply Hub.coveredAt_of_scheduled (hcleared.registered _ hreg)
      unfold Hub.mapPolicy
      rw [StatusPollPolicy.entry_clear, if_pos rfl]
      exact PollTracking.scheduled_cleared _
    | some request =>
      cases hreply : hub.acceptedReply request with
      | none =>
        obtain ⟨s, f, hresult⟩ := engine.control_of_none htakes hbuild hreply
        rw [hresult] at hclock ⊢
        have hupdated := (Hub.keeps_block (fun _ => True) _ s).trans
          (Hub.keeps_updateDevice _ ((hub.beginCommand command.deviceId).block s) command.deviceId
            f)
        have hbackoff := Hub.keeps_scheduleBackgroundPollBackoff (fun _ => True) _
          (hupdated.registered _ hreg) s.status.debug.sawChallenge
        apply Hub.coveredAt_of_scheduled (hbackoff.registered _ (hupdated.registered _ hreg))
        exact (hbackoff.clockFits hclock).scheduled_onExchangeFailed command.deviceId _
      | some reply =>
        obtain ⟨s, hresult⟩ := engine.control_of_some htakes hbuild hreply
        rw [hresult] at hclock ⊢
        exact coveredAt_replied htakes hclock (h.replied dev request reply htakes hbuild hreply)
  · have hrefused (dev : IoDevice) : ¬hub.Takes command.deviceId command.accepts dev :=
      fun hdev => htakes ⟨dev, hdev⟩
    rw [engine.control_of_not_takes hrefused]
    intro hactive
    exact ⟨hreg hactive, h.refused hrefused hactive⟩

end ExchangeEngine
end HomeIoControl
