import HomeIoControl.PollSteps

namespace HomeIoControl
open GuardedRun

/-! ## Where a poll is lost -/

namespace Hub

variable {hub hub' : Hub} {id : DeviceId}

/-- An open window whose device nobody polls. -/
structure Stalled (hub : Hub) (id : DeviceId) : Prop where
  registered : hub.Registered id
  active : hub.IsActive id
  idle : ¬hub.WillPoll id

theorem Stalled.not_neverStalls (h : hub.Stalled id) : ¬hub.NeverStalls :=
  fun hnever => h.idle (hnever id h.registered h.active)

theorem not_willPoll_iff : ¬hub.WillPoll id ↔
    hub.pollPolicy.getNextUpdate id = 0 ∧ ¬hub.Queued id ∧ id ∉ hub.remotePolls := by
  unfold WillPoll Pending
  rw [not_or, not_or, not_not]

theorem queueRequestDeviceStatus_of_not_supports {dev : IoDevice}
    (hdev : hub.getDevice id = some dev) (h : ¬knownDeviceSupportsStatusRequests dev = true) :
    hub.queueRequestDeviceStatus id = hub := by
  unfold queueRequestDeviceStatus queueIf
  rw [hdev]
  dsimp only
  rw [if_neg h]

/-! ## Timers -/

theorem timeoutPolls_of_neverStalls {deviceId : DeviceId} (hcovered : hub.Covered)
    (h : (hub.fireRemotePoll deviceId).NeverStalls) : hub.TimeoutPolls deviceId := by
  intro due hdue hcome hactive
  by_contra hlost
  rw [not_or, not_or, not_not] at hlost
  obtain ⟨hnext, hqueued, hrefused⟩ := hlost
  obtain ⟨dev, hrefused⟩ := not_forall.1 hrefused
  obtain ⟨hdev, hsupports⟩ := Classical.not_imp.1 hrefused
  have hfired : hub.fireRemotePoll deviceId =
      { hub with remotePolls := hub.remotePolls.erase deviceId } := by
    unfold fireRemotePoll
    rw [hdue]
    dsimp only
    rw [if_neg (Nat.not_lt.2 hcome)]
    exact queueRequestDeviceStatus_of_not_supports hdev hsupports
  rw [hfired] at h
  have hstalled : { hub with remotePolls := hub.remotePolls.erase deviceId }.Stalled deviceId := by
    refine ⟨(hcovered deviceId hactive).1, hactive, not_willPoll_iff.2 ⟨hnext, hqueued, ?_⟩⟩
    simp
  exact hstalled.not_neverStalls h

theorem duePolls_of_neverStalls (hcovered : hub.Covered) (h : hub.pollDueDevice.NeverStalls) :
    hub.DuePolls := by
  intro deviceId dev hdue hdev
  by_contra hlost
  rw [not_or] at hlost
  obtain ⟨hsupports, hpending⟩ := hlost
  have hcases := StatusPollPolicy.popDue_cases hub.now hub.pollPolicy.tracking.keys
    hub.pollPolicy deviceId
  unfold dueDevice at hdue
  rw [← StatusPollPolicy.popDue_fst] at hdue
  unfold pollDueDevice StatusPollPolicy.popDueDevice at h
  generalize StatusPollPolicy.popDue hub.now hub.pollPolicy.tracking.keys hub.pollPolicy = popped
    at hdue hcases h
  obtain ⟨due, pollPolicy⟩ := popped
  obtain rfl : due = some deviceId := hdue
  obtain ⟨hne, -⟩ | ⟨-, hactive, -, -, hentry⟩ := hcases
  · exact absurd rfl hne
  -- its poll is consumed, and no request takes its place
  have hdev' : { hub with pollPolicy }.getDevice deviceId = some dev := hdev
  dsimp only at h hentry
  rw [queueRequestDeviceStatus_of_not_supports hdev' hsupports] at h
  have hstalled : { hub with pollPolicy }.Stalled deviceId := by
    refine ⟨(hcovered deviceId hactive).1, ?_, ?_⟩
    · unfold IsActive StatusPollPolicy.isTrackingActive
      rw [hentry]
      exact hactive
    · rintro (hnext | hstill)
      · unfold StatusPollPolicy.getNextUpdate at hnext
        rw [hentry] at hnext
        exact hnext rfl
      · exact hpending hstill
  exact hstalled.not_neverStalls h

/-! ## Queueing -/

theorem queuePolls_of_neverStalls {call : HubCall} (hcovered : hub.Covered)
    (h : (hub.queue call).NeverStalls) : hub.QueuePolls call := by
  rintro rfl hqueued id hactive
  by_contra hlost
  rw [not_or, not_or, not_not] at hlost
  obtain ⟨hnext, hremote, hcontrol⟩ := hlost
  have hstalled : hub.queueDiscoverAndPair.Stalled id := by
    refine ⟨(hcovered id hactive).1, hactive, not_willPoll_iff.2 ⟨hnext, ?_, hremote⟩⟩
    rintro ⟨op, hmem, hpolls⟩
    unfold queueDiscoverAndPair OperationQueue.enqueueDiscoverAndPair at hmem
    rw [hqueued] at hmem
    simp only [Bool.false_eq_true, if_false] at hmem
    rcases List.mem_cons.1 hmem with rfl | hmem
    · exact hpolls.2.2 rfl
    · -- what the flush keeps is no status request
      obtain ⟨hmem, hkept⟩ := List.mem_filter.1 hmem
      simp only [Bool.not_eq_true', Bool.or_eq_false_iff, beq_eq_false_iff_ne] at hkept
      exact hcontrol ⟨op, hmem, hpolls, hkept.1⟩
  exact hstalled.not_neverStalls h

/-! ## Replies that report nothing -/

theorem entry_updateDeviceStatus_of_not_reports (hub : Hub) {frame : IoFrame}
    (h : ¬Reports frame id) (trustPosition : Bool) :
    (hub.updateDeviceStatus frame trustPosition).pollPolicy.entry id =
      hub.pollPolicy.entry id := by
  by_cases hown : nodeIdToString frame.src = id
  · rw [Reports, not_and, not_or] at h
    obtain ⟨hprivate, hupdate⟩ := h hown
    cases hdev : hub.registry.get (nodeIdToString frame.src) with
    | none => rw [updateDeviceStatus_of_unregistered hdev]
    | some dev =>
      obtain ⟨dev', -, hresult⟩ :=
        updateDeviceStatus_of_other hdev hprivate hupdate trustPosition
      rw [hresult]
      rfl
  · exact (hub.updateDeviceStatus_other hown trustPosition).2.1

theorem Stalled.updateDeviceStatus (h : hub.Stalled id) {frame : IoFrame}
    (hreports : ¬Reports frame id) (trustPosition : Bool) :
    (hub.updateDeviceStatus frame trustPosition).Stalled id := by
  have hentry := hub.entry_updateDeviceStatus_of_not_reports hreports trustPosition
  have hreg := (hub.keeps_updateDeviceStatus (fun _ => True) frame trustPosition).registered id
    h.registered
  obtain ⟨registry, pollPolicy, decoded, hresult⟩ :=
    hub.updateDeviceStatus_writes frame trustPosition
  rw [hresult] at hentry hreg ⊢
  dsimp only at hentry
  obtain ⟨hnext, hqueued, hremote⟩ := not_willPoll_iff.1 h.idle
  refine ⟨hreg, ?_, not_willPoll_iff.2 ⟨?_, hqueued, hremote⟩⟩
  · have hactive := h.active
    unfold IsActive StatusPollPolicy.isTrackingActive at hactive ⊢
    rw [hentry]
    exact hactive
  · unfold StatusPollPolicy.getNextUpdate at hnext ⊢
    rw [hentry]
    exact hnext

/-- The call is over before the window is. -/
theorem Stalled.block (h : hub.Stalled id) (hshort : ¬hub.OutlastsWindow id) (s : EngineState) :
    (hub.block s).Stalled id := by
  refine ⟨h.registered, ?_, h.idle⟩
  exact isActive_iff.2 ⟨(isActive_iff.1 h.active).1, UInt32.not_lt.1 hshort⟩

theorem Stalled.clearFailureStreaks (h : hub.Stalled id) (deviceId : DeviceId) :
    (hub.mapPolicy fun p => p.clearFailureStreaks deviceId).Stalled id := by
  obtain ⟨hnext, hqueued, hremote⟩ := not_willPoll_iff.1 h.idle
  refine ⟨h.registered, ?_, not_willPoll_iff.2 ⟨?_, hqueued, hremote⟩⟩
  · have hactive := isActive_iff.1 h.active
    rw [isActive_iff]
    unfold mapPolicy
    rw [StatusPollPolicy.entry_clearFailureStreaks]
    split_ifs
    · exact hactive
    · exact hactive
  · unfold mapPolicy StatusPollPolicy.getNextUpdate at *
    rw [StatusPollPolicy.entry_clearFailureStreaks]
    split_ifs
    · exact hnext
    · exact hnext

/-- A command of a device without an interval opens its window without a poll. -/
theorem stalled_beginCommand {accepts : IoDevice → Bool} {dev : IoDevice} (hclock : hub.ClockFits)
    (htakes : hub.Takes id accepts dev) (hinterval : hub.pollPolicy.getInterval id = 0)
    (hpending : ¬hub.Pending id) : (hub.beginCommand id).Stalled id := by
  have hreg := (hub.keeps_beginCommand id).registered id htakes.isRegistered
  have hopened : (hub.now + maxTrackedStatusPollWindowMs).toNat =
      hub.elapsedMs + maxTrackedStatusPollWindowMs.toNat :=
    hclock.now_add id (le_max_right _ _)
  rw [beginCommand_eq htakes] at hreg ⊢
  refine ⟨hreg, isActive_iff.2 ?_, ?_⟩
  · unfold mapPolicy
    rw [StatusPollPolicy.entry_beginTracking, if_pos rfl]
    refine ⟨hclock.now_add_ne_zero id (le_max_right _ _) (by decide), ?_⟩
    show hub.now ≤ hub.now + maxTrackedStatusPollWindowMs
    rw [UInt32.le_iff_toNat_le, hopened, now_toNat hclock]
    exact Nat.le_add_right _ _
  · rintro (hnext | hstill)
    · unfold mapPolicy StatusPollPolicy.getNextUpdate at hnext
      rw [StatusPollPolicy.entry_beginTracking, if_pos rfl] at hnext
      simp [hinterval] at hnext
    · exact hpending hstill

/-- Without an interval, only the stop of a moving device has a follow-up. -/
theorem followUp_eq_self {command : ControlCommand}
    (hinterval : hub.pollPolicy.getInterval command.deviceId = 0)
    (hstop : command.isStop = true →
      ∀ dev, hub.getDevice command.deviceId = some dev → dev.isStopped = true) :
    hub.followUp command = hub := by
  have hrearms : ¬(command.rearms ∧ hub.pollPolicy.getInterval command.deviceId ≠ 0 ∧
      hub.pollPolicy.getNextUpdate command.deviceId = 0) := fun h => h.2.1 hinterval
  unfold followUp
  dsimp only
  rw [if_neg hrearms]
  split_ifs with hisStop
  · unfold capStopPoll
    rw [if_neg]
    cases hdev : hub.getDevice command.deviceId with
    | none => simp
    | some dev => simp [hstop hisStop dev hdev]
  · rfl

end Hub

/-! ## Operations -/

namespace ExchangeEngine

variable (engine : ExchangeEngine) {hub : Hub}

theorem requestPolls_of_neverStalls {deviceId : DeviceId}
    (hreg : hub.IsActive deviceId → hub.Registered deviceId)
    (h : (engine.requestDeviceStatus deviceId hub).2.NeverStalls) :
    engine.RequestPolls deviceId hub := by
  intro hactive
  by_contra hlost
  rw [not_or] at hlost
  obtain ⟨hidle, hreplies⟩ := hlost
  have hstalled : hub.Stalled deviceId := ⟨hreg hactive, hactive, hidle⟩
  by_cases htakes : ∃ dev, hub.Takes deviceId knownDeviceSupportsStatusRequests dev
  · obtain ⟨dev, htakes⟩ := htakes
    apply hreplies
    refine ⟨dev, htakes, fun request reply hrequest hreply => ?_⟩
    by_contra hsilent
    rw [not_or] at hsilent
    have htracked : hub.pollPolicy.isTrackingActive deviceId hub.now = true := hactive
    have hretry : statusRetryAfterFailMs ≠ 0 := by decide
    rw [engine.requestDeviceStatus_of_takes htakes hrequest, if_pos htracked] at h
    obtain ⟨s, -, hresult⟩ :=
      engine.executeRequestAndUpdate_of_some hreply deviceId statusRetryAfterFailMs
    rw [hresult] at h
    dsimp only at h
    rw [if_pos hretry] at h
    have hblocked := hstalled.block hsilent.2 s
    have hsilent := (hblocked.clearFailureStreaks deviceId).updateDeviceStatus hsilent.1
      (request.cmd != cmdExecute)
    exact hsilent.not_neverStalls h
  · rw [engine.requestDeviceStatus_of_not_takes fun dev hdev => htakes ⟨dev, hdev⟩] at h
    exact hstalled.not_neverStalls h

theorem commandPolls_of_neverStalls {command : ControlCommand}
    (hclock : (engine.control command hub).2.ClockFits)
    (hreg : hub.IsActive command.deviceId → hub.Registered command.deviceId)
    (h : (engine.control command hub).2.NeverStalls) : CommandPolls command hub where
  refused hrefused hactive := by
    by_contra hidle
    rw [engine.control_of_not_takes hrefused] at h
    exact Hub.Stalled.not_neverStalls ⟨hreg hactive, hactive, hidle⟩ h
  replied dev request reply htakes hbuild hreply := by
    by_contra hlost
    simp only [not_or, not_not] at hlost
    obtain ⟨hpending, hinterval, hreports, hstop, hlong⟩ := hlost
    obtain ⟨s, hresult⟩ := engine.control_of_some htakes hbuild hreply
    rw [hresult] at hclock h
    have hbegun := hub.keeps_beginCommand command.deviceId
    have hblocked := Hub.keeps_block (fun _ => True) (hub.beginCommand command.deviceId) s
    have hreg := hblocked.registered _ (hbegun.registered _ htakes.isRegistered)
    have hupdated := Hub.keeps_updateDeviceStatus (fun _ => True)
      ((hub.beginCommand command.deviceId).block s) reply (request.cmd != cmdExecute)
    have hfollowUp := Hub.keeps_followUp (fun _ => True) (hupdated.registered _ hreg)
    have hafterBlock := hupdated.clockFits (hfollowUp.clockFits hclock)
    have hstart := hbegun.clockFits (hblocked.clockFits hafterBlock)
    -- nothing polls the device before the reply, and the reply brings no poll either
    have hstalled := Hub.stalled_beginCommand hstart htakes hinterval hpending
    have hshort : ¬(hub.beginCommand command.deviceId).OutlastsWindow command.deviceId :=
      fun houtlasts => hlong ((Hub.outlastsWindow_beginCommand htakes hafterBlock).1 houtlasts)
    have hsilent := (hstalled.block hshort s).updateDeviceStatus hreports
      (request.cmd != cmdExecute)
    have hdev := htakes.getDevice_block s
    obtain ⟨dev', hdev', hmotion⟩ :=
      Hub.isStopped_updateDeviceStatus hdev hreports (request.cmd != cmdExecute)
    dsimp only at h
    rw [Hub.followUp_eq_self] at h
    · exact hsilent.not_neverStalls h
    · rw [hupdated.interval, hblocked.interval, hbegun.interval]
      exact hinterval
    · intro hisStop dev'' hdev''
      obtain rfl := Option.some.inj (hdev'.symm.trans hdev'')
      rw [hmotion]
      simpa [hisStop] using hstop

theorem operationPolls_of_neverStalls (hclock : (engine.processPendingOperation hub).ClockFits)
    (hcovered : hub.Covered) (h : (engine.processPendingOperation hub).NeverStalls) :
    engine.OperationPolls hub := by
  intro operation rest hpop
  unfold processPendingOperation at hclock h
  rw [hpop] at hclock h
  dsimp only at hclock h
  have hreg (id : DeviceId) (hactive : { hub with opQueue := rest }.IsActive id) :
      { hub with opQueue := rest }.Registered id := (hcovered id hactive).1
  refine ⟨fun htype => ?_, fun command hcommand => ?_⟩
  · have hdispatch : operation.dispatch = .requestDeviceStatus operation.deviceId := by
      simp only [PendingOperation.dispatch, htype]
    rw [hdispatch] at h
    exact engine.requestPolls_of_neverStalls (hreg _) h
  · rw [engine.execute_eq_control hcommand] at hclock h
    exact engine.commandPolls_of_neverStalls hclock (hreg _) h

/-- An event after which no window has stalled met its condition. -/
theorem pollsOn_of_neverStalls {e : HubEvent} (hclock : (engine.step hub e).ClockFits)
    (hcovered : hub.Covered) (h : (engine.step hub e).NeverStalls) : engine.PollsOn hub e := by
  cases e with
  | pendingOperation => exact engine.operationPolls_of_neverStalls hclock hcovered h
  | dueDevice => exact Hub.duePolls_of_neverStalls hcovered h
  | queued call => exact Hub.queuePolls_of_neverStalls hcovered h
  | remotePoll deviceId => exact Hub.timeoutPolls_of_neverStalls hcovered h
  | _ => trivial

/-- From a hub that tracks nothing, and as long as the clock does not wrap, the polls of a run
never stall exactly when every event meets its condition. -/
theorem always_neverStalls_iff (hub : Hub) (events : List HubEvent)
    (hstart : ∀ id, (hub.pollPolicy.entry id).pollDeadline = 0)
    (hclock : Always engine.step Hub.ClockFits hub events) :
    Always engine.step Hub.NeverStalls hub events ↔
      Guarded engine.step engine.PollsOn hub events := by
  have hcovered : hub.Covered := by
    intro id hactive
    exact absurd (hstart id) (Hub.isActive_iff.1 hactive).1
  refine always_iff_guarded (I := Hub.Covered) ?_ ?_ ?_ hcovered hclock
  · intro hub hcovered
    exact hcovered.neverStalls
  · intro hub e hcovered _ hclock hpolls
    exact engine.covered_step hclock hpolls hcovered
  · intro hub e hcovered _ hclock hnever
    exact engine.pollsOn_of_neverStalls hclock hcovered hnever

end ExchangeEngine

/-! ## A shutter that is overheard -/

/-- A hub with a shutter that nobody has moved yet. -/
def restingShutter : Hub where
  exchange := { script := { sends := [], windows := [], challenges := [], rssis := [] } }
  registry := DeviceRegistry.add {} "654321" .rollerShutter 0 false true
  elapsedMs := 10000

def overheardCommand : RadioRxPacket where
  data := wireFrame 0x08 sampleDevice #v[0x09, 0x09, 0x09] cmdExecute []

/-- Another controller moves the shutter, and the timeout queues a poll. -/
def overheardRun : List HubEvent :=
  [.packetReceived overheardCommand (-50), .timePasses 2000, .remotePoll "654321"]

theorem neverStalls_overheardRun :
    Always sampleEngine.step Hub.NeverStalls restingShutter overheardRun := by
  refine (sampleEngine.always_neverStalls_iff restingShutter overheardRun ?_ ?_).2 ?_
  · intro id
    simp [restingShutter, StatusPollPolicy.entry]
  · decide +kernel
  · refine guarded_cons.2 ⟨trivial, guarded_cons.2 ⟨trivial, guarded_cons.2 ⟨?_, guarded_nil⟩⟩⟩
    intro due _ _ _
    have hshutter : ((run sampleEngine.step restingShutter (overheardRun.take 2)).getDevice
        "654321").all knownDeviceSupportsStatusRequests = true := by decide +kernel
    refine .inr (.inr fun dev hdev => ?_)
    have hdev : (run sampleEngine.step restingShutter (overheardRun.take 2)).getDevice "654321" =
        some dev := hdev
    rw [hdev] at hshutter
    exact hshutter

/-! ## A shutter that answers briefly -/

/-- Its reply to a movement command is too short to report anything. -/
def shortReplyShutter : Hub where
  exchange :=
    { script :=
        { sends := [true]
          windows := [oneFrame (deviceFrame cmdPrivateResp [0, 0])]
          challenges := []
          rssis := [] } }
  registry := DeviceRegistry.add {} "654321" .rollerShutter 0 false true
  elapsedMs := 10000
  blockingMs := [500]

/-- A position is requested, and the main loop goes around once. -/
def positionRun : List HubEvent :=
  .queued (.setDevicePosition "654321" 50) :: LoopInput.events {}

/-- The command is over, its window open, and nothing asks for the shutter. -/
theorem shortReplyShutter_stalls :
    (∀ id, (shortReplyShutter.pollPolicy.entry id).pollDeadline = 0) ∧
      Always sampleEngine.step Hub.ClockFits shortReplyShutter positionRun ∧
      ¬Always sampleEngine.step Hub.NeverStalls shortReplyShutter positionRun := by
  refine ⟨fun id => ?_, by decide +kernel, by decide +kernel⟩
  simp [shortReplyShutter, StatusPollPolicy.entry]

end HomeIoControl
