import HomeIoControl.PollCommands
import HomeIoControl.PollQueue

namespace HomeIoControl

/-! ## Overdue polls -/

namespace StatusPollPolicy

variable {p : StatusPollPolicy} {now : Millis} {deviceId : DeviceId}

def isDue (p : StatusPollPolicy) (now : Millis) (deviceId : DeviceId) : Bool :=
  p.getNextUpdate deviceId != 0 && decide (p.getNextUpdate deviceId < now) &&
    p.isTrackingActive deviceId now

/-- The end of a window that has passed makes no difference to what is due. -/
theorem isDue_clear (h : p.isTrackingActive deviceId now = false) :
    (p.clear deviceId).isDue now = p.isDue now := by
  funext other
  unfold isDue isTrackingActive getNextUpdate at *
  rw [entry_clear]
  split_ifs with heq
  · subst heq
    rw [h]
    simp [PollTracking.cleared]
  · rfl

theorem popDue_fst (now : Millis) (ids : List DeviceId) (p : StatusPollPolicy) :
    (popDue now ids p).1 = ids.find? (p.isDue now) := by
  induction ids generalizing p with
  | nil => rfl
  | cons deviceId rest ih =>
    rw [popDue]
    split_ifs with hidle hexpired
    · have hdue : p.isDue now deviceId = false := by
        unfold isDue
        rcases hidle with hzero | hlater
        · simp [hzero]
        · simp [UInt32.not_lt.2 hlater]
      rw [ih, List.find?_cons_of_neg (by simp [hdue])]
    · have hclosed : p.isTrackingActive deviceId now = false := by simpa using hexpired
      have hdue : p.isDue now deviceId = false := by simp [isDue, hclosed]
      rw [ih, isDue_clear hclosed, List.find?_cons_of_neg (by simp [hdue])]
    · rw [not_or, UInt32.not_le] at hidle
      have hdue : p.isDue now deviceId = true := by
        simp only [Bool.not_eq_true', Bool.not_eq_false] at hexpired
        simp [isDue, hidle.1, hidle.2, hexpired]
      rw [List.find?_cons_of_pos hdue]

end StatusPollPolicy

/-! ## Timers -/

namespace Hub

variable {hub : Hub} {id : DeviceId}

def dueDevice (hub : Hub) : Option DeviceId :=
  hub.pollPolicy.tracking.keys.find? (hub.pollPolicy.isDue hub.now)

def DuePolls (hub : Hub) : Prop :=
  ∀ deviceId dev, hub.dueDevice = some deviceId → hub.getDevice deviceId = some dev →
    knownDeviceSupportsStatusRequests dev = true ∨ hub.Pending deviceId

/-- The timeout has come, and nothing else polls the device unless it takes the status request. -/
def TimeoutPolls (deviceId : DeviceId) (hub : Hub) : Prop :=
  ∀ due, hub.remotePolls[deviceId]? = some due → due ≤ hub.elapsedMs → hub.IsActive deviceId →
    hub.pollPolicy.getNextUpdate deviceId ≠ 0 ∨ hub.Queued deviceId ∨
      ∀ dev, hub.getDevice deviceId = some dev → knownDeviceSupportsStatusRequests dev = true

theorem queued_queueRequestDeviceStatus
    (h : ∀ dev, hub.getDevice id = some dev → knownDeviceSupportsStatusRequests dev = true) :
    (hub.queueRequestDeviceStatus id).Queued id := by
  unfold queueRequestDeviceStatus queueIf
  cases hdev : hub.getDevice id with
  | none => exact OperationQueue.polls_enqueueRequestStatus _ id
  | some dev =>
    dsimp only
    rw [if_pos (h dev hdev)]
    exact OperationQueue.polls_enqueueRequestStatus _ id

theorem registered_queueRequestDeviceStatus (hub : Hub) (deviceId id : DeviceId) :
    (hub.queueRequestDeviceStatus deviceId).Registered id ↔ hub.Registered id := by
  unfold queueRequestDeviceStatus queueIf
  split
  · rfl
  · split_ifs <;> rfl

theorem coveredAt_queueRequestDeviceStatus (deviceId : DeviceId) (h : hub.CoveredAt id) :
    (hub.queueRequestDeviceStatus deviceId).CoveredAt id :=
  coveredAt_queueIf (OperationQueue.polls_enqueueBackground _ deviceId) h _ _

theorem coveredAt_of_supports (hreg : hub.Registered id)
    (h : ∀ dev, hub.getDevice id = some dev → knownDeviceSupportsStatusRequests dev = true) :
    (hub.queueRequestDeviceStatus id).CoveredAt id :=
  coveredAt_of_willPoll ((registered_queueRequestDeviceStatus hub id id).2 hreg)
    (.inr (.inl (queued_queueRequestDeviceStatus h)))

theorem coveredAt_fireRemotePoll (deviceId : DeviceId) (h : hub.TimeoutPolls deviceId)
    (hcovered : hub.CoveredAt id) : (hub.fireRemotePoll deviceId).CoveredAt id := by
  unfold fireRemotePoll
  cases hdue : hub.remotePolls[deviceId]? with
  | none => exact hcovered
  | some due =>
    dsimp only
    split_ifs with hearly
    · exact hcovered
    by_cases hactive : hub.IsActive id
    · obtain ⟨hreg, hpolls⟩ := hcovered hactive
      -- only the device of the timeout loses a poll
      by_cases heq : deviceId = id
      · subst heq
        rcases h due hdue (Nat.not_lt.1 hearly) hactive with hnext | hqueued | hsupports
        · exact coveredAt_queueRequestDeviceStatus _ fun _ => ⟨hreg, .inl hnext⟩
        · exact coveredAt_queueRequestDeviceStatus _ fun _ => ⟨hreg, .inr (.inl hqueued)⟩
        · exact coveredAt_of_supports hreg hsupports
      · apply coveredAt_queueRequestDeviceStatus
        intro _
        refine ⟨hreg, hpolls.imp_right fun hpending => hpending.imp_right fun hremote => ?_⟩
        simpa [Std.TreeMap.mem_erase, heq] using hremote
    · exact coveredAt_queueRequestDeviceStatus _ fun hstill => absurd hstill hactive

/-- The scan for due devices touches the schedule of the one it returns, and closed windows. -/
theorem coveredAt_popDueDevice (hother : hub.dueDevice ≠ some id) (hcovered : hub.CoveredAt id) :
    { hub with pollPolicy := (hub.pollPolicy.popDueDevice hub.now).2 }.CoveredAt id := by
  rcases StatusPollPolicy.popDue_cases hub.now hub.pollPolicy.tracking.keys hub.pollPolicy id with
    ⟨-, hsame | ⟨-, hcleared⟩⟩ | ⟨hdue, -⟩
  · unfold CoveredAt IsActive Registered WillPoll StatusPollPolicy.isTrackingActive
      StatusPollPolicy.getNextUpdate StatusPollPolicy.popDueDevice at *
    dsimp only
    rw [hsame]
    exact hcovered
  · intro hactive
    have hopen := (isActive_iff.1 hactive).1
    unfold StatusPollPolicy.popDueDevice at hopen
    rw [hcleared] at hopen
    exact absurd rfl hopen
  · rw [StatusPollPolicy.popDue_fst] at hdue
    exact absurd hdue hother

theorem coveredAt_pollDueDevice (h : hub.DuePolls) (hcovered : hub.CoveredAt id) :
    hub.pollDueDevice.CoveredAt id := by
  have hfst := StatusPollPolicy.popDue_fst hub.now hub.pollPolicy.tracking.keys hub.pollPolicy
  have hother := fun hother : hub.dueDevice ≠ some id => coveredAt_popDueDevice hother hcovered
  have hcases := StatusPollPolicy.popDue_cases hub.now hub.pollPolicy.tracking.keys
    hub.pollPolicy id
  unfold pollDueDevice
  unfold StatusPollPolicy.popDueDevice at hother ⊢
  unfold dueDevice at hother
  rw [← hfst] at hother
  unfold DuePolls dueDevice at h
  rw [← hfst] at h
  generalize StatusPollPolicy.popDue hub.now hub.pollPolicy.tracking.keys hub.pollPolicy = popped
    at hother hcases h
  obtain ⟨due, pollPolicy⟩ := popped
  cases due with
  | none => exact hother (by simp)
  | some deviceId =>
    dsimp only
    by_cases heq : deviceId = id
    · subst heq
      obtain ⟨hne, -⟩ | ⟨-, hactive, -⟩ := hcases
      · exact absurd rfl hne
      · -- the poll that was due is now the queued request
        obtain ⟨hreg, -⟩ := hcovered hactive
        obtain ⟨dev, hdev⟩ := Option.isSome_iff_exists.1 hreg
        rcases h deviceId dev rfl hdev with hsupports | hpending
        · have hscanned : { hub with pollPolicy }.Registered deviceId := hreg
          apply coveredAt_of_supports hscanned
          intro dev' hdev'
          obtain rfl := Option.some.inj (hdev.symm.trans hdev')
          exact hsupports
        · exact coveredAt_queueRequestDeviceStatus _ fun _ => ⟨hreg, .inr hpending⟩
    · exact coveredAt_queueRequestDeviceStatus _ (hother (by simpa using heq))

end Hub

/-! ## Events -/

namespace ExchangeEngine

variable (engine : ExchangeEngine) {hub : Hub}

/-- The operation at the front of the queue covers its device by itself. -/
def OperationPolls (hub : Hub) : Prop :=
  ∀ operation rest, hub.opQueue.pop = some (operation, rest) →
    let hub := { hub with opQueue := rest }
    (operation.type = .requestStatus → engine.RequestPolls operation.deviceId hub) ∧
      ∀ command, engine.controlCommand operation.dispatch = some command →
        CommandPolls command hub

/-- What has to hold before an event for the polls to go on. -/
def PollsOn (hub : Hub) : HubEvent → Prop
  | .pendingOperation => engine.OperationPolls hub
  | .dueDevice => hub.DuePolls
  | .queued call => hub.QueuePolls call
  | .remotePoll deviceId => hub.TimeoutPolls deviceId
  | _ => True

/-- Every queued operation is a movement command for its device, a request, or discovery. -/
theorem dispatch_cases (operation : PendingOperation) :
    (operation.type = .requestStatus ∧
        operation.dispatch = .requestDeviceStatus operation.deviceId) ∨
      (operation.type = .requestName ∧
        operation.dispatch = .requestDeviceName operation.deviceId) ∨
      (operation.type = .discoverAndPair ∧ operation.dispatch = .discoverAndPair) ∨
      ∃ command, engine.controlCommand operation.dispatch = some command ∧
        command.deviceId = operation.deviceId := by
  obtain ⟨type, deviceId, position, tilt, cmd⟩ := operation
  cases type with
  | requestStatus => exact .inl ⟨rfl, rfl⟩
  | requestName => exact .inr (.inl ⟨rfl, rfl⟩)
  | discoverAndPair => exact .inr (.inr (.inl ⟨rfl, rfl⟩))
  | setPosition => exact .inr (.inr (.inr ⟨_, rfl, rfl⟩))
  | setTilt => exact .inr (.inr (.inr ⟨_, rfl, rfl⟩))
  | setPositionAndTilt => exact .inr (.inr (.inr ⟨_, rfl, rfl⟩))
  | deviceCommand => exact .inr (.inr (.inr ⟨_, rfl, rfl⟩))
  | setLightState => exact .inr (.inr (.inr ⟨_, rfl, rfl⟩))
  | setLockState => exact .inr (.inr (.inr ⟨_, rfl, rfl⟩))
  | setSwitchState => exact .inr (.inr (.inr ⟨_, rfl, rfl⟩))

/-- Without its front operation the queue still covers the devices that the operation does not
poll. -/
theorem coveredAt_pop {operation : PendingOperation} {rest : OperationQueue} {id : DeviceId}
    (hqueue : hub.opQueue = operation :: rest) (hother : ¬Hub.IsPollOf id operation)
    (hcovered : hub.CoveredAt id) : { hub with opQueue := rest }.CoveredAt id := by
  apply Hub.coveredAt_of_opQueue _ hcovered
  rintro ⟨op, hmem, hpolls⟩
  rw [hqueue] at hmem
  rcases List.mem_cons.1 hmem with rfl | hmem
  · exact absurd hpolls hother
  · exact ⟨op, hmem, hpolls⟩

theorem covered_processPendingOperation (hclock : (engine.processPendingOperation hub).ClockFits)
    (h : engine.OperationPolls hub) (hcovered : hub.Covered) :
    (engine.processPendingOperation hub).Covered := by
  unfold processPendingOperation at hclock ⊢
  cases hqueue : hub.opQueue with
  | nil => exact hcovered
  | cons operation rest =>
    rw [hqueue] at hclock
    simp only [OperationQueue.pop] at hclock ⊢
    obtain ⟨hrequest, hcommand⟩ := h operation rest (by rw [hqueue]; rfl)
    have hpopped (id : DeviceId) (hother : ¬Hub.IsPollOf id operation) :
        { hub with opQueue := rest }.CoveredAt id := coveredAt_pop hqueue hother (hcovered id)
    have hreg (id : DeviceId) (hactive : { hub with opQueue := rest }.IsActive id) :
        { hub with opQueue := rest }.Registered id := (hcovered id hactive).1
    -- the operation has left the queue: its own device is covered by what it does, the others
    -- by what they had
    rcases engine.dispatch_cases operation with
      ⟨htype, hdispatch⟩ | ⟨htype, hdispatch⟩ | ⟨htype, hdispatch⟩ | ⟨command, hdispatch, hid⟩
    · rw [hdispatch] at hclock ⊢
      intro id
      by_cases heq : operation.deviceId = id
      · rw [← heq]
        exact engine.coveredAt_requestDeviceStatus hclock (hreg _) (hrequest htype)
      · have hkeeps := engine.keeps_requestDeviceStatus (fun _ => True) operation.deviceId
          { hub with opQueue := rest }
        exact hkeeps.coveredAt hclock trivial (hpopped id fun hpolls => heq hpolls.1)
    · rw [hdispatch] at hclock ⊢
      have hkeeps := engine.keeps_requestDeviceName (fun _ => True) operation.deviceId
        { hub with opQueue := rest }
      exact hkeeps.covered hclock fun id => hpopped id fun hpolls => hpolls.2.1 htype
    · rw [hdispatch] at hclock ⊢
      have hkeeps := engine.keeps_hubDiscoverAndPair (fun _ => True) { hub with opQueue := rest }
      exact hkeeps.covered hclock fun id => hpopped id fun hpolls => hpolls.2.2 htype
    · rw [engine.execute_eq_control hdispatch] at hclock ⊢
      intro id
      by_cases heq : command.deviceId = id
      · rw [← heq]
        exact engine.coveredAt_control hclock (hreg _) (hcommand command hdispatch)
      · have hkeeps := engine.keeps_control command { hub with opQueue := rest }
        refine hkeeps.coveredAt hclock heq (hpopped id fun hpolls => heq ?_)
        rw [hid, hpolls.1]

/-- A step that meets its condition leaves every open window with a poll. -/
theorem covered_step {e : HubEvent} (hclock : (engine.step hub e).ClockFits)
    (h : engine.PollsOn hub e) (hcovered : hub.Covered) : (engine.step hub e).Covered := by
  cases e with
  | packetReceived packet rssi =>
    have hkeeps := engine.keeps_processReceivedPacket (fun _ => True) (hub.receive packet rssi)
      packet
    exact hkeeps.covered hclock hcovered
  | pendingOperation => exact engine.covered_processPendingOperation hclock h hcovered
  | hop due =>
    cases due with
    | false => exact hcovered
    | true => exact hcovered
  | dueDevice => exact fun id => Hub.coveredAt_pollDueDevice h (hcovered id)
  | queued call => exact fun id => Hub.coveredAt_queue h (hcovered id)
  | remotePoll deviceId => exact fun id => Hub.coveredAt_fireRemotePoll deviceId h (hcovered id)
  | timePasses ms =>
    have hkeeps : hub.Keeps (fun _ => True) { hub with elapsedMs := hub.elapsedMs + ms } :=
      .of_policy_eq (fun _ hid => hid) (Nat.le_add_right _ _) rfl rfl rfl
    exact hkeeps.covered hclock hcovered
  | pollInterval deviceId intervalMs =>
    intro id
    show (hub.setDeviceStatusPollInterval deviceId intervalMs).CoveredAt id
    unfold Hub.setDeviceStatusPollInterval
    split_ifs
    · exact hcovered id
    -- an interval moves no deadline and no pending poll
    · have hcoveredAt := hcovered id
      unfold Hub.CoveredAt Hub.IsActive Hub.Registered Hub.WillPoll
        StatusPollPolicy.isTrackingActive StatusPollPolicy.getNextUpdate Hub.mapPolicy at *
      dsimp only
      rw [StatusPollPolicy.entry_setInterval]
      split_ifs
      · exact hcoveredAt
      · exact hcoveredAt
  | deviceAdded deviceId type subtype inverted optimisticState =>
    apply (hub.keeps_registry (fun _ => True) _ _).covered hclock hcovered
    intro id hid
    unfold DeviceRegistry.add
    split_ifs
    · exact hid
    · cases hexToBytes deviceId with
      | none => exact hid
      | some nodeId => exact hub.registered_store deviceId _ id hid
  | remoteLinked remoteId deviceId =>
    apply (hub.keeps_registry (fun _ => True) _ _).covered hclock hcovered
    exact fun _ hid => hid
  | remoteClassLinked type deviceId =>
    apply (hub.keeps_registry (fun _ => True) _ _).covered hclock hcovered
    exact fun _ hid => hid
  | optimisticTarget deviceId target =>
    apply (hub.keeps_registry (fun _ => True) _ _).covered hclock hcovered
    exact Hub.isSome_updateOptimistic hub.registry deviceId _
  | optimisticTargetCleared deviceId =>
    apply (hub.keeps_registry (fun _ => True) _ _).covered hclock hcovered
    exact Hub.isSome_updateOptimistic hub.registry deviceId _
  | connection connected => exact hcovered

end ExchangeEngine
end HomeIoControl
