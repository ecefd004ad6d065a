import HomeIoControl.PollSchedule

namespace HomeIoControl

namespace Hub

/-! ## Who polls a device -/

/-- A status poll or a movement command for the device. -/
def IsPollOf (deviceId : DeviceId) (op : PendingOperation) : Prop :=
  op.deviceId = deviceId ∧ op.type ≠ .requestName ∧ op.type ≠ .discoverAndPair

instance (deviceId : DeviceId) (op : PendingOperation) : Decidable (IsPollOf deviceId op) :=
  inferInstanceAs (Decidable (_ ∧ _))

def Queued (hub : Hub) (deviceId : DeviceId) : Prop := ∃ op ∈ hub.opQueue, IsPollOf deviceId op

/-- A queued operation or an armed timeout sees to the device. -/
def Pending (hub : Hub) (deviceId : DeviceId) : Prop :=
  hub.Queued deviceId ∨ deviceId ∈ hub.remotePolls

def IsActive (hub : Hub) (deviceId : DeviceId) : Prop :=
  hub.pollPolicy.isTrackingActive deviceId hub.now = true

theorem isActive_iff {hub : Hub} {deviceId : DeviceId} :
    hub.IsActive deviceId ↔ (hub.pollPolicy.entry deviceId).pollDeadline ≠ 0 ∧
      hub.now ≤ (hub.pollPolicy.entry deviceId).pollDeadline := by
  simp [IsActive, StatusPollPolicy.isTrackingActive, PollTracking.isActive]

def Registered (hub : Hub) (deviceId : DeviceId) : Prop := (hub.getDevice deviceId).isSome

def WillPoll (hub : Hub) (deviceId : DeviceId) : Prop :=
  hub.pollPolicy.getNextUpdate deviceId ≠ 0 ∨ hub.Pending deviceId

/-- Every registered device whose window is open will be polled. -/
def NeverStalls (hub : Hub) : Prop :=
  ∀ deviceId, hub.Registered deviceId → hub.IsActive deviceId → hub.WillPoll deviceId

theorem neverStalls_iff (hub : Hub) : hub.NeverStalls ↔
    ∀ deviceId ∈ hub.registry.devices.keys, hub.IsActive deviceId → hub.WillPoll deviceId := by
  have hregistered (deviceId : DeviceId) :
      hub.Registered deviceId ↔ deviceId ∈ hub.registry.devices.keys := by
    rw [Std.TreeMap.mem_keys, Std.TreeMap.mem_iff_isSome_getElem?]
    rfl
  unfold NeverStalls
  simp only [hregistered]

instance (hub : Hub) (deviceId : DeviceId) : Decidable (hub.IsActive deviceId) :=
  inferInstanceAs (Decidable (_ = true))

instance (hub : Hub) (deviceId : DeviceId) : Decidable (hub.WillPoll deviceId) :=
  inferInstanceAs (Decidable (_ ≠ 0 ∨ (∃ op ∈ hub.opQueue, IsPollOf deviceId op) ∨ _))

instance (hub : Hub) : Decidable hub.NeverStalls := decidable_of_iff' _ hub.neverStalls_iff

/-- A window is open only for a registered device that will be polled. -/
def CoveredAt (hub : Hub) (deviceId : DeviceId) : Prop :=
  hub.IsActive deviceId → hub.Registered deviceId ∧ hub.WillPoll deviceId

def Covered (hub : Hub) : Prop := ∀ deviceId, hub.CoveredAt deviceId

theorem Covered.neverStalls {hub : Hub} (h : hub.Covered) : hub.NeverStalls := by
  intro deviceId _ hactive
  exact (h deviceId hactive).2

/-! ## Steps that keep the polls -/

/-- The window and the poll of the device are as before, or the window is closed, or the device
is polled anew. -/
def PollKept (hub hub' : Hub) (deviceId : DeviceId) : Prop :=
  ((hub'.pollPolicy.entry deviceId).nextUpdate = (hub.pollPolicy.entry deviceId).nextUpdate ∧
      (hub'.pollPolicy.entry deviceId).pollDeadline =
        (hub.pollPolicy.entry deviceId).pollDeadline) ∨
    (hub'.pollPolicy.entry deviceId).pollDeadline = 0 ∨
    hub'.Registered deviceId ∧
      ((hub'.pollPolicy.entry deviceId).nextUpdate ≠ 0 ∨ deviceId ∈ hub'.remotePolls)

/-- What the hub's work between two changes of its queue keeps, the schedules of the given devices
included as long as the clock does not wrap. -/
structure Keeps (ids : DeviceId → Prop) (hub hub' : Hub) : Prop where
  registered : ∀ id, hub.Registered id → hub'.Registered id
  elapsed : hub.elapsedMs ≤ hub'.elapsedMs
  interval : ∀ id, hub'.pollPolicy.getInterval id = hub.pollPolicy.getInterval id
  remotePolls : ∀ id, id ∈ hub.remotePolls → id ∈ hub'.remotePolls
  opQueue : hub'.opQueue = hub.opQueue
  polls : hub'.ClockFits → ∀ id, ids id → hub.PollKept hub' id

namespace Keeps

variable {ids : DeviceId → Prop} {hub hub' hub'' : Hub}

theorem clockFits (h : hub.Keeps ids hub') (hclock : hub'.ClockFits) : hub.ClockFits where
  window := by
    have helapsed := h.elapsed
    have hwindow := hclock.window
    omega
  interval id := by
    have helapsed := h.elapsed
    have hinterval := hclock.interval id
    rw [h.interval] at hinterval
    omega

theorem trans (h : hub.Keeps ids hub') (h' : hub'.Keeps ids hub'') : hub.Keeps ids hub'' where
  registered id hid := h'.registered id (h.registered id hid)
  elapsed := h.elapsed.trans h'.elapsed
  interval id := (h'.interval id).trans (h.interval id)
  remotePolls id hid := h'.remotePolls id (h.remotePolls id hid)
  opQueue := h'.opQueue.trans h.opQueue
  polls hclock id hid := by
    rcases h'.polls hclock id hid with ⟨hnext, hdeadline⟩ | hclosed | hpolled
    · unfold PollKept
      rw [hnext, hdeadline]
      rcases h.polls (h'.clockFits hclock) id hid with hsame | hclosed | ⟨hreg, hpolled⟩
      · exact .inl hsame
      · exact .inr (.inl hclosed)
      · exact .inr (.inr ⟨h'.registered id hreg, hpolled.imp_right (h'.remotePolls id)⟩)
    · exact .inr (.inl hclosed)
    · exact .inr (.inr hpolled)

/-- A step that leaves the schedules alone. -/
theorem of_policy_eq (hregistered : ∀ id, hub.Registered id → hub'.Registered id)
    (helapsed : hub.elapsedMs ≤ hub'.elapsedMs) (hpolicy : hub'.pollPolicy = hub.pollPolicy)
    (hremote : hub'.remotePolls = hub.remotePolls) (hqueue : hub'.opQueue = hub.opQueue) :
    hub.Keeps ids hub' where
  registered := hregistered
  elapsed := helapsed
  interval id := by rw [hpolicy]
  remotePolls id hid := by rwa [hremote]
  opQueue := hqueue
  polls _ id _ := by
    left
    rw [hpolicy]
    exact ⟨rfl, rfl⟩

theorem refl (ids : DeviceId → Prop) (hub : Hub) : hub.Keeps ids hub :=
  of_policy_eq (fun _ hid => hid) le_rfl rfl rfl rfl

theorem now_le (h : hub.Keeps ids hub') (hclock : hub'.ClockFits) : hub.now ≤ hub'.now := by
  rw [UInt32.le_iff_toNat_le, now_toNat hclock, now_toNat (h.clockFits hclock)]
  exact h.elapsed

/-- A window that is open afterwards was open before, or the device is polled anew. -/
theorem coveredAt (h : hub.Keeps ids hub') (hclock : hub'.ClockFits) {id : DeviceId} (hid : ids id)
    (hcovered : hub.CoveredAt id) : hub'.CoveredAt id := by
  intro hactive
  obtain ⟨hopen, hnow⟩ := isActive_iff.1 hactive
  rcases h.polls hclock id hid with ⟨hnext, hdeadline⟩ | hclosed | ⟨hreg, hpolled⟩
  · rw [hdeadline] at hopen hnow
    have hbefore : hub.IsActive id := isActive_iff.2 ⟨hopen, UInt32.le_trans (h.now_le hclock) hnow⟩
    obtain ⟨hreg, hpoll⟩ := hcovered hbefore
    refine ⟨h.registered id hreg, ?_⟩
    rcases hpoll with hset | ⟨op, hop, hpolls⟩ | hremote
    · left
      unfold StatusPollPolicy.getNextUpdate at hset ⊢
      rwa [hnext]
    · right
      left
      refine ⟨op, ?_, hpolls⟩
      rwa [h.opQueue]
    · exact .inr (.inr (h.remotePolls id hremote))
  · exact absurd hclosed hopen
  · exact ⟨hreg, hpolled.imp_right .inr⟩

theorem covered (h : hub.Keeps (fun _ => True) hub') (hclock : hub'.ClockFits)
    (hcovered : hub.Covered) : hub'.Covered := by
  intro id
  exact h.coveredAt hclock trivial (hcovered id)

end Keeps

/-! ## The hub's operations -/

variable (ids : DeviceId → Prop) (hub : Hub)

theorem registered_store (deviceId : DeviceId) (dev : IoDevice) (id : DeviceId)
    (hid : hub.Registered id) : (hub.store deviceId dev).Registered id := by
  unfold Registered getDevice at hid ⊢
  unfold store
  rw [DeviceRegistry.get_put]
  split_ifs
  · rfl
  · exact hid

theorem keeps_store (deviceId : DeviceId) (dev : IoDevice) :
    hub.Keeps ids (hub.store deviceId dev) :=
  .of_policy_eq (hub.registered_store deviceId dev) le_rfl rfl rfl rfl

theorem keeps_updateDevice (deviceId : DeviceId) (f : IoDevice → IoDevice) :
    hub.Keeps ids (hub.updateDevice deviceId f) := by
  refine .of_policy_eq (fun id hid => ?_) le_rfl rfl rfl rfl
  unfold Registered getDevice at hid ⊢
  unfold updateDevice
  rw [DeviceRegistry.get_update]
  split_ifs
  · simpa using hid
  · exact hid

theorem keeps_block (s : EngineState) : hub.Keeps ids (hub.block s) :=
  .of_policy_eq (fun _ hid => hid) (Nat.le_add_right _ _) rfl rfl rfl

/-- A change of the schedules that sets a poll, or closes the window, where it changes one. -/
theorem keeps_mapPolicy (f : StatusPollPolicy → StatusPollPolicy)
    (hinterval : ∀ id, (f hub.pollPolicy).getInterval id = hub.pollPolicy.getInterval id)
    (hpolls : hub.ClockFits → ∀ id, ids id → hub.PollKept (hub.mapPolicy f) id) :
    hub.Keeps ids (hub.mapPolicy f) where
  registered _ hid := hid
  elapsed := le_rfl
  interval := hinterval
  remotePolls _ hid := hid
  opQueue := rfl
  polls hclock := hpolls
    { window := hclock.window
      interval := fun id => by
        rw [← hinterval]
        exact hclock.interval id }

theorem keeps_clearFailureStreaks (deviceId : DeviceId) :
    hub.Keeps ids (hub.mapPolicy fun p => p.clearFailureStreaks deviceId) := by
  apply keeps_mapPolicy
  · simp
  · intro _ id _
    left
    unfold mapPolicy
    rw [StatusPollPolicy.entry_clearFailureStreaks]
    split_ifs <;> exact ⟨rfl, rfl⟩

theorem keeps_scheduleBackgroundPollBackoff {deviceId : DeviceId} (hreg : hub.Registered deviceId)
    (authLike : Bool) : hub.Keeps ids (hub.scheduleBackgroundPollBackoff deviceId authLike) := by
  apply keeps_mapPolicy
  · simp
  · intro hclock id _
    by_cases heq : deviceId = id
    · subst heq
      rcases hclock.scheduled_onExchangeFailed deviceId authLike with hclosed | hset
      · exact .inr (.inl hclosed)
      · exact .inr (.inr ⟨hreg, .inl hset⟩)
    · left
      unfold mapPolicy
      rw [StatusPollPolicy.entry_onExchangeFailed_of_ne _ heq]
      exact ⟨rfl, rfl⟩

/-! ## Status frames -/

/-- A frame that is applied to the device's state. -/
def Reports (frame : IoFrame) (deviceId : DeviceId) : Prop :=
  nodeIdToString frame.src = deviceId ∧ (frame.IsPrivateStatus ∨ frame.IsStatusUpdate)

theorem scheduled_updateDeviceStatus {hub : Hub} (hclock : hub.ClockFits) {frame : IoFrame}
    {deviceId : DeviceId} (hreports : Reports frame deviceId) (hreg : hub.Registered deviceId)
    (trustPosition : Bool) :
    ((hub.updateDeviceStatus frame trustPosition).pollPolicy.entry deviceId).Scheduled := by
  obtain ⟨rfl, hkind⟩ := hreports
  obtain ⟨dev, hdev⟩ := Option.isSome_iff_exists.1 hreg
  rcases hkind with hprivate | hupdate
  · rw [updateDeviceStatus_of_isPrivateStatus hdev hprivate]
    apply hclock.scheduled_privateResponse
    exact IoDevice.lastStatus_applyPrivateResponse _ _ _ _
  · rw [updateDeviceStatus_of_isStatusUpdate hdev hupdate]
    apply hclock.scheduled_statusUpdate
    exact IoDevice.lastStatus_applyStatusUpdate _ _ _

theorem keeps_updateDeviceStatus (frame : IoFrame) (trustPosition : Bool) :
    hub.Keeps ids (hub.updateDeviceStatus frame trustPosition) := by
  cases hdev : hub.registry.get (nodeIdToString frame.src) with
  | none =>
    rw [updateDeviceStatus_of_unregistered hdev]
    exact .refl ids hub
  | some dev =>
    -- only these replies reach the schedule
    by_cases hkind : frame.IsPrivateStatus ∨ frame.IsStatusUpdate
    · have hreg : hub.Registered (nodeIdToString frame.src) := by
        simp [Registered, getDevice, hdev]
      have hinterval (id : DeviceId) :
          (hub.updateDeviceStatus frame trustPosition).pollPolicy.getInterval id =
            hub.pollPolicy.getInterval id := by
        rcases hkind with hprivate | hupdate
        · rw [updateDeviceStatus_of_isPrivateStatus hdev hprivate]
          simp
        · rw [updateDeviceStatus_of_isStatusUpdate hdev hupdate]
          simp
      have hscheduled (hclock : hub.ClockFits) :=
        scheduled_updateDeviceStatus hclock ⟨rfl, hkind⟩ hreg trustPosition
      have hother (id : DeviceId) (hne : nodeIdToString frame.src ≠ id) :=
        (hub.updateDeviceStatus_other hne trustPosition).2.1
      obtain ⟨dev', pollPolicy, decoded, hresult⟩ :=
        updateDeviceStatus_of_registered hdev trustPosition
      rw [hresult] at hinterval hscheduled hother ⊢
      have hregistered := hub.registered_store (nodeIdToString frame.src) dev'
      refine ⟨hregistered, le_rfl, hinterval, fun _ hid => hid, rfl, fun hclock id _ => ?_⟩
      by_cases heq : nodeIdToString frame.src = id
      · subst heq
        have hbefore : hub.ClockFits := by
          refine ⟨hclock.window, fun id => ?_⟩
          have hfits := hclock.interval id
          simp only [hinterval] at hfits
          exact hfits
        rcases hscheduled hbefore with hclosed | hset
        · exact .inr (.inl hclosed)
        · exact .inr (.inr ⟨hregistered _ hreg, .inl hset⟩)
      · left
        rw [hother id heq]
        exact ⟨rfl, rfl⟩
    · rw [not_or] at hkind
      obtain ⟨dev', -, hresult⟩ :=
        updateDeviceStatus_of_other hdev hkind.1 hkind.2 trustPosition
      rw [hresult]
      exact hub.keeps_store ids _ dev'

/-! ## Remote activity -/

/-- The timeout covers the window that opens without a poll. -/
theorem keeps_scheduleDevicePoll (deviceId : DeviceId) (delayMs : Millis) :
    hub.Keeps ids (scheduleDevicePoll delayMs hub deviceId) := by
  have hremote (id : DeviceId) (hid : id ∈ hub.remotePolls) :
      id ∈ hub.remotePolls.insert deviceId (hub.elapsedMs + delayMs.toNat) := by
    simp [hid]
  unfold scheduleDevicePoll beginStatusPollTracking scheduleStatusPoll
  cases hdev : hub.getDevice deviceId with
  | none =>
    simp only [Option.isNone_none, if_true]
    exact ⟨fun _ hid => hid, le_rfl, fun _ => rfl, hremote, rfl,
      fun _ _ _ => .inl ⟨rfl, rfl⟩⟩
  | some dev =>
    simp only [Option.isNone_some, Bool.false_eq_true, if_false]
    refine ⟨fun _ hid => hid, le_rfl, fun id => by simp [mapPolicy], hremote, rfl,
      fun _ id _ => ?_⟩
    by_cases heq : deviceId = id
    · subst heq
      right
      right
      refine ⟨?_, .inr (by simp)⟩
      show (hub.getDevice deviceId).isSome
      rw [hdev]
      rfl
    · left
      simp [mapPolicy, StatusPollPolicy.entry_beginTracking, heq]

theorem keeps_scheduleDevicePolls (deviceIds : List DeviceId) (delayMs : Millis) :
    hub.Keeps ids (hub.scheduleDevicePolls deviceIds delayMs) := by
  unfold scheduleDevicePolls
  induction deviceIds generalizing hub with
  | nil => exact .refl ids hub
  | cons deviceId rest ih => exact (hub.keeps_scheduleDevicePoll ids deviceId delayMs).trans (ih _)

/-- A step that rewrites registered devices. -/
theorem keeps_registry (registry : DeviceRegistry)
    (h : ∀ id, (hub.registry.get id).isSome → (registry.get id).isSome) :
    hub.Keeps ids { hub with registry } :=
  .of_policy_eq h le_rfl rfl rfl rfl

theorem isSome_updateOptimistic (registry : DeviceRegistry) (deviceId : DeviceId)
    (f : IoDevice → IoDevice) (id : DeviceId) (h : (registry.get id).isSome) :
    ((registry.updateOptimistic deviceId f).2.get id).isSome := by
  rw [DeviceRegistry.get_updateOptimistic]
  split_ifs
  · simpa using h
  · exact h

theorem isSome_applyOptimisticLinkedDevice (info : OneWayFrameInfo) (registry : DeviceRegistry)
    (deviceId id : DeviceId) (h : (registry.get id).isSome) :
    ((applyOptimisticLinkedDevice info registry deviceId).get id).isSome := by
  unfold applyOptimisticLinkedDevice
  dsimp only
  split_ifs
  · exact h
  · exact isSome_updateOptimistic registry deviceId _ id h
  · cases onewayIntentToTarget info.main0 with
    | none => exact h
    | some target => exact isSome_updateOptimistic registry deviceId _ id h

theorem keeps_applyOptimisticLinkedState (info : OneWayFrameInfo) (deviceIds : List DeviceId) :
    hub.Keeps ids (hub.applyOptimisticLinkedState info deviceIds).2 := by
  unfold applyOptimisticLinkedState
  split_ifs
  · exact .refl ids hub
  · apply keeps_registry
    intro id hid
    generalize hub.registry = registry at hid
    induction deviceIds generalizing registry with
    | nil => exact hid
    | cons deviceId rest ih =>
      exact ih _ (isSome_applyOptimisticLinkedDevice info registry deviceId id hid)

theorem keeps_maybeFireSenderEvent (info : OneWayFrameInfo) (linked : Bool) (srcId : DeviceId) :
    hub.Keeps ids (hub.maybeFireSenderEvent info linked srcId) := by
  unfold maybeFireSenderEvent
  split_ifs
  · exact .of_policy_eq (fun _ hid => hid) le_rfl rfl rfl rfl
  · exact .refl ids hub

theorem keeps_process1wFrame (frame : IoFrame) : hub.Keeps ids (hub.process1wFrame frame) := by
  unfold process1wFrame
  dsimp only
  split
  · exact .refl ids hub
  · apply Keeps.trans _ (keeps_scheduleDevicePolls ids _ _ _)
    apply Keeps.trans _ (keeps_applyOptimisticLinkedState ids _ _ _)
    apply Keeps.trans _ (keeps_maybeFireSenderEvent ids _ _ _ _)
    exact .of_policy_eq (fun _ hid => hid) le_rfl rfl rfl rfl

end Hub

namespace ExchangeEngine

variable (engine : ExchangeEngine) (ids : DeviceId → Prop) (hub : Hub)

/-! ## Received packets -/

theorem keeps_acceptStatusUpdate (frame : IoFrame) (freqHz : ℕ) :
    hub.Keeps ids (engine.acceptStatusUpdate frame freqHz hub) := by
  unfold acceptStatusUpdate
  obtain ⟨ok, s⟩ := engine.authenticateRequest frame freqHz hub.exchange
  cases ok with
  | false => exact hub.keeps_block ids s
  | true =>
    dsimp only
    apply (hub.keeps_block ids s).trans
    cases createStatusUpdateResp engine.nodeId frame.src with
    | none => exact .refl ids _
    | some resp =>
      apply Hub.Keeps.trans _ (Hub.keeps_updateDeviceStatus ids _ frame true)
      apply Hub.Keeps.trans _ (Hub.keeps_block ids _ _)
      apply Hub.Keeps.trans _ (Hub.keeps_block ids _ _)
      exact Hub.keeps_block ids _ _

theorem keeps_processReceivedPacket (packet : RadioRxPacket) :
    hub.Keeps ids (engine.processReceivedPacket packet hub) := by
  unfold processReceivedPacket
  cases parse packet.data with
  | none => exact .refl ids hub
  | some frame =>
    dsimp only
    split_ifs
    · exact .refl ids hub
    · exact hub.keeps_process1wFrame ids frame
    · exact engine.keeps_acceptStatusUpdate ids hub frame packet.freqHz
    · exact hub.keeps_updateDeviceStatus ids frame true
    · exact .refl ids hub
    · exact hub.keeps_scheduleDevicePoll ids _ _
    · exact hub.keeps_scheduleDevicePolls ids _ _

/-! ## Exchanges -/

theorem keeps_executeRequestAndUpdate {deviceId : DeviceId} (hreg : hub.Registered deviceId)
    (request : IoFrame) (retryAfterFailMs : Millis) :
    hub.Keeps ids
      (engine.executeRequestAndUpdate deviceId request retryAfterFailMs hub).2 := by
  cases hreply : hub.acceptedReply request with
  | none =>
    obtain ⟨s, f, hresult⟩ :=
      engine.executeRequestAndUpdate_of_none hreply deviceId retryAfterFailMs
    rw [hresult]
    dsimp only
    have hupdated := Hub.keeps_updateDevice ids (hub.block s) deviceId f
    apply ((hub.keeps_block ids s).trans hupdated).trans
    split_ifs
    · exact Hub.keeps_scheduleBackgroundPollBackoff ids _
        (hupdated.registered deviceId hreg) _
    · exact .refl ids _
  | some f =>
    obtain ⟨s, -, hresult⟩ :=
      engine.executeRequestAndUpdate_of_some hreply deviceId retryAfterFailMs
    rw [hresult]
    dsimp only
    apply (hub.keeps_block ids s).trans
    apply Hub.Keeps.trans _ (Hub.keeps_updateDeviceStatus ids _ f _)
    split_ifs
    · exact Hub.keeps_clearFailureStreaks ids _ deviceId
    · exact .refl ids _

end ExchangeEngine
end HomeIoControl
