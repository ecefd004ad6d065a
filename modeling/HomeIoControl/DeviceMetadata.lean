import HomeIoControl.HubRun
import HomeIoControl.PollCommands

namespace HomeIoControl

/-- What the configuration declares about a device. -/
structure DeviceMetadata where
  type : DeviceType
  subtype : UInt8
  inverted : Bool
  optimisticState : Bool
  deriving DecidableEq

/-- A type answer that is long enough to be applied. -/
def IoFrame.IsInfo2 (f : IoFrame) : Prop :=
  f.cmd = cmdGetInfo2Resp ∧ getInfo2ResponseMinDataLen ≤ f.dataLen

instance (f : IoFrame) : Decidable f.IsInfo2 := inferInstanceAs (Decidable (_ ∧ _))

/-- The type that such an answer carries. -/
def IoFrame.info2Type (f : IoFrame) : DeviceType :=
  decodePackedDeviceType (f.byte getInfo2TypeOffset) (f.byte getInfo2TypeSubtypeOffset)

namespace DeviceMetadata

/-- An answer fills in a type that is not known. -/
def learn (m : DeviceMetadata) (f : IoFrame) : DeviceMetadata :=
  if m.type ≠ .unknown then m
  else
    { m with
      type := f.info2Type
      subtype := decodePackedDeviceSubtype (f.byte getInfo2TypeSubtypeOffset)
      inverted := m.inverted || defaultInvertedForType f.info2Type }

theorem learn_of_known {m : DeviceMetadata} (h : m.type ≠ .unknown) (f : IoFrame) :
    m.learn f = m := if_pos h

end DeviceMetadata

namespace IoDevice

def metadata (dev : IoDevice) : DeviceMetadata where
  type := dev.type
  subtype := dev.subtype
  inverted := dev.inverted
  optimisticState := dev.optimisticState

variable (dev : IoDevice)

@[simp] theorem metadata_recordExchangeTimeout (tries : ℕ) :
    (dev.recordExchangeTimeout tries).metadata = dev.metadata := rfl

@[simp] theorem metadata_recordCommandResult (result : UInt8) (now : Millis) :
    (dev.recordCommandResult result now).metadata = dev.metadata := rfl

@[simp] theorem metadata_clearCommandResult :
    dev.clearCommandResult.metadata = dev.metadata := rfl

@[simp] theorem metadata_applyNameResponse (frame : IoFrame) :
    (dev.applyNameResponse frame).metadata = dev.metadata := by
  simp only [applyNameResponse, metadata]

@[simp] theorem metadata_normalizeStoppedState :
    dev.normalizeStoppedState.metadata = dev.metadata := by
  unfold normalizeStoppedState
  split_ifs <;> rfl

@[simp] theorem metadata_decodeStatusFields (frame : IoFrame) (targetOffset currentOffset : ℕ)
    (allowTilt : Bool) :
    (dev.decodeStatusFields frame targetOffset currentOffset allowTilt).metadata =
      dev.metadata := by
  unfold decodeStatusFields
  dsimp only
  split_ifs
  · exact metadata_normalizeStoppedState _
  · exact metadata_normalizeStoppedState _

@[simp] theorem metadata_applyPrivateResponse (frame : IoFrame) (trustPosition : Bool)
    (now : Millis) :
    (dev.applyPrivateResponse frame trustPosition now).metadata = dev.metadata := by
  unfold applyPrivateResponse
  dsimp only
  split_ifs
  · exact metadata_decodeStatusFields _ _ _ _ _
  · exact metadata_normalizeStoppedState _

@[simp] theorem metadata_applyStatusUpdate (frame : IoFrame) (now : Millis) :
    (dev.applyStatusUpdate frame now).metadata = dev.metadata := by
  unfold applyStatusUpdate
  exact metadata_decodeStatusFields _ _ _ _ _

@[simp] theorem metadata_applyInfo2Response (frame : IoFrame) :
    (dev.applyInfo2Response frame).metadata = dev.metadata.learn frame := by
  unfold applyInfo2Response DeviceMetadata.learn
  show _ = if dev.type ≠ .unknown then _ else _
  split_ifs <;> rfl

end IoDevice

namespace DeviceRegistry

def metadata (r : DeviceRegistry) (deviceId : DeviceId) : Option DeviceMetadata :=
  (r.get deviceId).map IoDevice.metadata

variable (r : DeviceRegistry) (deviceId other : DeviceId)

theorem metadata_put (device : IoDevice) :
    (r.put deviceId device).metadata other =
      if deviceId = other then some device.metadata else r.metadata other := by
  unfold metadata
  rw [get_put]
  split_ifs <;> rfl

/-- A write that leaves the declared fields alone. -/
theorem metadata_update {f : IoDevice → IoDevice} (h : ∀ dev, (f dev).metadata = dev.metadata) :
    (r.update deviceId f).metadata = r.metadata := by
  funext other
  unfold metadata
  rw [get_update]
  split_ifs
  · simp [Function.comp_def, h]
  · rfl

theorem metadata_updateOptimistic {f : IoDevice → IoDevice}
    (h : ∀ dev, (f dev).metadata = dev.metadata) :
    (r.updateOptimistic deviceId f).2.metadata = r.metadata := by
  funext other
  unfold metadata
  rw [get_updateOptimistic]
  split_ifs
  · simp [Function.comp_def, apply_ite IoDevice.metadata, h]
  · rfl

@[simp] theorem metadata_applyOptimisticTarget (target : ℚ) :
    (r.applyOptimisticTarget deviceId target).2.metadata = r.metadata :=
  r.metadata_updateOptimistic deviceId fun _ => rfl

@[simp] theorem metadata_clearOptimisticTarget :
    (r.clearOptimisticTarget deviceId).2.metadata = r.metadata :=
  r.metadata_updateOptimistic deviceId fun _ => rfl

/-- The first declaration of a device stays. -/
theorem metadata_add (m : DeviceMetadata) :
    (r.add deviceId m.type m.subtype m.inverted m.optimisticState).metadata other =
      if deviceId = other ∧ (hexToBytes deviceId).isSome then (r.metadata other).or (some m)
      else r.metadata other := by
  unfold add
  by_cases heq : deviceId = other
  · subst heq
    cases hget : r.get deviceId with
    | some device =>
      have hmetadata : r.metadata deviceId = some device.metadata := by
        rw [metadata, hget, Option.map_some]
      simp [hmetadata]
    | none =>
      have hmetadata : r.metadata deviceId = none := by rw [metadata, hget, Option.map_none]
      -- an ID that is no hex number enters nothing
      cases hexToBytes deviceId with
      | none => simp
      | some nodeId =>
        simp only [Option.isSome_none, Bool.false_eq_true, if_false, Option.isSome_some, and_self,
          if_true]
        rw [metadata_put, if_pos rfl, hmetadata, Option.none_or]
        rfl
  · have hother : ¬(deviceId = other ∧ (hexToBytes deviceId).isSome) := fun h => heq h.1
    rw [if_neg hother]
    cases r.get deviceId with
    | some device => rfl
    | none =>
      cases hexToBytes deviceId with
      | none => rfl
      | some nodeId =>
        simp only [Option.isSome_none, Bool.false_eq_true, if_false]
        rw [metadata_put, if_neg heq]

/-- The declared fields after a frame of the device. -/
def heard (f : IoFrame) : Option DeviceMetadata :=
  if nodeIdToString f.src = deviceId ∧ f.IsInfo2 then
    (r.metadata deviceId).map fun m => m.learn f
  else r.metadata deviceId

theorem heard_of_not_isInfo2 {f : IoFrame} (h : ¬f.IsInfo2) :
    r.heard deviceId f = r.metadata deviceId := if_neg fun hf => h hf.2

end DeviceRegistry

namespace Hub

/-! ## Status frames -/

/-- Only the answer to a type request can touch the declared fields of its sender. -/
theorem updateDeviceStatus_puts {hub : Hub} {frame : IoFrame} {dev : IoDevice}
    (hdev : hub.registry.get (nodeIdToString frame.src) = some dev) (trustPosition : Bool) :
    ∃ dev', dev'.metadata = (if frame.IsInfo2 then dev.metadata.learn frame else dev.metadata) ∧
      (hub.updateDeviceStatus frame trustPosition).registry =
        hub.registry.put (nodeIdToString frame.src) dev' := by
  -- a type answer is the only frame that touches the metadata
  by_cases hinfo : frame.IsInfo2
  · have hprivate : ¬frame.cmd = cmdPrivateResp := by
      rw [hinfo.1]
      decide
    have hupdate : ¬frame.cmd = cmdStatusUpdate := by
      rw [hinfo.1]
      decide
    have hname : ¬frame.cmd = cmdGetNameResp := by
      rw [hinfo.1]
      decide
    simp only [updateDeviceStatus, hdev]
    rw [if_neg hprivate, if_neg hupdate, if_neg hname, if_pos hinfo.1,
      if_neg (Nat.not_lt.2 hinfo.2), if_pos hinfo]
    exact ⟨_, (hub.heardFrom dev).metadata_applyInfo2Response frame, rfl⟩
  rw [if_neg hinfo]
  by_cases hprivate : frame.IsPrivateStatus
  · rw [updateDeviceStatus_of_isPrivateStatus hdev hprivate]
    refine ⟨_, IoDevice.metadata_clearCommandResult _ |>.trans ?_, rfl⟩
    exact (hub.heardFrom dev).metadata_applyPrivateResponse frame trustPosition hub.now
  by_cases hupdate : frame.IsStatusUpdate
  · rw [updateDeviceStatus_of_isStatusUpdate hdev hupdate]
    refine ⟨_, IoDevice.metadata_clearCommandResult _ |>.trans ?_, rfl⟩
    exact (hub.heardFrom dev).metadata_applyStatusUpdate frame hub.now
  simp only [updateDeviceStatus, hdev]
  by_cases hcmd : frame.cmd = cmdPrivateResp
  · rw [if_pos hcmd, if_pos (Nat.not_le.1 fun hlen => hprivate ⟨hcmd, hlen⟩)]
    exact ⟨hub.heardFrom dev, rfl, rfl⟩
  rw [if_neg hcmd]
  by_cases hcmd : frame.cmd = cmdStatusUpdate
  · rw [if_pos hcmd, if_pos (Nat.not_le.1 fun hlen => hupdate ⟨hcmd, hlen⟩)]
    exact ⟨hub.heardFrom dev, rfl, rfl⟩
  rw [if_neg hcmd]
  split_ifs with _ _ hcmd hlen
  · exact ⟨hub.heardFrom dev, rfl, rfl⟩
  · exact ⟨_, (hub.heardFrom dev).metadata_applyNameResponse frame, rfl⟩
  · exact ⟨hub.heardFrom dev, rfl, rfl⟩
  · exact absurd ⟨hcmd, Nat.not_lt.1 hlen⟩ hinfo
  · exact ⟨hub.heardFrom dev, rfl, rfl⟩
  · exact ⟨_, (hub.heardFrom dev).metadata_recordCommandResult _ _, rfl⟩
  · exact ⟨hub.heardFrom dev, rfl, rfl⟩

theorem metadata_updateDeviceStatus (hub : Hub) (frame : IoFrame) (trustPosition : Bool)
    (deviceId : DeviceId) :
    (hub.updateDeviceStatus frame trustPosition).registry.metadata deviceId =
      hub.registry.heard deviceId frame := by
  unfold DeviceRegistry.heard
  cases hdev : hub.registry.get (nodeIdToString frame.src) with
  | none =>
    rw [updateDeviceStatus_of_unregistered hdev]
    split_ifs with h
    · rw [← h.1, DeviceRegistry.metadata, hdev]
      rfl
    · rfl
  | some dev =>
    obtain ⟨dev', hdev', hresult⟩ := updateDeviceStatus_puts hdev trustPosition
    rw [hresult, DeviceRegistry.metadata_put, hdev']
    by_cases heq : nodeIdToString frame.src = deviceId
    · have hmetadata : hub.registry.metadata deviceId = some dev.metadata := by
        rw [← heq, DeviceRegistry.metadata, hdev, Option.map_some]
      rw [if_pos heq, hmetadata]
      by_cases hinfo : frame.IsInfo2
      · rw [if_pos hinfo, if_pos ⟨heq, hinfo⟩, Option.map_some]
      · rw [if_neg hinfo, if_neg fun h => hinfo h.2]
    · have hother : ¬(nodeIdToString frame.src = deviceId ∧ frame.IsInfo2) := fun h => heq h.1
      rw [if_neg heq, if_neg hother]

/-! ## Operations that leave the declared fields alone -/

variable (hub : Hub)

theorem registry_beginStatusPollTracking (deviceId : DeviceId) (initialDelayMs : Millis) :
    (hub.beginStatusPollTracking deviceId initialDelayMs).registry = hub.registry := by
  unfold beginStatusPollTracking
  split_ifs <;> rfl

theorem registry_scheduleDevicePolls (deviceIds : List DeviceId) (delayMs : Millis) :
    (hub.scheduleDevicePolls deviceIds delayMs).registry = hub.registry := by
  unfold scheduleDevicePolls
  induction deviceIds generalizing hub with
  | nil => rfl
  | cons deviceId rest ih =>
    rw [List.foldl_cons, ih]
    exact hub.registry_beginStatusPollTracking deviceId 0

theorem registry_capStopPoll (deviceId : DeviceId) :
    (hub.capStopPoll deviceId).registry = hub.registry := by
  unfold capStopPoll
  dsimp only
  split_ifs <;> rfl

theorem registry_setDeviceStatusPollInterval (deviceId : DeviceId) (pollIntervalMs : Millis) :
    (hub.setDeviceStatusPollInterval deviceId pollIntervalMs).registry = hub.registry := by
  unfold setDeviceStatusPollInterval
  split_ifs <;> rfl

theorem registry_queueIf (accepts : IoDevice → Bool) (deviceId : DeviceId)
    (enqueue : OperationQueue → OperationQueue) :
    (hub.queueIf accepts deviceId enqueue).registry = hub.registry := by
  unfold queueIf
  cases hub.getDevice deviceId with
  | none => rfl
  | some dev =>
    dsimp only
    split_ifs <;> rfl

theorem registry_queue (call : HubCall) : (hub.queue call).registry = hub.registry := by
  cases call with
  | executeDeviceCommand deviceId cmd =>
    simp only [queue, queueDeviceCommand]
    split_ifs
    · rfl
    · exact hub.registry_queueIf _ _ _
  | requestDeviceName deviceId =>
    simp only [queue, queueRequestDeviceName]
    split_ifs <;> rfl
  | discoverAndPair => rfl
  | setDevicePosition | setDeviceTilt | setDevicePositionAndTilt | setLightState | setLockState
  | setSwitchState | requestDeviceStatus => exact hub.registry_queueIf _ _ _

theorem registry_fireRemotePoll (deviceId : DeviceId) :
    (hub.fireRemotePoll deviceId).registry = hub.registry := by
  unfold fireRemotePoll
  cases hub.remotePolls[deviceId]? with
  | none => rfl
  | some due =>
    dsimp only
    split_ifs
    · rfl
    · exact registry_queueIf _ _ _ _

theorem registry_pollDueDevice : hub.pollDueDevice.registry = hub.registry := by
  unfold pollDueDevice
  obtain ⟨due, pollPolicy⟩ := hub.pollPolicy.popDueDevice hub.now
  cases due with
  | none => rfl
  | some deviceId => exact registry_queueIf _ _ _ _

theorem registry_maybeHop (due : Bool) : (hub.maybeHop due).registry = hub.registry := by
  unfold maybeHop
  split_ifs <;> rfl

theorem registry_maybeFireSenderEvent (info : OneWayFrameInfo) (linked : Bool)
    (srcId : DeviceId) : (hub.maybeFireSenderEvent info linked srcId).registry = hub.registry := by
  unfold maybeFireSenderEvent
  split_ifs <;> rfl

theorem metadata_applyOptimisticLinkedDevice (info : OneWayFrameInfo) (registry : DeviceRegistry)
    (deviceId : DeviceId) :
    (applyOptimisticLinkedDevice info registry deviceId).metadata = registry.metadata := by
  unfold applyOptimisticLinkedDevice
  dsimp only
  split_ifs
  · rfl
  · exact registry.metadata_clearOptimisticTarget deviceId
  · cases onewayIntentToTarget info.main0 with
    | none => rfl
    | some target => exact registry.metadata_applyOptimisticTarget deviceId target

theorem metadata_applyOptimisticLinkedState (info : OneWayFrameInfo)
    (deviceIds : List DeviceId) :
    (hub.applyOptimisticLinkedState info deviceIds).2.registry.metadata =
      hub.registry.metadata := by
  unfold applyOptimisticLinkedState
  split_ifs
  · rfl
  · dsimp only
    generalize hub.registry = registry
    induction deviceIds generalizing registry with
    | nil => rfl
    | cons deviceId rest ih =>
      rw [List.foldl_cons, ih, metadata_applyOptimisticLinkedDevice]

/-- A 1W frame moves targets only. -/
theorem metadata_process1wFrame (frame : IoFrame) :
    (hub.process1wFrame frame).registry.metadata = hub.registry.metadata := by
  unfold process1wFrame
  dsimp only
  split
  · rfl
  · rw [registry_scheduleDevicePolls, metadata_applyOptimisticLinkedState,
      registry_maybeFireSenderEvent]
    rfl

end Hub

namespace ExchangeEngine

variable (engine : ExchangeEngine) (hub : Hub)

/-! ## Received packets -/

theorem metadata_acceptStatusUpdate {frame : IoFrame} (h : frame.cmd = cmdStatusUpdate)
    (freqHz : ℕ) (deviceId : DeviceId) :
    (engine.acceptStatusUpdate frame freqHz hub).registry.metadata deviceId =
      hub.registry.metadata deviceId := by
  have hinfo : ¬frame.IsInfo2 := by
    rintro ⟨hcmd, -⟩
    rw [h] at hcmd
    exact absurd hcmd (by decide)
  unfold acceptStatusUpdate
  obtain ⟨ok, s⟩ := engine.authenticateRequest frame freqHz hub.exchange
  cases ok with
  | false => rfl
  | true =>
    dsimp only
    cases createStatusUpdateResp engine.nodeId frame.src with
    | none => rfl
    | some resp =>
      dsimp only
      rw [Hub.metadata_updateDeviceStatus, DeviceRegistry.heard_of_not_isInfo2 _ _ hinfo]
      rfl

/-- No packet that arrives by itself is taken for the answer to a type request. -/
theorem metadata_processReceivedPacket (packet : RadioRxPacket) (deviceId : DeviceId) :
    (engine.processReceivedPacket packet hub).registry.metadata deviceId =
      hub.registry.metadata deviceId := by
  unfold processReceivedPacket
  cases parse packet.data with
  | none => rfl
  | some frame =>
    dsimp only
    split_ifs with _ _ hstatus hreport
    · rfl
    · rw [hub.metadata_process1wFrame frame]
    · exact engine.metadata_acceptStatusUpdate hub hstatus.1 packet.freqHz deviceId
    · have hinfo : ¬frame.IsInfo2 := by
        rintro ⟨hcmd, -⟩
        rw [hcmd] at hreport
        exact absurd hreport (by decide)
      rw [Hub.metadata_updateDeviceStatus, DeviceRegistry.heard_of_not_isInfo2 _ _ hinfo]
    · rfl
    · exact congrFun (congrArg DeviceRegistry.metadata
        (hub.registry_beginStatusPollTracking _ _)) deviceId
    · unfold Hub.scheduleLinkedRemotePolls
      rw [Hub.registry_scheduleDevicePolls]

end ExchangeEngine
end HomeIoControl
