import HomeIoControl.ExchangeSoundness
import HomeIoControl.Hub

namespace HomeIoControl

/-! ## The two ways of a 1W frame -/

namespace Hub

/-- The test that drops a frame. -/
def Suppresses (hub : Hub) (frame : IoFrame) : Prop :=
  nodeIdToString frame.src = hub.last1wLogged.srcId ∧ frame.cmd = hub.last1wLogged.cmd ∧
    hub.now - hub.last1wLogged.timestamp < onewayDedupWindowMs

instance (hub : Hub) : DecidablePred hub.Suppresses := fun _ => inferInstanceAs (Decidable (_ ∧ _))

/-- The sender's event, the optimistic state of the devices it controls and their polls. -/
def handle1wFrame (hub : Hub) (frame : IoFrame) : Hub :=
  let srcId := nodeIdToString frame.src
  let hub := { hub with last1wLogged := { srcId, cmd := frame.cmd, timestamp := hub.now } }
  let info := decode1wFrame frame
  let linked := hub.registry.linkedDevices srcId
  let hub := hub.log1wRemoteFrame info linked
  let hub := hub.maybeFireSenderEvent info (!linked.isEmpty) srcId
  let targetDevices := hub.resolve1wTargetDevices info srcId
  let (isStop, hub) := hub.applyOptimisticLinkedState info targetDevices
  hub.scheduleDevicePolls targetDevices (if isStop then 0 else remoteActivityStatusPollDelayMs)

theorem process1wFrame_eq (hub : Hub) (frame : IoFrame) :
    hub.process1wFrame frame = if hub.Suppresses frame then hub else hub.handle1wFrame frame := rfl

/-- The memory of the filter and the clock. -/
def dedupState (hub : Hub) : OneWayDedup × ℕ := (hub.last1wLogged, hub.elapsedMs)

theorem dedupState_scheduleDevicePolls (hub : Hub) (deviceIds : List DeviceId) (delayMs : Millis) :
    (hub.scheduleDevicePolls deviceIds delayMs).dedupState = hub.dedupState := by
  unfold scheduleDevicePolls
  induction deviceIds generalizing hub with
  | nil => rfl
  | cons deviceId rest ih =>
    rw [List.foldl_cons, ih]
    unfold scheduleDevicePoll beginStatusPollTracking
    split <;> rfl

theorem dedupState_applyOptimisticLinkedState (hub : Hub) (info : OneWayFrameInfo)
    (deviceIds : List DeviceId) :
    (hub.applyOptimisticLinkedState info deviceIds).2.dedupState = hub.dedupState := by
  unfold applyOptimisticLinkedState
  split <;> rfl

theorem dedupState_maybeFireSenderEvent (hub : Hub) (info : OneWayFrameInfo) (linked : Bool)
    (srcId : DeviceId) : (hub.maybeFireSenderEvent info linked srcId).dedupState =
      hub.dedupState := by
  unfold maybeFireSenderEvent
  split <;> rfl

/-- A handled frame is remembered. -/
theorem dedupState_handle1wFrame (hub : Hub) (frame : IoFrame) :
    (hub.handle1wFrame frame).dedupState =
      ({ srcId := nodeIdToString frame.src, cmd := frame.cmd, timestamp := hub.now },
        hub.elapsedMs) := by
  unfold handle1wFrame
  dsimp only
  rw [dedupState_scheduleDevicePolls, dedupState_applyOptimisticLinkedState,
    dedupState_maybeFireSenderEvent]
  rfl

def advance (hub : Hub) (ms : ℕ) : Hub := { hub with elapsedMs := hub.elapsedMs + ms }

end Hub

/-- A 1W frame of no authenticated exchange reaches the filter. -/
theorem ExchangeEngine.processReceivedPacket_of_1w (engine : ExchangeEngine)
    {packet : RadioRxPacket} {frame : IoFrame} (hparse : parse packet.data = some frame)
    (hinternal : isExchangeInternalCommand frame.cmd = false) (h1w : frame.is1W = true)
    (hub : Hub) : engine.processReceivedPacket packet hub = hub.process1wFrame frame := by
  unfold ExchangeEngine.processReceivedPacket
  rw [hparse]
  simp [hinternal, h1w]

end HomeIoControl
