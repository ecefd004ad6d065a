import HomeIoControl.OperationBands
import HomeIoControl.RecordInvariants

namespace HomeIoControl
open GuardedRun ManagementActions

/-! ## What leaves the queue alone -/

/-- An exchange writes neither the queue nor the timeouts, and starts or stops nothing. -/
structure Hub.Leaves (hub after : Hub) : Prop where
  opQueue : after.opQueue = hub.opQueue
  remotePolls : after.remotePolls = hub.remotePolls
  initialized : after.initialized = hub.initialized

namespace Hub

variable {hub : Hub}

theorem Leaves.refl (hub : Hub) : hub.Leaves hub := ⟨rfl, rfl, rfl⟩

theorem Leaves.trans {after later : Hub} (h : hub.Leaves after) (h' : after.Leaves later) :
    hub.Leaves later where
  opQueue := h'.opQueue.trans h.opQueue
  remotePolls := h'.remotePolls.trans h.remotePolls
  initialized := h'.initialized.trans h.initialized

theorem leaves_block (hub : Hub) (s : EngineState) : hub.Leaves (hub.block s) := ⟨rfl, rfl, rfl⟩

theorem leaves_mapPolicy (hub : Hub) (f : StatusPollPolicy → StatusPollPolicy) :
    hub.Leaves (hub.mapPolicy f) := ⟨rfl, rfl, rfl⟩

theorem leaves_beginStatusPollTracking (hub : Hub) (deviceId : DeviceId) (initialDelayMs : Millis) :
    hub.Leaves (hub.beginStatusPollTracking deviceId initialDelayMs) := by
  unfold beginStatusPollTracking
  split_ifs
  · exact .refl hub
  · exact hub.leaves_mapPolicy _

theorem leaves_capStopPoll (hub : Hub) (deviceId : DeviceId) :
    hub.Leaves (hub.capStopPoll deviceId) := by
  obtain ⟨pollPolicy, hcapped⟩ := hub.capStopPoll_writes deviceId
  rw [hcapped]
  exact ⟨rfl, rfl, rfl⟩

theorem leaves_updateDeviceStatus (hub : Hub) (frame : IoFrame) (trustPosition : Bool) :
    hub.Leaves (hub.updateDeviceStatus frame trustPosition) := by
  obtain ⟨registry, pollPolicy, decoded, hresult⟩ :=
    hub.updateDeviceStatus_writes frame trustPosition
  rw [hresult]
  exact ⟨rfl, rfl, rfl⟩

theorem leaves_scheduleBackgroundPollBackoff (hub : Hub) (deviceId : DeviceId) (authLike : Bool) :
    hub.Leaves (hub.scheduleBackgroundPollBackoff deviceId authLike) :=
  hub.leaves_mapPolicy _

theorem opQueue_scheduleDevicePolls (hub : Hub) (deviceIds : List DeviceId) (delayMs : Millis) :
    (hub.scheduleDevicePolls deviceIds delayMs).opQueue = hub.opQueue := by
  unfold scheduleDevicePolls
  induction deviceIds generalizing hub with
  | nil => rfl
  | cons deviceId deviceIds ih =>
    rw [List.foldl_cons, ih]
    exact (hub.leaves_beginStatusPollTracking deviceId 0).opQueue

theorem opQueue_process1wFrame (hub : Hub) (frame : IoFrame) :
    (hub.process1wFrame frame).opQueue = hub.opQueue := by
  have hevent : ∀ (hub : Hub) info linked srcId,
      (hub.maybeFireSenderEvent info linked srcId).opQueue = hub.opQueue := by
    intro hub info linked srcId
    unfold maybeFireSenderEvent
    split_ifs <;> rfl
  have hoptimistic : ∀ (hub : Hub) info deviceIds,
      (hub.applyOptimisticLinkedState info deviceIds).2.opQueue = hub.opQueue := by
    intro hub info deviceIds
    unfold applyOptimisticLinkedState
    split_ifs <;> rfl
  unfold process1wFrame
  dsimp only
  split_ifs
  · rfl
  · rw [opQueue_scheduleDevicePolls, hoptimistic, hevent]
    rfl
  · rw [opQueue_scheduleDevicePolls, hoptimistic, hevent]
    rfl

end Hub

namespace ExchangeEngine

variable (engine : ExchangeEngine) (hub : Hub)

theorem leaves_executeRequestAndUpdate (deviceId : DeviceId) (request : IoFrame)
    (retryAfterFailMs : Millis) :
    hub.Leaves (engine.executeRequestAndUpdate deviceId request retryAfterFailMs hub).2 := by
  unfold executeRequestAndUpdate
  rw [sendAndReceive_eq_exchanged]
  have hblock := hub.leaves_block (engine.exchanged request hub)
  cases hub.reply request with
  | none =>
    simp only [Option.isSome_none]
    split_ifs
    · exact hblock.trans ⟨rfl, rfl, rfl⟩
    · exact hblock.trans ⟨rfl, rfl, rfl⟩
  | some f =>
    simp only [Option.isSome_some, Option.getD_some]
    by_cases hcmd : f.cmd = cmdErrorResp
    · rw [if_pos hcmd]
      by_cases hretry : retryAfterFailMs ≠ 0
      · rw [if_pos hretry]
        exact hblock.trans ⟨rfl, rfl, rfl⟩
      · rw [if_neg hretry]
        exact hblock.trans ⟨rfl, rfl, rfl⟩
    · rw [if_neg hcmd]
      by_cases hretry : retryAfterFailMs ≠ 0
      · rw [if_pos hretry]
        exact (hblock.trans (Hub.leaves_mapPolicy _ _)).trans (Hub.leaves_updateDeviceStatus _ _ _)
      · rw [if_neg hretry]
        exact hblock.trans (Hub.leaves_updateDeviceStatus _ _ _)

theorem leaves_controlDevice (deviceId : DeviceId) (accepts : IoDevice → Bool)
    (build : IoDevice → Option IoFrame) (rearms : Bool) :
    hub.Leaves (engine.controlDevice deviceId accepts build rearms hub).2 := by
  unfold controlDevice
  cases hub.getDevice deviceId with
  | none => exact .refl hub
  | some dev =>
    dsimp only
    split_ifs
    · exact .refl hub
    · exact .refl hub
    · have hbegun := hub.leaves_beginStatusPollTracking deviceId
        (hub.pollPolicy.getInterval deviceId)
      cases build dev with
      | none =>
        dsimp only
        exact hbegun.trans (Hub.leaves_mapPolicy _ _)
      | some request =>
        dsimp only
        have hexecuted := hbegun.trans
          (engine.leaves_executeRequestAndUpdate _ deviceId request 0)
        generalize engine.executeRequestAndUpdate deviceId request 0 _ = executed at hexecuted
        obtain ⟨ok, after⟩ := executed
        cases ok with
        | false => exact hexecuted.trans (Hub.leaves_scheduleBackgroundPollBackoff _ _ _)
        | true =>
          dsimp only
          split_ifs
          · exact hexecuted.trans (Hub.leaves_beginStatusPollTracking _ _ _)
          · exact hexecuted

theorem leaves_control (command : ControlCommand) :
    hub.Leaves (engine.control command hub).2 := by
  have hcontrolled := engine.leaves_controlDevice hub command.deviceId command.accepts
    command.build command.rearms
  unfold control
  generalize engine.controlDevice command.deviceId command.accepts command.build command.rearms
    hub = controlled at hcontrolled
  obtain ⟨ok, after⟩ := controlled
  cases ok with
  | false => exact hcontrolled
  | true =>
    dsimp only
    split_ifs
    · exact hcontrolled.trans (Hub.leaves_capStopPoll _ _)
    · exact hcontrolled

/-- What an operation does, it does outside of the queue. -/
theorem leaves_execute (call : HubCall) : hub.Leaves (engine.execute call hub).2 := by
  cases hcommand : engine.controlCommand call with
  | some command =>
    rw [engine.execute_eq_control hcommand]
    exact engine.leaves_control hub command
  | none =>
    cases call with
    | discoverAndPair =>
      unfold execute hubDiscoverAndPair
      dsimp only
      split_ifs
      · exact .refl hub
      · generalize engine.discoverAndPair { engine := hub.exchange, registry := hub.registry } =
          attempt
        exact (hub.leaves_block attempt.2.engine).trans ⟨rfl, rfl, rfl⟩
    | requestDeviceStatus deviceId =>
      unfold execute requestDeviceStatus
      dsimp only
      cases hub.getDevice deviceId with
      | none => exact .refl hub
      | some dev =>
        dsimp only
        cases engine.createStatusRequest dev with
        | none => split_ifs <;> exact .refl hub
        | some request =>
          dsimp only
          split_ifs
          · exact .refl hub
          · exact .refl hub
          · exact engine.leaves_executeRequestAndUpdate hub _ _ _
          · exact engine.leaves_executeRequestAndUpdate hub _ _ _
    | requestDeviceName deviceId =>
      unfold execute requestDeviceName
      dsimp only
      cases hub.getDevice deviceId with
      | none => exact .refl hub
      | some dev =>
        dsimp only
        cases createGetName engine.nodeId dev.nodeId true with
        | none => split_ifs <;> exact .refl hub
        | some request =>
          dsimp only
          split_ifs
          · exact .refl hub
          · exact engine.leaves_executeRequestAndUpdate hub _ _ _
    | setDevicePosition | setDeviceTilt | setDevicePositionAndTilt | executeDeviceCommand
    | setLightState | setLockState | setSwitchState => cases hcommand

theorem leaves_acceptStatusUpdate (frame : IoFrame) (freqHz : ℕ) :
    hub.Leaves (engine.acceptStatusUpdate frame freqHz hub) := by
  have htransmit : ∀ (hub : Hub) resp freqHz, hub.Leaves (engine.hubTransmit resp freqHz hub) :=
    fun hub _ _ => hub.leaves_block _
  unfold acceptStatusUpdate
  obtain ⟨ok, s⟩ := engine.authenticateRequest frame freqHz hub.exchange
  cases ok with
  | false => exact hub.leaves_block s
  | true =>
    dsimp only
    cases createStatusUpdateResp engine.nodeId frame.src with
    | none => exact hub.leaves_block s
    | some resp =>
      have hfirst := (hub.leaves_block s).trans (htransmit _ resp freqCh1)
      have hthird := (hfirst.trans (htransmit _ resp freqCh2)).trans (htransmit _ resp freqCh3)
      exact hthird.trans (Hub.leaves_updateDeviceStatus _ frame true)

theorem opQueue_processReceivedPacket (packet : RadioRxPacket) :
    (engine.processReceivedPacket packet hub).opQueue = hub.opQueue := by
  unfold processReceivedPacket
  cases parse packet.data with
  | none => rfl
  | some frame =>
    dsimp only
    split_ifs
    · rfl
    · exact hub.opQueue_process1wFrame frame
    · exact (engine.leaves_acceptStatusUpdate hub frame packet.freqHz).opQueue
    · exact (hub.leaves_updateDeviceStatus frame true).opQueue
    · rfl
    · exact hub.opQueue_scheduleDevicePolls [nodeIdToString frame.dst] _
    · exact hub.opQueue_scheduleDevicePolls _ _

theorem leaves_identifyDevice (deviceId : List UInt8) :
    hub.Leaves (engine.identifyDevice deviceId hub).2 := by
  by_cases h : ∃ dev request, engine.Identifies deviceId hub dev request
  · obtain ⟨dev, request, h⟩ := h
    rw [snd_identifyDevice h]
    exact hub.leaves_block _
  · unfold identifyDevice
    cases hresolve : resolveDevice identifyDeviceAction deviceId hub with
    | mk result found =>
      cases found with
      | none => exact .refl hub
      | some dev =>
        cases hbuilt : createIdentify engine.nodeId dev.nodeId with
        | none =>
          simp only [hbuilt]
          exact .refl hub
        | some request => exact absurd ⟨dev, request, by rw [hresolve], hbuilt⟩ h

theorem leaves_renameDevice (deviceId newName : List UInt8) :
    hub.Leaves (engine.renameDevice deviceId newName hub).2 := by
  unfold renameDevice
  obtain ⟨result, found⟩ := resolveDevice renameDeviceAction deviceId hub
  cases found with
  | none => exact .refl hub
  | some dev =>
    dsimp only
    cases encodeDeviceNamePayload newName with
    | error nameError => exact .refl hub
    | ok encoded =>
      obtain ⟨payload, name⟩ := encoded
      dsimp only
      cases createSetName engine.nodeId dev.nodeId payload.toList with
      | none => exact .refl hub
      | some request =>
        have hsent := hub.leaves_block (engine.exchanged request hub)
        dsimp only
        rw [sendAuthenticatedRequest_eq]
        cases hub.reply request with
        | none => exact hsent
        | some response =>
          dsimp only
          split_ifs
          · unfold applyErrorResponse
            split_ifs <;> exact hsent
          · exact hsent
          -- the readback is an operation of its own
          · rw [snd_verifyRename]
            exact hsent.trans (engine.leaves_execute _ (.requestDeviceName result.deviceId))

end ExchangeEngine

/-! ## What a step does to the queue -/

namespace OperationQueue

variable {q : OperationQueue} {o : PendingOperation}

theorem mem_enqueueBackground {type : PendingOperationType} {deviceId : DeviceId}
    (h : o ∈ (q.enqueueBackground type deviceId).1) : o ∈ q ∨ o = { type := type, deviceId } := by
  unfold enqueueBackground at h
  split_ifs at h
  · exact .inl h
  · exact (List.mem_append.1 h).imp_right List.mem_singleton.1

theorem mem_coalesced {q' : OperationQueue} {other : PendingOperationType}
    {merge : PendingOperation → PendingOperation} {op : PendingOperation}
    (h : Coalesced q q' other merge op) (ho : o ∈ q') :
    o ∈ q ∨ o = op ∨ ∃ o' ∈ q, o'.deviceId = op.deviceId ∧ o = merge o' := by
  cases h with
  | merged hmerged =>
    obtain ⟨p, o', r, rfl, -, hid, rfl⟩ := rewriteFirst_eq_some hmerged
    rcases List.mem_append.1 ho with ho | ho
    · exact .inl (List.mem_append_left _ ho)
    · rcases List.mem_cons.1 ho with rfl | ho
      · exact .inr (.inr ⟨o', by simp, hid, rfl⟩)
      · exact .inl (by simp [ho])
  | pushed _ hq =>
    rw [hq, mem_pushControl] at ho
    rcases ho with rfl | ho
    · exact .inr (.inl rfl)
    · exact .inl ho.1

/-- What is new in the queue is about the device of the call. -/
theorem mem_enqueue {call : HubCall} (h : o ∈ q.enqueue call) :
    o ∈ q ∨ o.dispatch.device = call.device := by
  cases call with
  | setDevicePosition deviceId position =>
    rcases mem_coalesced (q.coalesced_enqueueSetPosition deviceId position) h with
      ho | rfl | ⟨o', -, hid, rfl⟩
    · exact .inl ho
    · exact .inr rfl
    · exact .inr (congrArg some hid)
  | setDeviceTilt deviceId tiltPercent =>
    rcases mem_coalesced (q.coalesced_enqueueSetTilt deviceId tiltPercent) h with
      ho | rfl | ⟨o', -, hid, rfl⟩
    · exact .inl ho
    · exact .inr rfl
    · exact .inr (congrArg some hid)
  | setDevicePositionAndTilt | executeDeviceCommand | setLightState | setLockState
  | setSwitchState =>
    rcases mem_pushControl.1 h with rfl | ho
    · exact .inr rfl
    · exact .inl ho.1
  | requestDeviceStatus | requestDeviceName =>
    rcases mem_enqueueBackground h with ho | rfl
    · exact .inl ho
    · exact .inr rfl
  | discoverAndPair =>
    have h : o ∈ q.enqueueDiscoverAndPair.1 := h
    unfold enqueueDiscoverAndPair at h
    split_ifs at h
    · exact .inl h
    · rcases List.mem_cons.1 h with rfl | ho
      · exact .inr rfl
      · exact .inl (List.mem_filter.1 ho).1

end OperationQueue

namespace Hub

theorem opQueue_queueIf (hub : Hub) (accepts : IoDevice → Bool) (deviceId : DeviceId)
    (enqueue : OperationQueue → OperationQueue) :
    (hub.queueIf accepts deviceId enqueue).opQueue = hub.opQueue ∨
      (hub.queueIf accepts deviceId enqueue).opQueue = enqueue hub.opQueue := by
  unfold queueIf
  cases hub.getDevice deviceId with
  | none => exact .inr rfl
  | some dev =>
    dsimp only
    split_ifs
    · exact .inr rfl
    · exact .inl rfl

/-- A call is queued or turned down. -/
theorem opQueue_queue (hub : Hub) (call : HubCall) :
    (hub.queue call).opQueue = hub.opQueue ∨
      (hub.queue call).opQueue = hub.opQueue.enqueue call := by
  cases call with
  | executeDeviceCommand deviceId cmd =>
    simp only [queue, queueDeviceCommand]
    split_ifs
    · exact .inl rfl
    · exact hub.opQueue_queueIf _ _ _
  | requestDeviceName deviceId =>
    simp only [queue, queueRequestDeviceName]
    split_ifs
    · exact .inl rfl
    · exact .inr rfl
  | discoverAndPair => exact .inr rfl
  | setDevicePosition | setDeviceTilt | setDevicePositionAndTilt | setLightState | setLockState
  | setSwitchState | requestDeviceStatus => exact hub.opQueue_queueIf _ _ _

/-- The event asks for the call. -/
def Requests (hub : Hub) (call : HubCall) : ComponentEvent → Prop
  | .hub (.queued queued) => call = queued
  | .hub (.remotePoll deviceId) => call = .requestDeviceStatus deviceId
  | .hub .dueDevice =>
    ∃ deviceId, (hub.pollPolicy.popDueDevice hub.now).1 = some deviceId ∧
      call = .requestDeviceStatus deviceId
  | _ => False

end Hub

/-- The queue after a step. -/
inductive QueueChange (hub : Hub) (event : ComponentEvent) : OperationQueue → Prop
  | unchanged : QueueChange hub event hub.opQueue
  | dispatched (h : event = .hub .pendingOperation) : QueueChange hub event hub.opQueue.tail
  | queued (call : HubCall) (h : hub.Requests call event) :
    QueueChange hub event (hub.opQueue.enqueue call)

theorem QueueChange.of_eq {hub : Hub} {event : ComponentEvent} {q : OperationQueue}
    (h : q = hub.opQueue) : QueueChange hub event q := by
  rw [h]
  exact .unchanged

theorem QueueChange.of_or {hub : Hub} {event : ComponentEvent} {q : OperationQueue}
    {call : HubCall} (h : q = hub.opQueue ∨ q = hub.opQueue.enqueue call)
    (hcall : hub.Requests call event) : QueueChange hub event q := by
  rcases h with rfl | rfl
  · exact .unchanged
  · exact .queued call hcall

/-- An operation in the queue was there before, or it is about the device of a requested call. -/
theorem QueueChange.mem {hub : Hub} {event : ComponentEvent} {q : OperationQueue}
    (h : QueueChange hub event q) {o : PendingOperation} (ho : o ∈ q) :
    o ∈ hub.opQueue ∨ ∃ call, hub.Requests call event ∧ o.dispatch.device = call.device := by
  cases h with
  | unchanged => exact .inl ho
  | dispatched => exact .inl (List.mem_of_mem_tail ho)
  | queued call hcall => exact (OperationQueue.mem_enqueue ho).imp_right fun h => ⟨call, hcall, h⟩

/-- The hub's queue is changed by its own operations only, one at a time. -/
theorem queueChange_componentStep (engine : ExchangeEngine) (hub : Hub) (event : ComponentEvent) :
    QueueChange hub event (engine.componentStep hub event).opQueue := by
  cases event with
  | renameDevice deviceId newName =>
    exact .of_eq (engine.leaves_renameDevice hub deviceId newName).opQueue
  | identifyDevice deviceId => exact .of_eq (engine.leaves_identifyDevice hub deviceId).opQueue
  | hub event =>
    cases event with
    | packetReceived packet rssi =>
      exact .of_eq (engine.opQueue_processReceivedPacket (hub.receive packet rssi) packet)
    | pendingOperation =>
      show QueueChange hub _ (engine.processPendingOperation hub).opQueue
      unfold ExchangeEngine.processPendingOperation
      cases hpop : hub.opQueue.pop with
      | none => exact .unchanged
      | some next =>
        obtain ⟨operation, rest⟩ := next
        have hrest : rest = hub.opQueue.tail := by
          cases hq : hub.opQueue with
          | nil => rw [hq] at hpop; cases hpop
          | cons op q => rw [hq] at hpop; cases hpop; rfl
        have hleaves := engine.leaves_execute { hub with opQueue := rest } operation.dispatch
        dsimp only
        rw [hleaves.opQueue, hrest]
        exact .dispatched rfl
    | hop due =>
      apply QueueChange.of_eq
      show (hub.maybeHop due).opQueue = hub.opQueue
      unfold Hub.maybeHop
      split_ifs <;> rfl
    | dueDevice =>
      show QueueChange hub _ hub.pollDueDevice.opQueue
      unfold Hub.pollDueDevice
      cases hdue : hub.pollPolicy.popDueDevice hub.now with
      | mk due pollPolicy =>
        cases due with
        | none => exact .unchanged
        | some deviceId =>
          exact .of_or (Hub.opQueue_queue { hub with pollPolicy } (.requestDeviceStatus deviceId))
            ⟨deviceId, by rw [hdue], rfl⟩
    | queued call => exact .of_or (hub.opQueue_queue call) rfl
    | remotePoll deviceId =>
      show QueueChange hub _ (hub.fireRemotePoll deviceId).opQueue
      unfold Hub.fireRemotePoll
      cases hub.remotePolls[deviceId]? with
      | none => exact .unchanged
      | some due =>
        dsimp only
        split_ifs
        · exact .unchanged
        · exact .of_or (Hub.opQueue_queue { hub with remotePolls := _ }
            (.requestDeviceStatus deviceId)) rfl
    | pollInterval deviceId intervalMs =>
      apply QueueChange.of_eq
      show (hub.setDeviceStatusPollInterval deviceId intervalMs).opQueue = hub.opQueue
      unfold Hub.setDeviceStatusPollInterval
      split_ifs <;> rfl
    | timePasses | remoteLinked | remoteClassLinked | connection | deviceAdded | optimisticTarget
    | optimisticTargetCleared => exact .unchanged

end HomeIoControl
