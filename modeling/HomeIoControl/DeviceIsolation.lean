import HomeIoControl.HubQueue
import HomeIoControl.PollHistory
import HomeIoControl.StatusRequests
import HomeIoControl.TransmissionWarrants

namespace HomeIoControl
open GuardedRun ManagementActions

/-! ## What stays as it is for a device -/

/-- What is queued for a device, in its order. -/
def OperationQueue.operationsOf (q : OperationQueue) (id : DeviceId) : OperationQueue :=
  q.filter fun op => op.dispatch.device = some id

/-- A poll or a request for the name of the device waits. -/
def OperationQueue.HasBackground (q : OperationQueue) (id : DeviceId) : Prop :=
  ∃ op ∈ q, op.deviceId = id ∧ (op.type = .requestStatus ∨ op.type = .requestName)

/-- The record of a device, its place in the poll schedule, its timeout and its operations are the
same. -/
structure Hub.Spares (id : DeviceId) (hub after : Hub) : Prop where
  record : after.registry.get id = hub.registry.get id
  schedule : after.pollPolicy.entry id = hub.pollPolicy.entry id
  timeout : after.remotePolls[id]? = hub.remotePolls[id]?
  operations : after.opQueue.operationsOf id = hub.opQueue.operationsOf id

namespace Hub

variable {id deviceId : DeviceId} {hub after later : Hub}

theorem Spares.refl (id : DeviceId) (hub : Hub) : hub.Spares id hub := ⟨rfl, rfl, rfl, rfl⟩

theorem Spares.trans (h : hub.Spares id after) (h' : after.Spares id later) :
    hub.Spares id later where
  record := h'.record.trans h.record
  schedule := h'.schedule.trans h.schedule
  timeout := h'.timeout.trans h.timeout
  operations := h'.operations.trans h.operations

variable (hub)

theorem spares_block (s : EngineState) : hub.Spares id (hub.block s) := ⟨rfl, rfl, rfl, rfl⟩

theorem spares_mapPolicy {f : StatusPollPolicy → StatusPollPolicy}
    (h : (f hub.pollPolicy).entry id = hub.pollPolicy.entry id) : hub.Spares id (hub.mapPolicy f) :=
  ⟨rfl, h, rfl, rfl⟩

theorem spares_registry {registry : DeviceRegistry}
    (h : registry.get id = hub.registry.get id) : hub.Spares id { hub with registry } :=
  ⟨h, rfl, rfl, rfl⟩

theorem spares_updateDevice (h : deviceId ≠ id) (f : IoDevice → IoDevice) :
    hub.Spares id (hub.updateDevice deviceId f) := by
  apply hub.spares_registry
  rw [DeviceRegistry.get_update, if_neg h]

theorem spares_updateOptimistic (h : deviceId ≠ id) (f : IoDevice → IoDevice) :
    hub.Spares id { hub with registry := (hub.registry.updateOptimistic deviceId f).2 } := by
  apply hub.spares_registry
  rw [DeviceRegistry.get_updateOptimistic, if_neg h]

theorem spares_beginStatusPollTracking (h : deviceId ≠ id) (initialDelayMs : Millis) :
    hub.Spares id (hub.beginStatusPollTracking deviceId initialDelayMs) := by
  unfold beginStatusPollTracking
  split_ifs
  · exact .refl id hub
  · apply hub.spares_mapPolicy
    rw [StatusPollPolicy.entry_beginTracking, if_neg h]

theorem spares_scheduleStatusPoll (h : deviceId ≠ id) (delayMs : Millis) :
    hub.Spares id (hub.scheduleStatusPoll deviceId delayMs) := by
  refine ⟨rfl, rfl, ?_, rfl⟩
  simp [scheduleStatusPoll, Std.TreeMap.getElem?_insert, h]

theorem spares_scheduleDevicePolls {deviceIds : List DeviceId} (h : id ∉ deviceIds)
    (delayMs : Millis) : hub.Spares id (hub.scheduleDevicePolls deviceIds delayMs) := by
  unfold scheduleDevicePolls
  induction deviceIds generalizing hub with
  | nil => exact .refl id hub
  | cons deviceId rest ih =>
    obtain ⟨hne, hrest⟩ := not_or.1 (List.mem_cons.not.1 h)
    have hbegun := hub.spares_beginStatusPollTracking (Ne.symm hne) 0
    exact (hbegun.trans (spares_scheduleStatusPoll _ (Ne.symm hne) delayMs)).trans (ih _ hrest)

theorem spares_scheduleBackgroundPollBackoff (h : deviceId ≠ id) (authLike : Bool) :
    hub.Spares id (hub.scheduleBackgroundPollBackoff deviceId authLike) :=
  hub.spares_mapPolicy (StatusPollPolicy.entry_onExchangeFailed_of_ne _ h authLike hub.now)

theorem spares_updateDeviceStatus {frame : IoFrame} (h : nodeIdToString frame.src ≠ id)
    (trustPosition : Bool) : hub.Spares id (hub.updateDeviceStatus frame trustPosition) := by
  obtain ⟨hrecord, hschedule, -⟩ := hub.updateDeviceStatus_other h trustPosition
  have hleaves := hub.leaves_updateDeviceStatus frame trustPosition
  refine ⟨hrecord, hschedule, ?_, ?_⟩
  · rw [hleaves.remotePolls]
  · rw [hleaves.opQueue]

theorem spares_capStopPoll (h : deviceId ≠ id) : hub.Spares id (hub.capStopPoll deviceId) := by
  unfold capStopPoll
  dsimp only
  split_ifs
  · apply hub.spares_mapPolicy
    rw [StatusPollPolicy.entry_setNextUpdate, if_neg h]
  · exact .refl id hub
  · exact .refl id hub

theorem spares_followUp {command : ControlCommand} (h : command.deviceId ≠ id) :
    hub.Spares id (hub.followUp command) := by
  have hstop : ∀ hub : Hub,
      hub.Spares id (if command.isStop then hub.capStopPoll command.deviceId else hub) := by
    intro hub
    split_ifs
    · exact hub.spares_capStopPoll h
    · exact .refl id hub
  unfold followUp
  dsimp only
  by_cases hrearms : command.rearms = true ∧ hub.pollPolicy.getInterval command.deviceId ≠ 0 ∧
      hub.pollPolicy.getNextUpdate command.deviceId = 0
  · rw [if_pos hrearms]
    exact (hub.spares_beginStatusPollTracking h _).trans (hstop _)
  · rw [if_neg hrearms]
    exact hstop hub

theorem spares_maybeFireSenderEvent (info : OneWayFrameInfo) (linked : Bool) (srcId : DeviceId) :
    hub.Spares id (hub.maybeFireSenderEvent info linked srcId) := by
  unfold maybeFireSenderEvent
  split_ifs
  · exact ⟨rfl, rfl, rfl, rfl⟩
  · exact .refl id hub

theorem spares_applyOptimisticLinkedState (info : OneWayFrameInfo) {deviceIds : List DeviceId}
    (h : id ∉ deviceIds) : hub.Spares id (hub.applyOptimisticLinkedState info deviceIds).2 := by
  unfold applyOptimisticLinkedState
  split_ifs
  · exact .refl id hub
  · apply hub.spares_registry
    rw [get_foldl_applyOptimisticLinkedDevice, if_neg h]

/-- A repeat touches nothing, any other 1W frame the devices that it concerns. -/
theorem spares_process1wFrame {frame : IoFrame}
    (h : ¬hub.Suppresses frame → id ∉ hub.targets1w frame) :
    hub.Spares id (hub.process1wFrame frame) := by
  rw [process1wFrame_eq]
  split_ifs with hrepeat
  · exact .refl id hub
  · unfold handle1wFrame
    dsimp only
    generalize hfired : Hub.maybeFireSenderEvent _ _ _ _ = fired
    have hregistry : fired.registry = hub.registry := by
      rw [← hfired, registry_maybeFireSenderEvent]
      rfl
    have hkept : hub.Spares id fired := by
      rw [← hfired]
      refine Spares.trans ?_ (spares_maybeFireSenderEvent _ _ _ _)
      exact ⟨rfl, rfl, rfl, rfl⟩
    have htargets : fired.resolve1wTargetDevices (decode1wFrame frame) (nodeIdToString frame.src) =
        hub.targets1w frame := by
      unfold targets1w resolve1wTargetDevices
      rw [hregistry]
    rw [htargets]
    have hid := h hrepeat
    exact (hkept.trans (fired.spares_applyOptimisticLinkedState _ hid)).trans
      (spares_scheduleDevicePolls _ hid _)

end Hub

namespace ExchangeEngine

variable (engine : ExchangeEngine) (hub : Hub) {id deviceId : DeviceId}

/-! ## Requests -/

include engine in
/-- A reply comes from the addressee of the request. -/
theorem reply_src_ne {request f : IoFrame} (hreply : hub.acceptedReply request = some f)
    (h : nodeIdToString request.dst ≠ id) : nodeIdToString f.src ≠ id := by
  obtain ⟨-, hsrc, -⟩ := engine.outcomes_answer (Option.filter_eq_some_iff.1 hreply).1 freqCh2
  rwa [hsrc]

/-- A request touches the device that it is made for and the one that answers. -/
theorem spares_executeRequestAndUpdate {request : IoFrame} (hdevice : deviceId ≠ id)
    (hnode : nodeIdToString request.dst ≠ id) (retryAfterFailMs : Millis) :
    hub.Spares id (engine.executeRequestAndUpdate deviceId request retryAfterFailMs hub).2 := by
  cases hreply : hub.acceptedReply request with
  | none =>
    obtain ⟨s, f, hresult⟩ := engine.executeRequestAndUpdate_of_none hreply deviceId
      retryAfterFailMs
    have hupdated := (hub.spares_block s).trans (Hub.spares_updateDevice _ hdevice f)
    rw [hresult]
    dsimp only
    split_ifs
    · exact hupdated.trans (Hub.spares_scheduleBackgroundPollBackoff _ hdevice _)
    · exact hupdated
  | some f =>
    obtain ⟨s, -, hresult⟩ := engine.executeRequestAndUpdate_of_some hreply deviceId
      retryAfterFailMs
    have hsrc := engine.reply_src_ne hub hreply hnode
    rw [hresult]
    dsimp only
    split_ifs
    · have hcleared : ∀ hub : Hub,
          hub.Spares id (hub.mapPolicy fun p => p.clearFailureStreaks deviceId) := by
        intro hub
        apply hub.spares_mapPolicy
        rw [StatusPollPolicy.entry_clearFailureStreaks, if_neg hdevice]
      exact ((hub.spares_block s).trans (hcleared _)).trans (Hub.spares_updateDeviceStatus _ hsrc _)
    · exact (hub.spares_block s).trans (Hub.spares_updateDeviceStatus _ hsrc _)

theorem spares_control {command : ControlCommand} (hdevice : command.deviceId ≠ id)
    (hnode : ∀ dev request, hub.getDevice command.deviceId = some dev →
      command.build dev = some request → nodeIdToString request.dst ≠ id) :
    hub.Spares id (engine.control command hub).2 := by
  by_cases htakes : ∃ dev, hub.Takes command.deviceId command.accepts dev
  · obtain ⟨dev, htakes⟩ := htakes
    have hbegun : hub.Spares id (hub.beginCommand command.deviceId) :=
      hub.spares_beginStatusPollTracking hdevice _
    cases hbuild : command.build dev with
    | none =>
      rw [engine.control_of_not_built htakes hbuild]
      have hcleared : ∀ hub : Hub,
          hub.Spares id (hub.mapPolicy fun policy => policy.clear command.deviceId) := by
        intro hub
        apply hub.spares_mapPolicy
        rw [StatusPollPolicy.entry_clear, if_neg hdevice]
      exact hbegun.trans (hcleared _)
    | some request =>
      have hdst := hnode dev request htakes.registered hbuild
      cases hreply : hub.acceptedReply request with
      | none =>
        obtain ⟨s, f, hresult⟩ := engine.control_of_none htakes hbuild hreply
        have hupdated := (hbegun.trans (Hub.spares_block _ s)).trans
          (Hub.spares_updateDevice _ hdevice f)
        rw [hresult]
        exact hupdated.trans (Hub.spares_scheduleBackgroundPollBackoff _ hdevice _)
      | some f =>
        obtain ⟨s, hresult⟩ := engine.control_of_some htakes hbuild hreply
        have hsrc := engine.reply_src_ne hub hreply hdst
        have hreported := (hbegun.trans (Hub.spares_block _ s)).trans
          (Hub.spares_updateDeviceStatus _ hsrc (request.cmd != cmdExecute))
        rw [hresult]
        exact hreported.trans (Hub.spares_followUp _ hdevice)
  · rw [engine.control_of_not_takes fun dev hdev => htakes ⟨dev, hdev⟩]
    exact .refl id hub

end ExchangeEngine

/-- The device of a call, or the one with the node ID in that device's record: there the frames of
the call go. -/
def Hub.Addresses (hub : Hub) (call : HubCall) (id : DeviceId) : Prop :=
  ∃ deviceId, call.device = some deviceId ∧
    (deviceId = id ∨ ∃ dev, hub.getDevice deviceId = some dev ∧ nodeIdToString dev.nodeId = id)

theorem Hub.not_addresses {hub : Hub} {call : HubCall} {id deviceId : DeviceId}
    (h : ¬hub.Addresses call id) (hdevice : call.device = some deviceId) :
    deviceId ≠ id ∧ ∀ dev, hub.getDevice deviceId = some dev → nodeIdToString dev.nodeId ≠ id := by
  constructor
  · intro heq
    exact h ⟨deviceId, hdevice, .inl heq⟩
  · intro dev hdev heq
    exact h ⟨deviceId, hdevice, .inr ⟨dev, hdev, heq⟩⟩

namespace ExchangeEngine

variable (engine : ExchangeEngine) (hub : Hub) {id deviceId : DeviceId}

theorem spares_requestDeviceStatus (h : ¬hub.Addresses (.requestDeviceStatus deviceId) id) :
    hub.Spares id (engine.requestDeviceStatus deviceId hub).2 := by
  obtain ⟨hne, hnode⟩ := Hub.not_addresses h rfl
  unfold requestDeviceStatus
  cases hdev : hub.getDevice deviceId with
  | none => exact .refl id hub
  | some dev =>
    dsimp only
    cases hrequest : engine.createStatusRequest dev with
    | none => split_ifs <;> exact .refl id hub
    | some request =>
      have hdst : nodeIdToString request.dst ≠ id := by
        rw [(engine.createStatusRequest_eq hrequest).1]
        exact hnode dev hdev
      dsimp only
      split_ifs
      · exact .refl id hub
      · exact .refl id hub
      · exact engine.spares_executeRequestAndUpdate hub hne hdst _
      · exact engine.spares_executeRequestAndUpdate hub hne hdst _

theorem spares_requestDeviceName (h : ¬hub.Addresses (.requestDeviceName deviceId) id) :
    hub.Spares id (engine.requestDeviceName deviceId hub).2 := by
  obtain ⟨hne, hnode⟩ := Hub.not_addresses h rfl
  unfold requestDeviceName
  cases hdev : hub.getDevice deviceId with
  | none => exact .refl id hub
  | some dev =>
    dsimp only
    cases hrequest : createGetName engine.nodeId dev.nodeId true with
    | none => split_ifs <;> exact .refl id hub
    | some request =>
      have hdst : nodeIdToString request.dst ≠ id := by
        rw [(buildFrame_isCommand hrequest).dst_eq]
        exact hnode dev hdev
      dsimp only
      split_ifs
      · exact .refl id hub
      · exact engine.spares_executeRequestAndUpdate hub hne hdst _

/-- Pairing touches the node that it registers. -/
theorem spares_hubDiscoverAndPair
    (h : ∀ d, engine.Pairs hub.pairingWorld d → nodeIdToString d.src ≠ id) :
    hub.Spares id (engine.hubDiscoverAndPair hub).2 := by
  have hleaves : hub.Leaves (engine.hubDiscoverAndPair hub).2 :=
    engine.leaves_execute hub .discoverAndPair
  have hpolicy : (engine.hubDiscoverAndPair hub).2.pollPolicy = hub.pollPolicy := by
    unfold hubDiscoverAndPair
    split_ifs <;> rfl
  refine ⟨?_, by rw [hpolicy], by rw [hleaves.remotePolls], by rw [hleaves.opQueue]⟩
  cases hinitialized : hub.initialized with
  | false =>
    unfold hubDiscoverAndPair
    rw [hinitialized]
    rfl
  | true =>
    rw [engine.registry_hubDiscoverAndPair hub hinitialized]
    by_cases hpairs : ∃ d, engine.Pairs hub.pairingWorld d
    · obtain ⟨d, hpairs⟩ := hpairs
      rw [engine.discoverAndPair_of_pairs hpairs, DeviceRegistry.get_put, if_neg (h d hpairs)]
      rfl
    · rw [engine.discoverAndPair_of_not_pairs fun d hd => hpairs ⟨d, hd⟩]
      rfl

theorem spares_execute {call : HubCall} (h : ¬hub.Addresses call id)
    (hpairs : call = .discoverAndPair →
      ∀ d, engine.Pairs hub.pairingWorld d → nodeIdToString d.src ≠ id) :
    hub.Spares id (engine.execute call hub).2 := by
  cases hcommand : engine.controlCommand call with
  | some command =>
    obtain ⟨hne, hnode⟩ := Hub.not_addresses h (control_of_controlCommand hcommand).1
    rw [engine.execute_eq_control hcommand]
    apply engine.spares_control hub hne
    intro dev request hdev hbuild
    obtain ⟨cmd, -, params, hrequest⟩ := controlCommand_isRequestTo hcommand hbuild
    rw [hrequest.dst_eq]
    exact hnode dev hdev
  | none =>
    cases call with
    | discoverAndPair => exact engine.spares_hubDiscoverAndPair hub (hpairs rfl)
    | requestDeviceStatus deviceId => exact engine.spares_requestDeviceStatus hub h
    | requestDeviceName deviceId => exact engine.spares_requestDeviceName hub h
    | setDevicePosition | setDeviceTilt | setDevicePositionAndTilt | executeDeviceCommand
    | setLightState | setLockState | setSwitchState => cases hcommand

end ExchangeEngine

/-! ## Received packets -/

/-- The devices that a frame is about: the linked ones for a 1W frame that is handled, the sender of
a report, the addressee of another controller's command, or the devices linked to its sender. -/
def Hub.Names (own : NodeId) (hub : Hub) (frame : IoFrame) (id : DeviceId) : Prop :=
  if ExchangeEngine.isExchangeInternalCommand frame.cmd then False
  else if frame.is1W then ¬hub.Suppresses frame ∧ id ∈ hub.targets1w frame
  else if frame.cmd = cmdPrivateResp ∨ frame.cmd = cmdStatusUpdate then
    nodeIdToString frame.src = id
  else if frame.cmd = cmdDiscoverAltResp then False
  else if (hub.getDevice (nodeIdToString frame.dst)).isSome ∧ frame.src ≠ own then
    nodeIdToString frame.dst = id
  else id ∈ hub.registry.linkedDevices (nodeIdToString frame.src)

namespace ExchangeEngine

variable (engine : ExchangeEngine) (hub : Hub) {id deviceId : DeviceId}

theorem spares_acceptStatusUpdate {frame : IoFrame} (h : nodeIdToString frame.src ≠ id)
    (freqHz : ℕ) : hub.Spares id (engine.acceptStatusUpdate frame freqHz hub) := by
  have htransmit : ∀ (hub : Hub) resp freqHz, hub.Spares id (engine.hubTransmit resp freqHz hub) :=
    fun hub _ _ => hub.spares_block _
  unfold acceptStatusUpdate
  obtain ⟨ok, s⟩ := engine.authenticateRequest frame freqHz hub.exchange
  cases ok with
  | false => exact hub.spares_block s
  | true =>
    dsimp only
    cases createStatusUpdateResp engine.nodeId frame.src with
    | none => exact hub.spares_block s
    | some resp =>
      have hfirst := (hub.spares_block s).trans (htransmit _ resp freqCh1)
      have hthird := (hfirst.trans (htransmit _ resp freqCh2)).trans (htransmit _ resp freqCh3)
      exact hthird.trans (Hub.spares_updateDeviceStatus _ h true)

theorem spares_processReceivedPacket {packet : RadioRxPacket}
    (h : ∀ frame, parse packet.data = some frame → ¬hub.Names engine.nodeId frame id) :
    hub.Spares id (engine.processReceivedPacket packet hub) := by
  unfold processReceivedPacket
  cases hparse : parse packet.data with
  | none => exact .refl id hub
  | some frame =>
    have hframe := h frame hparse
    unfold Hub.Names at hframe
    dsimp only
    by_cases hinternal : isExchangeInternalCommand frame.cmd = true
    · rw [if_pos hinternal]
      exact .refl id hub
    rw [if_neg hinternal] at hframe ⊢
    by_cases h1w : frame.is1W = true
    · rw [if_pos h1w] at hframe ⊢
      exact hub.spares_process1wFrame fun hhandled hid => hframe ⟨hhandled, hid⟩
    rw [if_neg h1w] at hframe ⊢
    by_cases hreport : frame.cmd = cmdPrivateResp ∨ frame.cmd = cmdStatusUpdate
    · rw [if_pos hreport] at hframe ⊢
      split_ifs
      · exact engine.spares_acceptStatusUpdate hub hframe packet.freqHz
      · exact hub.spares_updateDeviceStatus hframe true
    rw [if_neg hreport] at hframe ⊢
    rw [if_neg fun haddressed => hreport (.inr haddressed.1)]
    by_cases halt : frame.cmd = cmdDiscoverAltResp
    · rw [if_pos halt]
      exact .refl id hub
    rw [if_neg halt] at hframe ⊢
    split_ifs at hframe ⊢
    · have hid : id ∉ [nodeIdToString frame.dst] := by simpa using Ne.symm hframe
      exact hub.spares_scheduleDevicePolls hid remoteActivityStatusPollDelayMs
    · exact hub.spares_scheduleDevicePolls hframe _

/-! ## Management actions -/

/-- Nothing that the hub keeps comes from an identification. -/
theorem spares_identifyDevice (argument : List UInt8) :
    hub.Spares id (engine.identifyDevice argument hub).2 := by
  by_cases h : ∃ dev request, engine.Identifies argument hub dev request
  · obtain ⟨dev, request, h⟩ := h
    rw [snd_identifyDevice h]
    exact hub.spares_block _
  · unfold identifyDevice
    cases hresolve : resolveDevice identifyDeviceAction argument hub with
    | mk result found =>
      cases found with
      | none => exact .refl id hub
      | some dev =>
        cases hbuilt : createIdentify engine.nodeId dev.nodeId with
        | none =>
          simp only [hbuilt]
          exact .refl id hub
        | some request => exact absurd ⟨dev, request, by rw [hresolve], hbuilt⟩ h

/-- A rename touches the device only with its readback. -/
theorem spares_renameDevice {argument : List UInt8}
    (h : ¬hub.Addresses (.requestDeviceName (normalizeDeviceIdArgument argument)) id)
    (newName : List UInt8) : hub.Spares id (engine.renameDevice argument newName hub).2 := by
  unfold renameDevice
  cases hresolve : resolveDevice renameDeviceAction argument hub with
  | mk result found =>
    cases found with
    | none => exact .refl id hub
    | some dev =>
      obtain ⟨hresult, -, -⟩ := resolveDevice_eq (congrArg Prod.snd hresolve)
      obtain ⟨rfl, -⟩ := Prod.mk.inj (hresolve.symm.trans hresult)
      dsimp only
      cases encodeDeviceNamePayload newName with
      | error nameError => exact .refl id hub
      | ok encoded =>
        obtain ⟨payload, name⟩ := encoded
        dsimp only
        cases createSetName engine.nodeId dev.nodeId payload.toList with
        | none => exact .refl id hub
        | some request =>
          have hsent : hub.Spares id (engine.afterExchange request hub) :=
            hub.spares_block (engine.exchanged request hub)
          dsimp only
          rw [sendAuthenticatedRequest_eq]
          cases hub.reply request with
          | none => exact hsent
          | some response =>
            dsimp only
            split_ifs
            · unfold applyErrorResponse
              split_ifs <;> exact hsent
            · exact hsent
            · rw [snd_verifyRename]
              exact hsent.trans (engine.spares_requestDeviceName _ h)

end ExchangeEngine

/-! ## Queueing -/

namespace OperationQueue

variable {q q' : OperationQueue} {id : DeviceId} {op : PendingOperation}

theorem operationsOf_append (p q : OperationQueue) (id : DeviceId) :
    operationsOf (p ++ q) id = operationsOf p id ++ operationsOf q id :=
  List.filter_append ..

theorem operationsOf_cons_of_ne (h : op.dispatch.device ≠ some id) (q : OperationQueue) :
    operationsOf (op :: q) id = operationsOf q id :=
  List.filter_cons_of_neg (by simpa using h)

theorem device_dispatch (h : op.type ≠ .discoverAndPair) :
    op.dispatch.device = some op.deviceId := by
  unfold PendingOperation.dispatch
  cases htype : op.type with
  | discoverAndPair => exact absurd htype h
  | setPosition | setTilt | setPositionAndTilt | deviceCommand | setLightState | setLockState
  | setSwitchState | requestStatus | requestName => rfl

/-- The dropped polls are the ones of the device itself. -/
theorem operationsOf_pushControl (h : op.dispatch.device ≠ some id) (hid : op.deviceId ≠ id) :
    (q.pushControl op).operationsOf id = q.operationsOf id := by
  unfold pushControl
  dsimp only
  rw [operationsOf_append, operationsOf_cons_of_ne h, ← operationsOf_append,
    List.takeWhile_append_dropWhile]
  unfold operationsOf
  rw [List.filter_filter]
  apply List.filter_congr
  intro o _
  cases hpending : isPendingStatus op.deviceId o with
  | false => simp
  | true =>
    obtain ⟨htype, ho⟩ : o.type = .requestStatus ∧ o.deviceId = op.deviceId := by
      simpa [isPendingStatus] using hpending
    rw [device_dispatch (by simp [htype]), ho]
    simp [hid]

theorem operationsOf_coalesced {other : PendingOperationType}
    {merge : PendingOperation → PendingOperation} (h : Coalesced q q' other merge op)
    (hop : op.dispatch.device ≠ some id) (hid : op.deviceId ≠ id)
    (hother : other ≠ .discoverAndPair)
    (hmerge : ∀ o : PendingOperation, (merge o).dispatch.device = some o.deviceId) :
    q'.operationsOf id = q.operationsOf id := by
  cases h with
  | merged hmerged =>
    obtain ⟨p, o, r, rfl, htype, hdevice, rfl⟩ := rewriteFirst_eq_some hmerged
    have ho : o.dispatch.device ≠ some id := by
      rw [device_dispatch (by rwa [htype]), hdevice]
      simpa using hid
    have hmerged : (merge o).dispatch.device ≠ some id := by
      rw [hmerge, hdevice]
      simpa using hid
    rw [operationsOf_append, operationsOf_append, operationsOf_cons_of_ne ho,
      operationsOf_cons_of_ne hmerged]
  | pushed _ hq =>
    rw [hq]
    exact operationsOf_pushControl hop hid

theorem operationsOf_enqueueBackground {type : PendingOperationType} {deviceId : DeviceId}
    (h : ({ type := type, deviceId } : PendingOperation).dispatch.device ≠ some id) :
    (q.enqueueBackground type deviceId).1.operationsOf id = q.operationsOf id := by
  unfold enqueueBackground
  split_ifs
  · rfl
  · show operationsOf (q ++ [_]) id = operationsOf q id
    rw [operationsOf_append, operationsOf_cons_of_ne h]
    exact List.append_nil _

theorem operationsOf_enqueueDiscoverAndPair (h : ¬q.HasBackground id) :
    q.enqueueDiscoverAndPair.1.operationsOf id = q.operationsOf id := by
  unfold enqueueDiscoverAndPair
  split_ifs
  · rfl
  · dsimp only
    rw [operationsOf_cons_of_ne (by simp [PendingOperation.dispatch, HubCall.device])]
    unfold operationsOf
    rw [List.filter_filter]
    apply List.filter_congr
    intro op hop
    cases hbackground : (op.type == .requestStatus || op.type == .requestName) with
    | false => simp
    | true =>
      have htype : op.type = .requestStatus ∨ op.type = .requestName := by
        simpa using hbackground
      have hdevice : op.dispatch.device = some op.deviceId := by
        apply device_dispatch
        rcases htype with htype | htype <;> simp [htype]
      have hne : op.deviceId ≠ id := fun heq => h ⟨op, hop, heq, htype⟩
      simp [hdevice, hne]

/-- A call leaves the operations of other devices in their order. Pairing drops polls. -/
theorem operationsOf_enqueue {call : HubCall} (h : call.device ≠ some id)
    (hcall : call = .discoverAndPair → ¬q.HasBackground id) :
    (q.enqueue call).operationsOf id = q.operationsOf id := by
  cases call with
  | setDevicePosition deviceId position =>
    have hid : deviceId ≠ id := fun heq => h (congrArg some heq)
    exact operationsOf_coalesced (q.coalesced_enqueueSetPosition deviceId position) h hid
      (by decide) fun o => rfl
  | setDeviceTilt deviceId tiltPercent =>
    have hid : deviceId ≠ id := fun heq => h (congrArg some heq)
    exact operationsOf_coalesced (q.coalesced_enqueueSetTilt deviceId tiltPercent) h hid
      (by decide) fun o => rfl
  | setDevicePositionAndTilt deviceId | executeDeviceCommand deviceId | setLightState deviceId
  | setLockState deviceId | setSwitchState deviceId =>
    have hid : deviceId ≠ id := fun heq => h (congrArg some heq)
    exact operationsOf_pushControl h hid
  | requestDeviceStatus | requestDeviceName => exact operationsOf_enqueueBackground h
  | discoverAndPair => exact operationsOf_enqueueDiscoverAndPair (hcall rfl)

end OperationQueue

namespace Hub

variable (hub : Hub) {id deviceId : DeviceId}

theorem spares_queueIf (accepts : IoDevice → Bool) (deviceId : DeviceId)
    {enqueue : OperationQueue → OperationQueue}
    (h : (enqueue hub.opQueue).operationsOf id = hub.opQueue.operationsOf id) :
    hub.Spares id (hub.queueIf accepts deviceId enqueue) := by
  have hqueued : hub.Spares id { hub with opQueue := enqueue hub.opQueue } := ⟨rfl, rfl, rfl, h⟩
  unfold queueIf
  cases hub.getDevice deviceId with
  | none => exact hqueued
  | some dev =>
    dsimp only
    split_ifs
    · exact hqueued
    · exact .refl id hub

/-- Pairing is the only call that drops the polls of other devices. -/
theorem spares_queue {call : HubCall} (h : call.device ≠ some id)
    (hcall : call = .discoverAndPair → ¬hub.opQueue.HasBackground id) :
    hub.Spares id (hub.queue call) := by
  have hqueue := OperationQueue.operationsOf_enqueue (q := hub.opQueue) h hcall
  cases call with
  | executeDeviceCommand deviceId cmd =>
    simp only [queue, queueDeviceCommand]
    split_ifs
    · exact .refl id hub
    · exact hub.spares_queueIf _ _ hqueue
  | requestDeviceName deviceId =>
    simp only [queue, queueRequestDeviceName]
    split_ifs
    · exact .refl id hub
    · exact ⟨rfl, rfl, rfl, hqueue⟩
  | discoverAndPair => exact ⟨rfl, rfl, rfl, hqueue⟩
  | setDevicePosition | setDeviceTilt | setDevicePositionAndTilt | setLightState | setLockState
  | setSwitchState | requestDeviceStatus =>
    dsimp only [queue]
    exact hub.spares_queueIf _ _ hqueue

theorem spares_queueRequestDeviceStatus (h : deviceId ≠ id) :
    hub.Spares id (hub.queueRequestDeviceStatus deviceId) := by
  have hdevice : (HubCall.requestDeviceStatus deviceId).device ≠ some id :=
    fun heq => h (Option.some_inj.1 heq)
  exact hub.spares_queue hdevice (by simp)

/-! ## Timers -/

theorem spares_fireRemotePoll (h : deviceId ≠ id) : hub.Spares id (hub.fireRemotePoll deviceId) := by
  unfold fireRemotePoll
  cases hub.remotePolls[deviceId]? with
  | none => exact .refl id hub
  | some due =>
    dsimp only
    split_ifs
    · exact .refl id hub
    · have herased : hub.Spares id { hub with remotePolls := hub.remotePolls.erase deviceId } := by
        refine ⟨rfl, rfl, ?_, rfl⟩
        simp [Std.TreeMap.getElem?_erase, h]
      exact herased.trans (spares_queueRequestDeviceStatus _ h)

/-- The time for the device's poll has come. -/
def Due (id : DeviceId) : Prop :=
  hub.pollPolicy.getNextUpdate id ≠ 0 ∧ hub.pollPolicy.getNextUpdate id < hub.now

theorem spares_pollDueDevice (h : ¬hub.Due id) : hub.Spares id hub.pollDueDevice := by
  have hentry : (hub.pollPolicy.popDueDevice hub.now).2.entry id = hub.pollPolicy.entry id := by
    rcases StatusPollPolicy.entry_popDueDevice hub.pollPolicy hub.now id with hsame | hdrained
    · exact hsame
    · have hnot : ¬((hub.pollPolicy.entry id).nextUpdate ≠ 0 ∧
          (hub.pollPolicy.entry id).nextUpdate < hub.now) := h
      rw [hdrained, PollTracking.drained, if_neg hnot]
  unfold pollDueDevice
  cases hdue : hub.pollPolicy.popDueDevice hub.now with
  | mk due pollPolicy =>
    rw [hdue] at hentry
    have hpopped : hub.Spares id { hub with pollPolicy } := ⟨rfl, hentry, rfl, rfl⟩
    cases due with
    | none => exact hpopped
    | some deviceId =>
      obtain ⟨hnext, hpast, -⟩ := StatusPollPolicy.isDue_of_popDueDevice (congrArg Prod.fst hdue)
      have hne : deviceId ≠ id := by
        rintro rfl
        exact h ⟨hnext, hpast⟩
      exact hpopped.trans (spares_queueRequestDeviceStatus _ hne)

end Hub

/-! ## Whole runs -/

namespace ExchangeEngine

variable (engine : ExchangeEngine) {hub : Hub} {id : DeviceId}

/-- The device is concerned by what happens to the hub. -/
def Concerns (id : DeviceId) (hub : Hub) : ComponentEvent → Prop
  | .hub (.packetReceived packet _) =>
    ∃ frame, parse packet.data = some frame ∧ hub.Names engine.nodeId frame id
  | .hub .pendingOperation =>
    ∃ op rest, hub.opQueue.pop = some (op, rest) ∧
      (hub.Addresses op.dispatch id ∨ op.dispatch = .discoverAndPair ∧
        ∃ d, engine.Pairs hub.pairingWorld d ∧ nodeIdToString d.src = id)
  | .hub .dueDevice => hub.Due id
  | .hub (.queued call) =>
    call.device = some id ∨ call = .discoverAndPair ∧ hub.opQueue.HasBackground id
  | .hub (.remotePoll deviceId) | .hub (.pollInterval deviceId _)
  | .hub (.deviceAdded deviceId _ _ _ _) | .hub (.optimisticTarget deviceId _)
  | .hub (.optimisticTargetCleared deviceId) => deviceId = id
  | .hub (.hop _) | .hub (.timePasses _) | .hub (.remoteLinked _ _) | .hub (.remoteClassLinked _ _)
  | .hub (.connection _) => False
  | .renameDevice deviceId _ =>
    hub.Addresses (.requestDeviceName (normalizeDeviceIdArgument deviceId)) id
  | .identifyDevice _ => False

theorem spares_processPendingOperation (h : ¬engine.Concerns id hub (.hub .pendingOperation)) :
    hub.Spares id (engine.processPendingOperation hub) := by
  unfold processPendingOperation
  cases hpop : hub.opQueue.pop with
  | none => exact .refl id hub
  | some next =>
    obtain ⟨op, rest⟩ := next
    have haddresses : ¬hub.Addresses op.dispatch id :=
      fun haddressed => h ⟨op, rest, hpop, .inl haddressed⟩
    have hpopped : hub.Spares id { hub with opQueue := rest } := by
      refine ⟨rfl, rfl, rfl, ?_⟩
      cases hq : hub.opQueue with
      | nil => rw [hq] at hpop; cases hpop
      | cons first q =>
        rw [hq] at hpop
        obtain ⟨rfl, rfl⟩ := Prod.mk.inj (Option.some.inj hpop)
        refine (OperationQueue.operationsOf_cons_of_ne (fun hdevice => ?_) _).symm
        exact haddresses ⟨id, hdevice, .inl rfl⟩
    refine hpopped.trans (engine.spares_execute _ haddresses fun hcall d hpairs hid => ?_)
    exact h ⟨op, rest, hpop, .inr ⟨hcall, d, hpairs, hid⟩⟩

/-- A step leaves a device alone that it does not concern. -/
theorem spares_componentStep {event : ComponentEvent} (h : ¬engine.Concerns id hub event) :
    hub.Spares id (engine.componentStep hub event) := by
  cases event with
  | renameDevice argument newName => exact engine.spares_renameDevice hub h newName
  | identifyDevice argument => exact engine.spares_identifyDevice hub argument
  | hub event =>
    cases event with
    | packetReceived packet rssi =>
      have hreceived : hub.Spares id (hub.receive packet rssi) := ⟨rfl, rfl, rfl, rfl⟩
      exact hreceived.trans (engine.spares_processReceivedPacket _ fun frame hparse hnames =>
        h ⟨frame, hparse, hnames⟩)
    | pendingOperation => exact engine.spares_processPendingOperation h
    | hop due =>
      show hub.Spares id (hub.maybeHop due)
      unfold Hub.maybeHop
      split_ifs
      · exact ⟨rfl, rfl, rfl, rfl⟩
      · exact .refl id hub
    | dueDevice => exact hub.spares_pollDueDevice h
    | queued call =>
      obtain ⟨hdevice, hcall⟩ := not_or.1 h
      exact hub.spares_queue hdevice fun heq hbackground => hcall ⟨heq, hbackground⟩
    | remotePoll deviceId => exact hub.spares_fireRemotePoll h
    | pollInterval deviceId intervalMs =>
      have hne : deviceId ≠ id := h
      show hub.Spares id (hub.setDeviceStatusPollInterval deviceId intervalMs)
      unfold Hub.setDeviceStatusPollInterval
      split_ifs
      · exact .refl id hub
      · apply hub.spares_mapPolicy
        rw [StatusPollPolicy.entry_setInterval, if_neg hne]
    | deviceAdded deviceId type subtype inverted optimisticState =>
      have hne : deviceId ≠ id := h
      apply hub.spares_registry
      unfold DeviceRegistry.add
      split_ifs
      · rfl
      · cases hexToBytes deviceId with
        | none => rfl
        | some nodeId => rw [DeviceRegistry.get_put, if_neg hne]
    | optimisticTarget deviceId target => exact hub.spares_updateOptimistic h _
    | optimisticTargetCleared deviceId => exact hub.spares_updateOptimistic h _
    | timePasses | remoteLinked | remoteClassLinked | connection => exact ⟨rfl, rfl, rfl, rfl⟩

/-- In every run a device keeps its record, its place in the poll schedule, its timeout and its
operations for as long as nothing that happens concerns it. -/
theorem device_isolated (hub : Hub) (id : DeviceId) (events : List ComponentEvent)
    (h : Guarded engine.componentStep (fun hub event => ¬engine.Concerns id hub event) hub events) :
    hub.Spares id (run engine.componentStep hub events) := by
  induction events generalizing hub with
  | nil => exact .refl id hub
  | cons event events ih =>
    obtain ⟨hevent, hrest⟩ := guarded_cons.1 h
    exact (engine.spares_componentStep hevent).trans (ih _ hrest)

end ExchangeEngine

/-! ## Moving one of two shutters -/

/-- A hub with two shutters that nobody has moved yet. -/
def twoShutters : Hub where
  exchange := { script := { sends := [], windows := [], challenges := [], rssis := [] } }
  registry := (DeviceRegistry.add {} "654321" .rollerShutter 0 false true).add
    "ABCDEF" .rollerShutter 0 false true
  elapsedMs := 10000

theorem device_isolated_twoShutters :
    twoShutters.Spares "ABCDEF" (run sampleEngine.componentStep twoShutters
      [.hub (.queued (.setDevicePosition "654321" 50)), .hub .pendingOperation]) := by
  refine sampleEngine.device_isolated twoShutters "ABCDEF" _
    (guarded_cons.2 ⟨?_, guarded_cons.2 ⟨?_, guarded_nil⟩⟩)
  · rintro (hdevice | ⟨hcall, -⟩)
    · exact absurd hdevice (by decide)
    · cases hcall
  · rintro ⟨op, rest, hpop, haddressed⟩
    have hop : op.dispatch = .setDevicePosition "654321" 50 := by
      have hdispatch : (sampleEngine.componentStep twoShutters
          (.hub (.queued (.setDevicePosition "654321" 50)))).opQueue.pop.map
            (fun next => next.1.dispatch) = some (.setDevicePosition "654321" 50) := by
        decide +kernel
      rw [hpop] at hdispatch
      exact Option.some.inj hdispatch
    have hnode : ((sampleEngine.componentStep twoShutters
        (.hub (.queued (.setDevicePosition "654321" 50)))).getDevice "654321").all
          (fun dev => nodeIdToString dev.nodeId ≠ "ABCDEF") = true := by
      decide +kernel
    rw [hop] at haddressed
    rcases haddressed with ⟨deviceId, hdevice, haddressed⟩ | ⟨hpairing, -⟩
    · cases hdevice
      rcases haddressed with heq | ⟨dev, hdev, heq⟩
      · exact absurd heq (by decide)
      · rw [hdev] at hnode
        simp [heq] at hnode
    · cases hpairing

end HomeIoControl
