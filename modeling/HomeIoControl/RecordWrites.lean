import HomeIoControl.MetadataSteps
import HomeIoControl.OneWayFrames

namespace HomeIoControl

/-! ## What a frame does to the record of its sender -/

namespace IoDevice

variable (dev : IoDevice)

theorem normalizeStoppedState_writes :
    ∃ isStopped, dev.normalizeStoppedState = { dev with isStopped } := by
  unfold normalizeStoppedState
  split_ifs
  · exact ⟨_, rfl⟩
  · exact ⟨_, rfl⟩

theorem decodeStatusFields_writes (frame : IoFrame) (targetOffset currentOffset : ℕ)
    (allowTilt : Bool) :
    ∃ position tilt target isStopped,
      dev.decodeStatusFields frame targetOffset currentOffset allowTilt =
        { dev with position, tilt, target, isStopped } := by
  unfold decodeStatusFields
  dsimp only
  generalize decodePositionReport _ _ dev.isStopped = report
  obtain ⟨isStopped, hnormalized⟩ :=
    { dev with target := report.target, position := report.position }.normalizeStoppedState_writes
  rw [hnormalized]
  split_ifs
  · exact ⟨_, _, _, _, rfl⟩
  · exact ⟨_, _, _, _, rfl⟩

theorem applyPrivateResponse_writes (frame : IoFrame) (trustPosition : Bool) (now : Millis) :
    ∃ position tilt target isStopped, dev.applyPrivateResponse frame trustPosition now =
      { dev with position, tilt, target, isStopped, lastStatus := now } := by
  unfold applyPrivateResponse
  dsimp only
  split_ifs
  · obtain ⟨position, tilt, target, isStopped, hdecoded⟩ := decodeStatusFields_writes _ frame
      privateResponseTargetOffset privateResponseCurrentOffset true
    rw [hdecoded]
    exact ⟨_, _, _, _, rfl⟩
  · obtain ⟨isStopped, hnormalized⟩ := normalizeStoppedState_writes _
    rw [hnormalized]
    exact ⟨_, _, _, _, rfl⟩

theorem applyStatusUpdate_writes (frame : IoFrame) (now : Millis) :
    ∃ position tilt target isStopped, dev.applyStatusUpdate frame now =
      { dev with position, tilt, target, isStopped, lastStatus := now } := by
  unfold applyStatusUpdate
  dsimp only
  obtain ⟨position, tilt, target, isStopped, hdecoded⟩ := decodeStatusFields_writes _ frame
    statusUpdateTargetOffset statusUpdateCurrentOffset false
  rw [hdecoded]
  exact ⟨_, _, _, _, rfl⟩

theorem applyInfo2Response_writes (frame : IoFrame) :
    ∃ type subtype inverted,
      dev.applyInfo2Response frame = { dev with type := type, subtype, inverted } := by
  unfold applyInfo2Response
  dsimp only
  split_ifs
  · exact ⟨_, _, _, rfl⟩
  · exact ⟨_, _, _, rfl⟩

/-- The record after a frame of the device, apart from its link health. A frame that is too short
changes nothing. -/
def mergeFrame (frame : IoFrame) (trustPosition : Bool) (now : Millis) : IoDevice :=
  if frame.cmd = cmdPrivateResp then
    if frame.dataLen < privateResponseMinDataLen then dev
    else (dev.applyPrivateResponse frame trustPosition now).clearCommandResult
  else if frame.cmd = cmdStatusUpdate then
    if frame.dataLen < statusUpdateMinDataLen then dev
    else (dev.applyStatusUpdate frame now).clearCommandResult
  else if frame.cmd = cmdGetNameResp then
    if frame.dataLen < getNameResponseMinDataLen then dev else dev.applyNameResponse frame
  else if frame.cmd = cmdGetInfo2Resp then
    if frame.dataLen < getInfo2ResponseMinDataLen then dev else dev.applyInfo2Response frame
  else if frame.cmd = cmdErrorResp then
    if frame.dataLen < errorResponseMinDataLen then dev
    else dev.recordCommandResult (frame.byte 0) now
  else dev

def nameAfter (frame : IoFrame) : Vector UInt8 32 :=
  if frame.cmd = cmdGetNameResp ∧ getNameResponseMinDataLen ≤ frame.dataLen then
    nameBuffer (decodeDeviceNamePayload frame.payload)
  else dev.name

/-- A frame writes no address and no link health, and the name only as an answer with a name. -/
theorem mergeFrame_writes (frame : IoFrame) (trustPosition : Bool) (now : Millis) :
    ∃ type subtype position tilt target isStopped inverted lastResultCode lastResultAtMs lastStatus,
      dev.mergeFrame frame trustPosition now =
        { dev with
          name := dev.nameAfter frame
          type := type, subtype, position, tilt, target, isStopped, inverted, lastResultCode,
          lastResultAtMs, lastStatus } := by
  by_cases hname : frame.cmd = cmdGetNameResp
  · have hprivate : ¬frame.cmd = cmdPrivateResp := by
      rw [hname]
      decide
    have hupdate : ¬frame.cmd = cmdStatusUpdate := by
      rw [hname]
      decide
    unfold mergeFrame nameAfter
    rw [if_neg hprivate, if_neg hupdate, if_pos hname]
    by_cases hlen : frame.dataLen < getNameResponseMinDataLen
    · rw [if_pos hlen, if_neg fun h => Nat.not_le.2 hlen h.2]
      exact ⟨_, _, _, _, _, _, _, _, _, _, rfl⟩
    · rw [if_neg hlen, if_pos ⟨hname, Nat.not_lt.1 hlen⟩, applyNameResponse]
      exact ⟨_, _, _, _, _, _, _, _, _, _, rfl⟩
  · rw [nameAfter, if_neg fun h => hname h.1, mergeFrame, if_neg hname]
    split_ifs
    · exact ⟨_, _, _, _, _, _, _, _, _, _, rfl⟩
    · obtain ⟨position, tilt, target, isStopped, hresult⟩ :=
        dev.applyPrivateResponse_writes frame trustPosition now
      rw [hresult, clearCommandResult]
      exact ⟨_, _, _, _, _, _, _, _, _, _, rfl⟩
    · exact ⟨_, _, _, _, _, _, _, _, _, _, rfl⟩
    · obtain ⟨position, tilt, target, isStopped, hresult⟩ := dev.applyStatusUpdate_writes frame now
      rw [hresult, clearCommandResult]
      exact ⟨_, _, _, _, _, _, _, _, _, _, rfl⟩
    · exact ⟨_, _, _, _, _, _, _, _, _, _, rfl⟩
    · obtain ⟨type, subtype, inverted, hresult⟩ := dev.applyInfo2Response_writes frame
      rw [hresult]
      exact ⟨_, _, _, _, _, _, _, _, _, _, rfl⟩
    · exact ⟨_, _, _, _, _, _, _, _, _, _, rfl⟩
    · rw [recordCommandResult]
      exact ⟨_, _, _, _, _, _, _, _, _, _, rfl⟩
    · exact ⟨_, _, _, _, _, _, _, _, _, _, rfl⟩

@[simp] theorem name_mergeFrame (frame : IoFrame) (trustPosition : Bool) (now : Millis) :
    (dev.mergeFrame frame trustPosition now).name = dev.nameAfter frame := by
  obtain ⟨type, subtype, position, tilt, target, isStopped, inverted, lastResultCode,
    lastResultAtMs, lastStatus, hresult⟩ := dev.mergeFrame_writes frame trustPosition now
  rw [hresult]

@[simp] theorem lastSeenMs_mergeFrame (frame : IoFrame) (trustPosition : Bool) (now : Millis) :
    (dev.mergeFrame frame trustPosition now).lastSeenMs = dev.lastSeenMs := by
  obtain ⟨type, subtype, position, tilt, target, isStopped, inverted, lastResultCode,
    lastResultAtMs, lastStatus, hresult⟩ := dev.mergeFrame_writes frame trustPosition now
  rw [hresult]

end IoDevice

namespace Hub

/-- A status frame writes the record of its sender and no other. -/
theorem registry_updateDeviceStatus (hub : Hub) (frame : IoFrame) (trustPosition : Bool) :
    (hub.updateDeviceStatus frame trustPosition).registry =
      hub.registry.update (nodeIdToString frame.src) fun dev =>
        (hub.heardFrom dev).mergeFrame frame trustPosition hub.now := by
  unfold DeviceRegistry.update updateDeviceStatus IoDevice.mergeFrame
  dsimp only
  cases hub.registry.get (nodeIdToString frame.src) with
  | none => rfl
  | some dev =>
    dsimp only
    split_ifs <;> rfl

theorem exchange_updateDeviceStatus (hub : Hub) (frame : IoFrame) (trustPosition : Bool) :
    (hub.updateDeviceStatus frame trustPosition).exchange = hub.exchange := by
  obtain ⟨registry, pollPolicy, decoded, hresult⟩ :=
    hub.updateDeviceStatus_writes frame trustPosition
  rw [hresult]

theorem elapsedMs_updateDeviceStatus (hub : Hub) (frame : IoFrame) (trustPosition : Bool) :
    (hub.updateDeviceStatus frame trustPosition).elapsedMs = hub.elapsedMs := by
  obtain ⟨registry, pollPolicy, decoded, hresult⟩ :=
    hub.updateDeviceStatus_writes frame trustPosition
  rw [hresult]

end Hub

/-! ## What a 1W frame does -/

def OneWayFrameInfo.mismatches (info : OneWayFrameInfo) (dev : IoDevice) : Bool :=
  info.targetType != .unknown && dev.type != .unknown && dev.type != info.targetType

def IoDevice.followsIntent (dev : IoDevice) (info : OneWayFrameInfo) : Bool :=
  dev.optimisticState && !info.mismatches dev

/-- The target and the stopped flag that the intent of a 1W frame announces. -/
def OneWayFrameInfo.motion (info : OneWayFrameInfo) : Option (ℚ × Bool) :=
  if info.main0 = posStop then some (unknownPosition, true)
  else (onewayIntentToTarget info.main0).map fun target => (target, false)

def IoDevice.applyIntent (dev : IoDevice) (info : OneWayFrameInfo) : IoDevice :=
  match info.motion with
  | none => dev
  | some (target, isStopped) =>
    if dev.followsIntent info then { dev with target, isStopped } else dev

/-- What the intent looks at is not written. -/
theorem IoDevice.applyIntent_applyIntent (dev : IoDevice) (info : OneWayFrameInfo) :
    (dev.applyIntent info).applyIntent info = dev.applyIntent info := by
  unfold applyIntent
  cases info.motion with
  | none => rfl
  | some motion =>
    dsimp only
    cases hfollows : dev.followsIntent info with
    | false => simp [hfollows]
    | true => exact if_pos hfollows

theorem IoDevice.lastSeenMs_applyIntent (dev : IoDevice) (info : OneWayFrameInfo) :
    (dev.applyIntent info).lastSeenMs = dev.lastSeenMs := by
  unfold applyIntent
  cases info.motion with
  | none => rfl
  | some motion =>
    dsimp only
    split_ifs <;> rfl

namespace Hub

theorem applyOptimisticLinkedDevice_eq (info : OneWayFrameInfo) (r : DeviceRegistry)
    (deviceId : DeviceId) :
    applyOptimisticLinkedDevice info r deviceId =
      match info.motion with
      | none => r
      | some (target, isStopped) =>
        if (r.get deviceId).any info.mismatches then r
        else (r.updateOptimistic deviceId fun dev => { dev with target, isStopped }).2 := by
  unfold applyOptimisticLinkedDevice OneWayFrameInfo.motion
  by_cases hstop : info.main0 = posStop
  · rw [if_pos hstop, if_pos hstop]
    cases r.get deviceId with
    | none => rfl
    | some dev => rfl
  · rw [if_neg hstop, if_neg hstop]
    cases onewayIntentToTarget info.main0 with
    | none => simp
    | some target =>
      cases r.get deviceId with
      | none => rfl
      | some dev => rfl

theorem get_applyOptimisticLinkedDevice (info : OneWayFrameInfo) (r : DeviceRegistry)
    (deviceId other : DeviceId) :
    (applyOptimisticLinkedDevice info r deviceId).get other =
      if deviceId = other then (r.get other).map fun dev => dev.applyIntent info
      else r.get other := by
  rw [applyOptimisticLinkedDevice_eq]
  unfold IoDevice.applyIntent
  cases info.motion with
  | none => simp
  | some motion =>
    dsimp only
    by_cases heq : deviceId = other
    · subst heq
      cases hdev : r.get deviceId with
      | none => simp [hdev, DeviceRegistry.get_updateOptimistic]
      | some dev =>
        rw [if_pos rfl, Option.any_some, Option.map_some, IoDevice.followsIntent]
        cases hmismatch : info.mismatches dev with
        | true => simp [hdev]
        | false => simp [hdev, DeviceRegistry.get_updateOptimistic]
    · split_ifs
      · rfl
      · rw [DeviceRegistry.get_updateOptimistic, if_neg heq]

/-- Each device that the frame concerns gets its intent once. -/
theorem get_foldl_applyOptimisticLinkedDevice (info : OneWayFrameInfo) (r : DeviceRegistry)
    (deviceIds : List DeviceId) (other : DeviceId) :
    (deviceIds.foldl (applyOptimisticLinkedDevice info) r).get other =
      if other ∈ deviceIds then (r.get other).map fun dev => dev.applyIntent info
      else r.get other := by
  induction deviceIds generalizing r with
  | nil => rfl
  | cons deviceId rest ih =>
    rw [List.foldl_cons, ih, get_applyOptimisticLinkedDevice]
    by_cases heq : deviceId = other
    · rw [if_pos heq, if_pos (List.mem_cons.2 (.inl heq.symm))]
      split_ifs
      · rw [Option.map_map]
        exact congrArg (Option.map · (r.get other))
          (funext fun dev => dev.applyIntent_applyIntent info)
      · rfl
    · have hmem : other ∈ deviceId :: rest ↔ other ∈ rest := by
        rw [List.mem_cons, or_iff_right (Ne.symm heq)]
      simp only [heq, if_false, hmem]

theorem mem_foldl_insert {ids : List DeviceId} {others : List DeviceId} {deviceId : DeviceId} :
    deviceId ∈ others.foldl (fun ids id => if id ∈ ids then ids else ids ++ [id]) ids ↔
      deviceId ∈ ids ∨ deviceId ∈ others := by
  induction others generalizing ids with
  | nil => simp
  | cons id rest ih =>
    rw [List.foldl_cons, ih, List.mem_cons]
    split_ifs with hmem
    · constructor
      · exact Or.imp_right Or.inr
      · rintro (h | rfl | h)
        · exact .inl h
        · exact .inl hmem
        · exact .inr h
    · rw [List.mem_append, List.mem_singleton, or_assoc]

def targets1w (hub : Hub) (frame : IoFrame) : List DeviceId :=
  hub.resolve1wTargetDevices (decode1wFrame frame) (nodeIdToString frame.src)

theorem mem_targets1w_iff {hub : Hub} {frame : IoFrame} {deviceId : DeviceId} :
    deviceId ∈ hub.targets1w frame ↔
      deviceId ∈ hub.registry.linkedDevices (nodeIdToString frame.src) ∨
        ((decode1wFrame frame).addressClass = .broadcastType ∧
          (decode1wFrame frame).targetType ≠ .unknown) ∧
          deviceId ∈ hub.registry.linkedDevicesForClass (decode1wFrame frame).targetType := by
  unfold targets1w resolve1wTargetDevices
  dsimp only
  split_ifs with htyped
  · rw [mem_foldl_insert, and_iff_right htyped]
  · rw [or_iff_left fun h => htyped h.1]

/-- A 1W frame that is no repeat and has an intent. -/
def Moves1w (hub : Hub) (frame : IoFrame) : Prop :=
  ¬hub.Suppresses frame ∧ (decode1wFrame frame).hasIntent = true

instance (hub : Hub) : DecidablePred hub.Moves1w := fun _ => inferInstanceAs (Decidable (_ ∧ _))

theorem get_process1wFrame (hub : Hub) (frame : IoFrame) (deviceId : DeviceId) :
    (hub.process1wFrame frame).registry.get deviceId =
      if hub.Moves1w frame ∧ deviceId ∈ hub.targets1w frame then
        (hub.registry.get deviceId).map fun dev => dev.applyIntent (decode1wFrame frame)
      else hub.registry.get deviceId := by
  rw [process1wFrame_eq]
  by_cases hrepeat : hub.Suppresses frame
  · rw [if_pos hrepeat, if_neg fun h => h.1.1 hrepeat]
  · rw [if_neg hrepeat]
    unfold handle1wFrame
    dsimp only
    generalize hfired : Hub.maybeFireSenderEvent _ _ _ _ = fired
    have hregistry : fired.registry = hub.registry := by
      rw [← hfired, registry_maybeFireSenderEvent]
      rfl
    have htargets : fired.resolve1wTargetDevices (decode1wFrame frame) (nodeIdToString frame.src) =
        hub.targets1w frame := by
      unfold targets1w resolve1wTargetDevices
      rw [hregistry]
    rw [registry_scheduleDevicePolls, htargets]
    unfold applyOptimisticLinkedState
    cases hintent : (decode1wFrame frame).hasIntent with
    | false =>
      have hnot : ¬(hub.Moves1w frame ∧ deviceId ∈ hub.targets1w frame) :=
        fun h => absurd (h.1.2.symm.trans hintent) (by decide)
      rw [if_neg hnot, if_pos (by decide), hregistry]
    | true =>
      simp only [Bool.not_true, Bool.false_eq_true, if_false]
      rw [get_foldl_applyOptimisticLinkedDevice, hregistry]
      simp only [Moves1w, hrepeat, hintent, not_false_iff, true_and]

end Hub

/-! ## What a received packet does -/

namespace ExchangeEngine

variable (engine : ExchangeEngine)

/-- The frame reports the state of its sender. One that is addressed to this controller has to be
authenticated. -/
def Reports (freqHz : ℕ) (hub : Hub) (frame : IoFrame) : Prop :=
  frame.is1W = false ∧ (frame.cmd = cmdPrivateResp ∨ frame.cmd = cmdStatusUpdate) ∧
    (frame.cmd = cmdStatusUpdate → frame.dst = engine.nodeId →
      (engine.authenticateRequest frame freqHz hub.exchange).1 = true)

theorem acceptStatusUpdate_of_authenticated {frame : IoFrame} {freqHz : ℕ} {hub : Hub}
    (h : (engine.authenticateRequest frame freqHz hub.exchange).1 = true) :
    ∃ hub' : Hub, hub'.registry = hub.registry ∧
      engine.acceptStatusUpdate frame freqHz hub = hub'.updateDeviceStatus frame true := by
  obtain ⟨resp, hresp⟩ : ∃ resp, createStatusUpdateResp engine.nodeId frame.src = some resp :=
    exists_buildFrame _ _ _ _ _ _ (by decide)
  unfold acceptStatusUpdate
  generalize engine.authenticateRequest frame freqHz hub.exchange = authenticated at h
  obtain ⟨ok, s⟩ := authenticated
  obtain rfl : ok = true := h
  dsimp only
  rw [hresp]
  refine ⟨engine.hubTransmit resp freqCh3 (engine.hubTransmit resp freqCh2
    (engine.hubTransmit resp freqCh1 (hub.block s))), rfl, rfl⟩

theorem acceptStatusUpdate_of_not_authenticated {frame : IoFrame} {freqHz : ℕ} {hub : Hub}
    (h : (engine.authenticateRequest frame freqHz hub.exchange).1 = false) :
    ∃ s, engine.acceptStatusUpdate frame freqHz hub = hub.block s := by
  unfold acceptStatusUpdate
  generalize engine.authenticateRequest frame freqHz hub.exchange = authenticated at h
  obtain ⟨ok, s⟩ := authenticated
  obtain rfl : ok = false := h
  exact ⟨s, rfl⟩

variable {engine} {packet : RadioRxPacket} {frame : IoFrame} {hub : Hub}

/-- A report is merged into the record of its sender. -/
theorem processReceivedPacket_of_reports (hparse : parse packet.data = some frame)
    (h : engine.Reports packet.freqHz hub frame) :
    ∃ hub' : Hub, hub'.registry = hub.registry ∧
      engine.processReceivedPacket packet hub = hub'.updateDeviceStatus frame true := by
  obtain ⟨h2w, hcmd, hauthenticated⟩ := h
  have hinternal : isExchangeInternalCommand frame.cmd = false := by
    rcases hcmd with hcmd | hcmd <;> rw [hcmd] <;> decide
  unfold processReceivedPacket
  rw [hparse]
  dsimp only
  rw [if_neg (by simp [hinternal]), if_neg (by simp [h2w])]
  by_cases haddressed : frame.cmd = cmdStatusUpdate ∧ frame.dst = engine.nodeId
  · rw [if_pos haddressed]
    exact engine.acceptStatusUpdate_of_authenticated (hauthenticated haddressed.1 haddressed.2)
  · rw [if_neg haddressed, if_pos hcmd]
    exact ⟨hub, rfl, rfl⟩

theorem refused_of_not_reports {freqHz : ℕ} (h : ¬engine.Reports freqHz hub frame)
    (h2w : frame.is1W = false) (hcmd : frame.cmd = cmdStatusUpdate) :
    (engine.authenticateRequest frame freqHz hub.exchange).1 = false := by
  rw [← Bool.not_eq_true]
  intro hok
  exact h ⟨h2w, .inr hcmd, fun _ _ => hok⟩

theorem processReceivedPacket_of_not_authenticated (hparse : parse packet.data = some frame)
    (h2w : frame.is1W = false) (hcmd : frame.cmd = cmdStatusUpdate)
    (hdst : frame.dst = engine.nodeId)
    (h : (engine.authenticateRequest frame packet.freqHz hub.exchange).1 = false) :
    ∃ s, engine.processReceivedPacket packet hub = hub.block s := by
  have hinternal : ¬isExchangeInternalCommand frame.cmd = true := by
    rw [hcmd]
    decide
  unfold processReceivedPacket
  rw [hparse]
  dsimp only
  rw [if_neg hinternal, if_neg (by simp [h2w]), if_pos ⟨hcmd, hdst⟩]
  exact engine.acceptStatusUpdate_of_not_authenticated h

/-- Any other frame than a report or one of a 1W sender writes no record. -/
theorem registry_processReceivedPacket_of_not_reports (hparse : parse packet.data = some frame)
    (h : ¬engine.Reports packet.freqHz hub frame)
    (h1w : ¬(isExchangeInternalCommand frame.cmd = false ∧ frame.is1W = true)) :
    (engine.processReceivedPacket packet hub).registry = hub.registry := by
  by_cases hrefused : frame.is1W = false ∧ frame.cmd = cmdStatusUpdate ∧ frame.dst = engine.nodeId
  · obtain ⟨h2w, hcmd, hdst⟩ := hrefused
    obtain ⟨s, hresult⟩ := processReceivedPacket_of_not_authenticated hparse h2w hcmd hdst
      (refused_of_not_reports h h2w hcmd)
    rw [hresult]
    rfl
  · unfold processReceivedPacket
    rw [hparse]
    dsimp only
    split_ifs with hinternal his1w haddressed hreport
    · rfl
    · exact absurd ⟨by simpa using hinternal, his1w⟩ h1w
    · exact absurd ⟨by simpa using his1w, haddressed⟩ hrefused
    · refine absurd ⟨by simpa using his1w, hreport, fun hcmd hdst => ?_⟩ h
      exact absurd ⟨hcmd, hdst⟩ haddressed
    · rfl
    · exact hub.registry_beginStatusPollTracking _ 0
    · exact hub.registry_scheduleDevicePolls _ _

end ExchangeEngine

/-! ## What a request does -/

namespace ExchangeEngine

variable (engine : ExchangeEngine)

def exchanged (request : IoFrame) (hub : Hub) : EngineState :=
  (engine.sendAndReceive request .zero freqCh2 hub.exchange).2.2

theorem sendAndReceive_eq_exchanged (request : IoFrame) (hub : Hub) :
    engine.sendAndReceive request .zero freqCh2 hub.exchange =
      ((hub.reply request).isSome, (hub.reply request).getD .zero,
        engine.exchanged request hub) := by
  obtain ⟨hsuccess, hanswer, -⟩ := engine.sendAndReceive_eq request .zero freqCh2 hub.exchange
  exact Prod.ext hsuccess (Prod.ext hanswer rfl)

def afterExchange (request : IoFrame) (hub : Hub) : Hub :=
  hub.block (engine.exchanged request hub)

/-- A refusal is noted in the record of the addressee. -/
def recordRefusal (hub : Hub) (response : IoFrame) (dev : IoDevice) : IoDevice :=
  let dev := hub.heardFrom dev
  if response.dataLen = 0 then dev else dev.recordCommandResult (response.byte 0) hub.now

theorem lastSeenMs_recordRefusal (hub : Hub) (response : IoFrame) (dev : IoDevice) :
    (recordRefusal hub response dev).lastSeenMs = hub.now := by
  unfold recordRefusal
  dsimp only
  split_ifs <;> rfl

def replyRegistry (deviceId : DeviceId) (request : IoFrame) (hub : Hub) : DeviceRegistry :=
  let after := engine.afterExchange request hub
  match hub.reply request with
  | none =>
    hub.registry.update deviceId fun dev =>
      dev.recordExchangeTimeout after.exchange.status.debug.tries
  | some f =>
    if f.cmd = cmdErrorResp then hub.registry.update deviceId (recordRefusal after f)
    else
      hub.registry.update (nodeIdToString f.src) fun dev =>
        (after.heardFrom dev).mergeFrame f (request.cmd != cmdExecute) after.now

/-- A request writes the registry by its reply. The radio and the clock are those after the
exchange. -/
theorem executeRequestAndUpdate_writes (deviceId : DeviceId) (request : IoFrame)
    (retryAfterFailMs : Millis) (hub : Hub) :
    let after := (engine.executeRequestAndUpdate deviceId request retryAfterFailMs hub).2
    after.registry = engine.replyRegistry deviceId request hub ∧
      after.exchange = engine.exchanged request hub ∧
      after.elapsedMs = (engine.afterExchange request hub).elapsedMs := by
  unfold executeRequestAndUpdate replyRegistry
  rw [sendAndReceive_eq_exchanged]
  cases hreply : hub.reply request with
  | none =>
    simp only [Option.isSome_none]
    split_ifs <;> exact ⟨rfl, rfl, rfl⟩
  | some f =>
    simp only [Option.isSome_some, Option.getD_some]
    by_cases hcmd : f.cmd = cmdErrorResp
    · rw [if_pos hcmd, if_pos hcmd]
      by_cases hretry : retryAfterFailMs ≠ 0
      · rw [if_pos hretry]
        exact ⟨rfl, rfl, rfl⟩
      · rw [if_neg hretry]
        exact ⟨rfl, rfl, rfl⟩
    · rw [if_neg hcmd, if_neg hcmd]
      dsimp only
      rw [Hub.registry_updateDeviceStatus, Hub.exchange_updateDeviceStatus,
        Hub.elapsedMs_updateDeviceStatus]
      split_ifs <;> exact ⟨rfl, rfl, rfl⟩

/-! ## What a call does -/

variable {engine} {command : ControlCommand} {dev : IoDevice} {request : IoFrame}

theorem beginCommand_writes (hub : Hub) (deviceId : DeviceId) :
    ∃ pollPolicy, hub.beginCommand deviceId = { hub with pollPolicy } := by
  unfold Hub.beginCommand Hub.beginStatusPollTracking
  split_ifs
  · exact ⟨_, rfl⟩
  · exact ⟨_, rfl⟩

/-- Around the request of a movement command only the schedule changes. -/
theorem control_writes (htakes : hub.Takes command.deviceId command.accepts dev)
    (hbuild : command.build dev = some request) :
    (engine.control command hub).2.registry =
        engine.replyRegistry command.deviceId request hub ∧
      (engine.control command hub).2.elapsedMs = (engine.afterExchange request hub).elapsedMs := by
  obtain ⟨begunPolicy, hbegun⟩ := beginCommand_writes hub command.deviceId
  obtain ⟨hregistry, -, helapsed⟩ := engine.executeRequestAndUpdate_writes command.deviceId
    request 0 (hub.beginCommand command.deviceId)
  have hexecuted : ∃ pollPolicy, (engine.control command hub).2 =
      { (engine.executeRequestAndUpdate command.deviceId request 0
          (hub.beginCommand command.deviceId)).2 with pollPolicy } := by
    unfold control
    rw [engine.controlDevice_of_takes htakes hbuild]
    generalize engine.executeRequestAndUpdate command.deviceId request 0
      (hub.beginCommand command.deviceId) = executed
    obtain ⟨ok, after⟩ := executed
    cases ok with
    | false => exact ⟨_, rfl⟩
    | true =>
      dsimp only
      split_ifs
      · obtain ⟨rearmed, hrearmed⟩ := beginCommand_writes after command.deviceId
        obtain ⟨capped, hcapped⟩ := Hub.capStopPoll_writes { after with pollPolicy := rearmed }
          command.deviceId
        rw [hrearmed, hcapped]
        exact ⟨_, rfl⟩
      · obtain ⟨capped, hcapped⟩ := Hub.capStopPoll_writes after command.deviceId
        rw [hcapped]
        exact ⟨_, rfl⟩
      · obtain ⟨rearmed, hrearmed⟩ := beginCommand_writes after command.deviceId
        rw [hrearmed]
        exact ⟨_, rfl⟩
      · exact ⟨_, rfl⟩
  obtain ⟨pollPolicy, hexecuted⟩ := hexecuted
  rw [hexecuted]
  rw [hbegun] at hregistry helapsed ⊢
  exact ⟨hregistry, helapsed⟩

theorem registry_control_of_not_sent
    (h : hub.requestIf command.deviceId command.accepts command.build = none) :
    (engine.control command hub).2.registry = hub.registry := by
  by_cases htakes : ∃ dev, hub.Takes command.deviceId command.accepts dev
  · obtain ⟨dev, htakes⟩ := htakes
    rw [Hub.requestIf_of_takes htakes] at h
    rw [engine.control_of_not_built htakes h]
    exact hub.registry_beginStatusPollTracking _ _
  · rw [engine.control_of_not_takes fun dev hdev => htakes ⟨dev, hdev⟩]

end ExchangeEngine

def HubCall.device : HubCall → Option DeviceId
  | setDevicePosition deviceId _ | setDeviceTilt deviceId _
  | setDevicePositionAndTilt deviceId _ _ | executeDeviceCommand deviceId _
  | setLightState deviceId _ | setLockState deviceId _ | setSwitchState deviceId _
  | requestDeviceStatus deviceId | requestDeviceName deviceId => some deviceId
  | discoverAndPair => none

namespace ExchangeEngine

variable {engine : ExchangeEngine} {hub : Hub} {call : HubCall} {request : IoFrame}

/-- A call with a control command is about the command's device and sends its request. -/
theorem control_of_controlCommand {command : ControlCommand}
    (h : engine.controlCommand call = some command) :
    call.device = some command.deviceId ∧
      ∀ hub : Hub, engine.sentRequest call hub =
        hub.requestIf command.deviceId command.accepts command.build := by
  cases call with
  | requestDeviceStatus | requestDeviceName | discoverAndPair => cases h
  | setDevicePosition | setDeviceTilt | setDevicePositionAndTilt | executeDeviceCommand
  | setLightState | setLockState | setSwitchState =>
    obtain rfl := Option.some.inj h
    exact ⟨rfl, fun _ => rfl⟩

theorem execute_writes (hsent : engine.sentRequest call hub = some request) :
    ∃ deviceId, call.device = some deviceId ∧
      (engine.execute call hub).2.registry = engine.replyRegistry deviceId request hub ∧
      (engine.execute call hub).2.elapsedMs = (engine.afterExchange request hub).elapsedMs := by
  cases hcommand : engine.controlCommand call with
  | some command =>
    refine ⟨command.deviceId, (control_of_controlCommand hcommand).1, ?_⟩
    rw [(control_of_controlCommand hcommand).2] at hsent
    rw [engine.execute_eq_control hcommand]
    by_cases htakes : ∃ dev, hub.Takes command.deviceId command.accepts dev
    · obtain ⟨dev, htakes⟩ := htakes
      rw [Hub.requestIf_of_takes htakes] at hsent
      exact control_writes htakes hsent
    · rw [Hub.requestIf_of_not_takes fun dev hdev => htakes ⟨dev, hdev⟩] at hsent
      cases hsent
  | none =>
    cases call with
    | discoverAndPair => cases hsent
    | requestDeviceStatus deviceId =>
      obtain ⟨dev, hdev, htaken⟩ := Option.bind_eq_some_iff.1 hsent
      split_ifs at htaken with hallowed
      refine ⟨deviceId, rfl, ?_⟩
      obtain ⟨hregistry, -, helapsed⟩ := engine.executeRequestAndUpdate_writes deviceId request
        (if hub.pollPolicy.isTrackingActive deviceId hub.now then statusRetryAfterFailMs else 0) hub
      unfold execute requestDeviceStatus
      simp only [hdev, hallowed.1, hallowed.2, htaken, Bool.not_true, Bool.false_eq_true, if_false]
      exact ⟨hregistry, helapsed⟩
    | requestDeviceName deviceId =>
      obtain ⟨dev, hdev, htaken⟩ := Option.bind_eq_some_iff.1 hsent
      split_ifs at htaken with hallowed
      refine ⟨deviceId, rfl, ?_⟩
      obtain ⟨hregistry, -, helapsed⟩ :=
        engine.executeRequestAndUpdate_writes deviceId request 0 hub
      unfold execute requestDeviceName
      simp only [hdev, hallowed.1, htaken, Bool.not_true, Bool.false_eq_true, if_false]
      exact ⟨hregistry, helapsed⟩
    | setDevicePosition | setDeviceTilt | setDevicePositionAndTilt | executeDeviceCommand
    | setLightState | setLockState | setSwitchState => cases hcommand

theorem registry_execute_of_not_sent (hsent : engine.sentRequest call hub = none)
    (hcall : call ≠ .discoverAndPair) :
    (engine.execute call hub).2.registry = hub.registry := by
  cases hcommand : engine.controlCommand call with
  | some command =>
    rw [(control_of_controlCommand hcommand).2] at hsent
    rw [engine.execute_eq_control hcommand]
    exact registry_control_of_not_sent hsent
  | none =>
    cases call with
    | discoverAndPair => exact absurd rfl hcall
    | requestDeviceStatus deviceId =>
      unfold sentRequest Hub.requestIf at hsent
      unfold execute requestDeviceStatus
      dsimp only at hsent ⊢
      cases hdev : hub.getDevice deviceId with
      | none => rfl
      | some dev =>
        rw [hdev, Option.bind_some] at hsent
        cases hinitialized : hub.initialized with
        | false => rfl
        | true =>
          cases hsupports : knownDeviceSupportsStatusRequests dev with
          | false => simp [hsupports]
          | true =>
            rw [if_pos ⟨hinitialized, hsupports⟩] at hsent
            simp [hsupports, hsent]
    | requestDeviceName deviceId =>
      unfold sentRequest Hub.requestIf at hsent
      unfold execute requestDeviceName
      dsimp only at hsent ⊢
      cases hdev : hub.getDevice deviceId with
      | none => rfl
      | some dev =>
        rw [hdev, Option.bind_some] at hsent
        dsimp only
        split_ifs with hstopped
        · rfl
        · rw [Bool.not_eq_true', Bool.not_eq_false] at hstopped
          rw [if_pos ⟨hstopped, rfl⟩] at hsent
          rw [hsent]
    | setDevicePosition | setDeviceTilt | setDevicePositionAndTilt | executeDeviceCommand
    | setLightState | setLockState | setSwitchState => cases hcommand

end ExchangeEngine
end HomeIoControl
