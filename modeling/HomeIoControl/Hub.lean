import HomeIoControl.DeviceStatus
import HomeIoControl.PairingEngine

namespace HomeIoControl

def onewayDedupWindowMs : Millis := 2000

/-- The 1W frame that was processed last. -/
structure OneWayDedup where
  srcId : DeviceId := ""
  cmd : UInt8 := 0
  timestamp : Millis := 0
  deriving DecidableEq, Repr

/-- The event of a 1W sender for Home Assistant. -/
structure SenderEvent where
  info : OneWayFrameInfo
  linked : Bool
  deriving DecidableEq

/-- The log's line about a 1W frame. -/
structure OneWayLogLine where
  info : OneWayFrameInfo
  linkedDevices : List DeviceId
  deriving DecidableEq

/-- The hub with its parts. `remotePolls` holds when each device's timeout fires, `blockingMs` how
long the next blocking calls take, and `decoded` logs every decoding of a position. -/
structure Hub where
  exchange : EngineState
  registry : DeviceRegistry := {}
  opQueue : OperationQueue := []
  pollPolicy : StatusPollPolicy := {}
  remotePolls : Std.TreeMap DeviceId ℕ := {}
  last1wLogged : OneWayDedup := {}
  exposedSenders : List DeviceId := []
  connected : Bool := false
  initialized : Bool := true
  radioTestMode : Bool := false
  elapsedMs : ℕ := 0
  blockingMs : List ℕ := []
  oneWayLog : List OneWayLogLine := []
  senderEvents : List SenderEvent := []
  decoded : List (DeviceId × IoFrame) := []

namespace Hub

/-- The wrapping millisecond clock. -/
def now (hub : Hub) : Millis := .ofNat hub.elapsedMs

/-- The time that the next blocking call takes. -/
def nextBlockingMs (hub : Hub) : ℕ := hub.blockingMs.head?.getD 0

/-- A blocking call of the engine has come back. -/
def block (hub : Hub) (s : EngineState) : Hub :=
  { hub with
    exchange := s
    elapsedMs := hub.elapsedMs + hub.nextBlockingMs
    blockingMs := hub.blockingMs.tail }

def mapPolicy (hub : Hub) (f : StatusPollPolicy → StatusPollPolicy) : Hub :=
  { hub with pollPolicy := f hub.pollPolicy }

def updateDevice (hub : Hub) (deviceId : DeviceId) (f : IoDevice → IoDevice) : Hub :=
  { hub with registry := hub.registry.update deviceId f }

def getDevice (hub : Hub) (deviceId : DeviceId) : Option IoDevice := hub.registry.get deviceId

/-! ## Poll scheduling -/

/-- Only for a registered device. -/
def beginStatusPollTracking (hub : Hub) (deviceId : DeviceId) (initialDelayMs : Millis) : Hub :=
  if (hub.getDevice deviceId).isNone then hub
  else hub.mapPolicy fun policy => policy.beginTracking deviceId initialDelayMs hub.now

/-- A pending timeout of the device is replaced. -/
def scheduleStatusPoll (hub : Hub) (deviceId : DeviceId) (delayMs : Millis) : Hub :=
  { hub with remotePolls := hub.remotePolls.insert deviceId (hub.elapsedMs + delayMs.toNat) }

def scheduleDevicePoll (delayMs : Millis) (hub : Hub) (deviceId : DeviceId) : Hub :=
  (hub.beginStatusPollTracking deviceId 0).scheduleStatusPoll deviceId delayMs

def scheduleDevicePolls (hub : Hub) (deviceIds : List DeviceId) (delayMs : Millis) : Hub :=
  deviceIds.foldl (scheduleDevicePoll delayMs) hub

/-- The linked devices of a remote that sent a 2W frame. -/
def scheduleLinkedRemotePolls (hub : Hub) (remoteId : DeviceId) : Hub :=
  hub.scheduleDevicePolls (hub.registry.linkedDevices remoteId) remoteActivityStatusPollDelayMs

def scheduleBackgroundPollBackoff (hub : Hub) (deviceId : DeviceId) (authLike : Bool) : Hub :=
  hub.mapPolicy fun policy => (policy.onExchangeFailed deviceId authLike hub.now).2

def setDeviceStatusPollInterval (hub : Hub) (deviceId : DeviceId) (pollIntervalMs : Millis) :
    Hub :=
  if (hub.getDevice deviceId).isNone then hub
  else hub.mapPolicy fun policy => policy.setInterval deviceId pollIntervalMs

/-! ## Inbound status -/

def store (hub : Hub) (deviceId : DeviceId) (dev : IoDevice) : Hub :=
  { hub with registry := hub.registry.put deviceId dev }

/-- Merges a frame of a registered device into its record. -/
def updateDeviceStatus (hub : Hub) (frame : IoFrame) (trustPosition : Bool) : Hub :=
  let id := nodeIdToString frame.src
  match hub.registry.get id with
  | none => hub
  | some dev =>
    let dev := dev.updateLinkHealth hub.exchange.status.lastRssiDbm hub.now
    -- a frame that is too short only shows that the device is there
    if frame.cmd = cmdPrivateResp then
      if frame.dataLen < privateResponseMinDataLen then hub.store id dev
      else
        let (dev, pollPolicy) :=
          applyPrivateResponseStatus id dev frame hub.pollPolicy trustPosition hub.now
        { hub.store id dev.clearCommandResult with
          pollPolicy
          decoded := if trustPosition then hub.decoded ++ [(id, frame)] else hub.decoded }
    else if frame.cmd = cmdStatusUpdate then
      if frame.dataLen < statusUpdateMinDataLen then hub.store id dev
      else
        let (dev, pollPolicy) := applyUnsolicitedStatusUpdate id dev frame hub.pollPolicy hub.now
        { hub.store id dev.clearCommandResult with
          pollPolicy
          decoded := hub.decoded ++ [(id, frame)] }
    else if frame.cmd = cmdGetNameResp then
      if frame.dataLen < getNameResponseMinDataLen then hub.store id dev
      else hub.store id (dev.applyNameResponse frame)
    else if frame.cmd = cmdGetInfo2Resp then
      if frame.dataLen < getInfo2ResponseMinDataLen then hub.store id dev
      else hub.store id (dev.applyInfo2Response frame)
    else if frame.cmd = cmdErrorResp then
      if frame.dataLen < errorResponseMinDataLen then hub.store id dev
      else hub.store id (dev.recordCommandResult (frame.byte 0) hub.now)
    else hub.store id dev

/-- After a stop, a device that is still moving is polled soon. -/
def capStopPoll (hub : Hub) (deviceId : DeviceId) : Hub :=
  if (hub.getDevice deviceId).any fun dev => !dev.isStopped then
    let cap := hub.now + stopSettlePollCapMs
    let existing := hub.pollPolicy.getNextUpdate deviceId
    -- an earlier poll stays
    if existing = 0 ∨ cap < existing then
      hub.mapPolicy fun policy => policy.setNextUpdate deviceId cap
    else hub
  else hub

/-! ## 1W traffic -/

/-- The devices linked to the sender, then those linked to the class of a typed broadcast. -/
def resolve1wTargetDevices (hub : Hub) (info : OneWayFrameInfo) (srcId : DeviceId) :
    List DeviceId :=
  let devices := hub.registry.linkedDevices srcId
  if info.addressClass = .broadcastType ∧ info.targetType ≠ .unknown then
    let classLinked := hub.registry.linkedDevicesForClass info.targetType
    classLinked.foldl (fun devices id => if id ∈ devices then devices else devices ++ [id]) devices
  else devices

/-- A device of another known type than the frame's is left alone. -/
def applyOptimisticLinkedDevice (info : OneWayFrameInfo) (registry : DeviceRegistry)
    (deviceId : DeviceId) : DeviceRegistry :=
  let mismatch : Bool :=
    match registry.get deviceId with
    | none => false
    | some dev =>
      info.targetType != .unknown && dev.type != .unknown && dev.type != info.targetType
  if mismatch then registry
  else if info.main0 = posStop then (registry.clearOptimisticTarget deviceId).2
  else
    match onewayIntentToTarget info.main0 with
    | none => registry
    | some target => (registry.applyOptimisticTarget deviceId target).2

/-- Returns whether the intent is a stop. -/
def applyOptimisticLinkedState (hub : Hub) (info : OneWayFrameInfo) (deviceIds : List DeviceId) :
    Bool × Hub :=
  if !info.hasIntent then (false, hub)
  else
    (info.main0 == posStop,
      { hub with registry := deviceIds.foldl (applyOptimisticLinkedDevice info) hub.registry })

def log1wRemoteFrame (hub : Hub) (info : OneWayFrameInfo) (linkedDevices : List DeviceId) : Hub :=
  { hub with oneWayLog := hub.oneWayLog ++ [{ info, linkedDevices }] }

def maybeFireSenderEvent (hub : Hub) (info : OneWayFrameInfo) (linked : Bool) (srcId : DeviceId) :
    Hub :=
  if info.hasIntent ∧ hub.connected = true ∧ srcId ∈ hub.exposedSenders then
    { hub with senderEvents := hub.senderEvents ++ [{ info, linked }] }
  else hub

/-- A repeat of the last 1W frame within the window is dropped. -/
def process1wFrame (hub : Hub) (frame : IoFrame) : Hub :=
  let srcId := nodeIdToString frame.src
  let now := hub.now
  if srcId = hub.last1wLogged.srcId ∧ frame.cmd = hub.last1wLogged.cmd ∧
      now - hub.last1wLogged.timestamp < onewayDedupWindowMs then hub
  else
    let hub := { hub with last1wLogged := { srcId, cmd := frame.cmd, timestamp := now } }
    let info := decode1wFrame frame
    let linked := hub.registry.linkedDevices srcId
    let hub := hub.log1wRemoteFrame info linked
    let hub := hub.maybeFireSenderEvent info (!linked.isEmpty) srcId
    let targetDevices := hub.resolve1wTargetDevices info srcId
    let (isStop, hub) := hub.applyOptimisticLinkedState info targetDevices
    hub.scheduleDevicePolls targetDevices
      (if isStop then 0 else remoteActivityStatusPollDelayMs)

end Hub

namespace ExchangeEngine

variable (engine : ExchangeEngine)

/-! ## Received packets -/

def hubTransmit (frame : IoFrame) (freqHz : ℕ) (hub : Hub) : Hub :=
  hub.block (engine.transmitFrame frame freqHz shortPreamble hub.exchange).2

/-- The device has to prove that it knows the key. The acknowledgement goes out on every
channel. -/
def acceptStatusUpdate (frame : IoFrame) (freqHz : ℕ) (hub : Hub) : Hub :=
  match engine.authenticateRequest frame freqHz hub.exchange with
  | (false, s) => hub.block s
  | (true, s) =>
    let hub := hub.block s
    match createStatusUpdateResp engine.nodeId frame.src with
    | none => hub
    | some resp =>
      let hub := engine.hubTransmit resp freqCh1 hub
      let hub := engine.hubTransmit resp freqCh2 hub
      let hub := engine.hubTransmit resp freqCh3 hub
      hub.updateDeviceStatus frame true

def isExchangeInternalCommand (cmd : UInt8) : Bool :=
  cmd == cmdChallengeReq || cmd == cmdChallengeResp

def processReceivedPacket (packet : RadioRxPacket) (hub : Hub) : Hub :=
  match parse packet.data with
  | none => hub
  | some frame =>
    if isExchangeInternalCommand frame.cmd then hub
    else if frame.is1W then hub.process1wFrame frame
    else if frame.cmd = cmdStatusUpdate ∧ frame.dst = engine.nodeId then
      engine.acceptStatusUpdate frame packet.freqHz hub
    else if frame.cmd = cmdPrivateResp ∨ frame.cmd = cmdStatusUpdate then
      hub.updateDeviceStatus frame true
    else if frame.cmd = cmdDiscoverAltResp then hub
    else
      let dstId := nodeIdToString frame.dst
      -- another controller commands a device of ours
      if (hub.getDevice dstId).isSome ∧ frame.src ≠ engine.nodeId then
        hub.scheduleDevicePoll remoteActivityStatusPollDelayMs dstId
      else hub.scheduleLinkedRemotePolls (nodeIdToString frame.src)

/-! ## Requests -/

/-- One exchange, its reply fed back through the status path. The reply to a movement command is
not trusted for positions. -/
def executeRequestAndUpdate (deviceId : DeviceId) (request : IoFrame) (retryAfterFailMs : Millis)
    (hub : Hub) : Bool × Hub :=
  match engine.sendAndReceive request .zero freqCh2 hub.exchange with
  | (false, _, s) =>
    let hub := hub.block s
    let hub := hub.updateDevice deviceId fun dev => dev.recordExchangeTimeout s.status.debug.tries
    (false,
      if retryAfterFailMs ≠ 0 then
        hub.scheduleBackgroundPollBackoff deviceId s.status.debug.sawChallenge
      else hub)
  | (true, response, s) =>
    let hub := hub.block s
    if response.cmd = cmdErrorResp then
      let hub := hub.updateDevice deviceId fun dev =>
        let dev := dev.updateLinkHealth s.status.lastRssiDbm hub.now
        if response.dataLen = 0 then dev else dev.recordCommandResult (response.byte 0) hub.now
      (false,
        if retryAfterFailMs ≠ 0 then
          hub.scheduleBackgroundPollBackoff deviceId s.status.debug.sawChallenge
        else hub)
    else
      let hub :=
        if retryAfterFailMs ≠ 0 then hub.mapPolicy fun p => p.clearFailureStreaks deviceId else hub
      (true, hub.updateDeviceStatus response (request.cmd != cmdExecute))

/-- A movement command: `accepts` is the check of the device type, `build` makes the request, and
`rearms` says whether a success restarts polling at the configured interval. -/
def controlDevice (deviceId : DeviceId) (accepts : IoDevice → Bool)
    (build : IoDevice → Option IoFrame) (rearms : Bool) (hub : Hub) : Bool × Hub :=
  match hub.getDevice deviceId with
  | none => (false, hub)
  | some dev =>
    if !hub.initialized then (false, hub)
    else if !accepts dev then (false, hub)
    else
      let interval (hub : Hub) := hub.pollPolicy.getInterval deviceId
      -- the window opens before anything is sent
      let hub := hub.beginStatusPollTracking deviceId (interval hub)
      match build dev with
      | none => (false, hub.mapPolicy fun policy => policy.clear deviceId)
      | some request =>
        match engine.executeRequestAndUpdate deviceId request 0 hub with
        | (false, hub) =>
          (false,
            hub.scheduleBackgroundPollBackoff deviceId hub.exchange.status.debug.sawChallenge)
        | (true, hub) =>
          (true,
            if rearms ∧ interval hub ≠ 0 ∧ hub.pollPolicy.getNextUpdate deviceId = 0 then
              hub.beginStatusPollTracking deviceId (interval hub)
            else hub)

def setDevicePosition (deviceId : DeviceId) (position : UInt8) : Hub → Bool × Hub :=
  engine.controlDevice deviceId
    (fun dev => knownDeviceAcceptsExecutePosition dev position)
    (fun dev => createExecute engine.nodeId dev.nodeId true position)
    (position != posStop)

def executeDeviceCommand (deviceId : DeviceId) (cmd : CoverCommand) (hub : Hub) : Bool × Hub :=
  let build (dev : IoDevice) :=
    if cmd = .forceOpen then
      createForceOpen engine.nodeId dev.nodeId true (if dev.inverted then 100 else 0)
    else createExecuteCommand engine.nodeId dev.nodeId true cmd
  match engine.controlDevice deviceId (fun dev => knownDeviceMatchesEntityClass dev .cover) build
    (cmd != .stop) hub with
  | (false, hub) => (false, hub)
  | (true, hub) => (true, if cmd = .stop then hub.capStopPoll deviceId else hub)

def setDeviceTilt (deviceId : DeviceId) (tiltPercent : UInt8) : Hub → Bool × Hub :=
  engine.controlDevice deviceId knownDeviceAcceptsExecuteTilt
    (fun dev => createExecuteTilt engine.nodeId dev.nodeId true tiltPercent) true

def setDevicePositionAndTilt (deviceId : DeviceId) (position tiltPercent : UInt8) :
    Hub → Bool × Hub :=
  engine.controlDevice deviceId knownDeviceAcceptsExecuteTilt
    (fun dev => createExecutePositionAndTilt engine.nodeId dev.nodeId true position tiltPercent)
    true

/-- Lights, switches and locks are driven through positions. -/
def setBinaryState (deviceId : DeviceId) (expected : DeviceCapabilityClass) (position : UInt8)
    (hub : Hub) : Bool × Hub :=
  match hub.getDevice deviceId with
  | none => (false, hub)
  | some dev =>
    if !hub.initialized then (false, hub)
    else if !knownDeviceMatchesEntityClass dev expected then (false, hub)
    else engine.setDevicePosition deviceId position hub

def setLightState (deviceId : DeviceId) (on : Bool) : Hub → Bool × Hub :=
  engine.setBinaryState deviceId .light
    (if on then binaryEntityOnPosition else binaryEntityOffPosition)

def setSwitchState (deviceId : DeviceId) (on : Bool) : Hub → Bool × Hub :=
  engine.setBinaryState deviceId .switch
    (if on then binaryEntityOnPosition else binaryEntityOffPosition)

def setLockState (deviceId : DeviceId) (locked : Bool) : Hub → Bool × Hub :=
  engine.setBinaryState deviceId .lock
    (if locked then binaryEntityOffPosition else binaryEntityOnPosition)

/-- Devices that tilt are asked for the extended answer. -/
def createStatusRequest (dev : IoDevice) : Option IoFrame :=
  if deviceSupportsTilt dev.type then createGetStatusTilt engine.nodeId dev.nodeId
  else createGetStatus engine.nodeId dev.nodeId

/-- A failure is retried while the device is tracked. -/
def requestDeviceStatus (deviceId : DeviceId) (hub : Hub) : Bool × Hub :=
  match hub.getDevice deviceId with
  | none => (false, hub)
  | some dev =>
    if !hub.initialized then (false, hub)
    else if !knownDeviceSupportsStatusRequests dev then (false, hub)
    else
      match engine.createStatusRequest dev with
      | none => (false, hub)
      | some request =>
        let retryAfterFailMs :=
          if hub.pollPolicy.isTrackingActive deviceId hub.now then statusRetryAfterFailMs else 0
        engine.executeRequestAndUpdate deviceId request retryAfterFailMs hub

def requestDeviceName (deviceId : DeviceId) (hub : Hub) : Bool × Hub :=
  match hub.getDevice deviceId with
  | none => (false, hub)
  | some dev =>
    if !hub.initialized then (false, hub)
    else
      match createGetName engine.nodeId dev.nodeId true with
      | none => (false, hub)
      | some request => engine.executeRequestAndUpdate deviceId request 0 hub

/-- Pairing works on the hub's own radio and registry. -/
def hubDiscoverAndPair (hub : Hub) : Bool × Hub :=
  if !hub.initialized then (false, hub)
  else
    match engine.discoverAndPair { engine := hub.exchange, registry := hub.registry } with
    | (ok, w) => (ok, { hub.block w.engine with registry := w.registry })

/-! ## Dispatch -/

/-- The call of a queued operation. -/
def execute (call : HubCall) (hub : Hub) : Bool × Hub :=
  match call with
  | .setDevicePosition deviceId position => engine.setDevicePosition deviceId position hub
  | .setDeviceTilt deviceId tiltPercent => engine.setDeviceTilt deviceId tiltPercent hub
  | .setDevicePositionAndTilt deviceId position tiltPercent =>
    engine.setDevicePositionAndTilt deviceId position tiltPercent hub
  | .executeDeviceCommand deviceId cmd => engine.executeDeviceCommand deviceId cmd hub
  | .setLightState deviceId on => engine.setLightState deviceId on hub
  | .setLockState deviceId locked => engine.setLockState deviceId locked hub
  | .setSwitchState deviceId on => engine.setSwitchState deviceId on hub
  | .requestDeviceStatus deviceId => engine.requestDeviceStatus deviceId hub
  | .requestDeviceName deviceId => engine.requestDeviceName deviceId hub
  | .discoverAndPair => engine.hubDiscoverAndPair hub

/-- The operation leaves the queue before it runs. -/
def processPendingOperation (hub : Hub) : Hub :=
  match hub.opQueue.pop with
  | none => hub
  | some (operation, rest) => (engine.execute operation.dispatch { hub with opQueue := rest }).2

end ExchangeEngine

namespace Hub

/-! ## Queueing -/

/-- A registered device has to accept the operation. -/
def queueIf (hub : Hub) (accepts : IoDevice → Bool) (deviceId : DeviceId)
    (enqueue : OperationQueue → OperationQueue) : Hub :=
  match hub.getDevice deviceId with
  -- what an unknown device accepts is not checked
  | none => { hub with opQueue := enqueue hub.opQueue }
  | some dev => if accepts dev then { hub with opQueue := enqueue hub.opQueue } else hub

def queueSetDevicePosition (hub : Hub) (deviceId : DeviceId) (position : UInt8) : Hub :=
  hub.queueIf (fun dev => knownDeviceMatchesEntityClass dev .cover) deviceId fun q =>
    (q.enqueueSetPosition deviceId position).1

/-- Only for a registered device of a running hub. -/
def queueDeviceCommand (hub : Hub) (deviceId : DeviceId) (cmd : CoverCommand) : Hub :=
  if !hub.initialized || (hub.getDevice deviceId).isNone then hub
  else
    hub.queueIf (fun dev => knownDeviceMatchesEntityClass dev .cover) deviceId fun q =>
      q.enqueueDeviceCommand deviceId cmd

def queueSetDeviceTilt (hub : Hub) (deviceId : DeviceId) (tiltPercent : UInt8) : Hub :=
  hub.queueIf knownDeviceAcceptsExecuteTilt deviceId fun q =>
    (q.enqueueSetTilt deviceId tiltPercent).1

def queueSetDevicePositionAndTilt (hub : Hub) (deviceId : DeviceId)
    (position tiltPercent : UInt8) : Hub :=
  hub.queueIf knownDeviceAcceptsExecuteTilt deviceId fun q =>
    q.enqueueSetPositionAndTilt deviceId position tiltPercent

def queueSetLightState (hub : Hub) (deviceId : DeviceId) (on : Bool) : Hub :=
  hub.queueIf (fun dev => knownDeviceMatchesEntityClass dev .light) deviceId fun q =>
    q.enqueueSetLightState deviceId on

def queueSetLockState (hub : Hub) (deviceId : DeviceId) (locked : Bool) : Hub :=
  hub.queueIf (fun dev => knownDeviceMatchesEntityClass dev .lock) deviceId fun q =>
    q.enqueueSetLockState deviceId locked

def queueSetSwitchState (hub : Hub) (deviceId : DeviceId) (on : Bool) : Hub :=
  hub.queueIf (fun dev => knownDeviceMatchesEntityClass dev .switch) deviceId fun q =>
    q.enqueueSetSwitchState deviceId on

def queueRequestDeviceStatus (hub : Hub) (deviceId : DeviceId) : Hub :=
  hub.queueIf knownDeviceSupportsStatusRequests deviceId fun q =>
    (q.enqueueRequestStatus deviceId).1

/-- Only for a registered device. -/
def queueRequestDeviceName (hub : Hub) (deviceId : DeviceId) : Hub :=
  if (hub.getDevice deviceId).isNone then hub
  else { hub with opQueue := (hub.opQueue.enqueueRequestName deviceId).1 }

def queueDiscoverAndPair (hub : Hub) : Hub :=
  { hub with opQueue := hub.opQueue.enqueueDiscoverAndPair.1 }

/-! ## Timers -/

/-- The timeout fires when its time has come. -/
def fireRemotePoll (hub : Hub) (deviceId : DeviceId) : Hub :=
  match hub.remotePolls[deviceId]? with
  | none => hub
  | some due =>
    if hub.elapsedMs < due then hub
    else
      -- the timeout is gone, whether the request is taken or not
      let hub := { hub with remotePolls := hub.remotePolls.erase deviceId }
      hub.queueRequestDeviceStatus deviceId

/-- Queues a poll for the first device that is due. -/
def pollDueDevice (hub : Hub) : Hub :=
  match hub.pollPolicy.popDueDevice hub.now with
  | (none, pollPolicy) => { hub with pollPolicy }
  | (some deviceId, pollPolicy) => { hub with pollPolicy }.queueRequestDeviceStatus deviceId

/-- The driver's non-blocking check found a packet. -/
def receive (hub : Hub) (packet : RadioRxPacket) (rssi : ℤ) : Hub :=
  { hub with exchange := hub.exchange.receive packet rssi }

def maybeHop (hub : Hub) (hop : Bool) : Hub :=
  if hop then { hub with exchange := hub.exchange.mapStatus EngineStatus.hopFrequency } else hub

end Hub

/-! ## The main loop -/

/-- What an iteration finds: a packet, and whether it is time to change the channel. -/
structure LoopInput where
  packet : Option (RadioRxPacket × ℤ) := none
  hop : Bool := false
  deriving DecidableEq

namespace ExchangeEngine

variable (engine : ExchangeEngine)

/-- The first phase of an iteration. -/
def checkForPacket (packet : Option (RadioRxPacket × ℤ)) (hub : Hub) : Hub :=
  match packet with
  | none => hub
  | some (packet, rssi) => engine.processReceivedPacket packet (hub.receive packet rssi)

def loop (input : LoopInput) (hub : Hub) : Hub :=
  if !hub.initialized || hub.radioTestMode then hub
  else
    let hub := engine.checkForPacket input.packet hub
    let hub := engine.processPendingOperation hub
    let hub := hub.maybeHop input.hop
    hub.pollDueDevice

end ExchangeEngine
end HomeIoControl
