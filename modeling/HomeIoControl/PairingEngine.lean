import HomeIoControl.DeviceRegistry
import HomeIoControl.ExchangeEngine
import HomeIoControl.PairingAdvisor

namespace HomeIoControl

def pairingDiscoveryMaxAttempts : ℕ := 3
def pairingKeyInitResends : ℕ := 2
def deviceMetadataSize : ℕ := 2

/-! ## Frame classification -/

inductive PairingDiscoveryDisposition
  | accept
  | noResponse
  | invalid
  deriving DecidableEq, Repr

inductive PairingKeyChallengeDisposition
  | accept
  | ignore
  deriving DecidableEq, Repr

def classifyPairingDiscoveryResponse (candidate : IoFrame) : PairingDiscoveryDisposition :=
  if candidate.cmd == cmdDiscoverResp || candidate.cmd == cmdDiscoverAltResp then .accept
  else .invalid

def classifyPairingKeyChallenge (candidate : IoFrame) (deviceId controllerId : NodeId) :
    PairingKeyChallengeDisposition :=
  if candidate.cmd == cmdChallengeReq && candidate.dataLen == hmacSize &&
      frameMatchesNodes candidate deviceId controllerId then .accept
  else .ignore

def frameIsKeyConfirm (frame : IoFrame) : Bool := frame.cmd == cmdKeyConfirm

/-! ## The attempt's state -/

/-- The buffers of one attempt. Every phase reuses them. -/
structure PairingContext where
  device : IoDevice := {}
  req : IoFrame := .zero
  resp : IoFrame := .zero
  rx : IoFrame := .zero
  keyInit : IoFrame := .zero
  deviceId : DeviceId := ""
  discoveryMetadataComplete : Bool := false

/-- What an attempt reads and writes besides its buffers, with the registry's writes in order. -/
structure PairingWorld where
  engine : EngineState
  registry : DeviceRegistry := {}
  puts : List (DeviceId × IoDevice) := []

def EngineState.setStage (s : EngineState) (stage : PairingState) (attempt : ℕ)
    (sawChallenge : Bool) : EngineState :=
  (s.recordDebug (.pairing stage) attempt sawChallenge).recordTelemetry fun t => t.setPhase stage

/-! ## Low-level waits -/

/-- The driver's channel changes unless a frame is arriving or the wait is over. -/
def hopAndRecord (slice : Slice) (status : EngineStatus) : EngineStatus :=
  if slice.timeLeft then status.hopFrequency.recordTelemetry PairingTelemetry.recordHop else status

def rejectFrame (slice : Slice) (frame : IoFrame) (status : EngineStatus) : EngineStatus :=
  status.recordTelemetry fun t => t.recordRxReject frame slice.rssi

def discoveryLoop : WaitLoop where
  accept candidate := classifyPairingDiscoveryResponse candidate == .accept
  quiet := hopAndRecord
  unparsed := hopAndRecord
  rejected slice frame status := hopAndRecord slice (rejectFrame slice frame status)

/-- Without an answer, traffic of any kind makes the difference. -/
def waitForDiscoveryResponse (rx : IoFrame) (s : EngineState) :
    PairingDiscoveryDisposition × IoFrame × EngineState :=
  let waited := discoveryLoop.run s.window rx s.dropWindow
  match waited.slice with
  | some slice =>
    (.accept, waited.rx, waited.state.recordTelemetry fun t => t.recordRx waited.rx slice.rssi)
  | none =>
    (if s.window.any fun slice => slice.packet.isSome then .invalid else .noResponse, waited.rx,
      waited.state)

/-- Only the device that was discovered is listened to. -/
def keyChallengeLoop (own deviceNodeId : NodeId) : WaitLoop where
  accept candidate :=
    (frameIsKeyConfirm candidate && frameMatchesNodes candidate deviceNodeId own) ||
      classifyPairingKeyChallenge candidate deviceNodeId own == .accept
  rejected := rejectFrame

def waitForKeyChallenge (own deviceNodeId : NodeId) (rx : IoFrame) (s : EngineState) :
    Bool × IoFrame × EngineState :=
  let waited := (keyChallengeLoop own deviceNodeId).run s.window rx s.dropWindow
  match waited.slice with
  | some slice =>
    (true, waited.rx, waited.state.recordTelemetry fun t => t.recordRx waited.rx slice.rssi)
  | none => (false, waited.rx, waited.state)

def keyConfirmLoop (req : IoFrame) : WaitLoop where
  accept := frameMatchesExchangeEndpoints req
  quiet := hopAndRecord

namespace ExchangeEngine

variable (engine : ExchangeEngine)

/-- The first frame of the device decides, whatever it is. Silence leads to the next try. -/
def waitForKeyConfirm (req : IoFrame) : ℕ → IoFrame → EngineState → Bool × IoFrame × EngineState
  | 0, resp, s => (false, resp, s)
  | tries + 1, resp, s =>
    match engine.transmitFrame req freqCh2 engine.responsePreamble s with
    -- a refused frame counts as a try
    | (false, s) => waitForKeyConfirm req tries resp s
    | (true, s) =>
      let waited := (keyConfirmLoop req).run s.window resp s.dropWindow
      match waited.slice with
      | none => waitForKeyConfirm req tries waited.rx waited.state
      | some slice =>
        if frameIsKeyConfirm waited.rx then
          (true, waited.rx, waited.state.recordTelemetry fun t => t.recordRx waited.rx slice.rssi)
        else
          (false, waited.rx, waited.state.mapStatus (rejectFrame slice waited.rx))

end ExchangeEngine

/-! ## Discovery -/

/-- The sender becomes the device. Short answers carry no type. -/
def parseDeviceFromDiscovery (frame : IoFrame) (device : IoDevice) : IoDevice × DeviceId :=
  let metadata : Bool := deviceMetadataSize ≤ frame.dataLen
  let type := if metadata then decodePackedDeviceType frame.data[0] frame.data[1] else .unknown
  let subtype := if metadata then decodePackedDeviceSubtype frame.data[1] else 0
  let inverted := if metadata then defaultInvertedForType type else false
  ({ device with
      nodeId := frame.src
      type := type
      subtype
      inverted
      position := unknownPosition
      target := unknownPosition
      isStopped := true },
    nodeIdToString frame.src)

/-- The commands with their attempts, in order. -/
def discoveryRounds (commands : List DiscoveryCommand) : List (DiscoveryCommand × ℕ) :=
  commands.flatMap fun command =>
    (List.range pairingDiscoveryMaxAttempts).map fun i => (command, i + 1)

namespace ExchangeEngine

variable (engine : ExchangeEngine)

/-- The request of a round, with the challenge generator's next output as its nonce. -/
def discoveryRequest (command : DiscoveryCommand) (s : EngineState) : Option IoFrame :=
  let tuning := engine.tuning
  createDiscoveryRequest engine.nodeId command
    (resolveDiscoveryDestination command tuning.pairingDiscoveryDestinationAuto
      tuning.pairingDiscoveryDestination)
    tuning.pairingDiscoveryLowPower tuning.pairingDiscoveryPayloadEnabled
    tuning.pairingDiscoveryPayload engine.systemKey s.nextChallenge

/-- Sends the request of one round. -/
def transmitDiscovery (command : DiscoveryCommand) (context : PairingContext) (s : EngineState) :
    Bool × PairingContext × EngineState :=
  match engine.discoveryRequest command s with
  | none => (false, context, s)
  | some req =>
    -- only this command carries a nonce
    let s := if command = .discoverSpe then s.dropChallenge else s
    let context := { context with req }
    match engine.transmitFrame req freqCh2 longPreamble s with
    | (sent, s) => (sent, context, s)

/-- Without a transmission there is no wait and no further round. -/
def runDiscoveryRounds : List (DiscoveryCommand × ℕ) → Bool → PairingContext → EngineState →
    PairingDiscoveryDisposition × PairingContext × EngineState
  | [], sawInvalid, context, s => (if sawInvalid then .invalid else .noResponse, context, s)
  | (command, attempt) :: rounds, sawInvalid, context, s =>
    let s := s.recordTelemetry PairingTelemetry.incrementDiscoveryAttempt
    let s := s.setStage .txDiscover attempt false
    match engine.transmitDiscovery command context s with
    | (false, context, s) => (.noResponse, context, s)
    | (true, context, s) =>
      let s := s.setStage .waitDiscoverResponse attempt false
      match waitForDiscoveryResponse context.rx s with
      | (.accept, rx, s) =>
        let (device, deviceId) := parseDeviceFromDiscovery rx context.device
        (.accept,
          { context with
            rx, device, deviceId
            discoveryMetadataComplete := deviceMetadataSize ≤ rx.dataLen },
          s)
      | (.invalid, rx, s) => runDiscoveryRounds rounds true { context with rx } s
      | (.noResponse, rx, s) => runDiscoveryRounds rounds sawInvalid { context with rx } s

def runDiscoveryPhase (context : PairingContext) (s : EngineState) :
    PairingDiscoveryDisposition × PairingContext × EngineState :=
  engine.runDiscoveryRounds (discoveryRounds engine.tuning.pairingDiscoveryCommands) false
    context s

/-! ## Key exchange -/

/-- Sends the key-init again, which makes a device that has the key confirm it. -/
def resendKeyInit : ℕ → PairingContext → EngineState → Bool × PairingContext × EngineState
  | 0, context, s => (false, context, s)
  | resends + 1, context, s =>
    match engine.transmitFrame context.keyInit freqCh2 longPreamble s with
    | (false, s) => resendKeyInit resends context s
    | (true, s) =>
      match waitForKeyChallenge engine.nodeId context.device.nodeId context.rx s with
      | (heard, rx, s) =>
        let context := { context with rx }
        -- a further challenge is not answered
        if heard && frameIsKeyConfirm rx then (true, context, s)
        else resendKeyInit resends context s

/-- Waits for the confirmation of the key transfer in the way that the radio allows. -/
def confirmKeyTransfer (context : PairingContext) (s : EngineState) :
    Bool × PairingContext × EngineState :=
  if engine.hasFastTxRxTurnaround then
    match engine.sendAndReceive context.req context.resp freqCh2 s with
    | (answered, resp, s) => (answered && frameIsKeyConfirm resp, { context with resp }, s)
  else
    match engine.waitForKeyConfirm context.req exchangeRetryCount context.resp s with
    | (true, resp, s) => (true, { context with resp }, s)
    | (false, resp, s) => engine.resendKeyInit pairingKeyInitResends { context with resp } s

/-- From the challenge on. -/
def transferKey (context : PairingContext) (s : EngineState) :
    Bool × PairingContext × EngineState :=
  let s := s.setStage .txKeyTransfer 1 true
  match createKeyTransfer context.keyInit context.device.nodeId engine.nodeId engine.systemKey
    (hmacField context.rx) with
  | none => (false, context, s)
  | some req =>
    let s := s.setStage .waitKeyConfirm 1 true
    engine.confirmKeyTransfer { context with req } s

/-- Some devices confirm right after the key-init. -/
def runKeyExchangePhase (context : PairingContext) (s : EngineState) :
    Bool × PairingContext × EngineState :=
  let s := s.setStage .txKeyInit 1 false
  match createKeyInit engine.nodeId context.device.nodeId with
  | none => (false, context, s)
  | some keyInit =>
    let context := { context with keyInit }
    match engine.transmitFrame keyInit freqCh2 longPreamble s with
    | (false, s) => (false, context, s)
    | (true, s) =>
      let s := s.setStage .waitKeyChallenge 1 true
      match waitForKeyChallenge engine.nodeId context.device.nodeId context.rx s with
      | (false, rx, s) => (false, { context with rx }, s)
      | (true, rx, s) =>
        let context := { context with rx }
        if frameIsKeyConfirm rx then (true, { context with resp := rx }, s)
        else engine.transferKey context s

def runKeyExchanges : ℕ → PairingContext → EngineState → Bool × PairingContext × EngineState
  | 0, context, s => (false, context, s)
  | retries + 1, context, s =>
    match engine.runKeyExchangePhase context s with
    | (true, context, s) => (true, context, s)
    | (false, context, s) => runKeyExchanges retries context s

/-! ## The whole attempt -/

/-- Automatic status updates are asked for. The device is paired either way. -/
def finalizePairingConfiguration (context : PairingContext) (s : EngineState) :
    Bool × PairingContext × EngineState :=
  match createSetConfig1 engine.nodeId context.device.nodeId with
  | none => (false, context, s)
  | some req =>
    match engine.sendAndReceive req context.resp freqCh2 s with
    | (answered, resp, s) => (answered, { context with req, resp }, s)

def finishPairingAttempt (outcome : PairingOutcome) (s : EngineState) : EngineState :=
  let s := s.recordTelemetry fun t => t.setOutcome outcome
  let s := { s with telemetryAttached := false }
  s.recordTelemetry fun t =>
    let advice := analyzePairingTelemetry t engine.nodeId
    t.setAdviceCodes (",".intercalate (advice.map fun a => pairingAdviceCodeName a.code))

/-- Telemetry is reset and attached. -/
def beginPairingAttempt (s : EngineState) : EngineState :=
  { s.recordTelemetry fun _ => .begin with telemetryAttached := true }

/-- Enters the device into the registry. The snippet for the configuration file is only logged. -/
def registerDevice (context : PairingContext) (outcome : PairingOutcome) (w : PairingWorld) :
    PairingWorld :=
  let s := w.engine.setStage .registerDevice 1 true
  let s := s.recordTelemetry fun t =>
    t.setPairedDevice context.device.nodeId context.device.type
  let s := s.setStage .complete 1 true
  { engine := engine.finishPairingAttempt outcome s
    registry := w.registry.put context.deviceId context.device
    puts := w.puts ++ [(context.deviceId, context.device)] }

/-- Finds a device in pairing mode, hands it the system key and registers it. -/
def discoverAndPair (w : PairingWorld) : Bool × PairingWorld :=
  let failed (outcome : PairingOutcome) (s : EngineState) :=
    (false, { w with engine := engine.finishPairingAttempt outcome s })
  match engine.runDiscoveryPhase {} (beginPairingAttempt w.engine) with
  | (.invalid, _, s) => failed .invalidResponse s
  | (.noResponse, _, s) => failed .noResponse s
  | (.accept, context, s) =>
    -- the alternate discovery stops short of the key exchange
    if context.rx.cmd == cmdDiscoverAltResp then failed .invalidResponse s
    else
      match engine.runKeyExchanges engine.tuning.pairingKeyExchangeRetries.toNat context s with
      | (false, _, s) => failed .keyExchangeFailed s
      | (true, context, s) =>
        match engine.finalizePairingConfiguration context s with
        | (configOk, context, s) =>
          let outcome := if configOk then .paired else .configFailed
          (true, engine.registerDevice context outcome { w with engine := s })

end ExchangeEngine
end HomeIoControl
