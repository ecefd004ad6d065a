import HomeIoControl.Commands
import HomeIoControl.PairingTelemetry
import HomeIoControl.RadioSx1262

namespace HomeIoControl

def freqCh1 : ℕ := 868250000
def freqCh2 : ℕ := 868950000
def freqCh3 : ℕ := 869850000
def longPreamble : ℕ := 1024
def shortPreamble : ℕ := 8
def exchangeRetryCount : ℕ := 3

/-! ## Frame classification -/

inductive ExchangeFirstResponseDisposition
  | ignoreUnrelated
  | completeDirect
  | requireAuth
  deriving DecidableEq, Repr

inductive ExchangeFinalResponseDisposition
  | ignoreUnrelated
  | accept
  deriving DecidableEq, Repr

def frameMatchesNodes (frame : IoFrame) (expectedSrc expectedDst : NodeId) : Bool :=
  frame.src == expectedSrc && frame.dst == expectedDst

def frameMatchesExchangeEndpoints (request candidate : IoFrame) : Bool :=
  frameMatchesNodes candidate request.dst request.src

def classifyExchangeFirstResponse (request candidate : IoFrame) :
    ExchangeFirstResponseDisposition :=
  if !frameMatchesExchangeEndpoints request candidate then .ignoreUnrelated
  else if candidate.cmd == cmdChallengeReq then .requireAuth
  else .completeDirect

def classifyExchangeFinalResponse (request candidate : IoFrame) :
    ExchangeFinalResponseDisposition :=
  if frameMatchesExchangeEndpoints request candidate then .accept else .ignoreUnrelated

/-! ## The radio and the engine's state -/

/-- One call of the driver's blocking wait: what came in, at which strength, and whether the
waiting loop then finds time left with nothing arriving. -/
structure Slice where
  packet : Option RadioRxPacket
  rssi : ℤ := 0
  timeLeft : Bool := true
  deriving DecidableEq, Repr

/-- The waits that fit before a deadline. -/
abbrev Window := List Slice

/-- What the radio and the random generator will do next. -/
structure RadioScript where
  sends : List Bool
  windows : List Window
  challenges : List Challenge
  rssis : List ℤ
  deriving DecidableEq, Repr

inductive RadioEvent
  | tx (frame : IoFrame) (freqHz preambleLen : ℕ) (sent : Bool)
  | rx (packet : RadioRxPacket)
  deriving DecidableEq, Repr

inductive OutboundExchangeState
  | waitFirstResponse
  | buildAuthResponse
  | txAuthResponse
  | waitFinalResponse
  deriving DecidableEq, Repr

inductive InboundAuthState
  | txChallenge
  | waitChallengeResponse
  | verified
  | failed
  deriving DecidableEq, Repr

/-- The labels of the debug snapshot. -/
inductive DebugStage
  | idle
  | outbound (state : OutboundExchangeState)
  | inbound (state : InboundAuthState)
  | pairing (state : PairingState)
  | txRequestFailed
  | firstParseFail
  | firstWrongExchange
  | waitFirstTimeout
  | authBuildFailed
  | txAuthFailed
  | finalParseFail
  | finalWrongExchange
  | waitFinalTimeout
  | successDirect
  | successAuth
  deriving DecidableEq, Repr

structure DebugInfo where
  stage : DebugStage := .idle
  tries : ℕ := 0
  requestCmd : UInt8 := 0
  sawChallenge : Bool := false
  deriving DecidableEq, Repr

/-- What the engine keeps about its radio and for diagnostics. -/
structure EngineStatus where
  freqHz : ℕ := freqCh2
  lastRssiDbm : ℤ := 0
  debug : DebugInfo := {}
  telemetry : PairingTelemetry := .begin
  deriving DecidableEq

/-- The engine between two calls of the driver. Telemetry is recorded by the engine while it is
attached. -/
structure EngineState where
  script : RadioScript
  trace : List RadioEvent := []
  telemetryAttached : Bool := false
  status : EngineStatus := {}
  deriving DecidableEq

/-- The part of the runtime tuning that the exchange and pairing engines read. -/
structure TuningConfig where
  lbtMaxRetries : UInt8 := 5
  lbtRssiThresholdDbm : ℤ := -90
  pairingDiscoveryCommands : List DiscoveryCommand := [.discover]
  pairingDiscoveryDestination : NodeId := .replicate 3 0
  pairingDiscoveryDestinationAuto : Bool := true
  pairingDiscoveryPayload : UInt8 := 0
  pairingDiscoveryPayloadEnabled : Bool := false
  pairingDiscoveryLowPower : Bool := false
  pairingKeyExchangeRetries : UInt8 := 3
  deriving DecidableEq

/-- Identity, keys, tuning and the radio's constants. -/
structure ExchangeEngine where
  nodeId : NodeId
  systemKey : AesKey
  tuning : TuningConfig := {}
  responsePreamble : ℕ := 12
  hasFastTxRxTurnaround : Bool := true
  deriving DecidableEq

namespace EngineStatus

def resetDebug (status : EngineStatus) (requestCmd : UInt8) : EngineStatus :=
  { status with debug := { requestCmd } }

def recordDebug (status : EngineStatus) (stage : DebugStage) (tries : ℕ) (sawChallenge : Bool) :
    EngineStatus :=
  { status with
    debug := { status.debug with
      stage, tries, sawChallenge := status.debug.sawChallenge || sawChallenge } }

/-- From the second channel to the third, then round. -/
def hopFrequency (status : EngineStatus) : EngineStatus :=
  { status with
    freqHz :=
      if status.freqHz = freqCh1 then freqCh2
      else if status.freqHz = freqCh3 then freqCh1
      else freqCh3 }

def recordTelemetry (status : EngineStatus) (f : PairingTelemetry → PairingTelemetry) :
    EngineStatus :=
  { status with telemetry := f status.telemetry }

end EngineStatus

namespace EngineState

def mapStatus (s : EngineState) (f : EngineStatus → EngineStatus) : EngineState :=
  { s with status := f s.status }

def recordDebug (s : EngineState) (stage : DebugStage) (tries : ℕ) (sawChallenge : Bool) :
    EngineState :=
  s.mapStatus fun status => status.recordDebug stage tries sawChallenge

def recordTelemetry (s : EngineState) (f : PairingTelemetry → PairingTelemetry) : EngineState :=
  s.mapStatus fun status => status.recordTelemetry f

/-- The engine's own records, made only during a pairing attempt. -/
def recordIfAttached (s : EngineState) (f : PairingTelemetry → PairingTelemetry) : EngineState :=
  if s.telemetryAttached then s.recordTelemetry f else s

/-- The driver hands over a packet and keeps its strength. -/
def receive (s : EngineState) (packet : RadioRxPacket) (rssi : ℤ) : EngineState :=
  { s with
    trace := s.trace ++ [.rx packet]
    status := { s.status with lastRssiDbm := rssi } }

/-- The next deadline passes. -/
def window (s : EngineState) : Window := s.script.windows.head?.getD []

def dropWindow (s : EngineState) : EngineState :=
  { s with script := { s.script with windows := s.script.windows.tail } }

def nextChallenge (s : EngineState) : Challenge := s.script.challenges.head?.getD (.replicate 6 0)

def dropChallenge (s : EngineState) : EngineState :=
  { s with script := { s.script with challenges := s.script.challenges.tail } }

/-- Hands a frame to the driver, which retunes and reports whether it was sent. -/
def sendPacket (s : EngineState) (frame : IoFrame) (freqHz preambleLen : ℕ) :
    Bool × EngineState :=
  let sent := s.script.sends.head?.getD false
  (sent,
    { s with
      script := { s.script with sends := s.script.sends.tail }
      trace := s.trace ++ [.tx frame freqHz preambleLen sent]
      status := { s.status with freqHz } })

end EngineState

/-! ## Waiting for a frame -/

/-- A wait loop of the source: which frames end it, and what it records about timed-out slices,
packets that do not parse and frames it rejects. -/
structure WaitLoop where
  accept : IoFrame → Bool
  quiet : Slice → EngineStatus → EngineStatus := fun _ status => status
  unparsed : Slice → EngineStatus → EngineStatus := fun _ status => status
  rejected : Slice → IoFrame → EngineStatus → EngineStatus := fun _ _ status => status

/-- How a wait ended: the slice with the accepted frame, the caller's frame buffer and the state. -/
structure Waited where
  slice : Option Slice
  rx : IoFrame
  state : EngineState

def WaitLoop.run (loop : WaitLoop) : Window → IoFrame → EngineState → Waited
  | [], rx, s => { slice := none, rx, state := s }
  | slice :: rest, rx, s =>
    match slice.packet with
    | none => loop.run rest rx (s.mapStatus (loop.quiet slice))
    | some packet =>
      let s := s.receive packet slice.rssi
      match parseInto packet.data rx with
      | (false, rx) => loop.run rest rx (s.mapStatus (loop.unparsed slice))
      | (true, rx) =>
        if loop.accept rx then { slice := some slice, rx, state := s }
        else loop.run rest rx (s.mapStatus (loop.rejected slice rx))

/-- Hop when the slice left time to. -/
def hopIfTimeLeft (slice : Slice) (status : EngineStatus) : EngineStatus :=
  if slice.timeLeft then status.hopFrequency else status

namespace ExchangeEngine

variable (engine : ExchangeEngine)

/-! ## Transmitting -/

/-- Waits while the channel is busy, at most `retries` times. -/
def listenBeforeTalk : ℕ → EngineState → EngineState
  | 0, s => s
  | retries + 1, s =>
    let rssi := s.script.rssis.head?.getD 0
    let s := { s with script := { s.script with rssis := s.script.rssis.tail } }
    if rssi < engine.tuning.lbtRssiThresholdDbm then s
    else listenBeforeTalk retries (s.recordIfAttached fun t => t.recordLbtDefer rssi)

def transmitFrame (frame : IoFrame) (freqHz preambleLen : ℕ) (s : EngineState) :
    Bool × EngineState :=
  match serialize frame frameMaxSize with
  | none => (false, s)
  | some _ =>
    -- a busy channel delays the frame and never drops it
    let s := engine.listenBeforeTalk engine.tuning.lbtMaxRetries.toNat s
    match s.sendPacket frame freqHz preambleLen with
    | (false, s) => (false, s)
    | (true, s) => (true, s.recordIfAttached fun t => t.recordTx frame.cmd)

/-! ## Outbound exchange -/

def transmitRequest (request : IoFrame) (freqHz preambleLen tryIndex : ℕ) (s : EngineState) :
    Bool × EngineState :=
  match engine.transmitFrame request freqHz preambleLen s with
  | (false, s) => (false, s.recordDebug .txRequestFailed tryIndex false)
  | (true, s) => (true, s)

def firstResponseLoop (request : IoFrame) (tryIndex : ℕ) : WaitLoop where
  accept candidate := classifyExchangeFirstResponse request candidate != .ignoreUnrelated
  quiet := hopIfTimeLeft
  unparsed _ status := status.recordDebug .firstParseFail tryIndex false
  rejected _ _ status := status.recordDebug .firstWrongExchange tryIndex false

def waitForFirstResponse (request : IoFrame) (tryIndex : ℕ) (rx : IoFrame) (s : EngineState) :
    ExchangeFirstResponseDisposition × IoFrame × EngineState :=
  let waited := (firstResponseLoop request tryIndex).run s.window rx s.dropWindow
  match waited.slice with
  | none =>
    (.ignoreUnrelated, waited.rx, waited.state.recordDebug .waitFirstTimeout tryIndex false)
  | some _ => (classifyExchangeFirstResponse request waited.rx, waited.rx, waited.state)

def handleAuthentication (request : IoFrame) (freqHz tryIndex : ℕ) (rx : IoFrame)
    (s : EngineState) : Bool × EngineState :=
  let s := s.recordDebug (.outbound .buildAuthResponse) tryIndex true
  -- six bytes of the buffer, however long the challenge is
  match createChallengeResp request.dst engine.nodeId (hmacField rx) request engine.systemKey with
  | none => (false, s.recordDebug .authBuildFailed tryIndex true)
  | some authResp =>
    let s := s.recordDebug (.outbound .txAuthResponse) tryIndex true
    match engine.transmitFrame authResp freqHz engine.responsePreamble s with
    | (false, s) => (false, s.recordDebug .txAuthFailed tryIndex true)
    | (true, s) => (true, s)

def finalResponseLoop (request : IoFrame) (tryIndex : ℕ) : WaitLoop where
  accept candidate := classifyExchangeFinalResponse request candidate == .accept
  quiet := hopIfTimeLeft
  unparsed _ status := status.recordDebug .finalParseFail tryIndex true
  rejected _ _ status := status.recordDebug .finalWrongExchange tryIndex true

def waitForFinalResponse (request : IoFrame) (tryIndex : ℕ) (rx : IoFrame) (s : EngineState) :
    ExchangeFinalResponseDisposition × IoFrame × EngineState :=
  let waited := (finalResponseLoop request tryIndex).run s.window rx s.dropWindow
  match waited.slice with
  | none =>
    (.ignoreUnrelated, waited.rx, waited.state.recordDebug .waitFinalTimeout tryIndex true)
  | some _ =>
    -- whatever its command is
    (.accept, waited.rx, waited.state)

/-- The part of a try that follows a challenge. -/
def answerChallenge (request : IoFrame) (freqHz tryIndex : ℕ) (rx : IoFrame) (s : EngineState) :
    Option IoFrame × EngineState :=
  match engine.handleAuthentication request freqHz tryIndex rx s with
  | (false, s) => (none, s)
  | (true, s) =>
    let s := s.recordDebug (.outbound .waitFinalResponse) tryIndex true
    match waitForFinalResponse request tryIndex rx s with
    | (.ignoreUnrelated, _, s) => (none, s)
    | (.accept, rx, s) => (some rx, s.recordDebug .successAuth tryIndex true)

/-- One try. Without a result the next one follows. -/
def exchangeTry (request : IoFrame) (freqHz preambleLen tryIndex : ℕ) (s : EngineState) :
    Option IoFrame × EngineState :=
  match engine.transmitRequest request freqHz preambleLen tryIndex s with
  | (false, s) => (none, s)
  | (true, s) =>
    let s := s.recordDebug (.outbound .waitFirstResponse) tryIndex false
    match waitForFirstResponse request tryIndex IoFrame.zero s with
    | (.ignoreUnrelated, _, s) => (none, s)
    | (.completeDirect, rx, s) => (some rx, s.recordDebug .successDirect tryIndex false)
    | (.requireAuth, rx, s) => engine.answerChallenge request freqHz tryIndex rx s

def exchangeTries (request : IoFrame) (freqHz preambleLen : ℕ) :
    ℕ → ℕ → EngineState → Option IoFrame × EngineState
  | 0, _, s => (none, s)
  | tries + 1, tryIndex, s =>
    match engine.exchangeTry request freqHz preambleLen tryIndex s with
    | (some rx, s) => (some rx, s)
    | (none, s) => exchangeTries request freqHz preambleLen tries (tryIndex + 1) s

/-- A start frame is announced by a long preamble. -/
def requestPreamble (request : IoFrame) : ℕ :=
  if request.isStart then longPreamble else engine.responsePreamble

/-- Returns whether the exchange succeeded and the caller's response frame. -/
def sendAndReceive (request response : IoFrame) (freqHz : ℕ) (s : EngineState) :
    Bool × IoFrame × EngineState :=
  let s := s.mapStatus fun status => status.resetDebug request.cmd
  match engine.exchangeTries request freqHz (engine.requestPreamble request) exchangeRetryCount
    1 s with
  | (some rx, s) => (true, rx, s)
  | (none, s) => (false, response, s)

/-! ## Inbound authentication -/

def frameIsChallengeResponse (frame : IoFrame) : Bool := frame.cmd == cmdChallengeResp

/-- A single wait of the driver, whatever comes in. -/
def waitForPacket (s : EngineState) : Option RadioRxPacket × EngineState :=
  match s.window.head?.bind Slice.packet with
  | none => (none, s.dropWindow)
  | some packet =>
    (some packet, s.dropWindow.receive packet ((s.window.head?.map Slice.rssi).getD 0))

/-- The challenge is generated when its frame is built. -/
def authenticateRequest (request : IoFrame) (freqHz : ℕ) (s : EngineState) : Bool × EngineState :=
  let failed (s : EngineState) := (false, s.recordDebug (.inbound .failed) 1 true)
  let s := s.recordDebug (.inbound .txChallenge) 1 true
  let challengeBytes := s.nextChallenge
  let s := s.dropChallenge
  match createChallengeReq request.src engine.nodeId challengeBytes with
  | none => failed s
  | some challenge =>
    match engine.transmitFrame challenge freqHz shortPreamble s with
    | (false, s) => failed s
    | (true, s) =>
      let s := s.recordDebug (.inbound .waitChallengeResponse) 1 true
      match waitForPacket s with
      | (none, s) => failed s
      | (some packet, s) =>
        match parse packet.data with
        | none => failed s
        | some rx =>
          -- sender, addressee and length are not looked at
          if !frameIsChallengeResponse rx then failed s
          else if !verifyHmac (transcript request) (hmacField rx) (hmacField challenge)
              engine.systemKey then failed s
          else (true, s.recordDebug (.inbound .verified) 1 true)

end ExchangeEngine
end HomeIoControl
