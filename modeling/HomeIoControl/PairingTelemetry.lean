import HomeIoControl.DeviceModel
import HomeIoControl.Frame

namespace HomeIoControl

inductive PairingState
  | idle
  | txDiscover
  | waitDiscoverResponse
  | txKeyInit
  | waitKeyChallenge
  | txKeyTransfer
  | waitKeyConfirm
  | registerDevice
  | complete
  | failed
  deriving DecidableEq, Repr

def PairingState.toByte : PairingState → UInt8
  | .idle => 0
  | .txDiscover => 1
  | .waitDiscoverResponse => 2
  | .txKeyInit => 3
  | .waitKeyChallenge => 4
  | .txKeyTransfer => 5
  | .waitKeyConfirm => 6
  | .registerDevice => 7
  | .complete => 8
  | .failed => 9

inductive PairingOutcome
  | none
  | paired
  | noResponse
  | invalidResponse
  | keyExchangeFailed
  | configFailed
  deriving DecidableEq, Repr

inductive PairingTelemetryEventKind
  | tx
  | rx
  | rxReject
  | lbtDefer
  | hop
  | phase
  deriving DecidableEq, Repr

structure PairingTelemetryEvent where
  kind : PairingTelemetryEventKind
  cmd : UInt8 := 0
  srcNode : NodeId := .replicate 3 0
  dstNode : NodeId := .replicate 3 0
  rssi : ℤ := 0
  aux : UInt8 := 0
  oneway : Bool := false
  deriving DecidableEq, Repr

def pairingTelemetryMaxEvents : ℕ := 32

def counterSaturationMax : UInt8 := 0xFF

/-- What one pairing attempt recorded. The event array holds the first 32 events. -/
structure PairingTelemetry where
  events : { es : List PairingTelemetryEvent // es.length ≤ pairingTelemetryMaxEvents }
  heardCount : ℕ
  truncated : Bool
  phase : PairingState
  outcome : PairingOutcome
  discoveryAttempts : UInt8
  lbtRetries : UInt8
  pairedDevice : Option (NodeId × DeviceType)
  adviceCodes : String
  deriving DecidableEq

namespace PairingTelemetry

/-- A new attempt starts from nothing recorded. -/
def begin : PairingTelemetry where
  events := ⟨[], Nat.zero_le _⟩
  heardCount := 0
  truncated := false
  phase := .idle
  outcome := .none
  discoveryAttempts := 0
  lbtRetries := 0
  pairedDevice := none
  adviceCodes := ""

/-- Received frames are counted beyond the capacity of the array. -/
def countHeard (t : PairingTelemetry) (kind : PairingTelemetryEventKind) : PairingTelemetry :=
  if (kind = .rx ∨ kind = .rxReject) ∧ t.heardCount < 65535 then
    { t with heardCount := t.heardCount + 1 }
  else t

def record (t : PairingTelemetry) (event : PairingTelemetryEvent) : PairingTelemetry :=
  let t := t.countHeard event.kind
  if h : t.events.val.length < pairingTelemetryMaxEvents then
    { t with
      events := ⟨t.events.val ++ [event], by rw [List.length_append]; exact h⟩ }
  else { t with truncated := true }

def recordTx (t : PairingTelemetry) (cmd : UInt8) : PairingTelemetry :=
  t.record { kind := .tx, cmd }

/-- The event of a frame, accepted or not. -/
def receivedEvent (kind : PairingTelemetryEventKind) (frame : IoFrame) (rssi : ℤ) :
    PairingTelemetryEvent where
  kind := kind
  cmd := frame.cmd
  srcNode := frame.src
  dstNode := frame.dst
  rssi := rssi
  oneway := frame.is1W

def recordRx (t : PairingTelemetry) (frame : IoFrame) (rssi : ℤ) : PairingTelemetry :=
  t.record (receivedEvent .rx frame rssi)

def recordRxReject (t : PairingTelemetry) (frame : IoFrame) (rssi : ℤ) : PairingTelemetry :=
  t.record (receivedEvent .rxReject frame rssi)

def recordLbtDefer (t : PairingTelemetry) (rssi : ℤ) : PairingTelemetry :=
  let retries := if t.lbtRetries < counterSaturationMax then t.lbtRetries + 1 else t.lbtRetries
  { t with lbtRetries := retries }.record { kind := .lbtDefer, rssi, aux := retries }

def recordHop (t : PairingTelemetry) : PairingTelemetry := t.record { kind := .hop }

def setPhase (t : PairingTelemetry) (phase : PairingState) : PairingTelemetry :=
  { t with phase }.record { kind := .phase, aux := phase.toByte }

def setOutcome (t : PairingTelemetry) (outcome : PairingOutcome) : PairingTelemetry :=
  { t with outcome }

def setPairedDevice (t : PairingTelemetry) (nodeId : NodeId) (type : DeviceType) :
    PairingTelemetry :=
  { t with pairedDevice := some (nodeId, type) }

def incrementDiscoveryAttempt (t : PairingTelemetry) : PairingTelemetry :=
  if t.discoveryAttempts < counterSaturationMax then
    { t with discoveryAttempts := t.discoveryAttempts + 1 }
  else t

def setAdviceCodes (t : PairingTelemetry) (codes : String) : PairingTelemetry :=
  { t with adviceCodes := codes }

end PairingTelemetry
end HomeIoControl
