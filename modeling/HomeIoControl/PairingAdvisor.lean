import HomeIoControl.Commands
import HomeIoControl.PairingTelemetry

namespace HomeIoControl

inductive PairingAdviceCode
  | oneWayPairingTraffic
  | channelBusyLbtDelayed
  | foreignControllerPairing
  | rfSilent
  deriving DecidableEq, Repr

structure PairingAdvice where
  code : PairingAdviceCode
  subjectNode : NodeId := .replicate 3 0
  rssi : ℤ := 0
  deriving DecidableEq, Repr

def lbtMaxRetriesDefault : UInt8 := 5

def isRxKind (kind : PairingTelemetryEventKind) : Bool := kind == .rx || kind == .rxReject

/-- Pairing traffic of a 1W remote. -/
def isOnewayPairingFrame (event : PairingTelemetryEvent) : Bool :=
  event.oneway && event.dstNode == broadcastDiscoverAlt &&
    (event.cmd == cmdWritePrivate || event.cmd == cmdOnewayRemove ||
      event.cmd == cmdDiscoverAltReq)

def countOccurrencesOfSource (events : List PairingTelemetryEvent) (srcNode : NodeId) : ℕ :=
  events.countP fun event => isRxKind event.kind && event.srcNode == srcNode

/-- Advice about the first event that meets a condition. -/
def adviceAbout (code : PairingAdviceCode) (p : PairingTelemetryEvent → Bool)
    (events : List PairingTelemetryEvent) : Option PairingAdvice :=
  (events.find? p).map fun event => { code, subjectNode := event.srcNode, rssi := event.rssi }

def oneWayPairingAdvice (events : List PairingTelemetryEvent) : Option PairingAdvice :=
  adviceAbout .oneWayPairingTraffic (fun event => isRxKind event.kind && isOnewayPairingFrame event)
    events

def channelBusyAdvice (telemetry : PairingTelemetry) (events : List PairingTelemetryEvent) :
    Option PairingAdvice :=
  if telemetry.lbtRetries < lbtMaxRetriesDefault then none
  else
    adviceAbout .channelBusyLbtDelayed
      (fun event => isRxKind event.kind && 2 ≤ countOccurrencesOfSource events event.srcNode)
      events

/-- An unprovisioned controller has no answers to call foreign. -/
def foreignControllerAdvice (ownNodeId : NodeId) (events : List PairingTelemetryEvent) :
    Option PairingAdvice :=
  if ownNodeId = .replicate 3 0 then none
  else
    adviceAbout .foreignControllerPairing
      (fun event =>
        isRxKind event.kind && event.cmd == cmdDiscoverResp && event.dstNode != ownNodeId)
      events

/-- At most one piece of advice of each kind, which the caller's array of four always holds. -/
def analyzePairingTelemetry (telemetry : PairingTelemetry) (ownNodeId : NodeId) :
    List PairingAdvice :=
  let events := telemetry.events.val
  let advice :=
    (oneWayPairingAdvice events).toList ++ (channelBusyAdvice telemetry events).toList ++
      (foreignControllerAdvice ownNodeId events).toList
  if advice.isEmpty && telemetry.heardCount == 0 then [{ code := .rfSilent }] else advice

def pairingAdviceCodeName : PairingAdviceCode → String
  | .oneWayPairingTraffic => "1w_traffic"
  | .channelBusyLbtDelayed => "channel_busy"
  | .foreignControllerPairing => "foreign_controller"
  | .rfSilent => "rf_silent"

end HomeIoControl
