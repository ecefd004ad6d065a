import HomeIoControl.GuardedRun
import HomeIoControl.Hub

namespace HomeIoControl
open GuardedRun

/-- Queues the operation of a call. -/
def Hub.queue (hub : Hub) : HubCall → Hub
  | .setDevicePosition deviceId position => hub.queueSetDevicePosition deviceId position
  | .setDeviceTilt deviceId tiltPercent => hub.queueSetDeviceTilt deviceId tiltPercent
  | .setDevicePositionAndTilt deviceId position tiltPercent =>
    hub.queueSetDevicePositionAndTilt deviceId position tiltPercent
  | .executeDeviceCommand deviceId cmd => hub.queueDeviceCommand deviceId cmd
  | .setLightState deviceId on => hub.queueSetLightState deviceId on
  | .setLockState deviceId locked => hub.queueSetLockState deviceId locked
  | .setSwitchState deviceId on => hub.queueSetSwitchState deviceId on
  | .requestDeviceStatus deviceId => hub.queueRequestDeviceStatus deviceId
  | .requestDeviceName deviceId => hub.queueRequestDeviceName deviceId
  | .discoverAndPair => hub.queueDiscoverAndPair

/-- What can happen to a hub. An iteration of the main loop is made of the first four. -/
inductive HubEvent
  | packetReceived (packet : RadioRxPacket) (rssi : ℤ)
  | pendingOperation
  | hop (due : Bool)
  | dueDevice
  | queued (call : HubCall)
  | remotePoll (deviceId : DeviceId)
  | timePasses (ms : ℕ)
  | pollInterval (deviceId : DeviceId) (intervalMs : Millis)
  | deviceAdded (deviceId : DeviceId) (type : DeviceType) (subtype : UInt8)
      (inverted optimisticState : Bool)
  | remoteLinked (remoteId deviceId : DeviceId)
  | remoteClassLinked (type : DeviceType) (deviceId : DeviceId)
  | optimisticTarget (deviceId : DeviceId) (target : ℚ)
  | optimisticTargetCleared (deviceId : DeviceId)
  | connection (connected : Bool)

namespace ExchangeEngine

variable (engine : ExchangeEngine)

def step (hub : Hub) : HubEvent → Hub
  | .packetReceived packet rssi => engine.processReceivedPacket packet (hub.receive packet rssi)
  | .pendingOperation => engine.processPendingOperation hub
  | .hop due => hub.maybeHop due
  | .dueDevice => hub.pollDueDevice
  | .queued call => hub.queue call
  | .remotePoll deviceId => hub.fireRemotePoll deviceId
  | .timePasses ms => { hub with elapsedMs := hub.elapsedMs + ms }
  | .pollInterval deviceId intervalMs => hub.setDeviceStatusPollInterval deviceId intervalMs
  | .deviceAdded deviceId type subtype inverted optimisticState =>
    { hub with registry := hub.registry.add deviceId type subtype inverted optimisticState }
  | .remoteLinked remoteId deviceId =>
    { hub with registry := hub.registry.addLinkedRemote remoteId deviceId }
  | .remoteClassLinked type deviceId =>
    { hub with registry := hub.registry.addLinkedRemoteClass type deviceId }
  | .optimisticTarget deviceId target =>
    { hub with registry := (hub.registry.applyOptimisticTarget deviceId target).2 }
  | .optimisticTargetCleared deviceId =>
    { hub with registry := (hub.registry.clearOptimisticTarget deviceId).2 }
  | .connection connected => { hub with connected }

end ExchangeEngine

/-- The events of an iteration, in the order of its phases. -/
def LoopInput.events (input : LoopInput) : List HubEvent :=
  (input.packet.toList.map fun received => .packetReceived received.1 received.2) ++
    [.pendingOperation, .hop input.hop, .dueDevice]

/-- A hub that is not set up, or whose radio is under test, sits the iteration out. -/
theorem ExchangeEngine.loop_eq_run (engine : ExchangeEngine) (input : LoopInput) (hub : Hub) :
    engine.loop input hub =
      run engine.step hub
        (if hub.initialized = true ∧ hub.radioTestMode = false then input.events else []) := by
  obtain ⟨packet, hop⟩ := input
  unfold loop
  by_cases hruns : hub.initialized = true ∧ hub.radioTestMode = false
  · rw [if_pos hruns, hruns.1, hruns.2]
    cases packet with
    | none => rfl
    | some received => rfl
  · rw [if_neg hruns, run_nil, if_pos]
    rw [not_and, Bool.not_eq_false] at hruns
    cases hinitialized : hub.initialized with
    | false => rfl
    | true => simp [hruns hinitialized]

end HomeIoControl
