import HomeIoControl.Frame
import HomeIoControl.OperationQueue
import Std.Data.TreeMap

namespace HomeIoControl

def rssiUnknownDbm : ℤ := -32768

/-- What is known about a device at run time. -/
structure IoDevice where
  nodeId : NodeId := .replicate 3 0
  type : DeviceType := .unknown
  subtype : UInt8 := 0
  name : Vector UInt8 32 := .replicate 32 0
  position : ℚ := unknownPosition
  tilt : ℚ := unknownPosition
  target : ℚ := unknownPosition
  isStopped : Bool := true
  inverted : Bool := false
  optimisticState : Bool := true
  lastResultCode : UInt8 := 0
  lastResultAtMs : Millis := 0
  lastStatus : Millis := 0
  lastRssiDbm : ℤ := rssiUnknownDbm
  rssiEmaScaled : ℤ := rssiUnknownDbm
  lastSeenMs : Millis := 0
  exchangeTimeoutCount : UInt16 := 0
  exchangeAttemptCount : UInt16 := 0
  deriving DecidableEq

/-! ## Device IDs -/

def hexNibble (c : Char) : Option UInt8 :=
  if '0' ≤ c ∧ c ≤ '9' then some (.ofNat (c.toNat - '0'.toNat))
  else if 'A' ≤ c ∧ c ≤ 'F' then some (.ofNat (c.toNat - 'A'.toNat + 10))
  else if 'a' ≤ c ∧ c ≤ 'f' then some (.ofNat (c.toNat - 'a'.toNat + 10))
  else none

def hexByte (high low : Char) : Option UInt8 := do
  let high ← hexNibble high
  let low ← hexNibble low
  pure ((high <<< 4) ||| low)

/-- Six hex digits of either case, as a node ID. -/
def hexToBytes (hex : String) : Option NodeId :=
  match hex.toList with
  | [a, b, c, d, e, f] => do
    let first ← hexByte a b
    let second ← hexByte c d
    let third ← hexByte e f
    pure #v[first, second, third]
  | _ => none

/-! ## The registry -/

/-- The device table and the links from remotes to devices, each in the order of its insertion. -/
structure DeviceRegistry where
  devices : Std.TreeMap DeviceId IoDevice := {}
  linkedRemotes : List (DeviceId × DeviceId) := []
  linkedRemoteClasses : List (DeviceType × DeviceId) := []

namespace DeviceRegistry

def put (r : DeviceRegistry) (deviceId : DeviceId) (device : IoDevice) : DeviceRegistry :=
  { r with devices := r.devices.insert deviceId device }

def get (r : DeviceRegistry) (deviceId : DeviceId) : Option IoDevice := r.devices[deviceId]?

/-- Writes through the pointer that a lookup returns. -/
def update (r : DeviceRegistry) (deviceId : DeviceId) (f : IoDevice → IoDevice) :
    DeviceRegistry :=
  match r.get deviceId with
  | none => r
  | some device => r.put deviceId (f device)

/-- A registered device or an ID that is not hexadecimal leaves the table as it is. -/
def add (r : DeviceRegistry) (deviceId : DeviceId) (type : DeviceType) (subtype : UInt8)
    (inverted optimisticState : Bool) : DeviceRegistry :=
  if (r.get deviceId).isSome then r
  else
    match hexToBytes deviceId with
    | none => r
    | some nodeId =>
      r.put deviceId { nodeId, type := type, subtype, inverted, optimisticState }

def addLinkedRemote (r : DeviceRegistry) (remoteId deviceId : DeviceId) : DeviceRegistry :=
  { r with linkedRemotes := r.linkedRemotes ++ [(remoteId, deviceId)] }

/-- No device is linked to an unknown remote. -/
def linkedDevices (r : DeviceRegistry) (remoteId : DeviceId) : List DeviceId :=
  (r.linkedRemotes.filter fun link => link.1 == remoteId).map Prod.snd

def addLinkedRemoteClass (r : DeviceRegistry) (type : DeviceType) (deviceId : DeviceId) :
    DeviceRegistry :=
  { r with linkedRemoteClasses := r.linkedRemoteClasses ++ [(type, deviceId)] }

def linkedDevicesForClass (r : DeviceRegistry) (type : DeviceType) : List DeviceId :=
  (r.linkedRemoteClasses.filter fun link => link.1 == type).map Prod.snd

/-- Devices without optimistic state keep their target. -/
def updateOptimistic (r : DeviceRegistry) (deviceId : DeviceId) (f : IoDevice → IoDevice) :
    Bool × DeviceRegistry :=
  match r.get deviceId with
  | none => (false, r)
  | some device =>
    if device.optimisticState then (true, r.put deviceId (f device)) else (false, r)

def applyOptimisticTarget (r : DeviceRegistry) (deviceId : DeviceId) (targetIoPosition : ℚ) :
    Bool × DeviceRegistry :=
  r.updateOptimistic deviceId fun device =>
    { device with target := targetIoPosition, isStopped := false }

def clearOptimisticTarget (r : DeviceRegistry) (deviceId : DeviceId) : Bool × DeviceRegistry :=
  r.updateOptimistic deviceId fun device =>
    { device with target := unknownPosition, isStopped := true }

/-! ## Lookups -/

@[simp] theorem get_put (r : DeviceRegistry) (deviceId other : DeviceId) (device : IoDevice) :
    (r.put deviceId device).get other = if deviceId = other then some device else r.get other := by
  simp [put, get, Std.TreeMap.getElem?_insert]

@[simp] theorem get_update (r : DeviceRegistry) (deviceId other : DeviceId)
    (f : IoDevice → IoDevice) :
    (r.update deviceId f).get other =
      if deviceId = other then (r.get other).map f else r.get other := by
  unfold update
  by_cases heq : deviceId = other
  · subst heq
    cases hget : r.get deviceId with
    | none => simp [hget]
    | some device => simp
  · cases r.get deviceId with
    | none => simp [heq]
    | some device => simp [heq]

theorem get_updateOptimistic (r : DeviceRegistry) (deviceId other : DeviceId)
    (f : IoDevice → IoDevice) :
    (r.updateOptimistic deviceId f).2.get other =
      if deviceId = other then
        (r.get other).map fun device => if device.optimisticState then f device else device
      else r.get other := by
  unfold updateOptimistic
  by_cases heq : deviceId = other
  · subst heq
    cases hget : r.get deviceId with
    | none => simp [hget]
    | some device => cases hoptimistic : device.optimisticState <;> simp [hget, hoptimistic]
  · cases r.get deviceId with
    | none => simp [heq]
    | some device => cases hoptimistic : device.optimisticState <;> simp [heq, hoptimistic]

end DeviceRegistry
end HomeIoControl
