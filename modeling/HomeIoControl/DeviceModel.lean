import Mathlib.Data.Rat.Defs
import Mathlib.Algebra.Order.Ring.Unbundled.Rat

namespace HomeIoControl

/-! ## Device types -/

/-- The device types of the specification. The wire carries a byte, so a code beyond the listed
ones is kept as it is. -/
inductive DeviceType
  | unknown
  | venetianBlind
  | rollerShutter
  | awning
  | windowOpener
  | garageOpener
  | light
  | gateOpener
  | rollingDoorOpener
  | lock
  | blind
  | screen
  | beacon
  | dualShutter
  | heatingTemperatureInterface
  | onOffSwitch
  | horizontalAwning
  | externalVenetianBlind
  | louvreBlind
  | curtainTrack
  | ventilationPoint
  | exteriorHeating
  | heatPump
  | intrusionAlarm
  | swingingShutter
  | unlisted (code : UInt8) (h : 0x18 < code)
  deriving DecidableEq

inductive DeviceCapabilityClass
  | unknown
  | cover
  | light
  | switch
  | sensor
  | beacon
  | climate
  | lock
  deriving DecidableEq, Repr

def deviceCapabilityClass : DeviceType → DeviceCapabilityClass
  | .venetianBlind | .rollerShutter | .screen | .awning | .windowOpener | .garageOpener
  | .gateOpener | .rollingDoorOpener | .blind | .dualShutter | .horizontalAwning
  | .externalVenetianBlind | .louvreBlind | .curtainTrack | .swingingShutter => .cover
  | .light => .light
  | .onOffSwitch => .switch
  | .lock => .lock
  | .heatingTemperatureInterface | .exteriorHeating | .heatPump => .climate
  | .ventilationPoint => .switch
  | .beacon => .beacon
  | .intrusionAlarm => .sensor
  | .unknown | .unlisted _ _ => .unknown

def deviceSupportsPositionControl (type : DeviceType) : Bool :=
  deviceCapabilityClass type == .cover

def deviceSupportsBinaryControl (type : DeviceType) : Bool :=
  deviceCapabilityClass type == .light || deviceCapabilityClass type == .switch

def deviceSupportsLockControl (type : DeviceType) : Bool :=
  deviceCapabilityClass type == .lock

def deviceSupportsStatusRequests (type : DeviceType) : Bool :=
  deviceSupportsPositionControl type || deviceSupportsBinaryControl type ||
    deviceSupportsLockControl type

def deviceSupportsTilt : DeviceType → Bool
  | .venetianBlind | .blind | .externalVenetianBlind | .louvreBlind => true
  | _ => false

def defaultInvertedForType (type : DeviceType) : Bool := type == .horizontalAwning

/-- The device type a byte stands for. -/
def DeviceType.ofByte (code : UInt8) : DeviceType :=
  if h : 0x18 < code then .unlisted code h
  else
    [.unknown, .venetianBlind, .rollerShutter, .awning, .windowOpener, .garageOpener, .light,
      .gateOpener, .rollingDoorOpener, .lock, .blind, .screen, .beacon, .dualShutter,
      .heatingTemperatureInterface, .onOffSwitch, .horizontalAwning, .externalVenetianBlind,
      .louvreBlind, .curtainTrack, .ventilationPoint, .exteriorHeating, .heatPump,
      .intrusionAlarm, .swingingShutter].getD code.toNat .unknown

/-- The two metadata bytes carry the type in their upper ten bits; the cast keeps the low eight. -/
def decodePackedDeviceType (typeMsb typeSubtype : UInt8) : DeviceType :=
  .ofByte ((typeMsb <<< 2) ||| (typeSubtype >>> 6))

def decodePackedDeviceSubtype (typeSubtype : UInt8) : UInt8 := typeSubtype &&& 0x3F

/-! ## Cover commands -/

/-- Discrete cover actions that are not positions. -/
inductive CoverCommand
  | stop
  | favorite
  | vent
  | forceOpen
  deriving DecidableEq, Repr

/-! ## Position reports -/

def statusPosMax : UInt16 := 0xC800
def statusPosToleranceRaw : UInt16 := 100

/-- Positions are percentages in steps of 1/512, which the source's floats hold exactly. -/
def unknownPosition : ℚ := 212

/-- A valid raw position as a percentage. -/
def rawPercent (raw : UInt16) : ℚ := raw.toNat * 100 / statusPosMax.toNat

structure PositionReport where
  target : ℚ
  position : ℚ
  deriving DecidableEq

def decodePositionReport (targetRaw currentRaw : UInt16) (isStopped : Bool) : PositionReport :=
  let targetValid : Bool := targetRaw ≤ statusPosMax
  let currentValid : Bool := currentRaw ≤ statusPosMax
  let decodedCurrent := if currentValid then rawPercent currentRaw else unknownPosition
  let target :=
    if targetValid then rawPercent targetRaw
    -- marker values such as stop or keep exceed the maximum
    else if isStopped && currentValid then decodedCurrent
    else unknownPosition
  let position :=
    if currentValid then decodedCurrent
    else if isStopped && targetValid then target
    else unknownPosition
  { target, position }

def hasReachedTargetPosition (target position : ℚ) : Bool :=
  if target = unknownPosition ∨ position = unknownPosition then false
  else |target - position| ≤ rawPercent statusPosToleranceRaw

def decodeTiltReport (tiltRaw : UInt16) : ℚ :=
  if tiltRaw > statusPosMax then unknownPosition else 100 - rawPercent tiltRaw

end HomeIoControl
