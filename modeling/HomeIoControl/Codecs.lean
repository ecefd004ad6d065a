import HomeIoControl.Commands
import Mathlib.Data.List.DropRight

namespace HomeIoControl

/-! ## Device names -/

def deviceNameBufferSize : ℕ := 32
def utf8SingleByteMax : UInt8 := 0x80
def utf8TwoByteLeadBase : UInt8 := 0xC0
def utf8ContinuationBase : UInt8 := 0x80
def utf8ContinuationMask : UInt8 := 0x3F
def namePaddingNul : UInt8 := 0x00
def namePaddingSpace : UInt8 := 0x20

/-- Stops at the first character that does not fit the name buffer any more. -/
def latin1ToUtf8From (result : List UInt8) : List UInt8 → List UInt8
  | [] => result
  | byte :: data =>
    if byte < utf8SingleByteMax then
      if deviceNameBufferSize ≤ result.length + 1 then result
      else latin1ToUtf8From (result ++ [byte]) data
    else if deviceNameBufferSize ≤ result.length + 2 then result
    else
      latin1ToUtf8From (result ++ [utf8TwoByteLeadBase ||| (byte >>> 6),
        utf8ContinuationBase ||| (byte &&& utf8ContinuationMask)]) data

def latin1ToUtf8 (data : List UInt8) : List UInt8 := latin1ToUtf8From [] data

def isNamePadding (byte : UInt8) : Bool := byte == namePaddingNul || byte == namePaddingSpace

/-- Some devices put one more byte in front of the name. -/
def decodeDeviceNamePayload (data : List UInt8) : List UInt8 :=
  let name :=
    match data with
    | [] => []
    | first :: rest => if first > namePaddingSpace then data else rest
  latin1ToUtf8 (name.rdropWhile isNamePadding)

/-- The name in a zeroed buffer. -/
def nameBuffer (name : List UInt8) : Vector UInt8 32 := .ofFn fun i => name.getD i 0

/-! ## Addresses -/

inductive AddressClass
  | unicast
  | broadcastAll
  | broadcastType
  | discovery
  | unknownBroadcast
  deriving DecidableEq, Repr

def addressSuffixMask : UInt8 := 0x3F
def addressSuffixBroadcast : UInt8 := 0x3F
def addressSuffixDiscovery : UInt8 := 0x3B

/-- Discovery comes before the typed broadcasts, which share its suffix. -/
def classifyAddress (addr : NodeId) : AddressClass :=
  let suffix := addr[2] &&& addressSuffixMask
  let hasTypeBits := addr[1] != 0 || addr[2] &&& 0xC0 != 0
  if addr[0] != 0 then .unicast
  else if suffix == addressSuffixDiscovery then .discovery
  else if hasTypeBits then .broadcastType
  else if suffix == addressSuffixBroadcast then .broadcastAll
  else if addr[1] == 0 && addr[2] == 0 then .broadcastAll
  else .unknownBroadcast

/-- The type is in ten bits of the two lower bytes. -/
def broadcastTargetType (addr : NodeId) : DeviceType :=
  let typeRaw := (addr[1].toUInt16 <<< 2) ||| (addr[2] >>> 6).toUInt16
  if addr[0] != 0 then .unknown
  else if typeRaw > 0x18 then .unknown
  else .ofByte typeRaw.toUInt8

/-! ## 1W frames -/

def posSecuredTarget : UInt8 := 0xD1
def posDefault : UInt8 := 0xD3
def posForceOpen : UInt8 := 0x64
def aceiLevelMask : UInt8 := 0xE0
def aceiLevelShift : UInt8 := 5
def onewayExecuteMinDataLen : ℕ := 4
/-- Twice the percentage of a closed device. -/
def onewayPositionMax : UInt8 := 200

/-- Force-open shares its byte with the position of fifty percent. -/
def decode1wMainIntent (main0 main1 : UInt8) : String :=
  if main0 == posStop then "STOP"
  else if main0 == posFavorite then if main1 == posVentModifier then "VENT" else "FAVORITE"
  else if main0 == posUnknown then "UNCHANGED"
  else if main0 == posForceOpen then "FORCE_OPEN"
  else if main0 == posSecuredTarget then "SECURED_TARGET"
  else if main0 == posDefault then "DEFAULT"
  else if main0 ≤ onewayPositionMax then
    let percent := main0 / 2
    if percent == 0 then "OPEN"
    else if percent == 100 then "CLOSE"
    else "position " ++ toString percent.toNat ++ "%"
  else "0x" ++ String.ofList (byteHex main0)

/-- Only a numeric position has a target. -/
def onewayIntentToTarget (main0 : UInt8) : Option ℚ :=
  if main0 == posStop || main0 == posFavorite || main0 == posUnknown || main0 == posForceOpen ||
      main0 == posSecuredTarget || main0 == posDefault then none
  else if main0 ≤ onewayPositionMax then some (main0 / 2).toNat
  else none

structure OneWayFrameInfo where
  src : NodeId
  addressClass : AddressClass
  targetType : DeviceType
  cmd : UInt8
  hasIntent : Bool := false
  originator : UInt8 := 0
  aceiLevel : UInt8 := 0
  intent : String := ""
  main0 : UInt8 := 0
  main1 : UInt8 := 0
  dataLen : ℕ
  deriving DecidableEq

/-- Only movement commands carry an intent. -/
def decode1wFrame (frame : IoFrame) : OneWayFrameInfo :=
  let info : OneWayFrameInfo :=
    { src := frame.src
      addressClass := classifyAddress frame.dst
      targetType := broadcastTargetType frame.dst
      cmd := frame.cmd
      dataLen := frame.dataLen }
  if (frame.cmd == cmdExecute || frame.cmd == cmdActivateMode) &&
      decide (onewayExecuteMinDataLen ≤ frame.dataLen) then
    { info with
      hasIntent := true
      originator := frame.byte 0
      aceiLevel := (frame.byte 1 &&& aceiLevelMask) >>> aceiLevelShift
      main0 := frame.byte 2
      main1 := frame.byte 3
      intent := decode1wMainIntent (frame.byte 2) (frame.byte 3) }
  else info

end HomeIoControl
