import HomeIoControl.CommandResults
import HomeIoControl.DeviceNames
import HomeIoControl.HubOutcome

namespace HomeIoControl

/-- What a management action reports. The names are UTF-8. -/
structure ManagementActionResult where
  success : Bool := false
  verified : Bool := false
  /-- The byte of an error response. -/
  resultCode : Option UInt8 := none
  action : String := ""
  deviceId : DeviceId := ""
  message : String := ""
  requestedName : List UInt8 := []
  appliedName : List UInt8 := []
  deriving DecidableEq, Repr

namespace ManagementActions

def renameDeviceAction : String := "rename_device"
def identifyDeviceAction : String := "identify_device"

/-- Each byte is a character of its own. -/
def normalizeDeviceIdArgument (deviceId : List UInt8) : DeviceId :=
  String.ofList ((trimAsciiWhitespace deviceId).map fun b => (Char.ofNat b.toNat).toUpper)

/-- Returns whether there was a code to report. -/
def applyErrorResponse (response : IoFrame) (result : ManagementActionResult) :
    Bool × ManagementActionResult :=
  if response.dataLen = 0 then
    (false, { result with message := "device returned an empty error response" })
  else (true, { result with resultCode := some (response.byte 0) })

def unexpectedRenameResponse (cmd : UInt8) : String :=
  "unexpected rename response 0x" ++ String.ofList (byteHex cmd)

/-- A result with the normalized ID, and the device when there is one. -/
def resolveDevice (action : String) (deviceId : List UInt8) (hub : Hub) :
    ManagementActionResult × Option IoDevice :=
  let normalizedDeviceId := normalizeDeviceIdArgument deviceId
  let result : ManagementActionResult := { action, deviceId := normalizedDeviceId }
  if !hub.initialized then ({ result with message := "hub is not initialized" }, none)
  else
    match hexToBytes normalizedDeviceId with
    | none =>
      ({ result with message := "device ID must be exactly 6 hexadecimal characters" }, none)
    | some _ =>
      match hub.getDevice normalizedDeviceId with
      | none => ({ result with message := "device is not registered on this hub" }, none)
      | some dev => (result, some dev)

end ManagementActions

namespace ExchangeEngine
open ManagementActions

variable (engine : ExchangeEngine)

/-- The response of the device, or a message that there was none. -/
def sendAuthenticatedRequest (request : IoFrame) (actionVerb : String)
    (result : ManagementActionResult) (hub : Hub) :
    Option IoFrame × ManagementActionResult × Hub :=
  match engine.sendAndReceive request .zero freqCh2 hub.exchange with
  | (true, response, s) => (some response, result, hub.block s)
  | (false, _, s) =>
    (none, { result with message := "no valid response to " ++ actionVerb ++ " request" },
      hub.block s)

/-- The part of a rename that follows the acknowledgement. -/
def verifyRename (normalizedName : List UInt8) (result : ManagementActionResult) (hub : Hub) :
    ManagementActionResult × Hub :=
  let result := { result with success := true, message := "rename acknowledged by device" }
  match engine.requestDeviceName result.deviceId hub with
  | (false, hub) =>
    ({ result with message := "rename acknowledged but verification readback failed" }, hub)
  | (true, hub) =>
    let result :=
      match hub.getDevice result.deviceId with
      | none => result
      | some dev => { result with appliedName := cString dev.name }
    (if result.appliedName = normalizedName then
      { result with verified := true, message := "rename verified by device readback" }
    else
      { result with
        message := "rename acknowledged but readback did not match the requested name" }, hub)

def renameDevice (deviceId newName : List UInt8) (hub : Hub) : ManagementActionResult × Hub :=
  match resolveDevice renameDeviceAction deviceId hub with
  | (result, none) => (result, hub)
  | (result, some dev) =>
    match encodeDeviceNamePayload newName with
    | .error nameError =>
      ({ result with
        requestedName := trimAsciiWhitespace newName
        message := deviceNameValidationErrorDescription nameError }, hub)
    | .ok (payload, normalizedName) =>
      let result := { result with requestedName := normalizedName }
      match createSetName engine.nodeId dev.nodeId payload.toList with
      | none => ({ result with message := "failed to build rename request" }, hub)
      | some request =>
        match engine.sendAuthenticatedRequest request "rename" result hub with
        | (none, result, hub) => (result, hub)
        | (some response, result, hub) =>
          if response.cmd = cmdErrorResp then
            match applyErrorResponse response result with
            | (false, result) => (result, hub)
            | (true, result) =>
              let resultCode := result.resultCode.getD 0
              ({ result with
                message := commandResultName resultCode ++ ": " ++
                  commandResultDescription resultCode }, hub)
          else if response.cmd ≠ cmdSetNameResp then
            ({ result with message := unexpectedRenameResponse response.cmd }, hub)
          else engine.verifyRename normalizedName result hub

/-- An error response counts as success, since the device may have moved all the same. -/
def identifyDevice (deviceId : List UInt8) (hub : Hub) : ManagementActionResult × Hub :=
  match resolveDevice identifyDeviceAction deviceId hub with
  | (result, none) => (result, hub)
  | (result, some dev) =>
    match createIdentify engine.nodeId dev.nodeId with
    | none => ({ result with message := "failed to build identify request" }, hub)
    | some request =>
      match engine.sendAuthenticatedRequest request "identify" result hub with
      | (none, result, hub) => (result, hub)
      | (some response, result, hub) =>
        let result := { result with success := true }
        if response.cmd = cmdErrorResp then
          match applyErrorResponse response result with
          | (false, result) =>
            ({ result with
              message := "identify triggered (device returned an empty error response)" }, hub)
          | (true, result) =>
            let resultCode := result.resultCode.getD 0
            ({ result with
              message := "identify triggered (device reported " ++ commandResultName resultCode ++
                ": " ++ commandResultDescription resultCode ++ ")" }, hub)
        else ({ result with message := "identify acknowledged by device" }, hub)

end ExchangeEngine
end HomeIoControl
