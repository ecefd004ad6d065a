import HomeIoControl.Constants
import HomeIoControl.LogFrame

namespace HomeIoControl

def ctrl1Priority : UInt8 := 0x04
def ctrl1Ack : UInt8 := 0x10
def ctrl1Routed : UInt8 := 0x40
def ctrl1Beacon : UInt8 := 0x80

def commandNames : List (UInt8 × String) :=
  [(cmdExecute, "EXECUTE"), (cmdActivateMode, "ACTIVATE_MODE"), (cmdPrivate, "PRIVATE"),
    (cmdPrivateResp, "PRIVATE_RESP"), (cmdSetSensor, "SET_SENSOR"),
    (cmdSetSensorAck, "SET_SENSOR_ACK"), (cmdIdentify, "IDENTIFY"),
    (cmdWritePrivate, "WRITE_PRIVATE"), (cmdWritePrivateAck, "WRITE_PRIVATE_ACK"),
    (cmdDiscoverReq, "DISCOVER_REQ"), (cmdDiscoverResp, "DISCOVER_RESP"),
    (cmdDiscoverSpeReq, "DISCOVER_SPE_REQ"), (cmdDiscoverSpeResp, "DISCOVER_SPE_RESP"),
    (cmdDiscoverConfirm, "DISCOVER_CONFIRM"), (cmdDiscoverConfirmAck, "DISCOVER_CONFIRM_ACK"),
    (cmdDiscoverAltReq, "DISCOVER_ALT_REQ"), (cmdDiscoverAltResp, "DISCOVER_ALT_RESP"),
    (cmdKeyInit, "KEY_INIT"), (cmdKeyTransfer, "KEY_TRANSFER"), (cmdKeyConfirm, "KEY_CONFIRM"),
    (cmdAddressReq, "ADDRESS_REQ"), (cmdAddressResp, "ADDRESS_RESP"),
    (cmdLaunchKeyTransfer, "LAUNCH_KEY_TRANSFER"), (cmdChallengeReq, "CHALLENGE_REQ"),
    (cmdChallengeResp, "CHALLENGE_RESP"), (cmdGetName, "GET_NAME"),
    (cmdGetNameResp, "GET_NAME_RESP"), (cmdSetName, "SET_NAME"),
    (cmdSetNameResp, "SET_NAME_RESP"), (cmdGetInfo2, "GET_INFO2"),
    (cmdGetInfo2Resp, "GET_INFO2_RESP"), (cmdSetConfig1, "SET_CONFIG1"),
    (cmdSetConfig1Resp, "SET_CONFIG1_RESP"), (cmdStatusUpdate, "STATUS_UPDATE"),
    (cmdStatusUpdateResp, "STATUS_UPDATE_RESP"), (cmdErrorResp, "ERROR_RESP")]

def commandName (cmd : UInt8) : String := (commandNames.lookup cmd).getD "UNKNOWN_CMD"

/-- The annotations of the second control byte, in order. -/
def ctrl1Flags (ctrl1 : UInt8) : List String :=
  [(ctrl1Ack, "ACK"), (ctrl1LowPower, "LPM"), (ctrl1Priority, "PRIO"), (ctrl1Routed, "R"),
    (ctrl1Beacon, "B")].filterMap fun flag => if ctrl1 &&& flag.1 ≠ 0 then some flag.2 else none

/-- A flag in brackets. -/
def flagText (flag : String) : List Char := '[' :: (flag.toList ++ [']'])

def decodeCtrl1Flags (ctrl1 : UInt8) : List Char := (ctrl1Flags ctrl1).flatMap flagText

/-- A preamble of zero is left out. -/
def preambleField (preamble : ℕ) : List Char :=
  if 0 < preamble then " preamble=".toList ++ decimal preamble else []

/-- The line of a frame under the tag `io_frame`. -/
def logFrame (label : List Char) (data : List UInt8) (freqHz preamble : ℕ) : List Char :=
  let named := decide (frameMinSize ≤ data.length)
  let flags := if named then decodeCtrl1Flags (data.getD 1 0) else []
  let cmdStr := if named then (commandName (data.getD frameCmdOffset 0)).toList else []
  label ++ " [".toList ++ decimal data.length ++ " bytes] freq=".toList ++ decimal freqHz ++
    preambleField preamble ++ " cmd=".toList ++ cmdStr ++ ' ' :: flags ++ ": ".toList ++
    renderFrameHexRedacted data frameLogHexBufferSize

end HomeIoControl
