import Mathlib.Data.List.Basic

namespace HomeIoControl

/-! ## Sizes -/

def hmacSize : ℕ := 6
def frameMinSize : ℕ := 9
def frameMaxSize : ℕ := 32
def frameMaxDataSize : ℕ := 23
def frameCmdOffset : ℕ := 8

/-- Three bytes of address. -/
abbrev NodeId := Vector UInt8 3

abbrev Millis := UInt32

/-! ## Command IDs -/

def cmdExecute : UInt8 := 0x00
def cmdActivateMode : UInt8 := 0x01
def cmdPrivate : UInt8 := 0x03
def cmdPrivateResp : UInt8 := 0x04
def cmdSetSensor : UInt8 := 0x19
def cmdSetSensorAck : UInt8 := 0x1A
def cmdIdentify : UInt8 := 0x1E
def cmdWritePrivate : UInt8 := 0x20
def cmdWritePrivateAck : UInt8 := 0x21
def cmdDiscoverReq : UInt8 := 0x28
def cmdDiscoverResp : UInt8 := 0x29
def cmdDiscoverSpeReq : UInt8 := 0x2A
def cmdDiscoverSpeResp : UInt8 := 0x2B
def cmdDiscoverConfirm : UInt8 := 0x2C
def cmdDiscoverConfirmAck : UInt8 := 0x2D
def cmdDiscoverAltReq : UInt8 := 0x2E
def cmdDiscoverAltResp : UInt8 := 0x2F
def cmdOnewayRemove : UInt8 := 0x39
def cmdKeyInit : UInt8 := 0x31
def cmdKeyTransfer : UInt8 := 0x32
def cmdKeyConfirm : UInt8 := 0x33
def cmdAddressReq : UInt8 := 0x36
def cmdAddressResp : UInt8 := 0x37
def cmdLaunchKeyTransfer : UInt8 := 0x38
def cmdChallengeReq : UInt8 := 0x3C
def cmdChallengeResp : UInt8 := 0x3D
def cmdGetName : UInt8 := 0x50
def cmdGetNameResp : UInt8 := 0x51
def cmdSetName : UInt8 := 0x52
def cmdSetNameResp : UInt8 := 0x53
def cmdGetInfo2 : UInt8 := 0x56
def cmdGetInfo2Resp : UInt8 := 0x57
def cmdSetConfig1 : UInt8 := 0x6F
def cmdSetConfig1Resp : UInt8 := 0x70
def cmdStatusUpdate : UInt8 := 0x71
def cmdStatusUpdateResp : UInt8 := 0x72
def cmdErrorResp : UInt8 := 0xFE

/-! ## Control bytes -/

def ctrl0End : UInt8 := 0x80
def ctrl0Start : UInt8 := 0x40
def ctrl0Protocol1W : UInt8 := 0x20
def ctrl0LengthMask : UInt8 := 0x1F
def ctrl1LowPower : UInt8 := 0x20

end HomeIoControl
