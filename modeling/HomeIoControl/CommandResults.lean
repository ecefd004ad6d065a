import Mathlib.Data.List.Basic

namespace HomeIoControl

def commandResultName : UInt8 → String
  | 0x00 => "UNKNOWN_STATUS_REPLY"
  | 0x01 => "COMMAND_COMPLETED_OK"
  | 0x02 => "NO_CONTACT"
  | 0x03 => "MANUALLY_OPERATED"
  | 0x04 => "BLOCKED"
  | 0x05 => "WRONG_SYSTEMKEY"
  | 0x06 => "PRIORITY_LEVEL_LOCKED"
  | 0x07 => "REACHED_WRONG_POSITION"
  | 0x08 => "ERROR_DURING_EXECUTION"
  | 0x09 => "NO_EXECUTION"
  | 0x0A => "CALIBRATING"
  | 0x0B => "POWER_CONSUMPTION_TOO_HIGH"
  | 0x0C => "POWER_CONSUMPTION_TOO_LOW"
  | 0x0D => "LOCK_POSITION_OPEN"
  | 0x0E => "MOTION_TIME_TOO_LONG"
  | 0x0F => "THERMAL_PROTECTION"
  | 0x10 => "PRODUCT_NOT_OPERATIONAL"
  | 0x11 => "FILTER_MAINTENANCE_NEEDED"
  | 0x12 => "BATTERY_LEVEL"
  | 0x13 => "TARGET_MODIFIED"
  | 0x14 => "MODE_NOT_IMPLEMENTED"
  | 0x15 => "COMMAND_INCOMPATIBLE_TO_MOVEMENT"
  | 0x16 => "USER_ACTION"
  | 0x17 => "DEAD_BOLT_ERROR"
  | 0x18 => "AUTOMATIC_CYCLE_ENGAGED"
  | 0x19 => "WRONG_LOAD_CONNECTED"
  | 0x1A => "COLOUR_NOT_REACHABLE"
  | 0x1B => "TARGET_NOT_REACHABLE"
  | 0x1C => "BAD_INDEX_RECEIVED"
  | 0x1D => "COMMAND_OVERRULED"
  | 0x1E => "NODE_WAITING_FOR_POWER"
  | 0x20 => "NODE_LOCKED"
  | 0x21 => "WRONG_POSITION"
  | 0x22 => "LIMITS_NOT_SET"
  | 0x23 => "IP_NOT_SET"
  | 0x24 => "OUT_OF_RANGE"
  | 0x38 => "PRIORITY_LOCKED"
  | 0xDF => "INFORMATION_CODE"
  | 0xE0 => "PARAMETER_LIMITED"
  | 0xE1 => "LIMITATION_BY_LOCAL_USER"
  | 0xE2 => "LIMITATION_BY_USER"
  | 0xE3 => "LIMITATION_BY_RAIN"
  | 0xE4 => "LIMITATION_BY_TIMER"
  | 0xE5 => "LIMITATION_BY_SCD"
  | 0xE6 => "LIMITATION_BY_UPS"
  | 0xE7 => "LIMITATION_BY_UNKNOWN_DEVICE"
  | 0xEA => "LIMITATION_BY_SAAC"
  | 0xEB => "LIMITATION_BY_WIND"
  | 0xEC => "LIMITATION_BY_MYSELF"
  | 0xED => "LIMITATION_BY_AUTOMATIC_CYCLE"
  | 0xEE => "LIMITATION_BY_EMERGENCY"
  | _ => "UNKNOWN_RESULT_CODE"

def commandResultDescription : UInt8 → String
  | 0x00 => "unknown reply"
  | 0x01 => "no errors detected"
  | 0x02 => "no communication to node"
  | 0x03 => "manually operated by a user"
  | 0x04 => "node has been blocked by an object"
  | 0x05 => "node contains the wrong system key"
  | 0x06 => "node is locked on this priority level"
  | 0x07 => "node stopped in another position than expected"
  | 0x08 => "an error occurred during command execution"
  | 0x09 => "no movement of the node parameter"
  | 0x0A => "node is calibrating the parameters"
  | 0x0B => "node power consumption is too high"
  | 0x0C => "node power consumption is too low"
  | 0x0D => "door open during lock command"
  | 0x0E => "target was not reached in time"
  | 0x0F => "node has gone into thermal protection mode"
  | 0x10 => "node is not currently operational"
  | 0x11 => "filter needs maintenance"
  | 0x12 => "battery level is low"
  | 0x13 => "node modified the requested target value"
  | 0x14 => "node does not support the received mode"
  | 0x15 => "node cannot move in the requested direction"
  | 0x16 => "user action overrode the command"
  | 0x17 => "dead bolt error"
  | 0x18 => "node has gone into automatic cycle mode"
  | 0x19 => "wrong load connected to node"
  | 0x1A => "node cannot reach the requested colour"
  | 0x1B => "node cannot reach the requested target position"
  | 0x1C => "invalid index received"
  | 0x1D => "command was overruled by a newer command"
  | 0x1E => "node is waiting for power"
  | 0x20 => "node is locked"
  | 0x21 => "wrong position"
  | 0x22 => "limits are not set"
  | 0x23 => "intermediate position is not set"
  | 0x24 => "requested value is out of range"
  | 0x38 => "command priority too low, node rejected execution"
  | 0xDF => "information-only result with unknown semantics"
  | 0xE0 => "parameter was limited by an unknown device"
  | 0xE1 => "parameter was limited by the local button"
  | 0xE2 => "parameter was limited by a remote control"
  | 0xE3 => "parameter was limited by a rain sensor"
  | 0xE4 => "parameter was limited by a timer"
  | 0xE5 => "parameter was limited by a security controlling actuator"
  | 0xE6 => "parameter was limited by a power supply"
  | 0xE7 => "parameter was limited by an unknown device"
  | 0xEA => "parameter was limited by a standalone automatic controller"
  | 0xEB => "parameter was limited by a wind sensor"
  | 0xEC => "parameter was limited by the node itself"
  | 0xED => "parameter was limited by an automatic cycle"
  | 0xEE => "parameter was limited by an emergency"
  | _ => "unknown result code"

end HomeIoControl
