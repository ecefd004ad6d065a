import HomeIoControl.Codecs
import HomeIoControl.DeviceRegistry
import HomeIoControl.StatusPollPolicy

namespace HomeIoControl

/-! ## Payload layouts -/

def privateResponseMinDataLen : ℕ := 6
def statusUpdateMinDataLen : ℕ := 11
def getNameResponseMinDataLen : ℕ := 1
def getInfo2ResponseMinDataLen : ℕ := 12
def errorResponseMinDataLen : ℕ := 1
def extendedTiltResponseMinDataLen : ℕ := 15
def statusStoppedFlagsOffset : ℕ := 0
def privateResponseDelayHintOffset : ℕ := 7
def privateResponseTargetOffset : ℕ := 2
def privateResponseCurrentOffset : ℕ := 4
def statusUpdateTargetOffset : ℕ := 5
def statusUpdateCurrentOffset : ℕ := 7
def getInfo2TypeOffset : ℕ := 10
def getInfo2TypeSubtypeOffset : ℕ := 11
def extendedTiltSelectorOffset : ℕ := 12
def extendedTiltMsbOffset : ℕ := 13
def statusStopped : UInt8 := 0x01
def privateResponseHintUnused : UInt8 := 0xFF
def privateResponseHintZero : UInt8 := 0x00
def privateResponseHintScaleMs : Millis := 1000
def privateResponseHintBiasMs : Millis := 1000

namespace IoFrame

/-- Two bytes of the payload buffer, the high one first. -/
def word (f : IoFrame) (offset : ℕ) : UInt16 :=
  ((f.byte offset).toUInt16 <<< 8) ||| (f.byte (offset + 1)).toUInt16

end IoFrame

/-! ## What a device type accepts -/

def isBinaryEntityPosition (position : UInt8) : Bool :=
  position == binaryEntityOnPosition || position == binaryEntityOffPosition

/-- An unknown type always matches. -/
def knownDeviceMatchesEntityClass (dev : IoDevice) (expected : DeviceCapabilityClass) : Bool :=
  dev.type == .unknown || deviceCapabilityClass dev.type == expected

def knownDeviceSupportsStatusRequests (dev : IoDevice) : Bool :=
  dev.type == .unknown || deviceSupportsStatusRequests dev.type

def knownDeviceAcceptsExecutePosition (dev : IoDevice) (position : UInt8) : Bool :=
  dev.type == .unknown || deviceSupportsPositionControl dev.type ||
    isBinaryEntityPosition position &&
      (deviceSupportsBinaryControl dev.type || deviceSupportsLockControl dev.type)

def knownDeviceAcceptsExecuteTilt (dev : IoDevice) : Bool :=
  dev.type != .unknown && deviceSupportsTilt dev.type

/-! ## The device record -/

def rssiEmaScale : ℤ := 8

/-- A cast to sixteen bits. -/
def toInt16 (x : ℤ) : ℤ := x.bmod (2 ^ 16)

/-- Rounds half away from zero. -/
def rssiScaledToDbm (scaled : ℤ) : ℤ :=
  let half := rssiEmaScale / 2
  toInt16 ((scaled + if 0 ≤ scaled then half else -half).tdiv rssiEmaScale)

def deviceRssiEmaDbm (dev : IoDevice) : ℤ :=
  if dev.rssiEmaScaled = rssiUnknownDbm then rssiUnknownDbm
  else rssiScaledToDbm dev.rssiEmaScaled

namespace IoDevice

/-- Some devices report that they stopped before they are where they are going. -/
def normalizeStoppedState (dev : IoDevice) : IoDevice :=
  if dev.isStopped = true ∧ dev.target ≠ unknownPosition ∧ dev.position ≠ unknownPosition ∧
      hasReachedTargetPosition dev.target dev.position = false then
    { dev with isStopped := false }
  else dev

/-- The first sample seeds the average. -/
def updateLinkHealth (dev : IoDevice) (rssiDbm : ℤ) (now : Millis) : IoDevice :=
  { dev with
    lastSeenMs := now
    lastRssiDbm := rssiDbm
    rssiEmaScaled :=
      if dev.rssiEmaScaled = rssiUnknownDbm then toInt16 (rssiDbm * rssiEmaScale)
      else toInt16 (dev.rssiEmaScaled + rssiDbm - rssiScaledToDbm dev.rssiEmaScaled) }

/-- Both counters stop at their maximum. -/
def recordExchangeTimeout (dev : IoDevice) (tries : ℕ) : IoDevice :=
  { dev with
    exchangeTimeoutCount :=
      if dev.exchangeTimeoutCount < 65535 then dev.exchangeTimeoutCount + 1
      else dev.exchangeTimeoutCount
    exchangeAttemptCount := .ofNat (min (dev.exchangeAttemptCount.toNat + tries) 65535) }

def recordCommandResult (dev : IoDevice) (result : UInt8) (now : Millis) : IoDevice :=
  { dev with lastResultCode := result, lastResultAtMs := now }

def clearCommandResult (dev : IoDevice) : IoDevice :=
  { dev with lastResultCode := 0, lastResultAtMs := 0 }

/-- Target and current position, and the tilt where the frame has it. -/
def decodeStatusFields (dev : IoDevice) (frame : IoFrame) (targetOffset currentOffset : ℕ)
    (allowTiltFromExtendedResponse : Bool) : IoDevice :=
  let report :=
    decodePositionReport (frame.word targetOffset) (frame.word currentOffset) dev.isStopped
  let dev := { dev with target := report.target, position := report.position }
  let dev := dev.normalizeStoppedState
  if allowTiltFromExtendedResponse && deviceSupportsTilt dev.type &&
      decide (extendedTiltResponseMinDataLen ≤ frame.dataLen) &&
      frame.byte extendedTiltSelectorOffset == statusTiltSelector then
    { dev with tilt := decodeTiltReport (frame.word extendedTiltMsbOffset) }
  else dev

/-- The record after a private response. The reply to an own command moves no position. -/
def applyPrivateResponse (dev : IoDevice) (frame : IoFrame) (trustPosition : Bool)
    (now : Millis) : IoDevice :=
  let dev := { dev with
    isStopped := frame.byte statusStoppedFlagsOffset &&& statusStopped != 0
    lastStatus := now }
  if trustPosition then
    dev.decodeStatusFields frame privateResponseTargetOffset privateResponseCurrentOffset true
  else dev.normalizeStoppedState

/-- The record after a status update. -/
def applyStatusUpdate (dev : IoDevice) (frame : IoFrame) (now : Millis) : IoDevice :=
  let dev := { dev with
    isStopped := frame.byte statusStoppedFlagsOffset &&& statusStopped != 0
    lastStatus := now }
  dev.decodeStatusFields frame statusUpdateTargetOffset statusUpdateCurrentOffset false

/-- A declared type has priority. -/
def applyInfo2Response (dev : IoDevice) (frame : IoFrame) : IoDevice :=
  if dev.type ≠ .unknown then dev
  else
    let typeSubtype := frame.byte getInfo2TypeSubtypeOffset
    let type := decodePackedDeviceType (frame.byte getInfo2TypeOffset) typeSubtype
    { dev with
      type := type
      subtype := decodePackedDeviceSubtype typeSubtype
      inverted := dev.inverted || defaultInvertedForType type }

def applyNameResponse (dev : IoDevice) (frame : IoFrame) : IoDevice :=
  { dev with name := nameBuffer (decodeDeviceNamePayload frame.payload) }

@[simp] theorem isStopped_recordCommandResult (dev : IoDevice) (result : UInt8) (now : Millis) :
    (dev.recordCommandResult result now).isStopped = dev.isStopped := rfl

@[simp] theorem isStopped_clearCommandResult (dev : IoDevice) :
    dev.clearCommandResult.isStopped = dev.isStopped := rfl

@[simp] theorem isStopped_applyNameResponse (dev : IoDevice) (frame : IoFrame) :
    (dev.applyNameResponse frame).isStopped = dev.isStopped := by
  unfold applyNameResponse
  rfl

@[simp] theorem isStopped_applyInfo2Response (dev : IoDevice) (frame : IoFrame) :
    (dev.applyInfo2Response frame).isStopped = dev.isStopped := by
  unfold applyInfo2Response
  split_ifs <;> rfl

/-- Normalising keeps the flag unless the positions contradict it. -/
theorem isStopped_normalizeStoppedState (dev : IoDevice) :
    dev.normalizeStoppedState.isStopped = true ↔
      dev.isStopped = true ∧
        ¬(dev.target ≠ unknownPosition ∧ dev.position ≠ unknownPosition ∧
          hasReachedTargetPosition dev.target dev.position = false) := by
  unfold normalizeStoppedState
  split_ifs with h
  · exact iff_of_false not_false fun hnot => hnot.2 h.2
  · exact ⟨fun hstopped => ⟨hstopped, fun hmoving => h ⟨hstopped, hmoving⟩⟩, And.left⟩

@[simp] theorem lastStatus_normalizeStoppedState (dev : IoDevice) :
    dev.normalizeStoppedState.lastStatus = dev.lastStatus := by
  unfold normalizeStoppedState
  split_ifs <;> rfl

@[simp] theorem lastStatus_decodeStatusFields (dev : IoDevice) (frame : IoFrame)
    (targetOffset currentOffset : ℕ) (allowTilt : Bool) :
    (dev.decodeStatusFields frame targetOffset currentOffset allowTilt).lastStatus =
      dev.lastStatus := by
  unfold decodeStatusFields
  dsimp only
  split_ifs
  · exact lastStatus_normalizeStoppedState _
  · exact lastStatus_normalizeStoppedState _

@[simp] theorem lastStatus_applyPrivateResponse (dev : IoDevice) (frame : IoFrame)
    (trustPosition : Bool) (now : Millis) :
    (dev.applyPrivateResponse frame trustPosition now).lastStatus = now := by
  unfold applyPrivateResponse
  cases trustPosition <;> simp

@[simp] theorem lastStatus_applyStatusUpdate (dev : IoDevice) (frame : IoFrame) (now : Millis) :
    (dev.applyStatusUpdate frame now).lastStatus = now := by
  simp [applyStatusUpdate]

end IoDevice

/-! ## Follow-up polls -/

/-- The device's own timer, zero when the frame has none. -/
def privateResponseHintDelayMs (frame : IoFrame) : Millis :=
  let hint := frame.byte privateResponseDelayHintOffset
  if privateResponseDelayHintOffset < frame.dataLen ∧ hint ≠ privateResponseHintUnused ∧
      hint ≠ privateResponseHintZero then
    hint.toUInt32 * privateResponseHintScaleMs + privateResponseHintBiasMs
  else 0

def computePrivateResponseDelayMs (dev : IoDevice) (frame : IoFrame) (policy : StatusPollPolicy)
    (deviceId : DeviceId) : Millis :=
  if dev.isStopped then 0
  else settleDelayMs (policy.getInterval deviceId) (privateResponseHintDelayMs frame) false

def computeStatusUpdateDelayMs (dev : IoDevice) (policy : StatusPollPolicy)
    (deviceId : DeviceId) : Millis :=
  if dev.isStopped then 0 else settleDelayMs (policy.getInterval deviceId) 0 false

namespace StatusPollPolicy

/-- The schedule after a private response. An earlier poll stays. -/
def rescheduleAfterPrivateResponse (policy : StatusPollPolicy) (deviceId : DeviceId)
    (dev : IoDevice) (frame : IoFrame) : StatusPollPolicy :=
  if dev.isStopped || !policy.isTrackingActive deviceId dev.lastStatus then policy.clear deviceId
  else
    let newDeadline := dev.lastStatus + computePrivateResponseDelayMs dev frame policy deviceId
    let existingDeadline := policy.getNextUpdate deviceId
    policy.setNextUpdate deviceId
      (if existingDeadline ≠ 0 ∧ existingDeadline < newDeadline then existingDeadline
        else newDeadline)

/-- The schedule after a status update. -/
def rescheduleAfterStatusUpdate (policy : StatusPollPolicy) (deviceId : DeviceId)
    (dev : IoDevice) : StatusPollPolicy :=
  if dev.isStopped || !policy.isTrackingActive deviceId dev.lastStatus then policy.clear deviceId
  else
    policy.setNextUpdate deviceId
      (dev.lastStatus + computeStatusUpdateDelayMs dev policy deviceId)

theorem entry_rescheduleAfterPrivateResponse_of_ne (policy : StatusPollPolicy)
    {deviceId other : DeviceId} (h : deviceId ≠ other) (dev : IoDevice) (frame : IoFrame) :
    (policy.rescheduleAfterPrivateResponse deviceId dev frame).entry other =
      policy.entry other := by
  unfold rescheduleAfterPrivateResponse
  split_ifs
  · rw [entry_clear, if_neg h]
  · rw [entry_setNextUpdate, if_neg h]

theorem entry_rescheduleAfterStatusUpdate_of_ne (policy : StatusPollPolicy)
    {deviceId other : DeviceId} (h : deviceId ≠ other) (dev : IoDevice) :
    (policy.rescheduleAfterStatusUpdate deviceId dev).entry other = policy.entry other := by
  unfold rescheduleAfterStatusUpdate
  split_ifs
  · rw [entry_clear, if_neg h]
  · rw [entry_setNextUpdate, if_neg h]

end StatusPollPolicy

/-- A private response, to the record and to the schedule. -/
def applyPrivateResponseStatus (deviceId : DeviceId) (dev : IoDevice) (frame : IoFrame)
    (policy : StatusPollPolicy) (trustPosition : Bool) (now : Millis) :
    IoDevice × StatusPollPolicy :=
  let dev := dev.applyPrivateResponse frame trustPosition now
  (dev, policy.rescheduleAfterPrivateResponse deviceId dev frame)

/-- A status update, to the record and to the schedule. -/
def applyUnsolicitedStatusUpdate (deviceId : DeviceId) (dev : IoDevice) (frame : IoFrame)
    (policy : StatusPollPolicy) (now : Millis) : IoDevice × StatusPollPolicy :=
  let dev := dev.applyStatusUpdate frame now
  (dev, policy.rescheduleAfterStatusUpdate deviceId dev)

end HomeIoControl
