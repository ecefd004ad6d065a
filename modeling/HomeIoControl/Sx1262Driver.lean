import HomeIoControl.PhyRoundTrip
import HomeIoControl.RadioDriver

namespace HomeIoControl

/-! ## The bus -/

def sx1262SetStandby : UInt8 := 0x80
def sx1262SetRx : UInt8 := 0x82
def sx1262SetTx : UInt8 := 0x83
def sx1262SetRfFrequency : UInt8 := 0x86
def sx1262SetRxTxFallbackMode : UInt8 := 0x93
def sx1262WriteBuffer : UInt8 := 0x0E
def sx1262ReadBuffer : UInt8 := 0x1E
def sx1262SetDioIrqParams : UInt8 := 0x08
def sx1262GetIrqStatus : UInt8 := 0x12
def sx1262GetPacketStatus : UInt8 := 0x14
def sx1262ClearIrqStatus : UInt8 := 0x02
def sx1262ClearDeviceErrors : UInt8 := 0x07
def sx1262SetPacketType : UInt8 := 0x8A
def sx1262SetModulationParams : UInt8 := 0x8B
def sx1262SetPacketParams : UInt8 := 0x8C
def sx1262SetBufferBaseAddress : UInt8 := 0x8F
def sx1262SetPaConfig : UInt8 := 0x95
def sx1262SetTxParams : UInt8 := 0x8E
def sx1262SetDio2AsRfSwitchCtrl : UInt8 := 0x9D
def sx1262SetDio3AsTcxoCtrl : UInt8 := 0x97
def sx1262Calibrate : UInt8 := 0x89
def sx1262CalibrateImage : UInt8 := 0x98
def sx1262GetRxBufferStatus : UInt8 := 0x13
def sx1262SetRegulatorMode : UInt8 := 0x96
def sx1262WriteRegister : UInt8 := 0x0D
def sx1262ReadRegister : UInt8 := 0x1D

def sx1262IrqTxDone : UInt16 := 0x0001
def sx1262IrqRxDone : UInt16 := 0x0002
def sx1262IrqSyncWordValid : UInt16 := 0x0008
def sx1262IrqCrcErr : UInt16 := 0x0040

def sx1262RegSyncWord : UInt16 := 0x06C0
def sx1262RegRxGain : UInt16 := 0x08AC
def sx1262RegTxClampConfig : UInt16 := 0x08D8

inductive ChipMode
  | standby
  | rx
  | tx
  deriving DecidableEq, Repr

/-- What the commands so far have set. -/
structure Sx1262Chip where
  mode : ChipMode := .standby
  packetParams : List UInt8 := []
  modulationParams : List UInt8 := []
  rfFrequency : List UInt8 := []
  bufferBase : List UInt8 := []
  syncWord : List UInt8 := []
  txBuffer : List UInt8 := []
  deriving DecidableEq, Repr

/-- One transaction: an opcode and what follows it. -/
abbrev SpiTransfer := UInt8 × List UInt8

/-- Reads and other settings leave what is kept here as it was. -/
def Sx1262Chip.transfer (chip : Sx1262Chip) (t : SpiTransfer) : Sx1262Chip :=
  if t.1 = sx1262SetStandby then { chip with mode := .standby }
  else if t.1 = sx1262SetRx then { chip with mode := .rx }
  else if t.1 = sx1262SetTx then { chip with mode := .tx }
  else if t.1 = sx1262SetPacketParams then { chip with packetParams := t.2 }
  else if t.1 = sx1262SetModulationParams then { chip with modulationParams := t.2 }
  else if t.1 = sx1262SetRfFrequency then { chip with rfFrequency := t.2 }
  else if t.1 = sx1262SetBufferBaseAddress then { chip with bufferBase := t.2 }
  else if t.1 = sx1262WriteRegister ∧ t.2.take 2 = [0x06, 0xC0] then
    { chip with syncWord := t.2.drop 2 }
  else if t.1 = sx1262WriteBuffer then { chip with txBuffer := t.2.drop 1 }
  else chip

/-! ## The driver -/

/-- The registers' values of the bandwidths. -/
def Sx1262RxBandwidth.registerByte : Sx1262RxBandwidth → UInt8
  | .bw58_6 => 0x0C
  | .bw78_2 => 0x1B
  | .bw117_3 => 0x0B
  | .bw156_2 => 0x09
  | .bw187_2 => 0x07

/-- One round of a wait loop: whether the interrupt came since the last look, and what the chip's
interrupt status reads then. -/
structure Poll where
  dioFired : Bool
  irq : UInt16
  deriving DecidableEq, Repr

/-- What the chip answers during a call: the rounds of its wait loop up to the deadline, the
status that is read outside of a loop, and the state of the receive buffer. -/
structure Sx1262Answers where
  polls : List Poll := []
  irqStatus : UInt16 := 0
  rxStatus : UInt8 := 0
  rxOffset : UInt8 := 0
  buffer : ℕ → UInt8 := fun _ => 0
  packetStatus : UInt8 := 0
  packetRssi : UInt8 := 0
  nowMs : ℕ := 0

structure RadioSx1262 where
  bus : List SpiTransfer := []
  currentFreq : ℕ := freqCh2
  dioFired : Bool := false
  lastCapture : DriverCapture := {}
  rxBandwidth : Sx1262RxBandwidth := .bw117_3
  txPower : UInt8 := 14
  tcxoVoltage : UInt8 := 2

namespace RadioSx1262

/-- What the driver has made of the chip. -/
def chip (r : RadioSx1262) : Sx1262Chip := r.bus.foldl Sx1262Chip.transfer {}

def writeOpcode (r : RadioSx1262) (opcode : UInt8) (params : List UInt8) : RadioSx1262 :=
  { r with bus := r.bus ++ [(opcode, params)] }

/-- A status byte comes first, then what is read. -/
def readOpcode (r : RadioSx1262) (opcode : UInt8) (len : ℕ) : RadioSx1262 :=
  { r with bus := r.bus ++ [(opcode, List.replicate (len + 1) 0)] }

def highByte (w : UInt16) : UInt8 := (w >>> 8).toUInt8

def lowByte (w : UInt16) : UInt8 := w.toUInt8

def writeRegister (r : RadioSx1262) (addr : UInt16) (data : List UInt8) : RadioSx1262 :=
  { r with bus := r.bus ++ [(sx1262WriteRegister, highByte addr :: lowByte addr :: data)] }

def readRegister (r : RadioSx1262) (addr : UInt16) (len : ℕ) : RadioSx1262 :=
  { r with
    bus := r.bus ++
      [(sx1262ReadRegister, highByte addr :: lowByte addr :: List.replicate (len + 1) 0)] }

def writeBuffer (r : RadioSx1262) (offset : UInt8) (data : List UInt8) : RadioSx1262 :=
  { r with bus := r.bus ++ [(sx1262WriteBuffer, offset :: data)] }

def readBuffer (r : RadioSx1262) (offset : UInt8) (len : ℕ) : RadioSx1262 :=
  { r with bus := r.bus ++ [(sx1262ReadBuffer, offset :: List.replicate (len + 1) 0)] }

def clearDioFired (r : RadioSx1262) : RadioSx1262 := { r with dioFired := false }

/-! ## Settings -/

/-- Preamble in bits, an 8 bit detector, a sync word of 24 bits, no addresses and no whitening. The
packets have the given length, and the chip does not check them. -/
def packetParams (preambleLen : UInt16) (payloadLen : UInt8) : List UInt8 :=
  [highByte preambleLen, lowByte preambleLen, 0x04, 0x18, 0x00, 0x00, payloadLen, 0x01, 0x00]

def setPacketParams (r : RadioSx1262) (preambleLen : UInt16) (payloadLen : UInt8) : RadioSx1262 :=
  r.writeOpcode sx1262SetPacketParams (packetParams preambleLen payloadLen)

/-- A raw window of fixed length. -/
def rxPacketParams : List UInt8 := packetParams 8 48

def setRxPacketParams (r : RadioSx1262) : RadioSx1262 := r.setPacketParams 8 48

def modulationParams (bandwidth : Sx1262RxBandwidth) : List UInt8 :=
  [0x00, 0x68, 0x2B, 0x0B, bandwidth.registerByte, 0x00, 0x4E, 0xA5]

def writeModulationParams (r : RadioSx1262) : RadioSx1262 :=
  r.writeOpcode sx1262SetModulationParams (modulationParams r.rxBandwidth)

def clearIrqStatus (r : RadioSx1262) (irqMask : UInt16) : RadioSx1262 :=
  r.writeOpcode sx1262ClearIrqStatus [highByte irqMask, lowByte irqMask]

def setModeStandby (r : RadioSx1262) : RadioSx1262 := r.writeOpcode sx1262SetStandby [0x01]

/-- Continuous reception. -/
def setModeRx (r : RadioSx1262) : RadioSx1262 := r.writeOpcode sx1262SetRx [0xFF, 0xFF, 0xFF]

/-- In steps of 32 MHz / 2 ^ 25. The quotient of doubles is truncated, which is the quotient of the
integers: a fraction that is not whole is further from the next integer than the rounding error. -/
def frequencySteps (freqHz : ℕ) : ℕ := freqHz * 2 ^ 25 / 32000000

def frequencyRegister (freqHz : ℕ) : List UInt8 :=
  let steps := frequencySteps freqHz
  [.ofNat (steps >>> 24), .ofNat (steps >>> 16), .ofNat (steps >>> 8), .ofNat steps]

def setFrequencyRegister (r : RadioSx1262) (freqHz : ℕ) : RadioSx1262 :=
  { r.writeOpcode sx1262SetRfFrequency (frequencyRegister freqHz) with currentFreq := freqHz }

/-- The transmit half of the buffer begins at 0, the receive half at 0x80. -/
def bufferBase : List UInt8 := [0x00, 0x80]

def setBufferBase (r : RadioSx1262) : RadioSx1262 :=
  r.writeOpcode sx1262SetBufferBaseAddress bufferBase

def resetRxState (r : RadioSx1262) : RadioSx1262 :=
  ((((r.setModeStandby).clearIrqStatus 0xFFFF).setBufferBase).setRxPacketParams).setModeRx

def changeFrequency (freqHz : ℕ) (r : RadioSx1262) : RadioSx1262 :=
  ((((r.setModeStandby).setFrequencyRegister freqHz).clearIrqStatus 0xFFFF).clearDioFired).setModeRx

/-- The preamble and the delay after a transmission are only kept by the driver. -/
def applyTuning (tuning : RuntimeTuning) (r : RadioSx1262) : RadioSx1262 :=
  ({ r with rxBandwidth := tuning.sx1262RxBandwidth }).writeModulationParams

/-! ## Set-up -/

def syncWord : List UInt8 := [0x57, 0xFD, 0x99, 0x00, 0x00, 0x00, 0x00, 0x00]

/-- Limited to what the chip takes, from -9 to 22 dBm. -/
def clampedPower (txPower : UInt8) : UInt8 :=
  let power : ℤ := if txPower < 128 then txPower.toNat else (txPower.toNat : ℤ) - 256
  .ofInt (max (-9) (min 22 power))

/-- `txClamp` is what the register of the transmitter's clamp reads. -/
def configureRadio (txClamp : UInt8) (r : RadioSx1262) : RadioSx1262 :=
  let r := r.writeOpcode sx1262SetStandby [0x00]
  let r := r.writeOpcode sx1262SetDio3AsTcxoCtrl [r.tcxoVoltage, 0x00, 0x01, 0x40]
  let r := r.writeOpcode sx1262Calibrate [0x7F]
  let r := r.writeOpcode sx1262SetStandby [0x01]
  let r := r.writeOpcode sx1262SetRegulatorMode [0x01]
  let r := r.writeOpcode sx1262SetDio2AsRfSwitchCtrl [0x01]
  let r := r.writeOpcode sx1262SetRxTxFallbackMode [0x30]
  let r := r.writeOpcode sx1262SetPacketType [0x00]
  let r := r.setFrequencyRegister freqCh2
  let r := r.writeOpcode sx1262CalibrateImage [0xD7, 0xDB]
  let r := r.writeRegister sx1262RegRxGain [0x96]
  let r := r.writeModulationParams
  let r := r.setRxPacketParams
  let r := r.writeRegister sx1262RegSyncWord syncWord
  let r := r.writeRegister 0x06BC [0x1D, 0x0F]
  let r := r.writeRegister 0x06BE [0x10, 0x21]
  let r := r.setBufferBase
  let r := r.writeOpcode sx1262SetPaConfig [0x04, 0x07, 0x00, 0x01]
  let r := r.readRegister sx1262RegTxClampConfig 1
  let r := r.writeRegister sx1262RegTxClampConfig [txClamp ||| 0x1E]
  let r := r.writeOpcode sx1262SetTxParams [clampedPower r.txPower, 0x04]
  let r := r.writeOpcode sx1262SetDioIrqParams [0x00, 0x4B, 0x00, 0x4B, 0x00, 0x00, 0x00, 0x00]
  let r := r.clearIrqStatus 0xFFFF
  let r := r.writeOpcode sx1262ClearDeviceErrors [0x00, 0x00]
  r.setModeRx

/-! ## Transmitting -/

def isDioFired (r : RadioSx1262) (poll : Poll) : Bool := r.dioFired || poll.dioFired

/-- Only the chip's own report ends the wait. Other events are cleared. -/
def awaitTxDone : List Poll → RadioSx1262 → Bool × RadioSx1262
  | [], r => (false, r)
  | poll :: polls, r =>
    if !r.isDioFired poll then awaitTxDone polls r
    else
      let r := r.clearDioFired.readOpcode sx1262GetIrqStatus 2
      if poll.irq &&& sx1262IrqTxDone ≠ 0 then (true, r)
      else awaitTxDone polls (if poll.irq ≠ 0 then r.clearIrqStatus poll.irq else r)

/-- The length is looked at when the radio is already in standby. -/
def sendPacket (data : List UInt8) (config : RadioTxConfig) (answers : Sx1262Answers)
    (r : RadioSx1262) : Bool × RadioSx1262 :=
  if data.length = 0 then (false, r)
  else
    let r := r.setModeStandby
    let r := r.setFrequencyRegister config.freqHz
    if frameMaxSize + 2 < data.length + 2 then (false, r)
    else
      match uartEncodePacket (frameWithCrc data) radioPacketBufferSize with
      | none => (false, r)
      | some encoded =>
        -- the chip counts the preamble in bits
        let r := r.setPacketParams (.ofNat (min (config.preambleLen * 8) 0xFFFF))
          (.ofNat encoded.length)
        let r := r.clearIrqStatus 0xFFFF
        let r := r.writeBuffer 0x00 encoded
        let r := r.clearDioFired
        let r := r.writeOpcode sx1262SetTx [0x03, 0xE8, 0x00]
        match awaitTxDone answers.polls r with
        | (false, r) => (false, r.setModeStandby)
        | (true, r) => (true, (r.clearDioFired.clearIrqStatus 0xFFFF).resetRxState)

/-! ## Receiving -/

def fillCaptureInfo (r : RadioSx1262) (blockingWait : Bool) (irqStatus : UInt16)
    (rxOffset : UInt8) (reportedLen : ℕ) (raw frame : List UInt8) (answers : Sx1262Answers) :
    RadioSx1262 :=
  { r.readOpcode sx1262GetPacketStatus 3 with
    lastCapture :=
      { populateCaptureBase blockingWait answers.nowMs r.currentFreq (rssiOfRaw answers.packetRssi)
          raw frame with
        rxDone := irqStatus &&& sx1262IrqRxDone != 0
        crcError := irqStatus &&& sx1262IrqCrcErr != 0
        irqStatus
        packetStatus := answers.packetStatus
        rxOffset
        reportedLen } }

/-- The bytes that the protocol layer gets. -/
def receivedData (answers : Sx1262Answers) (currentFreq : ℕ) : List UInt8 :=
  ((HomeIoControl.readRxPacket answers.buffer answers.rxStatus currentFreq).map (·.data)).getD []

def readRxPacket (blockingWait : Bool) (irqStatus : UInt16) (answers : Sx1262Answers)
    (r : RadioSx1262) : Option RadioRxPacket × RadioSx1262 :=
  let r := r.readOpcode sx1262GetRxBufferStatus 2
  let probeLen := rawProbeLen answers.rxStatus
  let r := if 0 < probeLen then r.readBuffer answers.rxOffset probeLen else r
  let r := r.fillCaptureInfo blockingWait irqStatus answers.rxOffset
    (reportedLen answers.rxStatus) (rxWindow answers.buffer answers.rxStatus)
    (receivedData answers r.currentFreq) answers
  (HomeIoControl.readRxPacket answers.buffer answers.rxStatus r.currentFreq, r.resetRxState)

/-- Until the first activity. Returns the status that was read, whether the interrupt came and what
is left of the time. -/
def pollUntilActivity : List Poll → RadioSx1262 → Option (UInt16 × Bool × List Poll) × RadioSx1262
  | [], r => (none, r.clearDioFired.resetRxState)
  | poll :: polls, r =>
    if r.isDioFired poll then
      -- the reason is read after the latch is cleared
      (some (poll.irq, true, polls), r.clearDioFired.readOpcode sx1262GetIrqStatus 2)
    else
      let r := r.readOpcode sx1262GetIrqStatus 2
      if poll.irq ≠ 0 then (some (poll.irq, false, polls), r) else pollUntilActivity polls r

/-- Waits for the end of a packet whose sync word came. -/
def awaitRxDone : List Poll → RadioSx1262 → Option UInt16 × RadioSx1262
  | [], r => (none, r)
  | poll :: polls, r =>
    if !r.isDioFired poll then
      let r := r.readOpcode sx1262GetIrqStatus 2
      if poll.irq &&& sx1262IrqRxDone ≠ 0 then (some poll.irq, r) else awaitRxDone polls r
    else
      let r := r.clearDioFired.readOpcode sx1262GetIrqStatus 2
      if poll.irq &&& sx1262IrqRxDone ≠ 0 then (some poll.irq, r)
      else awaitRxDone polls (if poll.irq ≠ 0 then r.clearIrqStatus poll.irq else r)

def isSyncOnly (irq : UInt16) : Bool :=
  irq &&& sx1262IrqSyncWordValid != 0 && irq &&& sx1262IrqRxDone == 0

def resolveSyncRace (irq : UInt16) (polls : List Poll) (r : RadioSx1262) :
    Option UInt16 × RadioSx1262 :=
  if !isSyncOnly irq then (some irq, r)
  else awaitRxDone polls (r.clearIrqStatus sx1262IrqSyncWordValid)

def finalizeReceive (irq : UInt16) (answers : Sx1262Answers) (r : RadioSx1262) :
    Option RadioRxPacket × RadioSx1262 :=
  if irq &&& sx1262IrqRxDone = 0 then
    (none, (r.fillCaptureInfo true irq 0 0 [] [] answers).resetRxState)
  else r.readRxPacket true irq answers

def waitForPacket (answers : Sx1262Answers) (r : RadioSx1262) :
    Option RadioRxPacket × RadioSx1262 :=
  match pollUntilActivity answers.polls { r with lastCapture := {} } with
  | (none, r) => (none, r)
  | (some (irq, _, polls), r) =>
    match r.resolveSyncRace irq polls with
    | (none, r) => (none, r)
    | (some irq, r) => r.finalizeReceive irq answers

def checkForPacket (answers : Sx1262Answers) (r : RadioSx1262) :
    Option RadioRxPacket × RadioSx1262 :=
  if !r.dioFired then (none, r)
  else
    let r := { r with lastCapture := {}, dioFired := false }
    let r := r.readOpcode sx1262GetIrqStatus 2
    let irq := answers.irqStatus
    if isSyncOnly irq then (none, r.clearIrqStatus sx1262IrqSyncWordValid)
    else if irq &&& sx1262IrqRxDone ≠ 0 then r.readRxPacket false irq answers
    else (none, (r.fillCaptureInfo false irq 0 0 [] [] answers).resetRxState)

end RadioSx1262

/-- The driver behind the interface. -/
def radioSx1262 : RadioDriver RadioSx1262 Sx1262Answers where
  sendPacket := RadioSx1262.sendPacket
  waitForPacket := RadioSx1262.waitForPacket
  checkForPacket := RadioSx1262.checkForPacket
  changeFrequency := RadioSx1262.changeFrequency
  applyTuning := RadioSx1262.applyTuning
  interrupt r := { r with dioFired := true }
  dioFired := RadioSx1262.dioFired
  lastCapture := RadioSx1262.lastCapture
  currentFreq := RadioSx1262.currentFreq

end HomeIoControl
