import HomeIoControl.RadioDriver
import Mathlib.Logic.Function.Basic

namespace HomeIoControl

/-! ## Registers -/

def regOpMode : UInt8 := 0x01
def regBitrateMsb : UInt8 := 0x02
def regBitrateLsb : UInt8 := 0x03
def regFdevMsb : UInt8 := 0x04
def regFdevLsb : UInt8 := 0x05
def regFrfMsb : UInt8 := 0x06
def regFrfMid : UInt8 := 0x07
def regFrfLsb : UInt8 := 0x08
def regPaConfig : UInt8 := 0x09
def regPaRamp : UInt8 := 0x0A
def regLna : UInt8 := 0x0C
def regRxConfig : UInt8 := 0x0D
def regRssiConfig : UInt8 := 0x0E
def regRxBw : UInt8 := 0x12
def regAfcBw : UInt8 := 0x13
def regAfcFei : UInt8 := 0x1A
def regPreambleDetect : UInt8 := 0x1F
def regOsc : UInt8 := 0x24
def regPreambleMsb : UInt8 := 0x25
def regPreambleLsb : UInt8 := 0x26
def regSyncConfig : UInt8 := 0x27
def regSyncValue1 : UInt8 := 0x28
def regPacketConfig1 : UInt8 := 0x30
def regPacketConfig2 : UInt8 := 0x31
def regPayloadLength : UInt8 := 0x32
def regFifoThresh : UInt8 := 0x35
def regImageCal : UInt8 := 0x3B
def regIrqFlags2 : UInt8 := 0x3F
def regDioMapping1 : UInt8 := 0x40
def regDioMapping2 : UInt8 := 0x41
def regPllHop : UInt8 := 0x44

def modeStdby : UInt8 := 0x01
def modeTx : UInt8 := 0x03
def modeRx : UInt8 := 0x05
def modeMask : UInt8 := 0x07

def fxosc : ℕ := 32000000

/-- The registers' values of the bandwidths. -/
def Sx1276RxBandwidth.registerByte : Sx1276RxBandwidth → UInt8
  | .bw20_8 => 0x14
  | .bw41_7 => 0x13
  | .bw62_5 => 0x03
  | .bw83_3 => 0x12
  | .bw125_0 => 0x02

/-! ## The driver -/

/-- One round of a wait loop: whether the interrupt came since the last look, and what the flags
read then. -/
structure FlagPoll where
  dioFired : Bool
  irq1 : UInt8
  irq2 : UInt8
  deriving DecidableEq, Repr

/-- What the chip answers during a call: the rounds of its wait loop up to the deadline, the flags
that are read outside of a loop, and the bytes in the receive buffer. -/
structure Sx1276Answers where
  polls : List FlagPoll := []
  irq1 : UInt8 := 0
  irq2 : UInt8 := 0
  rssi : UInt8 := 0
  fifo : List UInt8 := []
  /-- The mode is reported within 50 ms of its setting. -/
  settles : UInt8 → Bool := fun _ => true
  nowMs : ℕ := 0

/-- What the chip answers during the set-up. -/
structure Sx1276Setup where
  version : UInt8 := 0x12
  settles : UInt8 → Bool := fun _ => true
  calibrates : Bool := true

/-- `registers` holds what was written, `modeReached` says whether the chip reported the mode that
was set last, and `txFifo` holds what was written to the buffer since the last transmission. -/
structure RadioSx1276 where
  registers : UInt8 → UInt8 := fun _ => 0
  modeReached : Bool := false
  txFifo : List UInt8 := []
  currentFreq : ℕ := freqCh2
  dioFired : Bool := false
  lastCapture : DriverCapture := {}
  failed : Bool := false
  rxBandwidth : Sx1276RxBandwidth := .bw41_7
  txPower : UInt8 := 14
  paPin : UInt8 := 0x80

namespace RadioSx1276

def writeRegister (reg value : UInt8) (r : RadioSx1276) : RadioSx1276 :=
  { r with registers := Function.update r.registers reg value }

def clearDioFired (r : RadioSx1276) : RadioSx1276 := { r with dioFired := false }

/-! ## Settings -/

/-- The other bits of the register stay. -/
def setMode (mode : UInt8) (settles : UInt8 → Bool) (r : RadioSx1276) : RadioSx1276 :=
  let current := r.registers regOpMode
  let r := r.writeRegister regOpMode (current &&& ~~~modeMask ||| mode &&& modeMask)
  if settles mode then { r with modeReached := true }
  else { r with modeReached := false, failed := true }

def runImageCal (setup : Sx1276Setup) (r : RadioSx1276) : RadioSx1276 :=
  let r := (r.setMode modeStdby setup.settles).writeRegister regImageCal 0x40
  if setup.calibrates then r else { r with failed := true }

/-- In steps of 32 MHz / 2 ^ 19. -/
def frequencySteps (freqHz : ℕ) : ℕ := freqHz <<< 19 / fxosc

/-- A fast hop: the mode stays. -/
def changeFrequency (freqHz : ℕ) (r : RadioSx1276) : RadioSx1276 :=
  let frf := frequencySteps freqHz
  let r := r.writeRegister regFrfMsb (.ofNat (frf >>> 16))
  let r := r.writeRegister regFrfMid (.ofNat (frf >>> 8))
  let r := r.writeRegister regFrfLsb (.ofNat frf)
  { r with currentFreq := freqHz }

def setRxBandwidth (bandwidth : Sx1276RxBandwidth) (r : RadioSx1276) : RadioSx1276 :=
  (({ r with rxBandwidth := bandwidth }).writeRegister regRxBw bandwidth.registerByte).writeRegister
    regAfcBw bandwidth.registerByte

/-- The response preamble is only kept by the driver. -/
def applyTuning (tuning : RuntimeTuning) (r : RadioSx1276) : RadioSx1276 :=
  r.setRxBandwidth tuning.sx1276RxBandwidth

/-! ## Set-up -/

def bitrate : ℕ := fxosc / 38400

/-- 19200 Hz. The product of floats is 314.57 before it is truncated. -/
def deviation : ℕ := 19200 * 2 ^ 19 / fxosc

def paConfig (r : RadioSx1276) : UInt8 :=
  if r.paPin = 0x80 then 0x80 ||| (min (max r.txPower 2) 17 - 2) else min r.txPower 14

def highByte (n : ℕ) : UInt8 := .ofNat (n >>> 8)

def lowByte (n : ℕ) : UInt8 := .ofNat n

/-- The settings of the modem, without the ones that calls change later. -/
def writeModem (r : RadioSx1276) : RadioSx1276 :=
  let r := r.writeRegister regOsc 0x07
  let r := r.writeRegister regPacketConfig1 0x90
  let r := r.writeRegister regPacketConfig2 0x70
  let r := r.writeRegister regSyncConfig 0x50
  let r := r.writeRegister regDioMapping1 0x3D
  let r := r.writeRegister regDioMapping2 0xF1
  let r := r.writeRegister regPllHop (r.registers regPllHop ||| 0x80)
  let r := r.writeRegister regPaRamp 0x2D
  let r := r.writeRegister regFifoThresh 0x80
  let r := r.writeRegister regPayloadLength 0xFF
  let r := r.writeRegister regRssiConfig 0x02
  let r := r.writeRegister regRxConfig 0x9E
  let r := r.writeRegister regAfcFei 0x01
  let r := r.writeRegister regLna 0x23
  let r := r.writeRegister regPreambleDetect 0xAA
  let r := r.setRxBandwidth r.rxBandwidth
  let r := r.writeRegister regBitrateMsb (highByte bitrate)
  let r := r.writeRegister regBitrateLsb (lowByte bitrate)
  let r := r.writeRegister regFdevMsb (highByte deviation)
  let r := r.writeRegister regFdevLsb (lowByte deviation)
  let r := r.writeRegister regPaConfig r.paConfig
  let r := r.writeRegister 0x0B 0x3B
  let r := r.writeRegister regPreambleMsb 0x04
  let r := r.writeRegister regPreambleLsb 0x00
  let r := r.writeRegister regSyncConfig (r.registers regSyncConfig &&& 0xF8 ||| 0x02)
  let r := r.writeRegister regSyncValue1 0x55
  let r := r.writeRegister (regSyncValue1 + 1) 0xFF
  r.writeRegister (regSyncValue1 + 2) 0x33

def configureRadio (setup : Sx1276Setup) (r : RadioSx1276) : RadioSx1276 :=
  let r := r.writeRegister regOpMode 0x00
  let frf := frequencySteps freqCh2
  let r := r.writeRegister regFrfMsb (.ofNat (frf >>> 16))
  let r := r.writeRegister regFrfMid (.ofNat (frf >>> 8))
  let r := r.writeRegister regFrfLsb (.ofNat frf)
  let r := r.setMode modeStdby setup.settles
  let r := r.runImageCal setup
  if r.failed then r
  else ((r.setMode modeStdby setup.settles).writeModem).setMode modeRx setup.settles

/-- The reset of the chip is not kept here: every register that matters is written. -/
def init (setup : Sx1276Setup) (r : RadioSx1276) : Bool × RadioSx1276 :=
  if setup.version ≠ 0x12 then (false, { r with failed := true })
  else
    let r := r.configureRadio setup
    if r.failed then (false, r) else (true, r)

/-! ## Transmitting -/

/-- The frame goes to the chip as it is, which adds the CRC itself. A successful transmission leaves
the latch of the interrupt as it is. -/
def sendPacket (data : List UInt8) (config : RadioTxConfig) (answers : Sx1276Answers)
    (r : RadioSx1276) : Bool × RadioSx1276 :=
  if data.length = 0 ∨ radioPacketBufferSize < data.length then (false, r)
  else
    let r := r.setMode modeStdby answers.settles
    let r := r.writeRegister regPreambleMsb (highByte config.preambleLen)
    let r := r.writeRegister regPreambleLsb (lowByte config.preambleLen)
    let r := r.changeFrequency config.freqHz
    let r := { r with txFifo := data }
    let r := r.clearDioFired
    let r := r.writeRegister regOpMode (r.registers regOpMode &&& 0xF8 ||| modeTx)
    if answers.polls.any (·.dioFired) then
      let r := { r with dioFired := true }
      let r := r.writeRegister regPreambleMsb 0x00
      let r := r.writeRegister regPreambleLsb 0x08
      (true, r.setMode modeRx answers.settles)
    else (false, r.setMode modeStdby answers.settles)

/-! ## Receiving -/

def fillCaptureInfo (blockingWait : Bool) (irq1 irq2 rssi : UInt8) (raw : List UInt8) (nowMs : ℕ)
    (r : RadioSx1276) : RadioSx1276 :=
  { r with
    lastCapture :=
      { populateCaptureBase blockingWait nowMs r.currentFreq (rssiOfRaw rssi) raw raw with
        rxDone := irq2 &&& 0x04 != 0
        irqFlags1 := irq1
        irqFlags2 := irq2
        crcError := false
        reportedLen := raw.length } }

/-- The payload is ready when the flags say so, or when the interrupt came, whatever they say. -/
def pollUntilPayloadReady : List FlagPoll → RadioSx1276 → Option (UInt8 × UInt8) × RadioSx1276
  | [], r => (none, r)
  | poll :: polls, r =>
    if r.dioFired || poll.dioFired then (some (poll.irq1, poll.irq2), r.clearDioFired)
    else if poll.irq2 &&& 0x04 ≠ 0 then (some (poll.irq1, poll.irq2), r.clearDioFired)
    else pollUntilPayloadReady polls r

/-- Until the buffer is empty, or the packet's one is full. -/
def readFifoPacket (answers : Sx1276Answers) : List UInt8 := answers.fifo.take radioPacketBufferSize

def packetOf (data : List UInt8) (r : RadioSx1276) : Option RadioRxPacket :=
  if data.length > 0 then some { data, freqHz := r.currentFreq } else none

def waitForPacket (answers : Sx1276Answers) (r : RadioSx1276) :
    Option RadioRxPacket × RadioSx1276 :=
  match pollUntilPayloadReady answers.polls ({ r with lastCapture := {} }).clearDioFired with
  | (none, r) => (none, r)
  | (some (irq1, irq2), r) =>
    if irq2 &&& 0x04 = 0 then (none, r.fillCaptureInfo true irq1 irq2 answers.rssi [] answers.nowMs)
    else
      let data := readFifoPacket answers
      (packetOf data r, r.fillCaptureInfo true irq1 irq2 answers.rssi data answers.nowMs)

def checkForPacket (answers : Sx1276Answers) (r : RadioSx1276) :
    Option RadioRxPacket × RadioSx1276 :=
  if !r.dioFired then (none, r)
  else
    let r := { r with lastCapture := {}, dioFired := false }
    if answers.irq2 &&& 0x04 ≠ 0 then
      let data := readFifoPacket answers
      (packetOf data r,
        r.fillCaptureInfo false answers.irq1 answers.irq2 answers.rssi data answers.nowMs)
    else
      let r := r.fillCaptureInfo false answers.irq1 answers.irq2 answers.rssi [] answers.nowMs
      (none, if answers.irq2 &&& 0x10 ≠ 0 then r.writeRegister regIrqFlags2 0x10 else r)

end RadioSx1276

/-- The driver behind the interface. -/
def radioSx1276 : RadioDriver RadioSx1276 Sx1276Answers where
  sendPacket := RadioSx1276.sendPacket
  waitForPacket := RadioSx1276.waitForPacket
  checkForPacket := RadioSx1276.checkForPacket
  changeFrequency := RadioSx1276.changeFrequency
  applyTuning := RadioSx1276.applyTuning
  interrupt r := { r with dioFired := true }
  dioFired := RadioSx1276.dioFired
  lastCapture := RadioSx1276.lastCapture
  currentFreq := RadioSx1276.currentFreq

end HomeIoControl
