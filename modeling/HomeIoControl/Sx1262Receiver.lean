import HomeIoControl.Sx1262Driver

namespace HomeIoControl
open GuardedRun

namespace RadioSx1262

variable {r : RadioSx1262}

/-! ## What a transaction leaves -/

/-- The chip with what the driver believes about it. -/
def setup (r : RadioSx1262) : Sx1262Chip × ℕ × Sx1262RxBandwidth :=
  (r.chip, r.currentFreq, r.rxBandwidth)

theorem chip_append (r : RadioSx1262) (t : SpiTransfer) :
    ({ r with bus := r.bus ++ [t] } : RadioSx1262).chip = r.chip.transfer t := by
  simp [chip]

theorem chip_writeOpcode (r : RadioSx1262) (opcode : UInt8) (params : List UInt8) :
    (r.writeOpcode opcode params).chip = r.chip.transfer (opcode, params) :=
  r.chip_append _

@[simp] theorem setup_clearDioFired (r : RadioSx1262) : r.clearDioFired.setup = r.setup := rfl

theorem setup_readOpcode (r : RadioSx1262) {opcode : UInt8}
    (h : opcode ∈ [sx1262GetIrqStatus, sx1262GetPacketStatus, sx1262GetRxBufferStatus]) (len : ℕ) :
    (r.readOpcode opcode len).setup = r.setup := by
  unfold setup readOpcode
  rw [chip_append]
  simp only [List.mem_cons, List.not_mem_nil, or_false] at h
  rcases h with rfl | rfl | rfl <;> rfl

@[simp] theorem setup_readIrq (r : RadioSx1262) (len : ℕ) :
    (r.readOpcode sx1262GetIrqStatus len).setup = r.setup :=
  r.setup_readOpcode (by simp) len

@[simp] theorem setup_clearIrqStatus (r : RadioSx1262) (irqMask : UInt16) :
    (r.clearIrqStatus irqMask).setup = r.setup := by
  unfold setup clearIrqStatus
  rw [chip_writeOpcode]
  rfl

@[simp] theorem setup_setModeStandby (r : RadioSx1262) :
    r.setModeStandby.setup = ({ r.chip with mode := .standby }, r.setup.2) := by
  unfold setup setModeStandby
  rw [chip_writeOpcode]
  rfl

@[simp] theorem setup_setModeRx (r : RadioSx1262) :
    r.setModeRx.setup = ({ r.chip with mode := .rx }, r.setup.2) := by
  unfold setup setModeRx
  rw [chip_writeOpcode]
  rfl

/-! ## Reception -/

/-- The settings that the driver keeps up, whatever the mode. -/
structure Configured (r : RadioSx1262) : Prop where
  tuned : r.chip.rfFrequency = frequencyRegister r.currentFreq
  bandwidth : r.chip.modulationParams = modulationParams r.rxBandwidth
  buffer : r.chip.bufferBase = bufferBase
  sync : r.chip.syncWord = syncWord

/-- The chip receives windows of the probe's length on the channel of the driver. -/
structure Receiving (r : RadioSx1262) : Prop extends Configured r where
  mode : r.chip.mode = .rx
  window : r.chip.packetParams = rxPacketParams

theorem Configured.of_setup {s : RadioSx1262} {mode : ChipMode}
    (h : s.setup = ({ r.chip with mode }, r.currentFreq, r.rxBandwidth)) (hr : Configured r) :
    Configured s := by
  obtain ⟨hchip, hfreq, hbandwidth⟩ : s.chip = { r.chip with mode } ∧
      s.currentFreq = r.currentFreq ∧ s.rxBandwidth = r.rxBandwidth := by simpa [setup] using h
  exact ⟨by rw [hchip, hfreq, ← hr.tuned], by rw [hchip, hbandwidth, ← hr.bandwidth],
    by rw [hchip, ← hr.buffer], by rw [hchip, ← hr.sync]⟩

theorem Configured.of_setup_eq {s : RadioSx1262} (h : s.setup = r.setup) (hr : Configured r) :
    Configured s := by
  have hsame : s.setup = ({ r.chip with mode := r.chip.mode }, r.currentFreq, r.rxBandwidth) := h
  exact hr.of_setup hsame

theorem Receiving.of_setup_eq {s : RadioSx1262} (h : s.setup = r.setup) (hr : Receiving r) :
    Receiving s := by
  have hchip : s.chip = r.chip := congrArg Prod.fst h
  exact ⟨hr.toConfigured.of_setup_eq h, by rw [hchip, hr.mode], by rw [hchip, hr.window]⟩

theorem chip_resetRxState (r : RadioSx1262) :
    r.resetRxState.chip =
      { r.chip with mode := .rx, bufferBase := bufferBase, packetParams := rxPacketParams } := by
  unfold resetRxState setModeRx setRxPacketParams setPacketParams setBufferBase clearIrqStatus
    setModeStandby
  simp only [chip_writeOpcode]
  rfl

/-- Whatever went before, the receiver is set up again. -/
theorem Configured.resetRxState (h : Configured r) : Receiving r.resetRxState := by
  have hfreq : r.resetRxState.currentFreq = r.currentFreq := rfl
  have hbandwidth : r.resetRxState.rxBandwidth = r.rxBandwidth := rfl
  refine ⟨⟨?_, ?_, ?_, ?_⟩, ?_, ?_⟩
  · rw [chip_resetRxState, hfreq, ← h.tuned]
  · rw [chip_resetRxState, hbandwidth, ← h.bandwidth]
  · rw [chip_resetRxState]
  · rw [chip_resetRxState, ← h.sync]
  · rw [chip_resetRxState]
  · rw [chip_resetRxState]

theorem chip_changeFrequency (freqHz : ℕ) (r : RadioSx1262) :
    (changeFrequency freqHz r).chip =
      { r.chip with mode := .rx, rfFrequency := frequencyRegister freqHz } := by
  have hdio : ∀ s : RadioSx1262, s.clearDioFired.chip = s.chip := fun s => rfl
  have hfreq : ∀ s : RadioSx1262, (s.setFrequencyRegister freqHz).chip =
      { s.chip with rfFrequency := frequencyRegister freqHz } := fun s => s.chip_writeOpcode _ _
  unfold changeFrequency setModeRx clearIrqStatus setModeStandby
  rw [chip_writeOpcode, hdio, chip_writeOpcode, hfreq, chip_writeOpcode]
  rfl

/-- A hop also ends a standby, and it does not touch the packet's settings. -/
theorem Configured.changeFrequency (h : Configured r) (freqHz : ℕ) :
    Configured (changeFrequency freqHz r) := by
  have hbandwidth : (RadioSx1262.changeFrequency freqHz r).rxBandwidth = r.rxBandwidth := rfl
  refine ⟨?_, ?_, ?_, ?_⟩
  · rw [chip_changeFrequency]
    rfl
  · rw [chip_changeFrequency, hbandwidth, ← h.bandwidth]
  · rw [chip_changeFrequency, ← h.buffer]
  · rw [chip_changeFrequency, ← h.sync]

theorem chip_applyTuning (tuning : RuntimeTuning) (r : RadioSx1262) :
    (applyTuning tuning r).chip =
      { r.chip with modulationParams := modulationParams tuning.sx1262RxBandwidth } := by
  unfold applyTuning writeModulationParams
  rw [chip_writeOpcode]
  rfl

theorem Configured.applyTuning (h : Configured r) (tuning : RuntimeTuning) :
    Configured (applyTuning tuning r) := by
  have hfreq : (RadioSx1262.applyTuning tuning r).currentFreq = r.currentFreq := rfl
  refine ⟨?_, ?_, ?_, ?_⟩
  · rw [chip_applyTuning, hfreq, ← h.tuned]
  · rw [chip_applyTuning]
    rfl
  · rw [chip_applyTuning, ← h.buffer]
  · rw [chip_applyTuning, ← h.sync]

/-! ## Transmissions -/

theorem awaitTxDone_setup (polls : List Poll) (r : RadioSx1262) :
    (awaitTxDone polls r).2.setup = r.setup := by
  induction polls generalizing r with
  | nil => rfl
  | cons poll polls ih =>
    unfold awaitTxDone
    split_ifs <;> simp [ih]

/-- The radio when the chip is told to send. -/
def transmitting (encoded : List UInt8) (config : RadioTxConfig) (r : RadioSx1262) :
    RadioSx1262 :=
  (((((r.setModeStandby.setFrequencyRegister config.freqHz).setPacketParams
    (.ofNat (min (config.preambleLen * 8) 0xFFFF)) (.ofNat encoded.length)).clearIrqStatus
    0xFFFF).writeBuffer 0x00 encoded).clearDioFired).writeOpcode sx1262SetTx [0x03, 0xE8, 0x00]

theorem chip_transmitting (encoded : List UInt8) (config : RadioTxConfig) (r : RadioSx1262) :
    (transmitting encoded config r).chip =
      { r.chip with
        mode := .tx
        rfFrequency := frequencyRegister config.freqHz
        packetParams :=
          packetParams (.ofNat (min (config.preambleLen * 8) 0xFFFF)) (.ofNat encoded.length)
        txBuffer := encoded } := by
  have hdio : ∀ s : RadioSx1262, s.clearDioFired.chip = s.chip := fun s => rfl
  have hbuffer : ∀ s : RadioSx1262, (s.writeBuffer 0x00 encoded).chip =
      { s.chip with txBuffer := encoded } := fun s => s.chip_append _
  have hfreq : ∀ s : RadioSx1262, (s.setFrequencyRegister config.freqHz).chip =
      { s.chip with rfFrequency := frequencyRegister config.freqHz } := fun s => s.chip_writeOpcode _ _
  unfold transmitting clearIrqStatus setPacketParams setModeStandby
  rw [chip_writeOpcode, hdio, hbuffer, chip_writeOpcode, chip_writeOpcode, hfreq, chip_writeOpcode]
  rfl

theorem Configured.transmitting (h : Configured r) (encoded : List UInt8) (config : RadioTxConfig) :
    Configured (transmitting encoded config r) := by
  have hfreq : (RadioSx1262.transmitting encoded config r).currentFreq = config.freqHz := rfl
  have hbandwidth : (RadioSx1262.transmitting encoded config r).rxBandwidth = r.rxBandwidth := rfl
  refine ⟨?_, ?_, ?_, ?_⟩
  · rw [chip_transmitting, hfreq]
  · rw [chip_transmitting, hbandwidth, ← h.bandwidth]
  · rw [chip_transmitting, ← h.buffer]
  · rw [chip_transmitting, ← h.sync]

variable {data : List UInt8} {config : RadioTxConfig} {answers : Sx1262Answers}

/-- Every frame fits the chip's buffer. -/
theorem uartEncodePacket_frameWithCrc (hmax : data.length ≤ frameMaxSize) :
    uartEncodePacket (frameWithCrc data) radioPacketBufferSize =
      some (BitStream.packMsb (uartBits (frameWithCrc data))) := by
  have hlength : (frameWithCrc data).length = data.length + 2 := by simp [frameWithCrc]
  unfold uartEncodePacket
  unfold frameMaxSize at hmax
  rw [hlength, if_neg (by unfold radioPacketBufferSize; omega),
    if_neg (by unfold radioPacketBufferSize; omega)]

/-- A frame is sent once the chip says so, and otherwise the radio is left in standby. -/
theorem sendPacket_eq (hpos : 0 < data.length) (hmax : data.length ≤ frameMaxSize) (r : RadioSx1262) :
    sendPacket data config answers r =
      let sending := transmitting (BitStream.packMsb (uartBits (frameWithCrc data))) config r
      match awaitTxDone answers.polls sending with
      | (false, r) => (false, r.setModeStandby)
      | (true, r) => (true, (r.clearDioFired.clearIrqStatus 0xFFFF).resetRxState) := by
  unfold sendPacket
  rw [if_neg (Nat.ne_of_gt hpos), uartEncodePacket_frameWithCrc hmax]
  dsimp only
  rw [if_neg (by omega)]
  rfl

theorem Configured.sendPacket_sent (h : Configured r) (hmax : data.length ≤ frameMaxSize)
    (hsent : (sendPacket data config answers r).1 = true) :
    Receiving (sendPacket data config answers r).2 := by
  by_cases hpos : 0 < data.length
  · rw [sendPacket_eq hpos hmax] at hsent ⊢
    dsimp only at hsent ⊢
    have hsetup := awaitTxDone_setup answers.polls
      (RadioSx1262.transmitting (BitStream.packMsb (uartBits (frameWithCrc data))) config r)
    revert hsent hsetup
    rcases awaitTxDone answers.polls _ with ⟨sent, s⟩
    cases sent with
    | false => simp
    | true =>
      intro _ hsetup
      apply Configured.resetRxState
      apply (h.transmitting (BitStream.packMsb (uartBits (frameWithCrc data))) config).of_setup_eq
      rw [setup_clearIrqStatus, setup_clearDioFired, ← hsetup]
  · unfold sendPacket at hsent
    rw [if_pos (by omega)] at hsent
    exact absurd hsent Bool.false_ne_true

/-- What an unfinished transmission leaves: standby, and the settings of its own packet. -/
theorem sendPacket_unsent (hpos : 0 < data.length) (hmax : data.length ≤ frameMaxSize)
    (hunsent : (sendPacket data config answers r).1 = false) :
    (sendPacket data config answers r).2.setup =
      ({ (RadioSx1262.transmitting (BitStream.packMsb (uartBits (frameWithCrc data))) config r).chip with
          mode := .standby },
        config.freqHz, r.rxBandwidth) := by
  rw [sendPacket_eq hpos hmax] at hunsent ⊢
  dsimp only at hunsent ⊢
  have hsetup := awaitTxDone_setup answers.polls
    (RadioSx1262.transmitting (BitStream.packMsb (uartBits (frameWithCrc data))) config r)
  revert hunsent hsetup
  rcases awaitTxDone answers.polls _ with ⟨sent, s⟩
  cases sent with
  | true => simp
  | false =>
    intro _ hsetup
    have hchip : s.chip = _ := congrArg Prod.fst hsetup
    dsimp only
    rw [setup_setModeStandby, hsetup, hchip]
    rfl

theorem Configured.sendPacket (h : Configured r) (hmax : data.length ≤ frameMaxSize) :
    Configured (sendPacket data config answers r).2 := by
  cases hsent : (RadioSx1262.sendPacket data config answers r).1 with
  | true => exact (h.sendPacket_sent hmax hsent).toConfigured
  | false =>
    by_cases hpos : 0 < data.length
    · apply (h.transmitting (BitStream.packMsb (uartBits (frameWithCrc data))) config).of_setup
      rw [sendPacket_unsent hpos hmax hsent]
      rfl
    · unfold RadioSx1262.sendPacket
      rw [if_pos (by omega)]
      exact h

/-! ## Receptions -/

theorem setup_fillCaptureInfo (r : RadioSx1262) (blockingWait : Bool) (irqStatus : UInt16)
    (rxOffset : UInt8) (reportedLen : ℕ) (raw frame : List UInt8) :
    (r.fillCaptureInfo blockingWait irqStatus rxOffset reportedLen raw frame answers).setup =
      r.setup :=
  r.setup_readOpcode (by simp) 3

/-- The radio behind a packet that was read, before its receiver is set up again. -/
def captured (blockingWait : Bool) (irqStatus : UInt16) (answers : Sx1262Answers)
    (r : RadioSx1262) : RadioSx1262 :=
  let r := r.readOpcode sx1262GetRxBufferStatus 2
  let probeLen := rawProbeLen answers.rxStatus
  let r := if 0 < probeLen then r.readBuffer answers.rxOffset probeLen else r
  r.fillCaptureInfo blockingWait irqStatus answers.rxOffset (reportedLen answers.rxStatus)
    (rxWindow answers.buffer answers.rxStatus) (receivedData answers r.currentFreq) answers

theorem setup_captured (blockingWait : Bool) (irqStatus : UInt16) (r : RadioSx1262) :
    (r.captured blockingWait irqStatus answers).setup = r.setup := by
  have hread : ∀ s : RadioSx1262, ∀ offset len, (s.readBuffer offset len).setup = s.setup := by
    intro s offset len
    unfold setup readBuffer
    rw [chip_append]
    rfl
  unfold captured
  dsimp only
  rw [setup_fillCaptureInfo]
  split_ifs
  · rw [hread, setup_readOpcode _ (by simp)]
  · rw [setup_readOpcode _ (by simp)]

theorem readRxPacket_eq (blockingWait : Bool) (irqStatus : UInt16) (r : RadioSx1262) :
    r.readRxPacket blockingWait irqStatus answers =
      (HomeIoControl.readRxPacket answers.buffer answers.rxStatus r.currentFreq,
        (r.captured blockingWait irqStatus answers).resetRxState) := by
  unfold readRxPacket captured
  dsimp only
  split_ifs <;> rfl

theorem Configured.readRxPacket (h : Configured r) (blockingWait : Bool) (irqStatus : UInt16) :
    Receiving (r.readRxPacket blockingWait irqStatus answers).2 := by
  rw [readRxPacket_eq]
  exact (h.of_setup_eq (setup_captured blockingWait irqStatus r)).resetRxState

theorem Configured.finalizeReceive (h : Configured r) (irq : UInt16) :
    Receiving (r.finalizeReceive irq answers).2 := by
  unfold RadioSx1262.finalizeReceive
  split_ifs
  · exact (h.of_setup_eq (setup_fillCaptureInfo r true irq 0 0 [] [])).resetRxState
  · exact h.readRxPacket true irq

theorem pollUntilActivity_some {polls rest : List Poll} {irq : UInt16} {fired : Bool}
    (h : (pollUntilActivity polls r).1 = some (irq, fired, rest)) :
    (pollUntilActivity polls r).2.setup = r.setup := by
  induction polls generalizing r with
  | nil => simp [pollUntilActivity] at h
  | cons poll polls ih =>
    unfold pollUntilActivity at h ⊢
    dsimp only at h ⊢
    split_ifs at h ⊢ with hfired hirq
    · simp
    · simp
    · rw [ih h, setup_readIrq]

/-- A wait without any activity ends with a reset. -/
theorem Configured.pollUntilActivity_none {polls : List Poll} (hr : Configured r)
    (h : (pollUntilActivity polls r).1 = none) : Receiving (pollUntilActivity polls r).2 := by
  induction polls generalizing r with
  | nil => exact (hr.of_setup_eq (setup_clearDioFired r)).resetRxState
  | cons poll polls ih =>
    unfold pollUntilActivity at h ⊢
    dsimp only at h ⊢
    split_ifs at h ⊢ with hfired hirq
    exact ih (hr.of_setup_eq (setup_readIrq r 2)) h

theorem awaitRxDone_setup (polls : List Poll) (r : RadioSx1262) :
    (awaitRxDone polls r).2.setup = r.setup := by
  induction polls generalizing r with
  | nil => rfl
  | cons poll polls ih =>
    unfold awaitRxDone
    split_ifs <;> simp [ih]

theorem resolveSyncRace_setup (irq : UInt16) (polls : List Poll) (r : RadioSx1262) :
    (r.resolveSyncRace irq polls).2.setup = r.setup := by
  unfold resolveSyncRace
  split_ifs
  · rfl
  · rw [awaitRxDone_setup, setup_clearIrqStatus]

def rxDone (irq : UInt16) : Bool := irq &&& sx1262IrqRxDone != 0

def syncSeen (irq : UInt16) : Bool := irq &&& sx1262IrqSyncWordValid != 0

/-- The first round in which there is something to see. The latch may be set from before. -/
def firstActivity (polls : List Poll) (fired : Bool) : Option Poll :=
  polls.find? fun p => fired || p.dioFired || p.irq != 0

theorem firstActivity_of_active {poll : Poll} {fired : Bool}
    (h : fired = true ∨ poll.dioFired = true ∨ poll.irq ≠ 0) (polls : List Poll) :
    firstActivity (poll :: polls) fired = some poll :=
  List.find?_cons_of_pos (by simpa [or_assoc] using h)

theorem firstActivity_of_quiet {poll : Poll} {fired : Bool}
    (h : (fired || poll.dioFired) = false ∧ poll.irq = 0) (polls : List Poll) :
    firstActivity (poll :: polls) fired = firstActivity polls fired :=
  List.find?_cons_of_neg (by simp [h.1, h.2])

theorem isSyncOnly_eq (irq : UInt16) : isSyncOnly irq = (syncSeen irq && !rxDone irq) := by
  unfold isSyncOnly syncSeen rxDone
  simp only [bne, Bool.not_not]

/-- A wait goes on with what it sees first, and its end is still to come if there was none. -/
theorem pollUntilActivity_eq (polls : List Poll) (r : RadioSx1262) :
    (firstActivity polls r.dioFired).map Poll.irq =
        (pollUntilActivity polls r).1.map (·.1) ∧
      ((∃ q ∈ polls, rxDone q.irq = true) ↔
        ∃ found, (pollUntilActivity polls r).1 = some found ∧
          (rxDone found.1 = true ∨ ∃ q ∈ found.2.2, rxDone q.irq = true)) := by
  induction polls generalizing r with
  | nil => exact ⟨rfl, by simp [pollUntilActivity]⟩
  | cons poll polls ih =>
    rw [List.exists_mem_cons_iff]
    unfold pollUntilActivity
    dsimp only
    split_ifs with hfired hirq
    · have hactive : r.dioFired = true ∨ poll.dioFired = true := by
        simpa [isDioFired] using hfired
      rw [firstActivity_of_active (hactive.imp_right .inl)]
      exact ⟨rfl, by simp⟩
    · rw [firstActivity_of_active (.inr (.inr hirq))]
      exact ⟨rfl, by simp⟩
    · -- a quiet round has no end of a packet in it
      have hzero : poll.irq = 0 := not_not.1 hirq
      have hnot : ¬rxDone poll.irq = true := by
        rw [hzero]
        decide
      rw [firstActivity_of_quiet ⟨Bool.eq_false_of_not_eq_true hfired, hzero⟩, or_iff_right hnot]
      exact ih (r.readOpcode sx1262GetIrqStatus 2)

theorem awaitRxDone_isSome_iff (polls : List Poll) (r : RadioSx1262) :
    (awaitRxDone polls r).1.isSome ↔ ∃ q ∈ polls, rxDone q.irq = true := by
  induction polls generalizing r with
  | nil => simp [awaitRxDone]
  | cons poll polls ih =>
    rw [List.exists_mem_cons_iff]
    unfold awaitRxDone
    by_cases hdone : poll.irq &&& sx1262IrqRxDone = 0
    · -- what the latch and the other bits say makes no difference to the result
      have hnot : rxDone poll.irq = false := by simp [rxDone, hdone]
      simp only [hdone, ne_eq, not_true_eq_false, if_false, hnot, Bool.false_eq_true, false_or]
      split_ifs
      · exact ih _
      · exact ih _
      · exact ih _
    · have hyes : rxDone poll.irq = true := by simp [rxDone, hdone]
      simp only [hdone, ne_eq, not_false_eq_true, if_true, hyes, true_or, iff_true]
      split_ifs <;> rfl

theorem resolveSyncRace_none_iff {irq : UInt16} {rest : List Poll} {r : RadioSx1262} :
    (r.resolveSyncRace irq rest).1 = none ↔
      isSyncOnly irq = true ∧ ¬∃ q ∈ rest, rxDone q.irq = true := by
  unfold resolveSyncRace
  rw [← awaitRxDone_isSome_iff rest (r.clearIrqStatus sx1262IrqSyncWordValid)]
  cases isSyncOnly irq with
  | false => simp
  | true => simp

/-- What is seen first is the sync word of a packet, whose end does not come before the deadline. -/
structure StallsAfterSync (answers : Sx1262Answers) (r : RadioSx1262) : Prop where
  sync : ∃ p, firstActivity answers.polls r.dioFired = some p ∧ syncSeen p.irq = true
  endless : ¬∃ q ∈ answers.polls, rxDone q.irq = true

theorem stallsAfterSync_iff {answers : Sx1262Answers} {r : RadioSx1262} :
    StallsAfterSync answers r ↔
      ∃ irq fired rest s,
        pollUntilActivity answers.polls { r with lastCapture := {} } = (some (irq, fired, rest), s) ∧
          (s.resolveSyncRace irq rest).1 = none := by
  obtain ⟨hfirst, hdone⟩ := pollUntilActivity_eq answers.polls { r with lastCapture := {} }
  have hstalls : StallsAfterSync answers r ↔
      (∃ irq, (firstActivity answers.polls r.dioFired).map Poll.irq = some irq ∧
        syncSeen irq = true) ∧ ¬∃ q ∈ answers.polls, rxDone q.irq = true := by
    simp only [Option.map_eq_some_iff]
    constructor
    · intro h
      obtain ⟨p, hp, hseen⟩ := h.sync
      exact ⟨⟨_, ⟨p, hp, rfl⟩, hseen⟩, h.endless⟩
    · rintro ⟨⟨_, ⟨p, hp, rfl⟩, hseen⟩, hendless⟩
      exact ⟨⟨p, hp, hseen⟩, hendless⟩
  rw [hstalls, show firstActivity answers.polls r.dioFired = _ from rfl, hfirst, hdone]
  rcases pollUntilActivity answers.polls _ with ⟨found, s⟩
  cases found with
  | none => simp
  | some found =>
    obtain ⟨irq, fired, rest⟩ := found
    simp only [Option.map_some, Option.some.injEq, exists_eq_left', not_or, Prod.mk.injEq,
      and_assoc, exists_and_left, resolveSyncRace_none_iff, isSyncOnly_eq, Bool.and_eq_true,
      Bool.not_eq_true', Bool.not_eq_true]

theorem waitForPacket_setup (answers : Sx1262Answers) (r : RadioSx1262)
    (h : StallsAfterSync answers r) : (waitForPacket answers r).2.setup = r.setup := by
  obtain ⟨irq, fired, rest, s, hactivity, hnone⟩ := stallsAfterSync_iff.1 h
  have hsome := pollUntilActivity_some (congrArg Prod.fst hactivity)
  have hsync := resolveSyncRace_setup irq rest s
  unfold waitForPacket
  rw [hactivity] at hsome ⊢
  dsimp only
  cases hrace : s.resolveSyncRace irq rest with
  | mk done t =>
    rw [hrace] at hnone hsync
    obtain rfl : done = none := hnone
    exact hsync.trans hsome

/-- A wait ends with a reset, except for one that ends inside a packet. -/
theorem Configured.waitForPacket (h : Configured r) (hends : ¬StallsAfterSync answers r) :
    Receiving (waitForPacket answers r).2 := by
  have hclear : ({ r with lastCapture := {} } : RadioSx1262).setup = r.setup := rfl
  unfold RadioSx1262.waitForPacket
  cases hactivity : pollUntilActivity answers.polls { r with lastCapture := {} } with
  | mk found s =>
    cases found with
    | none =>
      have hnone := (h.of_setup_eq hclear).pollUntilActivity_none (congrArg Prod.fst hactivity)
      rwa [hactivity] at hnone
    | some found =>
      obtain ⟨irq, fired, rest⟩ := found
      have hsome := pollUntilActivity_some (congrArg Prod.fst hactivity)
      rw [hactivity, hclear] at hsome
      have hsync := resolveSyncRace_setup irq rest s
      dsimp only
      cases hrace : s.resolveSyncRace irq rest with
      | mk done t =>
        rw [hrace, hsome] at hsync
        cases done with
        | none =>
          exact absurd (stallsAfterSync_iff.2 ⟨irq, fired, rest, s, hactivity, by rw [hrace]⟩) hends
        | some irq => exact (h.of_setup_eq hsync).finalizeReceive irq

/-- A check ends with a reset if it finds an interrupt that is not only a sync word's. -/
theorem Configured.checkForPacket (h : Configured r) (hfired : r.dioFired = true)
    (hsync : isSyncOnly answers.irqStatus = false) : Receiving (checkForPacket answers r).2 := by
  have hread : (({ r with lastCapture := {}, dioFired := false } : RadioSx1262).readOpcode
      sx1262GetIrqStatus 2).setup = r.setup := by rw [setup_readIrq]; rfl
  unfold RadioSx1262.checkForPacket
  rw [if_neg (by simp [hfired])]
  dsimp only
  rw [hsync, if_neg Bool.false_ne_true]
  split_ifs
  · exact (h.of_setup_eq hread).readRxPacket false answers.irqStatus
  · apply Configured.resetRxState
    exact h.of_setup_eq ((setup_fillCaptureInfo _ false answers.irqStatus 0 0 [] []).trans hread)

theorem checkForPacket_setup (h : r.dioFired = false ∨ isSyncOnly answers.irqStatus = true) :
    (checkForPacket answers r).2.setup = r.setup := by
  unfold checkForPacket
  rcases h with hquiet | hsync
  · rw [if_pos (by simp [hquiet])]
  · dsimp only
    rw [hsync, if_pos rfl]
    split_ifs
    · rfl
    · rw [setup_clearIrqStatus, setup_readIrq]
      rfl

/-- A receiving call sets the receiver up again or leaves the settings as they were. -/
def Resets (r s : RadioSx1262) : Prop := (Configured r → Receiving s) ∨ s.setup = r.setup

theorem Resets.receiving {s : RadioSx1262} (h : Resets r s) (hr : Receiving r) : Receiving s := by
  rcases h with hreset | hsame
  · exact hreset hr.toConfigured
  · exact hr.of_setup_eq hsame

theorem resets_waitForPacket (answers : Sx1262Answers) (r : RadioSx1262) :
    Resets r (waitForPacket answers r).2 := by
  by_cases h : StallsAfterSync answers r
  · exact .inr (waitForPacket_setup answers r h)
  · exact .inl fun hr => hr.waitForPacket h

theorem resets_checkForPacket (answers : Sx1262Answers) (r : RadioSx1262) :
    Resets r (checkForPacket answers r).2 := by
  by_cases h : r.dioFired = false ∨ isSyncOnly answers.irqStatus = true
  · exact .inr (checkForPacket_setup h)
  · rw [not_or, Bool.not_eq_false, Bool.not_eq_true] at h
    exact .inl fun hr => hr.checkForPacket h.1 h.2

/-! ## What a packet comes with -/

theorem readRxPacket_some {chip : ℕ → UInt8} {rxStatus : UInt8} {currentFreq : ℕ}
    {packet : RadioRxPacket} (h : HomeIoControl.readRxPacket chip rxStatus currentFreq = some packet) :
    packet.freqHz = currentFreq ∧
      packet.data =
        if (findUartProbe (rxWindow chip rxStatus)).valid then
          (findUartProbe (rxWindow chip rxStatus)).frame
        else rawCopy chip rxStatus := by
  unfold HomeIoControl.readRxPacket at h
  rw [Option.ite_none_right_eq_some] at h
  obtain ⟨-, h⟩ := h
  cases h
  exact ⟨rfl, rfl⟩

theorem readRxPacket_data_length_le {chip : ℕ → UInt8} {rxStatus : UInt8} {currentFreq : ℕ}
    {packet : RadioRxPacket} (h : HomeIoControl.readRxPacket chip rxStatus currentFreq = some packet) :
    packet.data.length ≤ frameMaxSize := by
  rw [(readRxPacket_some h).2]
  split_ifs with hvalid
  · obtain ⟨frame, hframe⟩ := findUartProbe_frame _ hvalid
    rw [UartProbeResult.frame, List.length_take]
    exact (min_le_left _ _).trans hframe.len_bounds.2
  · rw [rawCopy_length]
    exact min_le_right _ _

theorem lastCapture_captured (blockingWait : Bool) (irqStatus : UInt16) (answers : Sx1262Answers)
    (r : RadioSx1262) :
    (r.captured blockingWait irqStatus answers).lastCapture.frame =
        (receivedData answers r.currentFreq).take radioPacketBufferSize ∧
      (r.captured blockingWait irqStatus answers).lastCapture.valid = true ∧
      (r.captured blockingWait irqStatus answers).lastCapture.freqHz = r.currentFreq ∧
      (r.captured blockingWait irqStatus answers).currentFreq = r.currentFreq := by
  unfold captured
  dsimp only
  split_ifs <;> exact ⟨rfl, rfl, rfl, rfl⟩

theorem delivers_readRxPacket {blockingWait : Bool} {irqStatus : UInt16} {packet : RadioRxPacket}
    (h : (r.readRxPacket blockingWait irqStatus answers).1 = some packet) :
    radioSx1262.Delivers (r.readRxPacket blockingWait irqStatus answers).2 packet := by
  rw [readRxPacket_eq] at h ⊢
  have hread : HomeIoControl.readRxPacket answers.buffer answers.rxStatus r.currentFreq =
      some packet := h
  have hdata : receivedData answers r.currentFreq = packet.data := by
    rw [receivedData, hread]
    rfl
  have hfits : packet.data.length ≤ radioPacketBufferSize :=
    (readRxPacket_data_length_le hread).trans (by decide)
  obtain ⟨hframe, hvalid, hfreq, hcurrent⟩ :=
    lastCapture_captured blockingWait irqStatus answers r
  refine ⟨hvalid, ?_, (readRxPacket_some hread).1.trans hcurrent.symm, hfreq.trans hcurrent.symm⟩
  exact hframe.trans (by rw [hdata, List.take_of_length_le hfits])

theorem delivers_finalizeReceive {irq : UInt16} {packet : RadioRxPacket}
    (h : (r.finalizeReceive irq answers).1 = some packet) :
    radioSx1262.Delivers (r.finalizeReceive irq answers).2 packet := by
  unfold finalizeReceive at h ⊢
  split_ifs at h ⊢ with hdone
  exact delivers_readRxPacket h

theorem delivers_waitForPacket {packet : RadioRxPacket}
    (h : (waitForPacket answers r).1 = some packet) :
    radioSx1262.Delivers (waitForPacket answers r).2 packet := by
  unfold waitForPacket at h ⊢
  revert h
  rcases pollUntilActivity answers.polls _ with ⟨found, s⟩
  cases found with
  | none => simp
  | some found =>
    obtain ⟨irq, fired, polls⟩ := found
    dsimp only
    rcases s.resolveSyncRace irq polls with ⟨done, t⟩
    cases done with
    | none => simp
    | some irq => exact delivers_finalizeReceive

theorem delivers_checkForPacket {packet : RadioRxPacket}
    (h : (checkForPacket answers r).1 = some packet) :
    radioSx1262.Delivers (checkForPacket answers r).2 packet := by
  unfold checkForPacket at h ⊢
  dsimp only at h ⊢
  split_ifs at h ⊢
  exact delivers_readRxPacket h

end RadioSx1262

/-! ## The interface's promise -/

open RadioSx1262

theorem radioSx1262_contract : radioSx1262.Contract Receiving where
  sent hmax hsent h := h.toConfigured.sendPacket_sent hmax hsent
  unsent hpos hmax hunsent h := by
    have hmode := h.mode
    rw [show (radioSx1262.sendPacket _ _ _ _).2.chip = _ from
      congrArg Prod.fst (sendPacket_unsent hpos hmax hunsent)] at hmode
    cases hmode
  waited answers h := (resets_waitForPacket answers _).receiving h
  checked answers h := (resets_checkForPacket answers _).receiving h
  retuned freqHz h := by
    refine ⟨h.toConfigured.changeFrequency freqHz, ?_, ?_⟩
    · exact congrArg Sx1262Chip.mode (chip_changeFrequency freqHz _)
    · exact (congrArg Sx1262Chip.packetParams (chip_changeFrequency freqHz _)).trans h.window
  tuned tuning h := by
    refine ⟨h.toConfigured.applyTuning tuning, ?_, ?_⟩
    · exact (congrArg Sx1262Chip.mode (chip_applyTuning tuning _)).trans h.mode
    · exact (congrArg Sx1262Chip.packetParams (chip_applyTuning tuning _)).trans h.window
  interrupted h := by
    refine h.of_setup_eq ?_
    rfl
  wait_delivers := delivers_waitForPacket
  check_delivers := delivers_checkForPacket
  check_quiet answers hquiet := by
    show RadioSx1262.checkForPacket answers _ = _
    unfold RadioSx1262.checkForPacket
    rw [if_pos (by rw [show RadioSx1262.dioFired _ = false from hquiet]; rfl)]

/-- What the set-up tells the chip. -/
def setupTransfers (txClamp : UInt8) (r : RadioSx1262) : List SpiTransfer :=
  [(sx1262SetStandby, [0x00]), (sx1262SetDio3AsTcxoCtrl, [r.tcxoVoltage, 0x00, 0x01, 0x40]),
    (sx1262Calibrate, [0x7F]), (sx1262SetStandby, [0x01]), (sx1262SetRegulatorMode, [0x01]),
    (sx1262SetDio2AsRfSwitchCtrl, [0x01]), (sx1262SetRxTxFallbackMode, [0x30]),
    (sx1262SetPacketType, [0x00]), (sx1262SetRfFrequency, frequencyRegister freqCh2),
    (sx1262CalibrateImage, [0xD7, 0xDB]), (sx1262WriteRegister, [0x08, 0xAC, 0x96]),
    (sx1262SetModulationParams, modulationParams r.rxBandwidth),
    (sx1262SetPacketParams, rxPacketParams), (sx1262WriteRegister, 0x06 :: 0xC0 :: syncWord),
    (sx1262WriteRegister, [0x06, 0xBC, 0x1D, 0x0F]),
    (sx1262WriteRegister, [0x06, 0xBE, 0x10, 0x21]), (sx1262SetBufferBaseAddress, bufferBase),
    (sx1262SetPaConfig, [0x04, 0x07, 0x00, 0x01]), (sx1262ReadRegister, [0x08, 0xD8, 0, 0]),
    (sx1262WriteRegister, [0x08, 0xD8, txClamp ||| 0x1E]),
    (sx1262SetTxParams, [clampedPower r.txPower, 0x04]),
    (sx1262SetDioIrqParams, [0x00, 0x4B, 0x00, 0x4B, 0x00, 0x00, 0x00, 0x00]),
    (sx1262ClearIrqStatus, [0xFF, 0xFF]), (sx1262ClearDeviceErrors, [0x00, 0x00]),
    (sx1262SetRx, [0xFF, 0xFF, 0xFF])]

theorem configureRadio_eq (txClamp : UInt8) (r : RadioSx1262) :
    r.configureRadio txClamp =
      { r with bus := r.bus ++ setupTransfers txClamp r, currentFreq := freqCh2 } := by
  simp [configureRadio, writeOpcode, writeRegister, readRegister, setFrequencyRegister,
    writeModulationParams, setRxPacketParams, setPacketParams, setBufferBase, clearIrqStatus,
    setModeRx, setupTransfers]
  decide

/-- The set-up does not depend on what the chip was told before. -/
theorem receiving_configureRadio (txClamp : UInt8) (r : RadioSx1262) :
    Receiving (r.configureRadio txClamp) := by
  have hchip : (r.configureRadio txClamp).chip =
      (setupTransfers txClamp r).foldl Sx1262Chip.transfer r.chip := by
    rw [configureRadio_eq]
    exact List.foldl_append
  refine ⟨⟨?_, ?_, ?_, ?_⟩, ?_, ?_⟩
  · rw [hchip, configureRadio_eq]
    rfl
  · rw [hchip, configureRadio_eq]
    rfl
  · rw [hchip]
    rfl
  · rw [hchip]
    rfl
  · rw [hchip]
    rfl
  · rw [hchip]
    rfl

/-! ## Runs of the driver -/

/-- The calls after which the receiver is set up whatever went before: a frame that goes out, a
wait that does not end inside a packet, and a check that finds an interrupt. -/
def Serves (r : RadioSx1262) : DriverCall Sx1262Answers → Prop
  | .sendPacket frame config answers => (sendPacket frame config answers r).1 = true
  | .waitForPacket answers => ¬StallsAfterSync answers r
  | .checkForPacket answers => r.dioFired = true ∧ isSyncOnly answers.irqStatus = false
  | _ => False

variable {r : RadioSx1262} {call : DriverCall Sx1262Answers}

/-- A frame did not go out, and its packet's settings are still there. -/
structure Lost (r : RadioSx1262) : Prop extends Configured r where
  window : r.chip.packetParams ≠ rxPacketParams

theorem Lost.of_setup_eq {s : RadioSx1262} (h : Lost r) (hsame : s.setup = r.setup) : Lost s := by
  refine ⟨h.toConfigured.of_setup_eq hsame, ?_⟩
  rw [show s.chip = r.chip from congrArg Prod.fst hsame]
  exact h.window

/-- Every frame is shorter than the window that the receivers ask for. -/
theorem encoded_length_lt {data : List UInt8} (hmax : data.length ≤ frameMaxSize) :
    (BitStream.packMsb (uartBits (frameWithCrc data))).length < sx1262RxProbePacketLen := by
  obtain ⟨k, hk, hunpack⟩ := BitStream.unpackMsb_packMsb_append (uartBits (frameWithCrc data))
  have hlength := congrArg List.length hunpack
  rw [BitStream.unpackMsb_length, List.length_append, uartBits_length,
    List.length_replicate] at hlength
  have hcrc : (frameWithCrc data).length = data.length + 2 := by simp [frameWithCrc]
  unfold frameMaxSize at hmax
  unfold sx1262RxProbePacketLen
  omega

theorem packetParams_ne {preambleLen : UInt16} {n : ℕ} (h : n < sx1262RxProbePacketLen) :
    packetParams preambleLen (.ofNat n) ≠ rxPacketParams := by
  intro heq
  have hlen : UInt8.ofNat n = 48 := congrArg (·.getD 6 0) heq
  have hnat := congrArg UInt8.toNat hlen
  rw [UInt8.toNat_ofNat'] at hnat
  unfold sx1262RxProbePacketLen at h
  have h48 : (48 : UInt8).toNat = 48 := rfl
  omega

theorem lost_of_unsent (h : Configured r) (frame : SerializedFrame)
    {config : RadioTxConfig} {answers : Sx1262Answers}
    (hunsent : (sendPacket frame config answers r).1 = false) :
    Lost (sendPacket frame config answers r).2 := by
  refine ⟨h.sendPacket frame.2.2, ?_⟩
  rw [show (sendPacket frame config answers r).2.chip = _ from
    congrArg Prod.fst (sendPacket_unsent frame.2.1 frame.2.2 hunsent), chip_transmitting]
  exact packetParams_ne (encoded_length_lt frame.2.2)

theorem Lost.step (h : Lost r) (call : DriverCall Sx1262Answers) :
    Receiving (radioSx1262.step r call) ∧ Serves r call ∨
      Lost (radioSx1262.step r call) ∧ ¬Serves r call := by
  have hr := h.toConfigured
  cases call with
  | sendPacket frame config answers =>
    cases hsent : (RadioSx1262.sendPacket frame config answers r).1 with
    | true => exact .inl ⟨hr.sendPacket_sent frame.2.2 hsent, hsent⟩
    | false => exact .inr ⟨lost_of_unsent hr frame hsent, ne_true_of_eq_false hsent⟩
  | waitForPacket answers =>
    by_cases hstalls : StallsAfterSync answers r
    · exact .inr ⟨h.of_setup_eq (waitForPacket_setup answers r hstalls), not_not.2 hstalls⟩
    · exact .inl ⟨hr.waitForPacket hstalls, hstalls⟩
  | checkForPacket answers =>
    by_cases hquiet : r.dioFired = false ∨ isSyncOnly answers.irqStatus = true
    · refine .inr ⟨h.of_setup_eq (checkForPacket_setup hquiet), ?_⟩
      rintro ⟨hfired, hsync⟩
      rw [hfired, hsync] at hquiet
      simp at hquiet
    · rw [not_or, Bool.not_eq_false, Bool.not_eq_true] at hquiet
      exact .inl ⟨hr.checkForPacket hquiet.1 hquiet.2, hquiet⟩
  | changeFrequency freqHz =>
    refine .inr ⟨⟨hr.changeFrequency freqHz, ?_⟩, id⟩
    exact (congrArg Sx1262Chip.packetParams (chip_changeFrequency freqHz r)).trans_ne h.window
  | applyTuning tuning =>
    refine .inr ⟨⟨hr.applyTuning tuning, ?_⟩, id⟩
    exact (congrArg Sx1262Chip.packetParams (chip_applyTuning tuning r)).trans_ne h.window
  | interrupt =>
    refine .inr ⟨h.of_setup_eq ?_, id⟩
    rfl

/-- From the set-up on, the radio receives between the calls as long as every frame goes out, and
no longer. -/
theorem radioSx1262_receives_iff (txClamp : UInt8) (r : RadioSx1262)
    (calls : List (DriverCall Sx1262Answers)) :
    Always radioSx1262.step Receiving (r.configureRadio txClamp) calls ↔
      Guarded radioSx1262.step radioSx1262.Sends (r.configureRadio txClamp) calls :=
  radioSx1262_contract.always_receiving_iff (receiving_configureRadio txClamp r)

end HomeIoControl
