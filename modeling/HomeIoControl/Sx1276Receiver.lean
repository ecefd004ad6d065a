import HomeIoControl.Sx1276Driver

namespace HomeIoControl
open GuardedRun

namespace RadioSx1276

variable {r s : RadioSx1276} {reg value mode : UInt8} {settles : UInt8 → Bool}
  {answers : Sx1276Answers}

/-! ## Reception -/

/-- The settings that stay. Two bytes of the sync word are compared, the third is only sent. -/
def fixedSettings : List (UInt8 × UInt8) :=
  [(regOsc, 0x07), (regPacketConfig1, 0x90), (regPacketConfig2, 0x70), (regSyncConfig, 0x52),
    (regDioMapping1, 0x3D), (regDioMapping2, 0xF1), (regPaRamp, 0x2D), (regFifoThresh, 0x80),
    (regPayloadLength, 0xFF), (regRssiConfig, 0x02), (regRxConfig, 0x9E), (regAfcFei, 0x01),
    (regLna, 0x23), (regPreambleDetect, 0xAA), (regBitrateMsb, 0x03), (regBitrateLsb, 0x41),
    (regFdevMsb, 0x01), (regFdevLsb, 0x3A), (0x0B, 0x3B), (regSyncValue1, 0x55),
    (regSyncValue1 + 1, 0xFF), (regSyncValue1 + 2, 0x33)]

/-- What the driver keeps up, whatever the mode. -/
structure Configured (r : RadioSx1276) : Prop where
  settings : ∀ setting ∈ fixedSettings, r.registers setting.1 = setting.2
  fsk : r.registers regOpMode &&& ~~~modeMask = 0
  msb : r.registers regFrfMsb = .ofNat (frequencySteps r.currentFreq >>> 16)
  mid : r.registers regFrfMid = .ofNat (frequencySteps r.currentFreq >>> 8)
  lsb : r.registers regFrfLsb = .ofNat (frequencySteps r.currentFreq)
  rxBw : r.registers regRxBw = r.rxBandwidth.registerByte
  afcBw : r.registers regAfcBw = r.rxBandwidth.registerByte

/-- The chip is told to receive on the channel of the driver. -/
structure Commanded (r : RadioSx1276) : Prop extends Configured r where
  mode : r.registers regOpMode = modeRx

/-- It has reported that it does. -/
structure Receiving (r : RadioSx1276) : Prop extends Commanded r where
  reached : r.modeReached = true

theorem Configured.congr (h : Configured r) (hregs : s.registers = r.registers)
    (hfreq : s.currentFreq = r.currentFreq) (hbandwidth : s.rxBandwidth = r.rxBandwidth) :
    Configured s := by
  refine ⟨?_, ?_, ?_, ?_, ?_, ?_, ?_⟩
  · rw [hregs]
    exact h.settings
  · rw [hregs, h.fsk]
  · rw [hregs, hfreq, h.msb]
  · rw [hregs, hfreq, h.mid]
  · rw [hregs, hfreq, h.lsb]
  · rw [hregs, hbandwidth, h.rxBw]
  · rw [hregs, hbandwidth, h.afcBw]

/-- The mode decides. -/
theorem Configured.commanded_iff (hr : Configured r) (hs : Configured s)
    (hmode : s.registers regOpMode = r.registers regOpMode) : Commanded s ↔ Commanded r := by
  constructor
  · intro h
    exact ⟨hr, hmode.symm.trans h.mode⟩
  · intro h
    exact ⟨hs, hmode.trans h.mode⟩

theorem receiving_iff_reached : Receiving r ↔ Commanded r ∧ r.modeReached = true :=
  ⟨fun h => ⟨h.toCommanded, h.reached⟩, fun h => ⟨h.1, h.2⟩⟩

theorem registers_write_of_ne {a : UInt8} (h : a ≠ reg) :
    (r.writeRegister reg value).registers a = r.registers a := by
  show Function.update r.registers reg value a = r.registers a
  rw [Function.update_of_ne h]

theorem registers_write_self : (r.writeRegister reg value).registers reg = value := by
  show Function.update r.registers reg value reg = value
  rw [Function.update_self]

/-- None of the registers that a call writes has a setting that stays. -/
theorem settings_write (h : ∀ setting ∈ fixedSettings, r.registers setting.1 = setting.2)
    (hreg : reg ∉ fixedSettings.map Prod.fst) :
    ∀ setting ∈ fixedSettings, (r.writeRegister reg value).registers setting.1 = setting.2 := by
  intro setting hmem
  have hne : setting.1 ≠ reg := fun heq => hreg (heq ▸ List.mem_map_of_mem hmem)
  rw [registers_write_of_ne hne, h setting hmem]

/-- The preamble and the flags are no settings of the receiver. -/
theorem Configured.write (h : Configured r) (reg value : UInt8)
    (hreg : reg ∈ [regPreambleMsb, regPreambleLsb, regIrqFlags2]) :
    Configured (r.writeRegister reg value) := by
  simp only [List.mem_cons, List.not_mem_nil, or_false] at hreg
  rcases hreg with rfl | rfl | rfl
  all_goals
    refine ⟨settings_write h.settings (by decide), ?_, ?_, ?_, ?_, ?_, ?_⟩
    · rw [registers_write_of_ne (by decide), h.fsk]
    · rw [registers_write_of_ne (by decide), h.msb]; rfl
    · rw [registers_write_of_ne (by decide), h.mid]; rfl
    · rw [registers_write_of_ne (by decide), h.lsb]; rfl
    · rw [registers_write_of_ne (by decide), h.rxBw]; rfl
    · rw [registers_write_of_ne (by decide), h.afcBw]; rfl

theorem Configured.writeMode (h : Configured r) (hvalue : value &&& ~~~modeMask = 0) :
    Configured (r.writeRegister regOpMode value) := by
  refine ⟨settings_write h.settings (by decide), ?_, ?_, ?_, ?_, ?_, ?_⟩
  · rw [registers_write_self, hvalue]
  · rw [registers_write_of_ne (by decide), h.msb]; rfl
  · rw [registers_write_of_ne (by decide), h.mid]; rfl
  · rw [registers_write_of_ne (by decide), h.lsb]; rfl
  · rw [registers_write_of_ne (by decide), h.rxBw]; rfl
  · rw [registers_write_of_ne (by decide), h.afcBw]; rfl

theorem Configured.startTx (h : Configured r) :
    Configured (r.writeRegister regOpMode (r.registers regOpMode &&& 0xF8 ||| modeTx)) := by
  refine h.writeMode ?_
  rw [show (0xF8 : UInt8) = ~~~modeMask from rfl, h.fsk]
  rfl

/-- The chip is told the mode, also when it does not report it in time. -/
theorem registers_setMode (mode : UInt8) (settles : UInt8 → Bool) (r : RadioSx1276) :
    (r.setMode mode settles).registers =
      (r.writeRegister regOpMode
        (r.registers regOpMode &&& ~~~modeMask ||| mode &&& modeMask)).registers := by
  unfold setMode
  dsimp only
  split_ifs <;> rfl

theorem setMode_eq (mode : UInt8) (settles : UInt8 → Bool) (r : RadioSx1276) :
    (r.setMode mode settles).currentFreq = r.currentFreq ∧
      (r.setMode mode settles).rxBandwidth = r.rxBandwidth := by
  unfold setMode
  dsimp only
  split_ifs <;> exact ⟨rfl, rfl⟩

theorem modeReached_setMode (mode : UInt8) (settles : UInt8 → Bool) (r : RadioSx1276) :
    (r.setMode mode settles).modeReached = settles mode := by
  unfold setMode
  dsimp only
  cases settles mode with
  | false => rfl
  | true => rfl

theorem opMode_setMode (h : Configured r) (mode : UInt8) (settles : UInt8 → Bool) :
    (r.setMode mode settles).registers regOpMode = mode &&& modeMask := by
  rw [registers_setMode, registers_write_self, h.fsk, UInt8.zero_or]

theorem mask_setMode (mode : UInt8) (settles : UInt8 → Bool) (r : RadioSx1276) :
    (r.setMode mode settles).registers regOpMode &&& modeMask = mode &&& modeMask := by
  rw [registers_setMode, registers_write_self]
  apply UInt8.toBitVec_inj.1
  ext i hi
  simp only [UInt8.toBitVec_and, UInt8.toBitVec_or, UInt8.toBitVec_not, BitVec.getElem_and,
    BitVec.getElem_or, BitVec.getElem_not]
  cases modeMask.toBitVec[i] <;> simp

theorem Configured.setMode (h : Configured r) (mode : UInt8) (settles : UInt8 → Bool) :
    Configured (r.setMode mode settles) := by
  have hvalue : (mode &&& modeMask) &&& ~~~modeMask = 0 := by
    rw [UInt8.and_assoc, UInt8.and_not_self, UInt8.and_zero]
  have hwrite : Configured (r.writeRegister regOpMode
      (r.registers regOpMode &&& ~~~modeMask ||| mode &&& modeMask)) := by
    apply h.writeMode
    rw [h.fsk, UInt8.zero_or, hvalue]
  exact hwrite.congr (registers_setMode mode settles r) (setMode_eq mode settles r).1
    (setMode_eq mode settles r).2

theorem Configured.changeFrequency (h : Configured r) (freqHz : ℕ) :
    Configured (r.changeFrequency freqHz) := by
  have hregs : (r.changeFrequency freqHz).registers =
      (((r.writeRegister regFrfMsb (.ofNat (frequencySteps freqHz >>> 16))).writeRegister
        regFrfMid (.ofNat (frequencySteps freqHz >>> 8))).writeRegister
        regFrfLsb (.ofNat (frequencySteps freqHz))).registers := rfl
  have hfreq : (r.changeFrequency freqHz).currentFreq = freqHz := rfl
  have hbandwidth : (r.changeFrequency freqHz).rxBandwidth = r.rxBandwidth := rfl
  refine ⟨?_, ?_, ?_, ?_, ?_, ?_, ?_⟩
  · rw [hregs]
    exact settings_write (settings_write (settings_write h.settings (by decide)) (by decide))
      (by decide)
  · rw [hregs, registers_write_of_ne (by decide), registers_write_of_ne (by decide),
      registers_write_of_ne (by decide), h.fsk]
  · rw [hregs, hfreq, registers_write_of_ne (by decide), registers_write_of_ne (by decide),
      registers_write_self]
  · rw [hregs, hfreq, registers_write_of_ne (by decide), registers_write_self]
  · rw [hregs, hfreq, registers_write_self]
  · rw [hregs, hbandwidth, registers_write_of_ne (by decide), registers_write_of_ne (by decide),
      registers_write_of_ne (by decide), h.rxBw]
  · rw [hregs, hbandwidth, registers_write_of_ne (by decide), registers_write_of_ne (by decide),
      registers_write_of_ne (by decide), h.afcBw]

theorem opMode_changeFrequency (freqHz : ℕ) (r : RadioSx1276) :
    (r.changeFrequency freqHz).registers regOpMode = r.registers regOpMode := by
  have hregs : (r.changeFrequency freqHz).registers =
      (((r.writeRegister regFrfMsb (.ofNat (frequencySteps freqHz >>> 16))).writeRegister
        regFrfMid (.ofNat (frequencySteps freqHz >>> 8))).writeRegister
        regFrfLsb (.ofNat (frequencySteps freqHz))).registers := rfl
  rw [hregs, registers_write_of_ne (by decide), registers_write_of_ne (by decide),
    registers_write_of_ne (by decide)]

theorem Configured.setRxBandwidth (h : Configured r) (bandwidth : Sx1276RxBandwidth) :
    Configured (r.setRxBandwidth bandwidth) := by
  have hregs : (r.setRxBandwidth bandwidth).registers =
      ((r.writeRegister regRxBw bandwidth.registerByte).writeRegister regAfcBw
        bandwidth.registerByte).registers := rfl
  have hfreq : (r.setRxBandwidth bandwidth).currentFreq = r.currentFreq := rfl
  have hbandwidth : (r.setRxBandwidth bandwidth).rxBandwidth = bandwidth := rfl
  refine ⟨?_, ?_, ?_, ?_, ?_, ?_, ?_⟩
  · rw [hregs]
    exact settings_write (settings_write h.settings (by decide)) (by decide)
  · rw [hregs, registers_write_of_ne (by decide), registers_write_of_ne (by decide), h.fsk]
  · rw [hregs, hfreq, registers_write_of_ne (by decide), registers_write_of_ne (by decide), h.msb]
  · rw [hregs, hfreq, registers_write_of_ne (by decide), registers_write_of_ne (by decide), h.mid]
  · rw [hregs, hfreq, registers_write_of_ne (by decide), registers_write_of_ne (by decide), h.lsb]
  · rw [hregs, hbandwidth, registers_write_of_ne (by decide), registers_write_self]
  · rw [hregs, hbandwidth, registers_write_self]

theorem opMode_setRxBandwidth (bandwidth : Sx1276RxBandwidth) (r : RadioSx1276) :
    (r.setRxBandwidth bandwidth).registers regOpMode = r.registers regOpMode := by
  have hregs : (r.setRxBandwidth bandwidth).registers =
      ((r.writeRegister regRxBw bandwidth.registerByte).writeRegister regAfcBw
        bandwidth.registerByte).registers := rfl
  rw [hregs, registers_write_of_ne (by decide), registers_write_of_ne (by decide)]

/-! ## Transmissions -/

variable {data : List UInt8} {config : RadioTxConfig}

/-- The radio when the chip is told to send. -/
def transmitting (data : List UInt8) (config : RadioTxConfig) (answers : Sx1276Answers)
    (r : RadioSx1276) : RadioSx1276 :=
  let r := r.setMode modeStdby answers.settles
  let r := r.writeRegister regPreambleMsb (highByte config.preambleLen)
  let r := r.writeRegister regPreambleLsb (lowByte config.preambleLen)
  let r := r.changeFrequency config.freqHz
  let r := { r with txFifo := data }
  let r := r.clearDioFired
  r.writeRegister regOpMode (r.registers regOpMode &&& 0xF8 ||| modeTx)

/-- A frame goes out if the interrupt comes, and otherwise the radio is left in standby. -/
theorem sendPacket_eq (hpos : 0 < data.length) (hmax : data.length ≤ frameMaxSize)
    (r : RadioSx1276) :
    sendPacket data config answers r =
      let sending := transmitting data config answers r
      if answers.polls.any (·.dioFired) then
        (true, (((({ sending with dioFired := true } : RadioSx1276).writeRegister regPreambleMsb
          0x00).writeRegister regPreambleLsb 0x08).setMode modeRx answers.settles))
      else (false, sending.setMode modeStdby answers.settles) := by
  have hfits : ¬(data.length = 0 ∨ radioPacketBufferSize < data.length) := by
    unfold frameMaxSize at hmax
    unfold radioPacketBufferSize
    omega
  unfold sendPacket
  rw [if_neg hfits]
  rfl

theorem Configured.transmitting (h : Configured r) (data : List UInt8) (config : RadioTxConfig)
    (answers : Sx1276Answers) : Configured (transmitting data config answers r) := by
  have hpreamble := ((h.setMode modeStdby answers.settles).write regPreambleMsb
    (highByte config.preambleLen) (by simp)).write regPreambleLsb (lowByte config.preambleLen)
    (by simp)
  have hhop := hpreamble.changeFrequency config.freqHz
  have hsame : Configured ({ RadioSx1276.changeFrequency config.freqHz _ with
      txFifo := data, dioFired := false } : RadioSx1276) := hhop.congr rfl rfl rfl
  exact hsame.startTx

theorem Configured.sendPacket_sent (h : Configured r) (hmax : data.length ≤ frameMaxSize)
    (hsent : (sendPacket data config answers r).1 = true) :
    Commanded (sendPacket data config answers r).2 := by
  by_cases hpos : 0 < data.length
  · rw [sendPacket_eq hpos hmax] at hsent ⊢
    dsimp only at hsent ⊢
    split_ifs at hsent ⊢ with hfired
    have hfired := (h.transmitting data config answers).congr
      (s := { RadioSx1276.transmitting data config answers r with dioFired := true }) rfl rfl rfl
    have hpreamble := (hfired.write regPreambleMsb 0x00 (by simp)).write regPreambleLsb 0x08
      (by simp)
    exact ⟨hpreamble.setMode modeRx answers.settles,
      (opMode_setMode hpreamble modeRx answers.settles).trans rfl⟩
  · unfold sendPacket at hsent
    rw [if_pos (.inl (by omega))] at hsent
    exact absurd hsent Bool.false_ne_true

theorem Configured.sendPacket_unsent (h : Configured r) (hpos : 0 < data.length)
    (hmax : data.length ≤ frameMaxSize) (hunsent : (sendPacket data config answers r).1 = false) :
    Configured (sendPacket data config answers r).2 := by
  rw [sendPacket_eq hpos hmax] at hunsent ⊢
  dsimp only at hunsent ⊢
  split_ifs at hunsent ⊢ with hfired
  exact (h.transmitting data config answers).setMode modeStdby answers.settles

/-- After a frame the radio receives as soon as the chip says so. -/
theorem modeReached_sendPacket (hpos : 0 < data.length) (hmax : data.length ≤ frameMaxSize)
    (hsent : (sendPacket data config answers r).1 = true) :
    (sendPacket data config answers r).2.modeReached = answers.settles modeRx := by
  rw [sendPacket_eq hpos hmax] at hsent ⊢
  dsimp only at hsent ⊢
  split_ifs at hsent ⊢ with hfired
  exact modeReached_setMode modeRx answers.settles _

/-- Whatever the mode was before. -/
theorem not_commanded_of_unsent (hpos : 0 < data.length) (hmax : data.length ≤ frameMaxSize)
    (hunsent : (sendPacket data config answers r).1 = false) :
    ¬Commanded (sendPacket data config answers r).2 := by
  rw [sendPacket_eq hpos hmax] at hunsent ⊢
  dsimp only at hunsent ⊢
  split_ifs at hunsent ⊢ with hfired
  intro h
  have hstandby := mask_setMode modeStdby answers.settles (transmitting data config answers r)
  rw [h.mode] at hstandby
  exact absurd hstandby (by decide)

theorem Configured.sendPacket (h : Configured r) (hpos : 0 < data.length)
    (hmax : data.length ≤ frameMaxSize) : Configured (sendPacket data config answers r).2 := by
  cases hsent : (RadioSx1276.sendPacket data config answers r).1 with
  | true => exact (h.sendPacket_sent hmax hsent).toConfigured
  | false => exact h.sendPacket_unsent hpos hmax hsent

/-! ## Receptions -/

/-- The settings and the channel are the same. A receiving call never touches the mode. -/
structure Same (r s : RadioSx1276) : Prop where
  registers : ∀ a ≠ regIrqFlags2, s.registers a = r.registers a
  modeReached : s.modeReached = r.modeReached
  currentFreq : s.currentFreq = r.currentFreq
  rxBandwidth : s.rxBandwidth = r.rxBandwidth

theorem Same.of_registers (hregs : s.registers = r.registers)
    (hreached : s.modeReached = r.modeReached) (hfreq : s.currentFreq = r.currentFreq)
    (hbandwidth : s.rxBandwidth = r.rxBandwidth) : Same r s :=
  ⟨fun _ _ => congrFun hregs _, hreached, hfreq, hbandwidth⟩

theorem Same.configured (h : Same r s) (hr : Configured r) : Configured s := by
  refine ⟨fun setting hmem => ?_, ?_, ?_, ?_, ?_, ?_, ?_⟩
  · have hfixed : regIrqFlags2 ∉ fixedSettings.map Prod.fst := by decide
    have hne : setting.1 ≠ regIrqFlags2 := fun heq => hfixed (heq ▸ List.mem_map_of_mem hmem)
    rw [h.registers _ hne, hr.settings setting hmem]
  · rw [h.registers _ (by decide), hr.fsk]
  · rw [h.registers _ (by decide), h.currentFreq, hr.msb]
  · rw [h.registers _ (by decide), h.currentFreq, hr.mid]
  · rw [h.registers _ (by decide), h.currentFreq, hr.lsb]
  · rw [h.registers _ (by decide), h.rxBandwidth, hr.rxBw]
  · rw [h.registers _ (by decide), h.rxBandwidth, hr.afcBw]

theorem Same.commanded_iff (h : Same r s) (hr : Configured r) : Commanded s ↔ Commanded r :=
  hr.commanded_iff (h.configured hr) (h.registers regOpMode (by decide))

theorem Same.receiving_iff (h : Same r s) (hr : Configured r) : Receiving s ↔ Receiving r := by
  rw [receiving_iff_reached, receiving_iff_reached, h.commanded_iff hr, h.modeReached]

theorem pollUntilPayloadReady_same (polls : List FlagPoll) (r : RadioSx1276) :
    ∃ fired, (pollUntilPayloadReady polls r).2 = { r with dioFired := fired } := by
  induction polls with
  | nil => exact ⟨r.dioFired, rfl⟩
  | cons poll polls ih =>
    unfold pollUntilPayloadReady
    split_ifs
    · exact ⟨false, rfl⟩
    · exact ⟨false, rfl⟩
    · exact ih

theorem same_waitForPacket (answers : Sx1276Answers) (r : RadioSx1276) :
    Same r (waitForPacket answers r).2 := by
  obtain ⟨fired, hready⟩ := pollUntilPayloadReady_same answers.polls
    ({ r with lastCapture := {} } : RadioSx1276).clearDioFired
  unfold waitForPacket
  revert hready
  rcases pollUntilPayloadReady answers.polls _ with ⟨found, s⟩
  rintro rfl
  cases found with
  | none => exact .of_registers rfl rfl rfl rfl
  | some flags =>
    dsimp only
    split_ifs
    · exact .of_registers rfl rfl rfl rfl
    · exact .of_registers rfl rfl rfl rfl

theorem same_checkForPacket (answers : Sx1276Answers) (r : RadioSx1276) :
    Same r (checkForPacket answers r).2 := by
  unfold checkForPacket
  dsimp only
  split_ifs
  · exact .of_registers rfl rfl rfl rfl
  · exact .of_registers rfl rfl rfl rfl
  · exact ⟨fun a ha => registers_write_of_ne ha, rfl, rfl, rfl⟩
  · exact .of_registers rfl rfl rfl rfl

/-! ## What is delivered -/

variable {packet : RadioRxPacket}

theorem delivers_packetOf {blockingWait : Bool} {irq1 irq2 rssi : UInt8} {nowMs : ℕ}
    (h : packetOf data r = some packet) (hfits : data.length ≤ radioPacketBufferSize) :
    radioSx1276.Delivers (r.fillCaptureInfo blockingWait irq1 irq2 rssi data nowMs) packet := by
  unfold packetOf at h
  split_ifs at h
  obtain rfl := Option.some.inj h
  have hframe : (r.fillCaptureInfo blockingWait irq1 irq2 rssi data nowMs).lastCapture.frame =
      data.take radioPacketBufferSize := rfl
  exact ⟨rfl, hframe.trans (List.take_of_length_le hfits), rfl, rfl⟩

theorem readFifoPacket_length (answers : Sx1276Answers) :
    (readFifoPacket answers).length ≤ radioPacketBufferSize := List.length_take_le _ _

theorem delivers_waitForPacket (h : (waitForPacket answers r).1 = some packet) :
    radioSx1276.Delivers (waitForPacket answers r).2 packet := by
  unfold waitForPacket at h ⊢
  revert h
  rcases pollUntilPayloadReady answers.polls _ with ⟨found, s⟩
  cases found with
  | none => simp
  | some flags =>
    dsimp only
    split_ifs
    · simp
    · exact fun h => delivers_packetOf h (readFifoPacket_length answers)

theorem delivers_checkForPacket (h : (checkForPacket answers r).1 = some packet) :
    radioSx1276.Delivers (checkForPacket answers r).2 packet := by
  unfold checkForPacket at h ⊢
  dsimp only at h ⊢
  split_ifs at h ⊢
  exact delivers_packetOf h (readFifoPacket_length answers)

end RadioSx1276

/-! ## The interface's promise -/

open RadioSx1276

theorem radioSx1276_contract : radioSx1276.Contract Commanded where
  sent hmax hsent h := h.toConfigured.sendPacket_sent hmax hsent
  unsent hpos hmax hunsent := not_commanded_of_unsent hpos hmax hunsent
  waited answers h := ((same_waitForPacket answers _).commanded_iff h.toConfigured).2 h
  checked answers h := ((same_checkForPacket answers _).commanded_iff h.toConfigured).2 h
  retuned freqHz h := ⟨h.toConfigured.changeFrequency freqHz,
    (opMode_changeFrequency freqHz _).trans h.mode⟩
  tuned tuning h := ⟨h.toConfigured.setRxBandwidth _, (opMode_setRxBandwidth _ _).trans h.mode⟩
  interrupted h := ⟨h.toConfigured.congr rfl rfl rfl, h.mode⟩
  wait_delivers := delivers_waitForPacket
  check_delivers := delivers_checkForPacket
  check_quiet answers hquiet := by
    show RadioSx1276.checkForPacket answers _ = _
    unfold RadioSx1276.checkForPacket
    rw [if_pos (by rw [show RadioSx1276.dioFired _ = false from hquiet]; rfl)]

/-! ## Set-up -/

namespace RadioSx1276

variable {r s : RadioSx1276} {setup : Sx1276Setup}

theorem settings_writeModem (r : RadioSx1276) :
    ∀ setting ∈ fixedSettings, r.writeModem.registers setting.1 = setting.2 := by
  have hsync : r.writeModem.registers regSyncConfig = 0x52 := by
    show (0x50 : UInt8) &&& 0xF8 ||| 0x02 = 0x52
    decide
  simp only [fixedSettings, List.forall_mem_cons]
  exact ⟨rfl, rfl, rfl, hsync, rfl, rfl, rfl, rfl, rfl, rfl, rfl, rfl, rfl, rfl, rfl, rfl, rfl, rfl,
    rfl, rfl, rfl, rfl, by simp⟩

/-- The chip is in FSK mode, on the channel that the driver begins with. -/
structure Started (r : RadioSx1276) : Prop where
  fsk : r.registers regOpMode &&& ~~~modeMask = 0
  msb : r.registers regFrfMsb = .ofNat (frequencySteps r.currentFreq >>> 16)
  mid : r.registers regFrfMid = .ofNat (frequencySteps r.currentFreq >>> 8)
  lsb : r.registers regFrfLsb = .ofNat (frequencySteps r.currentFreq)

theorem Started.writeModem (h : Started r) : Configured r.writeModem :=
  ⟨settings_writeModem r, h.fsk, h.msb, h.mid, h.lsb, rfl, rfl⟩

theorem Started.setMode (h : Started r) (mode : UInt8) (settles : UInt8 → Bool) :
    Started (r.setMode mode settles) := by
  obtain ⟨hfreq, -⟩ := setMode_eq mode settles r
  refine ⟨?_, ?_, ?_, ?_⟩
  · rw [registers_setMode, registers_write_self, h.fsk, UInt8.zero_or, UInt8.and_assoc,
      UInt8.and_not_self, UInt8.and_zero]
  · rw [registers_setMode, registers_write_of_ne (by decide), h.msb, hfreq]
  · rw [registers_setMode, registers_write_of_ne (by decide), h.mid, hfreq]
  · rw [registers_setMode, registers_write_of_ne (by decide), h.lsb, hfreq]

theorem Started.runImageCal (h : Started r) (setup : Sx1276Setup) :
    Started (r.runImageCal setup) := by
  have hwrite := h.setMode modeStdby setup.settles
  unfold RadioSx1276.runImageCal
  dsimp only
  split_ifs
  · exact ⟨hwrite.fsk, hwrite.msb, hwrite.mid, hwrite.lsb⟩
  · exact ⟨hwrite.fsk, hwrite.msb, hwrite.mid, hwrite.lsb⟩

theorem settles_of_not_failed {settles : UInt8 → Bool} {mode : UInt8}
    (h : ¬(r.setMode mode settles).failed = true) : settles mode = true := by
  by_contra hnot
  apply h
  unfold setMode
  dsimp only
  rw [if_neg hnot]

/-- A set-up that succeeds leaves the radio receiving, whatever the chip's registers held before. -/
theorem receiving_init (hfreq : r.currentFreq = freqCh2) (h : (r.init setup).1 = true) :
    Receiving (r.init setup).2 := by
  unfold init at h ⊢
  split_ifs at h ⊢ with hversion
  dsimp only at h ⊢
  split_ifs at h ⊢ with hfailed
  have hstarted : Started ((((r.writeRegister regOpMode 0x00).writeRegister regFrfMsb
      (.ofNat (frequencySteps freqCh2 >>> 16))).writeRegister regFrfMid
      (.ofNat (frequencySteps freqCh2 >>> 8))).writeRegister regFrfLsb
      (.ofNat (frequencySteps freqCh2))) := by
    refine ⟨?_, ?_, ?_, ?_⟩
    · show (0x00 : UInt8) &&& ~~~modeMask = 0
      decide
    · show _ = UInt8.ofNat (frequencySteps r.currentFreq >>> 16)
      rw [hfreq]
      rfl
    · show _ = UInt8.ofNat (frequencySteps r.currentFreq >>> 8)
      rw [hfreq]
      rfl
    · show _ = UInt8.ofNat (frequencySteps r.currentFreq)
      rw [hfreq]
      rfl
  have hcal := (hstarted.setMode modeStdby setup.settles).runImageCal setup
  unfold configureRadio at hfailed ⊢
  dsimp only at hfailed ⊢
  split_ifs at hfailed ⊢ with hcalFailed
  · exact absurd hcalFailed hfailed
  · have hmodem := (hcal.setMode modeStdby setup.settles).writeModem
    have hcommanded : Commanded (RadioSx1276.setMode modeRx setup.settles _) :=
      ⟨hmodem.setMode modeRx setup.settles,
        (opMode_setMode hmodem modeRx setup.settles).trans rfl⟩
    refine ⟨hcommanded, ?_⟩
    rw [modeReached_setMode]
    exact settles_of_not_failed hfailed

end RadioSx1276

/-! ## Runs of the driver -/

/-- A frame goes out, and the chip reports in time that it receives again. -/
def Resumes (r : RadioSx1276) : DriverCall Sx1276Answers → Prop
  | .sendPacket frame config answers =>
    radioSx1276.Sends r (.sendPacket frame config answers) ∧ answers.settles modeRx = true
  | _ => True

theorem receiving_sendPacket_iff {r : RadioSx1276} (h : Configured r) (frame : SerializedFrame)
    (config : RadioTxConfig) (answers : Sx1276Answers) :
    Receiving (radioSx1276.step r (.sendPacket frame config answers)) ↔
      Resumes r (.sendPacket frame config answers) := by
  constructor
  · intro hreceiving
    have hsent : (radioSx1276.sendPacket frame config answers r).1 = true := by
      by_contra hunsent
      exact not_commanded_of_unsent frame.2.1 frame.2.2 (Bool.eq_false_of_not_eq_true hunsent)
        hreceiving.toCommanded
    refine ⟨hsent, ?_⟩
    rw [← modeReached_sendPacket frame.2.1 frame.2.2 hsent]
    exact hreceiving.reached
  · rintro ⟨hsent, hsettles⟩
    exact ⟨h.sendPacket_sent frame.2.2 hsent,
      (modeReached_sendPacket frame.2.1 frame.2.2 hsent).trans hsettles⟩

/-- The waits and the checks of this driver leave the mode alone, and so does a hop. -/
theorem radioSx1276_latches : radioSx1276.Latches Resumes Configured Receiving where
  kept call h := by
    cases call with
    | sendPacket frame config answers => exact h.sendPacket frame.2.1 frame.2.2
    | waitForPacket answers => exact (same_waitForPacket answers _).configured h
    | checkForPacket answers => exact (same_checkForPacket answers _).configured h
    | changeFrequency freqHz => exact h.changeFrequency freqHz
    | applyTuning tuning => exact h.setRxBandwidth tuning.sx1276RxBandwidth
    | interrupt => exact h.congr rfl rfl rfl
  sent frame config answers h := receiving_sendPacket_iff h frame config answers
  other call hother h := by
    cases call with
    | sendPacket frame config answers => exact absurd rfl (hother frame config answers)
    | waitForPacket answers => exact (same_waitForPacket answers _).receiving_iff h
    | checkForPacket answers => exact (same_checkForPacket answers _).receiving_iff h
    | changeFrequency freqHz =>
      rw [receiving_iff_reached, receiving_iff_reached]
      exact and_congr_left' (h.commanded_iff (h.changeFrequency freqHz)
        (opMode_changeFrequency freqHz _))
    | applyTuning tuning =>
      rw [receiving_iff_reached, receiving_iff_reached]
      exact and_congr_left' (h.commanded_iff (h.setRxBandwidth _)
        (opMode_setRxBandwidth tuning.sx1276RxBandwidth _))
    | interrupt =>
      rw [receiving_iff_reached, receiving_iff_reached]
      exact and_congr_left' (h.commanded_iff (h.congr rfl rfl rfl) rfl)

/-- Between any two calls the radio receives exactly if the last frame that was handed over went
out and the chip reported in time that it receives again: no other call brings the receiver back. -/
theorem radioSx1276_receives_iff {setup : Sx1276Setup} {r : RadioSx1276}
    (hfreq : r.currentFreq = freqCh2) (hinit : (r.init setup).1 = true)
    (calls : List (DriverCall Sx1276Answers)) :
    Receiving (run radioSx1276.step (r.init setup).2 calls) ↔
      radioSx1276.LastSend Resumes (r.init setup).2 calls := by
  have hreceiving := receiving_init hfreq hinit
  exact radioSx1276_latches.receiving_run_iff hreceiving.toConfigured hreceiving calls

/-- A frame for which no interrupt comes, and a hop. -/
def unsentThenHop : List (DriverCall Sx1276Answers) :=
  [.sendPacket ⟨[0x08, 0, 0, 0, 0, 0, 0, 0, 0], by decide⟩ {} {}, .changeFrequency freqCh1]

theorem radioSx1276_receives_after_hop :
    Receiving (run radioSx1276.step (({} : RadioSx1276).init {}).2 unsentThenHop) ↔
      radioSx1276.LastSend Resumes (({} : RadioSx1276).init {}).2 unsentThenHop :=
  radioSx1276_receives_iff rfl rfl unsentThenHop

end HomeIoControl
