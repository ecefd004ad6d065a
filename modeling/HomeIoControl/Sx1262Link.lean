import HomeIoControl.Sx1262Receiver

namespace HomeIoControl
open BitStream

namespace RadioSx1262

/-! ## What goes on the air -/

variable {data : List UInt8} {config : RadioTxConfig} {answers sending : Sx1262Answers}
  {r s : RadioSx1262}

/-- A frame that went out stays in the transmit half of the buffer. -/
theorem txBuffer_sendPacket (hsent : (sendPacket data config sending r).1 = true)
    (hmax : data.length ≤ frameMaxSize) :
    (sendPacket data config sending r).2.chip.txBuffer =
      packMsb (uartBits (frameWithCrc data)) := by
  have hpos : 0 < data.length := by
    by_contra hempty
    unfold sendPacket at hsent
    rw [if_pos (by omega)] at hsent
    exact Bool.false_ne_true hsent
  rw [sendPacket_eq hpos hmax] at hsent ⊢
  dsimp only at hsent ⊢
  have hsetup := awaitTxDone_setup sending.polls
    (RadioSx1262.transmitting (packMsb (uartBits (frameWithCrc data))) config r)
  revert hsent hsetup
  rcases awaitTxDone sending.polls _ with ⟨sent, t⟩
  cases sent with
  | false => simp
  | true =>
    intro _ hsetup
    have hclear : ((t.clearDioFired).clearIrqStatus 0xFFFF).chip = t.chip :=
      congrArg Prod.fst (setup_clearIrqStatus t.clearDioFired 0xFFFF)
    have hchip : t.chip = (RadioSx1262.transmitting (packMsb (uartBits (frameWithCrc data)))
      config r).chip := congrArg Prod.fst hsetup
    dsimp only
    rw [chip_resetRxState, hclear, hchip, chip_transmitting]

/-! ## What comes in -/

/-- The window that the driver reads begins with what was sent. -/
def Hears (sent : List UInt8) (answers : Sx1262Answers) : Prop :=
  sent <+: rxWindow answers.buffer answers.rxStatus

/-- The chip reports whole windows, so it is enough that its buffer begins with what was sent. -/
theorem hears_of_window (hmax : data.length ≤ frameMaxSize) (hstatus : answers.rxStatus = 48)
    (hbuffer : ∀ i (hi : i < (packMsb (uartBits (frameWithCrc data))).length),
      answers.buffer i = (packMsb (uartBits (frameWithCrc data)))[i]) :
    Hears (packMsb (uartBits (frameWithCrc data))) answers := by
  have hlength := encoded_length_lt hmax
  have hwindow : rxWindow answers.buffer answers.rxStatus =
      (List.range sx1262RxProbePacketLen).map answers.buffer := by rw [rxWindow, hstatus]; rfl
  unfold Hears
  rw [hwindow, List.prefix_iff_eq_take]
  apply List.ext_getElem
  · simp only [List.length_take, List.length_map, List.length_range]
    omega
  · intro i hi _
    rw [List.getElem_take, List.getElem_map, List.getElem_range, hbuffer i hi]

/-- The chip reports the end of a packet in time, and what is seen first is the packet: its sync
word or its end. -/
structure Completes (polls : List Poll) (fired : Bool) : Prop where
  ends : ∃ q ∈ polls, rxDone q.irq = true
  begins : ∀ p, firstActivity polls fired = some p → rxDone p.irq = true ∨ syncSeen p.irq = true

theorem rxDone_of_awaitRxDone {polls : List Poll} {irq : UInt16}
    (h : (awaitRxDone polls r).1 = some irq) : rxDone irq = true := by
  induction polls generalizing r with
  | nil => cases h
  | cons poll polls ih =>
    unfold awaitRxDone at h
    dsimp only at h
    split_ifs at h with hfired hdone hdone hclear
    · obtain rfl := Option.some.inj h
      simpa [rxDone] using hdone
    · exact ih h
    · obtain rfl := Option.some.inj h
      simpa [rxDone] using hdone
    · exact ih h
    · exact ih h

/-- A packet ends with the given status, or its sync word comes and its end in a later round. -/
def CompletesAt (irq : UInt16) (rest : List Poll) : Prop :=
  rxDone irq = true ∨ syncSeen irq = true ∧ ∃ q ∈ rest, rxDone q.irq = true

theorem resolveSyncRace_done_iff (irq : UInt16) (rest : List Poll) (r : RadioSx1262) :
    (∃ done, (r.resolveSyncRace irq rest).1 = some done ∧ rxDone done = true) ↔
      CompletesAt irq rest := by
  unfold resolveSyncRace CompletesAt
  rw [isSyncOnly_eq]
  cases hdone : rxDone irq with
  | true => simp [hdone]
  | false =>
    cases syncSeen irq with
    | false => simp [hdone]
    | true =>
      simp only [Bool.not_false, Bool.and_self, Bool.not_true, Bool.false_eq_true, if_false,
        true_and, false_or]
      rw [← awaitRxDone_isSome_iff rest (r.clearIrqStatus sx1262IrqSyncWordValid),
        Option.isSome_iff_exists]
      constructor
      · rintro ⟨done, hsome, -⟩
        exact ⟨done, hsome⟩
      · rintro ⟨done, hsome⟩
        exact ⟨done, hsome, rxDone_of_awaitRxDone hsome⟩

theorem pollUntilActivity_done_iff (polls : List Poll) (r : RadioSx1262) :
    (∃ irq fired rest s, pollUntilActivity polls r = (some (irq, fired, rest), s) ∧
        ∃ done, (s.resolveSyncRace irq rest).1 = some done ∧ rxDone done = true) ↔
      Completes polls r.dioFired := by
  obtain ⟨hfirst, hends⟩ := pollUntilActivity_eq polls r
  have hcompletes : Completes polls r.dioFired ↔ (∃ q ∈ polls, rxDone q.irq = true) ∧
      ∀ irq, (firstActivity polls r.dioFired).map Poll.irq = some irq →
        rxDone irq = true ∨ syncSeen irq = true := by
    simp only [Option.map_eq_some_iff, forall_exists_index, and_imp, forall_apply_eq_imp_iff₂]
    exact ⟨fun h => ⟨h.ends, h.begins⟩, fun h => ⟨h.1, h.2⟩⟩
  rw [hcompletes, hfirst, hends]
  rcases pollUntilActivity polls r with ⟨found, s⟩
  cases found with
  | none => simp
  | some found =>
    obtain ⟨irq, fired, rest⟩ := found
    simp only [Prod.mk.injEq, Option.some.injEq, and_assoc, exists_and_left, exists_eq_left',
      Option.map_some, forall_eq', resolveSyncRace_done_iff]
    unfold CompletesAt
    tauto

/-! ## From one driver to the other -/

variable {f : IoFrame} {bytes : List UInt8} {n : ℕ}

theorem readRxPacket_of_hears (hserialize : serialize f n = some bytes)
    (hknown : isKnownIoCommand f.cmd = true ∨ f.is1W = true)
    (hears : Hears (packMsb (uartBits (frameWithCrc bytes))) answers) (currentFreq : ℕ) :
    HomeIoControl.readRxPacket answers.buffer answers.rxStatus currentFreq =
      some { data := bytes, freqHz := currentFreq } := by
  have hparse := parse_of_serialize (serialize_frameMaxSize hserialize)
  obtain ⟨hmin, hmax⟩ := length_of_parse hparse
  obtain ⟨noise, hwindow⟩ := hears
  have hroom : (frameWithCrc bytes).length + (radioPacketBufferSize - (bytes.length + 2)) =
      radioPacketBufferSize := by
    have hcrc : (frameWithCrc bytes).length = bytes.length + 2 := by simp [frameWithCrc]
    unfold frameMaxSize at hmax
    unfold radioPacketBufferSize
    omega
  obtain ⟨rest, hdecode⟩ := decodeUartProbe_packMsb (frameWithCrc bytes) noise
    (radioPacketBufferSize - (bytes.length + 2))
  have hfront : frameWithCrc bytes ++ rest =
      bytes ++ crcLow (crcCcitt bytes) :: crcHigh (crcCcitt bytes) :: rest := by
    simp [frameWithCrc]
  rw [hroom, hfront, hwindow] at hdecode
  have hfirst := isFirstFrame_of_front hdecode hparse
    (isPlausibleUartFrame_of_serialize hserialize hknown) (crcLow_or_crcHigh _).symm
  obtain ⟨hvalid, -, -, hframe⟩ := hfirst.found
  rw [hdecode, List.drop_zero, List.take_left' rfl] at hframe
  unfold HomeIoControl.readRxPacket
  dsimp only
  rw [if_pos hvalid, hframe, if_pos (lt_of_lt_of_le (by decide) hmin)]

theorem finalizeReceive_of_hears (hserialize : serialize f n = some bytes)
    (hknown : isKnownIoCommand f.cmd = true ∨ f.is1W = true)
    (hears : Hears (packMsb (uartBits (frameWithCrc bytes))) answers) (irq : UInt16)
    (r : RadioSx1262) :
    (r.finalizeReceive irq answers).1 =
      if rxDone irq = true then some { data := bytes, freqHz := r.currentFreq } else none := by
  unfold finalizeReceive rxDone
  by_cases hdone : irq &&& sx1262IrqRxDone = 0
  · simp [hdone]
  · rw [if_neg hdone, if_pos (by simpa using hdone), readRxPacket_eq,
      readRxPacket_of_hears hserialize hknown hears]

/-- A wait returns the frame exactly if the packet shows first and ends in time. -/
theorem waitForPacket_of_hears (hserialize : serialize f n = some bytes)
    (hknown : isKnownIoCommand f.cmd = true ∨ f.is1W = true)
    (hears : Hears (packMsb (uartBits (frameWithCrc bytes))) answers) (s : RadioSx1262) :
    (waitForPacket answers s).1 = some { data := bytes, freqHz := s.currentFreq } ↔
      Completes answers.polls s.dioFired := by
  have hpolls := pollUntilActivity_done_iff answers.polls { s with lastCapture := {} }
  rw [← show _ ↔ Completes answers.polls s.dioFired from hpolls]
  unfold waitForPacket
  have hactivity := @pollUntilActivity_some { s with lastCapture := {} } answers.polls
  revert hactivity
  rcases pollUntilActivity answers.polls _ with ⟨found, t⟩
  cases found with
  | none => simp
  | some found =>
    obtain ⟨irq, fired, rest⟩ := found
    intro hactivity
    have hfreq : t.currentFreq = s.currentFreq := congrArg (·.2.1) (hactivity rfl)
    have hrace := resolveSyncRace_setup irq rest t
    dsimp only
    revert hrace
    rcases hdone : t.resolveSyncRace irq rest with ⟨done, u⟩
    intro hrace
    have hfreq' : u.currentFreq = s.currentFreq := (congrArg (·.2.1) hrace).trans hfreq
    cases done with
    | none =>
      refine iff_of_false (Option.some_ne_none _).symm ?_
      rintro ⟨_, _, _, _, hsame, done, hsome, -⟩
      cases hsame
      rw [hdone] at hsome
      cases hsome
    | some done =>
      dsimp only
      rw [finalizeReceive_of_hears hserialize hknown hears, hfreq', ite_eq_left_iff]
      constructor
      · intro h
        refine ⟨irq, fired, rest, t, rfl, done, by rw [hdone], ?_⟩
        by_contra hnot
        cases h hnot
      · rintro ⟨_, _, _, _, hsame, done', hsome, hends⟩ hnot
        cases hsame
        rw [hdone] at hsome
        cases hsome
        exact absurd hends hnot

/-- A check returns it if the interrupt came and the packet has ended. -/
theorem checkForPacket_of_hears (hserialize : serialize f n = some bytes)
    (hknown : isKnownIoCommand f.cmd = true ∨ f.is1W = true)
    (hears : Hears (packMsb (uartBits (frameWithCrc bytes))) answers) (s : RadioSx1262) :
    (checkForPacket answers s).1 = some { data := bytes, freqHz := s.currentFreq } ↔
      s.dioFired = true ∧ rxDone answers.irqStatus = true := by
  unfold checkForPacket
  dsimp only
  cases hfired : s.dioFired with
  | false => simp
  | true =>
    cases hdone : rxDone answers.irqStatus with
    | false =>
      have hnot : answers.irqStatus &&& sx1262IrqRxDone = 0 := by simpa [rxDone] using hdone
      split_ifs <;> simp_all
    | true =>
      have hends : answers.irqStatus &&& sx1262IrqRxDone ≠ 0 := by simpa [rxDone] using hdone
      have hsync : isSyncOnly answers.irqStatus = false := by
        rw [isSyncOnly_eq, hdone, Bool.not_true, Bool.and_false]
      rw [hsync, if_pos hends, readRxPacket_eq,
        readRxPacket_of_hears hserialize hknown hears]
      exact iff_of_true rfl ⟨rfl, rfl⟩

end RadioSx1262

open RadioSx1262

/-- What one radio sends reaches the other's caller and parses to the frame, if the chip shows the
packet first, reports its end and returns what begins with the transmission. Nothing is assumed
about what follows in the window. -/
theorem radioSx1262_link {f : IoFrame} {bytes : List UInt8} {n : ℕ}
    (hserialize : serialize f n = some bytes)
    (hknown : isKnownIoCommand f.cmd = true ∨ f.is1W = true)
    {config : RadioTxConfig} {sending : Sx1262Answers} {sender : RadioSx1262}
    (hsent : (radioSx1262.sendPacket bytes config sending sender).1 = true)
    {answers : Sx1262Answers}
    (hears : Hears (radioSx1262.sendPacket bytes config sending sender).2.chip.txBuffer answers)
    (receiver : RadioSx1262) :
    ((radioSx1262.waitForPacket answers receiver).1 =
        some { data := bytes, freqHz := receiver.currentFreq } ↔
      Completes answers.polls receiver.dioFired) ∧
    ((radioSx1262.checkForPacket answers receiver).1 =
        some { data := bytes, freqHz := receiver.currentFreq } ↔
      receiver.dioFired = true ∧ rxDone answers.irqStatus = true) ∧
    parse bytes = some { f with data := zeroFilled f.payload } := by
  have hparse := parse_of_serialize (serialize_frameMaxSize hserialize)
  rw [show (radioSx1262.sendPacket bytes config sending sender).2.chip.txBuffer = _ from
    txBuffer_sendPacket hsent (length_of_parse hparse).2] at hears
  exact ⟨waitForPacket_of_hears hserialize hknown hears receiver,
    checkForPacket_of_hears hserialize hknown hears receiver, hparse⟩

def sentAtOnce : Sx1262Answers where
  polls := [{ dioFired := true, irq := sx1262IrqTxDone }]

def requestWindow : Sx1262Answers where
  polls := [{ dioFired := false, irq := 0 }, { dioFired := true, irq := sx1262IrqSyncWordValid },
    { dioFired := true, irq := sx1262IrqRxDone }]
  rxStatus := 48
  buffer i := (packMsb (uartBits (frameWithCrc (plainStatusRequest.header ++ [0x03, 0, 0])))).getD i 0xFF

theorem radioSx1262_link_of_request :
    ((radioSx1262.waitForPacket requestWindow {}).1 =
        some { data := plainStatusRequest.header ++ [0x03, 0, 0], freqHz := freqCh2 } ↔
      Completes requestWindow.polls false) ∧
    ((radioSx1262.checkForPacket requestWindow {}).1 =
        some { data := plainStatusRequest.header ++ [0x03, 0, 0], freqHz := freqCh2 } ↔
      false = true ∧ rxDone requestWindow.irqStatus = true) ∧
    parse (plainStatusRequest.header ++ [0x03, 0, 0]) =
      some { plainStatusRequest with data := zeroFilled plainStatusRequest.payload } := by
  have hsent : (radioSx1262.sendPacket (plainStatusRequest.header ++ [0x03, 0, 0]) {} sentAtOnce
      {}).1 = true := by decide +kernel
  refine radioSx1262_link (n := frameMaxSize) (by decide) (.inl (by decide)) hsent ?_ {}
  rw [show (radioSx1262.sendPacket _ _ _ _).2.chip.txBuffer = _ from
    txBuffer_sendPacket hsent (by decide)]
  refine hears_of_window (by decide) rfl fun i hi => ?_
  exact (List.getElem_eq_getD _).symm

end HomeIoControl
