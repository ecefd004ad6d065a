import HomeIoControl.GuardedRun
import HomeIoControl.LogFrame
import HomeIoControl.RadioSx1262
import HomeIoControl.TuningRegistry

namespace HomeIoControl
open GuardedRun

structure RadioTxConfig where
  freqHz : ℕ := freqCh2
  preambleLen : ℕ := shortPreamble
  deriving DecidableEq, Repr

/-- What a driver keeps of its last reception. -/
structure DriverCapture extends RadioCaptureInfo where
  blockingWait : Bool := false
  rxDone : Bool := false
  crcError : Bool := false
  irqStatus : UInt16 := 0
  irqFlags1 : UInt8 := 0
  irqFlags2 : UInt8 := 0
  packetStatus : UInt8 := 0
  rxOffset : UInt8 := 0
  reportedLen : ℕ := 0
  raw : List UInt8 := []
  frame : List UInt8 := []
  deriving DecidableEq, Repr

/-- The fields that both drivers fill in the same way. -/
def populateCaptureBase (blockingWait : Bool) (timestampMs freqHz : ℕ) (rssiDbm : ℤ)
    (raw frame : List UInt8) : DriverCapture where
  valid := true
  blockingWait
  timestampMs
  freqHz
  rssiDbm
  raw := raw.take radioPacketBufferSize
  frame := frame.take radioPacketBufferSize

/-- What the bus returns for a strength, in half decibels below zero. -/
def rssiOfRaw (raw : UInt8) : ℤ := (-(raw.toNat : ℤ)).tdiv 2

/-- A frame as it is handed to a driver. -/
abbrev SerializedFrame := { data : List UInt8 // 0 < data.length ∧ data.length ≤ frameMaxSize }

/-- The operations of the interface. `ρ` is a driver's state, and `ι` what its chip answers during
a call. -/
structure RadioDriver (ρ ι : Type) where
  sendPacket : List UInt8 → RadioTxConfig → ι → ρ → Bool × ρ
  waitForPacket : ι → ρ → Option RadioRxPacket × ρ
  checkForPacket : ι → ρ → Option RadioRxPacket × ρ
  changeFrequency : ℕ → ρ → ρ
  applyTuning : RuntimeTuning → ρ → ρ
  /-- The interrupt handler. -/
  interrupt : ρ → ρ
  dioFired : ρ → Bool
  lastCapture : ρ → DriverCapture
  currentFreq : ρ → ℕ

/-- What the hub can ask of a driver, with what the chip answers. -/
inductive DriverCall (ι : Type)
  | sendPacket (frame : SerializedFrame) (config : RadioTxConfig) (answers : ι)
  | waitForPacket (answers : ι)
  | checkForPacket (answers : ι)
  | changeFrequency (freqHz : ℕ)
  | applyTuning (tuning : RuntimeTuning)
  | interrupt

namespace RadioDriver

variable {ρ ι : Type} (driver : RadioDriver ρ ι)

def step (r : ρ) : DriverCall ι → ρ
  | .sendPacket frame config answers => (driver.sendPacket frame config answers r).2
  | .waitForPacket answers => (driver.waitForPacket answers r).2
  | .checkForPacket answers => (driver.checkForPacket answers r).2
  | .changeFrequency freqHz => driver.changeFrequency freqHz r
  | .applyTuning tuning => driver.applyTuning tuning r
  | .interrupt => driver.interrupt r

/-- A frame that is handed over goes out. -/
def Sends (r : ρ) : DriverCall ι → Prop
  | .sendPacket frame config answers => (driver.sendPacket frame config answers r).1 = true
  | _ => True

/-- The packet is the one the driver has captured, on its channel. -/
structure Delivers (r : ρ) (packet : RadioRxPacket) : Prop where
  valid : (driver.lastCapture r).valid = true
  captured : (driver.lastCapture r).frame = packet.data
  freqHz : packet.freqHz = driver.currentFreq r
  captured_freqHz : (driver.lastCapture r).freqHz = driver.currentFreq r

/-- What the interface promises, for a driver whose radio is receiving in the states of the given
kind. -/
structure Contract (Receiving : ρ → Prop) : Prop where
  sent : ∀ {r frame config answers}, frame.length ≤ frameMaxSize →
    (driver.sendPacket frame config answers r).1 = true →
    Receiving r → Receiving (driver.sendPacket frame config answers r).2
  unsent : ∀ {r frame config answers}, 0 < frame.length →
    frame.length ≤ frameMaxSize → (driver.sendPacket frame config answers r).1 = false →
    ¬Receiving (driver.sendPacket frame config answers r).2
  waited : ∀ {r} answers, Receiving r → Receiving (driver.waitForPacket answers r).2
  checked : ∀ {r} answers, Receiving r → Receiving (driver.checkForPacket answers r).2
  retuned : ∀ {r} freqHz, Receiving r → Receiving (driver.changeFrequency freqHz r)
  tuned : ∀ {r} tuning, Receiving r → Receiving (driver.applyTuning tuning r)
  interrupted : ∀ {r}, Receiving r → Receiving (driver.interrupt r)
  wait_delivers : ∀ {r answers packet}, (driver.waitForPacket answers r).1 = some packet →
    driver.Delivers (driver.waitForPacket answers r).2 packet
  check_delivers : ∀ {r answers packet}, (driver.checkForPacket answers r).1 = some packet →
    driver.Delivers (driver.checkForPacket answers r).2 packet
  check_quiet : ∀ {r} answers, driver.dioFired r = false → driver.checkForPacket answers r = (none, r)

namespace Contract

variable {driver} {Receiving : ρ → Prop} (contract : driver.Contract Receiving) {r : ρ}
  {call : DriverCall ι} {calls : List (DriverCall ι)}

include contract

theorem receiving_step_iff (h : Receiving r) :
    Receiving (driver.step r call) ↔ driver.Sends r call := by
  cases call with
  | sendPacket frame config answers =>
    obtain ⟨data, hpos, hmax⟩ := frame
    refine ⟨fun hreceiving => ?_, fun hsent => contract.sent hmax hsent h⟩
    by_contra hunsent
    exact contract.unsent hpos hmax (Bool.eq_false_of_not_eq_true hunsent) hreceiving
  | waitForPacket answers => exact iff_of_true (contract.waited answers h) trivial
  | checkForPacket answers => exact iff_of_true (contract.checked answers h) trivial
  | changeFrequency freqHz => exact iff_of_true (contract.retuned freqHz h) trivial
  | applyTuning tuning => exact iff_of_true (contract.tuned tuning h) trivial
  | interrupt => exact iff_of_true (contract.interrupted h) trivial

/-- The radio receives between any two calls exactly if every frame goes out. -/
theorem always_receiving_iff (h : Receiving r) :
    Always driver.step Receiving r calls ↔ Guarded driver.step driver.Sends r calls := by
  induction calls generalizing r with
  | nil => exact iff_of_true (always_nil.2 h) guarded_nil
  | cons call calls ih =>
    rw [always_cons, guarded_cons, and_iff_right h, ← contract.receiving_step_iff h]
    constructor
    · intro hrest
      exact ⟨hrest.head, (ih hrest.head).1 hrest⟩
    · rintro ⟨hstep, hrest⟩
      exact (ih hstep).2 hrest

end Contract

/-! ## Drivers that do not recover by themselves -/

/-- If a frame was handed over at all, the last one met the condition. -/
def LastSend (Ends : ρ → DriverCall ι → Prop) (r : ρ) (calls : List (DriverCall ι)) : Prop :=
  ∀ before frame config answers after,
    calls = before ++ .sendPacket frame config answers :: after →
    (∀ call ∈ after, ∀ frame config answers, call ≠ .sendPacket frame config answers) →
    Ends (run driver.step r before) (.sendPacket frame config answers)

/-- Only a transmission changes whether the radio receives, which depends on how it ends alone. The
invariant is what the driver keeps up in any case. -/
structure Latches (Ends : ρ → DriverCall ι → Prop) (Invariant Receiving : ρ → Prop) : Prop where
  kept : ∀ {r} call, Invariant r → Invariant (driver.step r call)
  sent : ∀ {r} frame config answers, Invariant r →
    (Receiving (driver.step r (.sendPacket frame config answers)) ↔
      Ends r (.sendPacket frame config answers))
  other : ∀ {r} call, (∀ frame config answers, call ≠ .sendPacket frame config answers) →
    Invariant r → (Receiving (driver.step r call) ↔ Receiving r)

section Latches

variable {driver} {r : ρ} {call : DriverCall ι} {calls : List (DriverCall ι)}
  {Ends : ρ → DriverCall ι → Prop}

theorem lastSend_nil : driver.LastSend Ends r [] := by
  intro before frame config answers after h
  simp at h

theorem lastSend_append_send {frame : SerializedFrame} {config : RadioTxConfig} {answers : ι} :
    driver.LastSend Ends r (calls ++ [.sendPacket frame config answers]) ↔
      Ends (run driver.step r calls) (.sendPacket frame config answers) := by
  constructor
  · intro h
    exact h calls frame config answers [] rfl (by simp)
  · intro h before frame' config' answers' after hcalls hafter
    rcases List.eq_nil_or_concat' after with rfl | ⟨after, last, rfl⟩
    · obtain ⟨rfl, hlast⟩ := List.append_inj' hcalls rfl
      rwa [← (List.cons.inj hlast).1]
    · rw [← List.cons_append, ← List.append_assoc] at hcalls
      obtain ⟨-, hlast⟩ := List.append_inj' hcalls rfl
      exact absurd (List.cons.inj hlast).1.symm (hafter last (by simp) frame config answers)

theorem lastSend_append_other
    (hother : ∀ frame config answers, call ≠ .sendPacket frame config answers) :
    driver.LastSend Ends r (calls ++ [call]) ↔ driver.LastSend Ends r calls := by
  constructor
  · intro h before frame config answers after hcalls hafter
    refine h before frame config answers (after ++ [call]) ?_ ?_
    · rw [hcalls, List.append_assoc, List.cons_append]
    · intro other hmem
      rcases List.mem_append.1 hmem with hmem | hmem
      · exact hafter other hmem
      · rw [List.mem_singleton.1 hmem]
        exact hother
  · intro h before frame config answers after hcalls hafter
    rcases List.eq_nil_or_concat' after with rfl | ⟨after, last, rfl⟩
    · obtain ⟨-, hlast⟩ := List.append_inj' hcalls rfl
      exact absurd (List.cons.inj hlast).1 (hother frame config answers)
    · rw [← List.cons_append, ← List.append_assoc] at hcalls
      obtain ⟨hinit, -⟩ := List.append_inj' hcalls rfl
      exact h before frame config answers after hinit
        fun other hmem => hafter other (List.mem_append_left _ hmem)

theorem Latches.invariant_run {Invariant Receiving : ρ → Prop}
    (latches : driver.Latches Ends Invariant Receiving) (h : Invariant r)
    (calls : List (DriverCall ι)) : Invariant (run driver.step r calls) := by
  induction calls generalizing r with
  | nil => exact h
  | cons call calls ih => exact ih (latches.kept call h)

theorem Latches.receiving_run_iff {Invariant Receiving : ρ → Prop}
    (latches : driver.Latches Ends Invariant Receiving) (hinv : Invariant r) (h : Receiving r)
    (calls : List (DriverCall ι)) :
    Receiving (run driver.step r calls) ↔ driver.LastSend Ends r calls := by
  induction calls using List.reverseRecOn with
  | nil => exact iff_of_true h lastSend_nil
  | append_singleton calls call ih =>
    have hkept := latches.invariant_run hinv calls
    rw [run_append, show run driver.step (run driver.step r calls) [call] = driver.step _ call from rfl]
    by_cases hsend : ∃ frame config answers, call = .sendPacket frame config answers
    · obtain ⟨frame, config, answers, rfl⟩ := hsend
      rw [lastSend_append_send, latches.sent frame config answers hkept]
    · push Not at hsend
      rw [lastSend_append_other hsend, latches.other call hsend hkept, ih]

end Latches
end RadioDriver
end HomeIoControl
