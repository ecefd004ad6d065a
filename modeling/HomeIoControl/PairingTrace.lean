import HomeIoControl.EventTrace
import HomeIoControl.ExchangeSoundness
import HomeIoControl.PairingEngine

namespace HomeIoControl
open EventTrace

/-! ## Events of pairing -/

namespace RadioEvent

/-- Every frame handed to the driver satisfies `P`, sent or not. -/
def TxSatisfies (P : IoFrame → Prop) : RadioEvent → Prop
  | tx frame _ _ _ => P frame
  | rx _ => True

def IsSent (P : IoFrame → Prop) : RadioEvent → Prop
  | tx frame _ _ true => P frame
  | _ => False

def IsRefused : RadioEvent → Prop
  | tx _ _ _ false => True
  | _ => False

def IsHeard (P : IoFrame → Prop) : RadioEvent → Prop
  | tx _ _ _ _ => False
  | rx packet => ∃ frame, parse packet.data = some frame ∧ P frame

theorem TxSatisfies.mono {P Q : IoFrame → Prop} {e : RadioEvent} (h : e.TxSatisfies P)
    (hPQ : ∀ frame, P frame → Q frame) : e.TxSatisfies Q := by
  cases e with
  | tx frame freqHz preambleLen sent => exact hPQ frame h
  | rx packet => exact trivial

end RadioEvent

/-- Between the states the trace grew by the events. Telemetry stayed attached or detached. -/
structure Emits (events : List RadioEvent) (s s' : EngineState) : Prop where
  trace_eq : s'.trace = s.trace ++ events
  attached_eq : s'.telemetryAttached = s.telemetryAttached

theorem Emits.trans {events later : List RadioEvent} {s s' s'' : EngineState}
    (h : Emits events s s') (h' : Emits later s' s'') : Emits (events ++ later) s s'' where
  trace_eq := by rw [h'.trace_eq, h.trace_eq, List.append_assoc]
  attached_eq := h'.attached_eq.trans h.attached_eq

theorem Emits.of_course {events : List RadioEvent} {s s' t : EngineState}
    (h : Emits events s s') (ht : t.course = s'.course) : Emits events s t where
  trace_eq := (congrArg RadioCourse.trace ht).trans h.trace_eq
  attached_eq := (congrArg RadioCourse.telemetryAttached ht).trans h.attached_eq

theorem emits_nil (s : EngineState) : Emits [] s s where
  trace_eq := (List.append_nil s.trace).symm
  attached_eq := rfl

@[simp] theorem EngineState.course_setStage (s : EngineState) (stage : PairingState)
    (attempt : ℕ) (sawChallenge : Bool) :
    (s.setStage stage attempt sawChallenge).course = s.course := by
  unfold setStage
  rw [course_recordTelemetry, course_recordDebug]

theorem WaitLoop.run_emits (loop : WaitLoop) (w : Window) (rx : IoFrame) (s : EngineState) :
    Emits ((w.heard loop.accept).map .rx) s (loop.run w rx s).state where
  trace_eq := congrArg RadioCourse.trace (loop.run_course w rx s)
  attached_eq := congrArg RadioCourse.telemetryAttached (loop.run_course w rx s)

theorem txSatisfies_singleton {P : IoFrame → Prop} {frame : IoFrame} {freqHz preambleLen : ℕ}
    {sent : Bool} (h : P frame) :
    ∀ e ∈ [RadioEvent.tx frame freqHz preambleLen sent], e.TxSatisfies P := by
  intro e he
  rw [List.mem_singleton.1 he]
  exact h

theorem txSatisfies_of_heard {P : IoFrame → Prop} (packets : List RadioRxPacket) :
    ∀ e ∈ packets.map RadioEvent.rx, e.TxSatisfies P := by
  intro e he
  obtain ⟨packet, -, rfl⟩ := List.mem_map.1 he
  exact trivial

theorem Window.isHeard_of_firstAccepted {accept : IoFrame → Bool} {w : Window} {f : IoFrame}
    {P : IoFrame → Prop} (h : w.firstAccepted accept = some f) (hP : P f) :
    ∃ e ∈ (w.heard accept).map RadioEvent.rx, e.IsHeard P := by
  obtain ⟨earlier, packet, hheard, hparse⟩ := Window.heard_of_firstAccepted h
  refine ⟨.rx packet, ?_, f, hparse, hP⟩
  rw [hheard]
  simp

namespace ExchangeEngine

variable (engine : ExchangeEngine)

theorem transmitFrame_emits {frame : IoFrame} (h : (serialize frame frameMaxSize).isSome)
    (freqHz preambleLen : ℕ) (s : EngineState) :
    Emits [.tx frame freqHz preambleLen (engine.transmitFrame frame freqHz preambleLen s).1] s
      (engine.transmitFrame frame freqHz preambleLen s).2 := by
  obtain ⟨hsent, hcourse⟩ := engine.transmitFrame_eq h freqHz preambleLen s
  rw [hsent]
  exact ⟨congrArg RadioCourse.trace hcourse, congrArg RadioCourse.telemetryAttached hcourse⟩

/-! ## Exchanges -/

theorem tryEvents_txSatisfies (request : IoFrame) (freqHz preambleLen : ℕ)
    (windows : List Window) (outcome : TryOutcome) :
    ∀ e ∈ engine.tryEvents request freqHz preambleLen windows outcome,
      e.TxSatisfies fun f => f = request ∨ f.cmd = cmdChallengeResp := by
  have hproof : ∀ challenge, (engine.proofOf request challenge).cmd = cmdChallengeResp :=
    fun challenge => (engine.proofOf_isCommand request challenge).cmd_eq
  have hheard : ∀ w, ∀ e ∈ tryEvents.heard request w,
      e.TxSatisfies fun f => f = request ∨ f.cmd = cmdChallengeResp :=
    fun w => txSatisfies_of_heard _
  have hasked : ∀ e ∈ tryEvents.asked request freqHz preambleLen windows,
      e.TxSatisfies fun f => f = request ∨ f.cmd = cmdChallengeResp := by
    intro e he
    rcases List.mem_cons.1 he with rfl | he
    · exact .inl rfl
    · exact hheard _ e he
  intro e he
  cases outcome with
  | refused => exact txSatisfies_singleton (.inl rfl) e he
  | silent | direct => exact hasked e he
  | proofRefused challenge =>
    rcases List.mem_append.1 he with he | he
    · exact hasked e he
    · exact txSatisfies_singleton (.inr (hproof challenge)) e he
  | unanswered challenge | proved challenge =>
    rcases List.mem_append.1 he with he | he
    · exact hasked e he
    · rcases List.mem_cons.1 he with rfl | he
      · exact .inr (hproof challenge)
      · exact hheard _ e he

theorem runEvents_txSatisfies (request : IoFrame) (freqHz preambleLen tries : ℕ)
    (sends : List Bool) (windows : List Window) :
    ∀ e ∈ engine.runEvents request freqHz preambleLen tries sends windows,
      e.TxSatisfies fun f => f = request ∨ f.cmd = cmdChallengeResp := by
  induction tries generalizing sends windows with
  | zero => simp [runEvents]
  | succ tries ih =>
    intro e he
    unfold runEvents at he
    dsimp only at he
    rcases List.mem_append.1 he with he | he
    · exact engine.tryEvents_txSatisfies request freqHz preambleLen windows _ e he
    · split at he
      · exact absurd he List.not_mem_nil
      · exact ih _ _ e he

/-- An exchange transmits its request and proofs, and an answer was heard. -/
theorem sendAndReceive_emits (request response : IoFrame) (freqHz : ℕ) (s : EngineState) :
    ∃ events, Emits events s (engine.sendAndReceive request response freqHz s).2.2 ∧
      (∀ e ∈ events, e.TxSatisfies fun f => f = request ∨ f.cmd = cmdChallengeResp) ∧
      ((engine.sendAndReceive request response freqHz s).1 = true →
        ∃ e ∈ events, e.IsHeard fun f =>
          f = (engine.sendAndReceive request response freqHz s).2.1 ∧ f.src = request.dst ∧
            f.dst = request.src) := by
  obtain ⟨hsuccess, hanswer, htrace, hattached⟩ :=
    engine.sendAndReceive_eq request response freqHz s
  refine ⟨_, ⟨htrace, hattached⟩, ?_, ?_⟩
  · unfold exchangeEvents
    split
    · exact engine.runEvents_txSatisfies _ _ _ _ _ _
    · simp
  · intro h
    rw [hsuccess] at h
    obtain ⟨answer, hfind⟩ := Option.isSome_iff_exists.1 h
    rw [hanswer, hfind, Option.getD_some]
    unfold outcomes at hfind
    unfold exchangeEvents
    split at hfind
    · rename_i hserial
      rw [if_pos hserial]
      obtain ⟨⟨packet, hmem, hparse⟩, hsrc, hdst, -⟩ := engine.runEvents_answer hfind freqHz
        (engine.requestPreamble request)
      exact ⟨.rx packet, hmem, answer, hparse, rfl, hsrc, hdst⟩
    · simp at hfind

end ExchangeEngine

/-! ## Discovery -/

def isDiscoveryAnswer (f : IoFrame) : Bool := classifyPairingDiscoveryResponse f == .accept

theorem isDiscoveryAnswer_iff (f : IoFrame) :
    isDiscoveryAnswer f = true ↔ f.cmd = cmdDiscoverResp ∨ f.cmd = cmdDiscoverAltResp := by
  unfold isDiscoveryAnswer classifyPairingDiscoveryResponse
  split
  · rename_i h
    simpa using h
  · rename_i h
    simpa using h

/-- The first answer to a discovery that was received. -/
def acceptedDiscovery (events : List RadioEvent) : Option IoFrame :=
  events.findSome? fun
    | .rx packet => (parse packet.data).filter isDiscoveryAnswer
    | .tx _ _ _ _ => none

theorem acceptedDiscovery_append (events later : List RadioEvent) :
    acceptedDiscovery (events ++ later) =
      (acceptedDiscovery events).or (acceptedDiscovery later) :=
  List.findSome?_append

theorem acceptedDiscovery_heard (w : Window) :
    acceptedDiscovery ((w.heard isDiscoveryAnswer).map .rx) =
      w.firstAccepted isDiscoveryAnswer := by
  rw [← Window.findSome?_heard, acceptedDiscovery, List.findSome?_map]
  rfl

/-- What the rounds make of the script: the accepted answer, with the sends and windows left. -/
def discoveryAnswer : ℕ → List Bool → List Window → Option (IoFrame × List Bool × List Window)
  | 0, _, _ => none
  | rounds + 1, sends, windows =>
    if !sends.head?.getD false then none
    else
      match (windows.head?.getD []).firstAccepted isDiscoveryAnswer with
      | some answer => some (answer, sends.tail, windows.tail)
      | none => discoveryAnswer rounds sends.tail windows.tail

/-- The requests of a discovery. -/
def IsDiscoveryRequest (f : IoFrame) : Prop := ∃ command : DiscoveryCommand, f.cmd = command.byte

/-- The events of a discovery that ended with the given answer. No other answer was heard. -/
structure DiscoveryEvents (answer : Option IoFrame) (events : List RadioEvent) : Prop where
  requests : ∀ e ∈ events, e.TxSatisfies IsDiscoveryRequest
  accepted : acceptedDiscovery events = answer
  only : ∀ packet f, .rx packet ∈ events → parse packet.data = some f →
    isDiscoveryAnswer f = true → answer = some f

/-- How the discovery phase came out, told from its script and its events. -/
structure Discovered (answer : Option (IoFrame × List Bool × List Window))
    (events : List RadioEvent) (s : EngineState)
    (result : PairingDiscoveryDisposition × PairingContext × EngineState) : Prop where
  emits : Emits events s result.2.2
  discovery : DiscoveryEvents (answer.map Prod.fst) events
  disposition : result.1 = .accept ↔ answer.isSome
  found : ∀ d sends windows, answer = some (d, sends, windows) →
    result.2.1.rx = d ∧ result.2.1.device.nodeId = d.src ∧
      result.2.1.deviceId = nodeIdToString d.src ∧ result.2.2.script.sends = sends

theorem waitForDiscoveryResponse_eq (rx : IoFrame) (s : EngineState) :
    let answer := s.window.firstAccepted isDiscoveryAnswer
    let result := waitForDiscoveryResponse rx s
    (result.1 = .accept ↔ answer.isSome) ∧ (∀ d, answer = some d → result.2.1 = d) ∧
      result.2.2.course = s.course.afterWait isDiscoveryAnswer := by
  have hcourse := discoveryLoop.run_course s.window rx s.dropWindow
  have hcases := discoveryLoop.run_cases s.window rx s.dropWindow
  have haccept : discoveryLoop.accept = isDiscoveryAnswer := rfl
  unfold waitForDiscoveryResponse
  rw [haccept] at hcourse hcases
  generalize discoveryLoop.run s.window rx s.dropWindow = waited at hcourse hcases
  dsimp only
  rcases hcases with ⟨hslice, hnone⟩ | ⟨slice, hslice, hsome⟩
  · rw [hslice, hnone]
    refine ⟨?_, ?_, hcourse⟩
    · dsimp only
      split <;> simp
    · simp
  · rw [hslice, hsome]
    refine ⟨by simp, ?_, ?_⟩
    · intro d hd
      exact Option.some.inj hd
    · rw [EngineState.course_recordTelemetry]
      exact hcourse

namespace ExchangeEngine

variable (engine : ExchangeEngine)

theorem exists_discoveryRequest (command : DiscoveryCommand) (s : EngineState) :
    ∃ req, engine.discoveryRequest command s = some req ∧
      req.cmd = command.byte ∧ (serialize req frameMaxSize).isSome := by
  have hbuild : ∃ req, engine.discoveryRequest command s = some req := by
    unfold discoveryRequest createDiscoveryRequest
    apply exists_buildFrame
    cases command with
    | discover => simp
    | discoverSpe => simp [frameMaxDataSize]
    | discoverAlt => cases engine.tuning.pairingDiscoveryPayloadEnabled <;> simp [frameMaxDataSize]
  obtain ⟨req, hreq⟩ := hbuild
  have hcommand := buildFrame_isCommand hreq
  exact ⟨req, hreq, hcommand.cmd_eq, hcommand.serialize_isSome⟩

theorem transmitDiscovery_eq (command : DiscoveryCommand) (context : PairingContext)
    (s : EngineState) :
    let result := engine.transmitDiscovery command context s
    ∃ req, req.cmd = command.byte ∧ result.1 = s.script.sends.head?.getD false ∧
      result.2.1 = { context with req } ∧
      Emits [.tx req freqCh2 longPreamble result.1] s result.2.2 ∧
      result.2.2.script.sends = s.script.sends.tail ∧
      result.2.2.script.windows = s.script.windows := by
  obtain ⟨req, hreq, hcmd, hserial⟩ := engine.exists_discoveryRequest command s
  unfold transmitDiscovery
  simp only [hreq]
  generalize hs' : (if command = .discoverSpe then s.dropChallenge else s) = s'
  have hsends : s'.script.sends = s.script.sends := by
    rw [← hs']
    split <;> rfl
  have hwindows : s'.script.windows = s.script.windows := by
    rw [← hs']
    split <;> rfl
  have hstart : Emits [] s s' := by
    rw [← hs']
    split
    · exact ⟨(List.append_nil _).symm, rfl⟩
    · exact emits_nil s
  obtain ⟨hsent, hcourse⟩ := engine.transmitFrame_eq hserial freqCh2 longPreamble s'
  have hemits := engine.transmitFrame_emits hserial freqCh2 longPreamble s'
  generalize engine.transmitFrame req freqCh2 longPreamble s' = sending
    at hsent hcourse hemits ⊢
  refine ⟨req, hcmd, ?_, rfl, ?_, ?_, ?_⟩
  · rw [← hsends]
    exact hsent
  · exact hstart.trans hemits
  · rw [← hsends]
    exact congrArg RadioCourse.sends hcourse
  · rw [← hwindows]
    exact congrArg RadioCourse.windows hcourse

/-- What one round puts on the air and hears. -/
theorem round_events {req : IoFrame} (hreq : IsDiscoveryRequest req) (w : Window) (sent : Bool) :
    DiscoveryEvents (w.firstAccepted isDiscoveryAnswer)
      (.tx req freqCh2 longPreamble sent :: (w.heard isDiscoveryAnswer).map .rx) where
  requests := List.forall_mem_cons.2 ⟨hreq, txSatisfies_of_heard _⟩
  accepted := acceptedDiscovery_heard w
  only := by
    intro packet f hmem hparse hanswer
    rcases List.mem_cons.1 hmem with heq | hmem
    · exact absurd heq RadioEvent.noConfusion
    · obtain ⟨packet', hpacket', heq⟩ := List.mem_map.1 hmem
      obtain rfl := RadioEvent.rx.inj heq
      exact Window.firstAccepted_of_mem_heard hpacket' hparse hanswer

end ExchangeEngine

/-- A round without an answer goes before. -/
theorem DiscoveryEvents.append {answer : Option IoFrame} {earlier events : List RadioEvent}
    (h : DiscoveryEvents none earlier) (h' : DiscoveryEvents answer events) :
    DiscoveryEvents answer (earlier ++ events) where
  requests := List.forall_mem_append.2 ⟨h.requests, h'.requests⟩
  accepted := by rw [acceptedDiscovery_append, h.accepted, Option.none_or, h'.accepted]
  only := by
    intro packet f hmem hparse hanswer
    rcases List.mem_append.1 hmem with hmem | hmem
    · exact absurd (h.only packet f hmem hparse hanswer) (by simp)
    · exact h'.only packet f hmem hparse hanswer

theorem DiscoveryEvents.accepted_append {d : IoFrame} {discovery : List RadioEvent}
    (h : DiscoveryEvents (some d) discovery) (later : List RadioEvent) :
    acceptedDiscovery (discovery ++ later) = some d := by
  rw [acceptedDiscovery_append, h.accepted, Option.some_or]

theorem Discovered.after {answer : Option (IoFrame × List Bool × List Window)}
    {earlier events : List RadioEvent} {s s' : EngineState}
    {result : PairingDiscoveryDisposition × PairingContext × EngineState}
    (h : Discovered answer events s' result) (hemits : Emits earlier s s')
    (hearlier : DiscoveryEvents none earlier) : Discovered answer (earlier ++ events) s result where
  emits := hemits.trans h.emits
  discovery := hearlier.append h.discovery
  disposition := h.disposition
  found := h.found

namespace ExchangeEngine

variable (engine : ExchangeEngine)

/-- The request of a round. -/
theorem sendRound_eq (command : DiscoveryCommand) (attempt : ℕ) (context : PairingContext)
    (s : EngineState) :
    let result := engine.transmitDiscovery command context
      ((s.recordTelemetry PairingTelemetry.incrementDiscoveryAttempt).setStage
        .txDiscover attempt false)
    ∃ req, IsDiscoveryRequest req ∧ result.1 = s.script.sends.head?.getD false ∧
      Emits [.tx req freqCh2 longPreamble result.1] s result.2.2 ∧
      result.2.2.script.sends = s.script.sends.tail ∧
      result.2.2.script.windows = s.script.windows := by
  generalize hs₀ : (s.recordTelemetry PairingTelemetry.incrementDiscoveryAttempt).setStage
    .txDiscover attempt false = s₀
  have hcourse : s₀.course = s.course := by
    rw [← hs₀, EngineState.course_setStage, EngineState.course_recordTelemetry]
  have hsends : s₀.script.sends = s.script.sends := congrArg RadioCourse.sends hcourse
  have hwindows : s₀.script.windows = s.script.windows := congrArg RadioCourse.windows hcourse
  obtain ⟨req, hcmd, hsent, -, hemits, hsendsLeft, hwindowsLeft⟩ :=
    engine.transmitDiscovery_eq command context s₀
  rw [hsends] at hsent hsendsLeft
  rw [hwindows] at hwindowsLeft
  have hstart : Emits [] s s₀ := (emits_nil s).of_course hcourse
  exact ⟨req, ⟨command, hcmd⟩, hsent, hstart.trans hemits, hsendsLeft, hwindowsLeft⟩

/-- The wait of a round. -/
theorem waitRound_eq (attempt : ℕ) (rx : IoFrame) (s : EngineState) :
    let window := s.script.windows.head?.getD []
    let result := waitForDiscoveryResponse rx (s.setStage .waitDiscoverResponse attempt false)
    (result.1 = .accept ↔ (window.firstAccepted isDiscoveryAnswer).isSome) ∧
      (∀ d, window.firstAccepted isDiscoveryAnswer = some d → result.2.1 = d) ∧
      Emits ((window.heard isDiscoveryAnswer).map .rx) s result.2.2 ∧
      result.2.2.script.sends = s.script.sends ∧
      result.2.2.script.windows = s.script.windows.tail := by
  generalize hs₁ : s.setStage .waitDiscoverResponse attempt false = s₁
  have hcourse₁ : s₁.course = s.course := by rw [← hs₁, EngineState.course_setStage]
  have hwindow : s₁.window = s.script.windows.head?.getD [] := congrArg RadioCourse.window hcourse₁
  obtain ⟨hdisposition, hfound, hcourse⟩ := waitForDiscoveryResponse_eq rx s₁
  rw [hwindow] at hdisposition hfound
  rw [hcourse₁] at hcourse
  refine ⟨hdisposition, hfound, ⟨?_, ?_⟩, ?_, ?_⟩
  · exact congrArg RadioCourse.trace hcourse
  · exact congrArg RadioCourse.telemetryAttached hcourse
  · exact congrArg RadioCourse.sends hcourse
  · exact congrArg RadioCourse.windows hcourse

/-- The rounds find the first answer of the windows that follow a sent request. -/
theorem runDiscoveryRounds_discovered (rounds : List (DiscoveryCommand × ℕ)) (sawInvalid : Bool)
    (context : PairingContext) (s : EngineState) :
    ∃ events, Discovered (discoveryAnswer rounds.length s.script.sends s.script.windows) events s
      (engine.runDiscoveryRounds rounds sawInvalid context s) := by
  induction rounds generalizing sawInvalid context s with
  | nil =>
    refine ⟨[], emits_nil s, ⟨by simp, rfl, by simp⟩, ?_, by simp [discoveryAnswer]⟩
    unfold runDiscoveryRounds
    cases sawInvalid <;> simp [discoveryAnswer]
  | cons round rounds ih =>
    obtain ⟨command, attempt⟩ := round
    obtain ⟨req, hreq, hsent, hemits, hsends, hwindows⟩ :=
      engine.sendRound_eq command attempt context s
    unfold runDiscoveryRounds
    dsimp only
    generalize engine.transmitDiscovery command context _ = sending
      at hsent hemits hsends hwindows
    obtain ⟨sent, context₁, s₁⟩ := sending
    dsimp only at hsent hemits hsends hwindows ⊢
    rw [List.length_cons, discoveryAnswer, ← hsent]
    -- a request that does not go out ends the rounds and waits for nothing
    cases sent with
    | false => exact ⟨_, hemits, round_events hreq [] false, by simp, by simp⟩
    | true =>
      obtain ⟨hdisposition, hfound, hwait, hsendsLeft, hwindowsLeft⟩ :=
        waitRound_eq attempt context₁.rx s₁
      rw [hwindows] at hdisposition hfound hwait hwindowsLeft
      rw [hsends] at hsendsLeft
      have hround := hemits.trans hwait
      have hevents := round_events hreq (s.script.windows.head?.getD []) true
      dsimp only
      generalize waitForDiscoveryResponse context₁.rx _ = waited
        at hdisposition hfound hround hsendsLeft hwindowsLeft
      obtain ⟨disposition, rx, s₂⟩ := waited
      dsimp only at hdisposition hfound hround hsendsLeft hwindowsLeft ⊢
      simp only [Bool.not_true, Bool.false_eq_true, if_false]
      -- the first answer ends the rounds, without one the induction goes on from here
      cases hfirst : (s.script.windows.head?.getD []).firstAccepted isDiscoveryAnswer with
      | some d =>
        rw [hfirst] at hdisposition hevents
        obtain rfl : disposition = .accept := hdisposition.2 rfl
        obtain rfl := hfound d hfirst
        refine ⟨_, hround, hevents, by simp, ?_⟩
        intro d sends windows hanswer
        simp only [Option.some.injEq, Prod.mk.injEq] at hanswer
        obtain ⟨rfl, rfl, -⟩ := hanswer
        exact ⟨rfl, rfl, rfl, hsendsLeft⟩
      | none =>
        rw [hfirst] at hdisposition hevents
        dsimp only
        rw [← hsendsLeft, ← hwindowsLeft]
        cases disposition with
        | accept => exact absurd (hdisposition.1 rfl) (by simp)
        | noResponse =>
          obtain ⟨events, hrest⟩ := ih sawInvalid { context₁ with rx } s₂
          exact ⟨_, hrest.after hround hevents⟩
        | invalid =>
          obtain ⟨events, hrest⟩ := ih true { context₁ with rx } s₂
          exact ⟨_, hrest.after hround hevents⟩

theorem length_discoveryRounds (commands : List DiscoveryCommand) :
    (discoveryRounds commands).length = pairingDiscoveryMaxAttempts * commands.length := by
  simp [discoveryRounds, Nat.mul_comm]

end ExchangeEngine

end HomeIoControl
