import HomeIoControl.ExchangeEngine

namespace HomeIoControl

/-! ## What a window brings -/

def Slice.frame (slice : Slice) : Option IoFrame := slice.packet.bind fun p => parse p.data

namespace Window

/-- The first frame of the window that a wait would accept. -/
def firstAccepted (accept : IoFrame → Bool) (w : Window) : Option IoFrame :=
  w.findSome? fun slice => slice.frame.filter accept

/-- The packets received up to that frame. -/
def heard (accept : IoFrame → Bool) : Window → List RadioRxPacket
  | [] => []
  | slice :: rest => slice.packet.toList ++ if slice.frame.any accept then [] else heard accept rest

end Window

/-! ## The radio's side of the engine -/

/-- What the radio will do and what has gone over the air. Diagnostics and signal strengths do not
change it. -/
structure RadioCourse where
  sends : List Bool
  windows : List Window
  challenges : List Challenge
  trace : List RadioEvent
  telemetryAttached : Bool

def EngineState.course (s : EngineState) : RadioCourse where
  sends := s.script.sends
  windows := s.script.windows
  challenges := s.script.challenges
  trace := s.trace
  telemetryAttached := s.telemetryAttached

namespace RadioCourse

def window (c : RadioCourse) : Window := c.windows.head?.getD []

def afterSend (c : RadioCourse) (frame : IoFrame) (freqHz preambleLen : ℕ) : RadioCourse :=
  { c with
    sends := c.sends.tail
    trace := c.trace ++ [.tx frame freqHz preambleLen (c.sends.head?.getD false)] }

def afterWait (c : RadioCourse) (accept : IoFrame → Bool) : RadioCourse :=
  { c with
    windows := c.windows.tail
    trace := c.trace ++ (c.window.heard accept).map .rx }

end RadioCourse

namespace EngineState

@[simp] theorem course_mapStatus (s : EngineState) (f : EngineStatus → EngineStatus) :
    (s.mapStatus f).course = s.course := rfl

@[simp] theorem course_recordDebug (s : EngineState) (stage : DebugStage) (tries : ℕ)
    (sawChallenge : Bool) : (s.recordDebug stage tries sawChallenge).course = s.course := rfl

@[simp] theorem course_recordTelemetry (s : EngineState)
    (f : PairingTelemetry → PairingTelemetry) : (s.recordTelemetry f).course = s.course := rfl

@[simp] theorem course_recordIfAttached (s : EngineState)
    (f : PairingTelemetry → PairingTelemetry) : (s.recordIfAttached f).course = s.course := by
  unfold recordIfAttached
  split
  · exact course_recordTelemetry s f
  · rfl

end EngineState

/-! ## Waits and transmissions -/

theorem WaitLoop.run_course (loop : WaitLoop) (w : Window) (rx : IoFrame) (s : EngineState) :
    (loop.run w rx s).state.course =
      { s.course with trace := s.trace ++ (w.heard loop.accept).map .rx } := by
  induction w generalizing rx s with
  | nil => simp [WaitLoop.run, Window.heard, EngineState.course]
  | cons slice rest ih =>
    unfold WaitLoop.run
    cases hpacket : slice.packet with
    | none =>
      rw [ih]
      simp [Window.heard, Slice.frame, hpacket, EngineState.mapStatus, EngineState.course]
    | some packet =>
      cases hparse : parse packet.data with
      | none =>
        obtain ⟨left, hinto⟩ := parseInto_of_parse_eq_none hparse rx
        simp only [hinto, ih]
        simp [Window.heard, Slice.frame, hpacket, hparse, EngineState.receive,
          EngineState.mapStatus, EngineState.course]
      | some frame =>
        simp only [parseInto_of_parse hparse rx]
        split
        · rename_i haccept
          simp [Window.heard, Slice.frame, hpacket, hparse, haccept, EngineState.receive,
            EngineState.course]
        · rename_i haccept
          rw [ih]
          simp [Window.heard, Slice.frame, hpacket, hparse, haccept, EngineState.receive,
            EngineState.mapStatus, EngineState.course]

/-- A wait ends with the first acceptable frame in the caller's buffer. -/
theorem WaitLoop.run_frame (loop : WaitLoop) (w : Window) (rx : IoFrame) (s : EngineState) :
    ((loop.run w rx s).slice.map fun _ => (loop.run w rx s).rx) = w.firstAccepted loop.accept := by
  induction w generalizing rx s with
  | nil => rfl
  | cons slice rest ih =>
    unfold WaitLoop.run
    cases hpacket : slice.packet with
    | none => simpa [Window.firstAccepted, Slice.frame, hpacket] using ih _ _
    | some packet =>
      cases hparse : parse packet.data with
      | none =>
        obtain ⟨left, hinto⟩ := parseInto_of_parse_eq_none hparse rx
        simpa [hinto, Window.firstAccepted, Slice.frame, hpacket, hparse] using ih _ _
      | some frame =>
        simp only [parseInto_of_parse hparse rx]
        split
        · rename_i haccept
          simp [Window.firstAccepted, Slice.frame, hpacket, hparse, haccept, Option.filter_some]
        · rename_i haccept
          simpa [Window.firstAccepted, Slice.frame, hpacket, hparse, haccept] using ih _ _

theorem WaitLoop.run_cases (loop : WaitLoop) (w : Window) (rx : IoFrame) (s : EngineState) :
    ((loop.run w rx s).slice = none ∧ w.firstAccepted loop.accept = none) ∨
      ∃ slice, (loop.run w rx s).slice = some slice ∧
        w.firstAccepted loop.accept = some (loop.run w rx s).rx := by
  have h := loop.run_frame w rx s
  cases hslice : (loop.run w rx s).slice with
  | none =>
    rw [hslice] at h
    exact .inl ⟨rfl, h.symm⟩
  | some slice =>
    rw [hslice] at h
    exact .inr ⟨slice, rfl, h.symm⟩

/-- The accepted frame was the last packet heard. -/
theorem Window.heard_of_firstAccepted {accept : IoFrame → Bool} {w : Window} {f : IoFrame}
    (h : w.firstAccepted accept = some f) :
    ∃ earlier p, w.heard accept = earlier ++ [p] ∧ parse p.data = some f := by
  induction w with
  | nil => simp [Window.firstAccepted] at h
  | cons slice rest ih =>
    cases hslice : slice.frame.filter accept with
    | none =>
      have hrest : Window.firstAccepted accept rest = some f := by
        simpa [Window.firstAccepted, hslice] using h
      obtain ⟨earlier, p, hheard, hp⟩ := ih hrest
      have hany : slice.frame.any accept = false := by
        cases hframe : slice.frame <;> simp_all [Option.filter]
      refine ⟨slice.packet.toList ++ earlier, p, ?_, hp⟩
      simp [Window.heard, hany, hheard]
    | some g =>
      obtain rfl : g = f := by simpa [Window.firstAccepted, hslice] using h
      obtain ⟨hframe, haccept⟩ := Option.filter_eq_some_iff.1 hslice
      obtain ⟨p, hpacket, hparse⟩ := Option.bind_eq_some_iff.1 hframe
      refine ⟨[], p, ?_, hparse⟩
      simp [Window.heard, hframe, haccept, hpacket]

/-- Among the packets heard only the accepted frame is acceptable. -/
theorem Window.findSome?_heard (accept : IoFrame → Bool) (w : Window) :
    (w.heard accept).findSome? (fun p => (parse p.data).filter accept) =
      w.firstAccepted accept := by
  induction w with
  | nil => rfl
  | cons slice rest ih =>
    cases hpacket : slice.packet with
    | none => simpa [Window.heard, Window.firstAccepted, Slice.frame, hpacket] using ih
    | some packet =>
      cases hfilter : (parse packet.data).filter accept with
      | some f =>
        simp [Window.heard, Window.firstAccepted, Slice.frame, hpacket, hfilter]
      | none =>
        have hany : (parse packet.data).any accept = false := by
          cases hparse : parse packet.data <;> simp_all [Option.filter]
        simpa [Window.heard, Window.firstAccepted, Slice.frame, hpacket, hfilter, hany] using ih

theorem Window.firstAccepted_of_mem_heard {accept : IoFrame → Bool} {w : Window}
    {p : RadioRxPacket} {f : IoFrame} (hp : p ∈ w.heard accept) (hparse : parse p.data = some f)
    (haccept : accept f = true) : w.firstAccepted accept = some f := by
  induction w with
  | nil => simp [Window.heard] at hp
  | cons slice rest ih =>
    unfold Window.heard at hp
    unfold Window.firstAccepted
    rw [List.findSome?_cons]
    rcases List.mem_append.1 hp with hp | hp
    · have hframe : slice.frame = some f := by
        rw [Slice.frame, Option.mem_toList.1 hp]
        exact hparse
      rw [hframe, Option.filter_some, if_pos haccept]
    · split at hp
      · exact absurd hp List.not_mem_nil
      · rename_i hnot
        have hfilter : slice.frame.filter accept = none := by
          cases hframe : slice.frame <;> simp_all [Option.filter]
        rw [hfilter]
        exact ih hp

theorem Window.accept_of_firstAccepted {accept : IoFrame → Bool} {w : Window} {f : IoFrame}
    (h : w.firstAccepted accept = some f) : accept f = true := by
  obtain ⟨slice, -, hslice⟩ := List.exists_of_findSome?_eq_some h
  exact (Option.filter_eq_some_iff.1 hslice).2

namespace ExchangeEngine

variable (engine : ExchangeEngine)

@[simp] theorem course_listenBeforeTalk (retries : ℕ) (s : EngineState) :
    (engine.listenBeforeTalk retries s).course = s.course := by
  induction retries generalizing s with
  | zero => rfl
  | succ retries ih =>
    unfold listenBeforeTalk
    dsimp only
    split
    · rfl
    · rw [ih, EngineState.course_recordIfAttached]
      rfl

/-- A frame that serializes reaches the radio, whose word is the result. -/
theorem transmitFrame_eq {frame : IoFrame} (h : (serialize frame frameMaxSize).isSome)
    (freqHz preambleLen : ℕ) (s : EngineState) :
    (engine.transmitFrame frame freqHz preambleLen s).1 = s.course.sends.head?.getD false ∧
      (engine.transmitFrame frame freqHz preambleLen s).2.course =
        s.course.afterSend frame freqHz preambleLen := by
  obtain ⟨bytes, hbytes⟩ := Option.isSome_iff_exists.1 h
  have hlbt := engine.course_listenBeforeTalk engine.tuning.lbtMaxRetries.toNat s
  generalize hs' : engine.listenBeforeTalk engine.tuning.lbtMaxRetries.toNat s = s' at hlbt
  have hsends : s'.script.sends = s.script.sends := congrArg RadioCourse.sends hlbt
  unfold transmitFrame EngineState.sendPacket
  simp only [hbytes, hs', ← hlbt]
  have hafter : ∀ sent, s'.script.sends.head?.getD false = sent →
      s'.course.afterSend frame freqHz preambleLen =
        { s'.course with
          sends := s'.script.sends.tail
          trace := s'.trace ++ [.tx frame freqHz preambleLen sent] } := by
    rintro sent rfl
    rfl
  cases hsent : s'.script.sends.head?.getD false with
  | false =>
    rw [hafter false hsent]
    exact ⟨hsent.symm, rfl⟩
  | true =>
    rw [hafter true hsent, EngineState.course_recordIfAttached]
    exact ⟨hsent.symm, rfl⟩

theorem transmitFrame_of_not_serializable {frame : IoFrame}
    (h : serialize frame frameMaxSize = none) (freqHz preambleLen : ℕ) (s : EngineState) :
    engine.transmitFrame frame freqHz preambleLen s = (false, s) := by
  unfold transmitFrame
  rw [h]

end ExchangeEngine

/-! ## How a try ends -/

/-- The first frame between the request's endpoints. -/
def firstAnswer (request : IoFrame) (w : Window) : Option IoFrame :=
  w.firstAccepted (frameMatchesExchangeEndpoints request)

/-- The ways in which a try of an exchange can end. -/
inductive TryOutcome
  | refused
  | silent
  | direct (answer : IoFrame)
  | proofRefused (challenge : IoFrame)
  | unanswered (challenge : IoFrame)
  | proved (challenge answer : IoFrame)

namespace TryOutcome

def answer? : TryOutcome → Option IoFrame
  | direct answer | proved _ answer => some answer
  | _ => none

def sendsUsed : TryOutcome → ℕ
  | refused | silent | direct _ => 1
  | proofRefused _ | unanswered _ | proved _ _ => 2

def windowsUsed : TryOutcome → ℕ
  | refused => 0
  | silent | direct _ | proofRefused _ => 1
  | unanswered _ | proved _ _ => 2

/-- The outcome that the radio's script leads to. -/
def of (request : IoFrame) (sends : List Bool) (windows : List Window) : TryOutcome :=
  if !sends.head?.getD false then refused
  else
    match firstAnswer request (windows.head?.getD []) with
    | none => silent
    | some first =>
      if first.cmd != cmdChallengeReq then direct first
      else if !sends.tail.head?.getD false then proofRefused first
      else
        match firstAnswer request (windows.tail.head?.getD []) with
        | none => unanswered first
        | some answer => proved first answer

end TryOutcome

/-- The outcomes of the tries that are reached, one after another until there is an answer. -/
def reachedOutcomes (request : IoFrame) : ℕ → List Bool → List Window → List TryOutcome
  | 0, _, _ => []
  | tries + 1, sends, windows =>
    let outcome := TryOutcome.of request sends windows
    outcome :: if outcome.answer?.isSome then []
      else reachedOutcomes request tries (sends.drop outcome.sendsUsed)
        (windows.drop outcome.windowsUsed)

namespace ExchangeEngine

variable (engine : ExchangeEngine)

/-- The frame that answers a challenge. -/
def proofOf (request challenge : IoFrame) : IoFrame :=
  (createChallengeResp request.dst engine.nodeId (hmacField challenge) request
    engine.systemKey).getD .zero

theorem createChallengeResp_eq (request challenge : IoFrame) :
    createChallengeResp request.dst engine.nodeId (hmacField challenge) request engine.systemKey =
      some (engine.proofOf request challenge) := by
  obtain ⟨f, hf⟩ := exists_createChallengeResp request.dst engine.nodeId (hmacField challenge)
    request engine.systemKey
  rw [proofOf, hf, Option.getD_some]

theorem proofOf_isCommand (request challenge : IoFrame) :
    IsCommand (engine.proofOf request challenge) engine.nodeId request.dst cmdChallengeResp
      (createHmac (transcript request) (hmacField challenge) engine.systemKey).toList :=
  buildFrame_isCommand (engine.createChallengeResp_eq request challenge)

/-- What a try puts on the air and hears. -/
def tryEvents (request : IoFrame) (freqHz preambleLen : ℕ) (windows : List Window) :
    TryOutcome → List RadioEvent
  | .refused => [.tx request freqHz preambleLen false]
  | .silent | .direct _ => asked
  | .proofRefused challenge => asked ++ [proof challenge false]
  | .unanswered challenge | .proved challenge _ =>
    asked ++ proof challenge true :: heard (windows.tail.head?.getD [])
where
  heard (w : Window) : List RadioEvent :=
    (w.heard (frameMatchesExchangeEndpoints request)).map .rx
  asked : List RadioEvent := .tx request freqHz preambleLen true :: heard (windows.head?.getD [])
  proof (challenge : IoFrame) (sent : Bool) : RadioEvent :=
    .tx (engine.proofOf request challenge) freqHz engine.responsePreamble sent

/-- The course after a try. -/
def afterTry (request : IoFrame) (freqHz preambleLen : ℕ) (c : RadioCourse)
    (outcome : TryOutcome) : RadioCourse :=
  { c with
    sends := c.sends.drop outcome.sendsUsed
    windows := c.windows.drop outcome.windowsUsed
    trace := c.trace ++ engine.tryEvents request freqHz preambleLen c.windows outcome }

theorem firstResponseLoop_accept (request : IoFrame) (tryIndex : ℕ) :
    (firstResponseLoop request tryIndex).accept = frameMatchesExchangeEndpoints request := by
  funext candidate
  simp only [firstResponseLoop, classifyExchangeFirstResponse]
  cases frameMatchesExchangeEndpoints request candidate <;>
    cases candidate.cmd == cmdChallengeReq <;> rfl

theorem finalResponseLoop_accept (request : IoFrame) (tryIndex : ℕ) :
    (finalResponseLoop request tryIndex).accept = frameMatchesExchangeEndpoints request := by
  funext candidate
  simp only [finalResponseLoop, classifyExchangeFinalResponse]
  cases frameMatchesExchangeEndpoints request candidate <;> rfl

theorem transmitRequest_eq {request : IoFrame} (h : (serialize request frameMaxSize).isSome)
    (freqHz preambleLen tryIndex : ℕ) (s : EngineState) :
    (engine.transmitRequest request freqHz preambleLen tryIndex s).1 =
        s.course.sends.head?.getD false ∧
      (engine.transmitRequest request freqHz preambleLen tryIndex s).2.course =
        s.course.afterSend request freqHz preambleLen := by
  obtain ⟨hsent, hcourse⟩ := engine.transmitFrame_eq h freqHz preambleLen s
  unfold transmitRequest
  generalize engine.transmitFrame request freqHz preambleLen s = sending at hsent hcourse
  rcases sending with ⟨_ | _, s'⟩
  · exact ⟨hsent, hcourse⟩
  · exact ⟨hsent, hcourse⟩

theorem waitForFirstResponse_course (request : IoFrame) (tryIndex : ℕ) (rx : IoFrame)
    (s : EngineState) :
    (waitForFirstResponse request tryIndex rx s).2.2.course =
      s.course.afterWait (frameMatchesExchangeEndpoints request) := by
  have hcourse := (firstResponseLoop request tryIndex).run_course s.window rx s.dropWindow
  rw [firstResponseLoop_accept] at hcourse
  unfold waitForFirstResponse
  dsimp only
  split
  · rw [EngineState.course_recordDebug, hcourse]
    rfl
  · rw [hcourse]
    rfl

/-- The wait ends with the first answer of the window, classified by its command. -/
theorem waitForFirstResponse_cases (request : IoFrame) (tryIndex : ℕ) (rx : IoFrame)
    (s : EngineState) :
    (firstAnswer request s.course.window = none ∧
        (waitForFirstResponse request tryIndex rx s).1 = .ignoreUnrelated) ∨
      ∃ f, firstAnswer request s.course.window = some f ∧
        (waitForFirstResponse request tryIndex rx s).2.1 = f ∧
        (waitForFirstResponse request tryIndex rx s).1 =
          if f.cmd == cmdChallengeReq then .requireAuth else .completeDirect := by
  have hwindow : s.course.window = s.window := rfl
  have hrun := (firstResponseLoop request tryIndex).run_cases s.window rx s.dropWindow
  rw [firstResponseLoop_accept] at hrun
  unfold waitForFirstResponse
  rw [hwindow]
  dsimp only
  generalize (firstResponseLoop request tryIndex).run s.window rx s.dropWindow = waited at hrun
  rcases hrun with ⟨hslice, hnone⟩ | ⟨slice, hslice, hsome⟩
  · rw [hslice]
    exact .inl ⟨hnone, rfl⟩
  · rw [hslice]
    refine .inr ⟨waited.rx, hsome, rfl, ?_⟩
    have hmatch := Window.accept_of_firstAccepted hsome
    simp [classifyExchangeFirstResponse, hmatch]

theorem waitForFinalResponse_course (request : IoFrame) (tryIndex : ℕ) (rx : IoFrame)
    (s : EngineState) :
    (waitForFinalResponse request tryIndex rx s).2.2.course =
      s.course.afterWait (frameMatchesExchangeEndpoints request) := by
  have hcourse := (finalResponseLoop request tryIndex).run_course s.window rx s.dropWindow
  rw [finalResponseLoop_accept] at hcourse
  unfold waitForFinalResponse
  dsimp only
  split
  · rw [EngineState.course_recordDebug, hcourse]
    rfl
  · rw [hcourse]
    rfl

theorem waitForFinalResponse_cases (request : IoFrame) (tryIndex : ℕ) (rx : IoFrame)
    (s : EngineState) :
    (firstAnswer request s.course.window = none ∧
        (waitForFinalResponse request tryIndex rx s).1 = .ignoreUnrelated) ∨
      ∃ f, firstAnswer request s.course.window = some f ∧
        (waitForFinalResponse request tryIndex rx s).2.1 = f ∧
        (waitForFinalResponse request tryIndex rx s).1 = .accept := by
  have hwindow : s.course.window = s.window := rfl
  have hrun := (finalResponseLoop request tryIndex).run_cases s.window rx s.dropWindow
  rw [finalResponseLoop_accept] at hrun
  unfold waitForFinalResponse
  rw [hwindow]
  dsimp only
  generalize (finalResponseLoop request tryIndex).run s.window rx s.dropWindow = waited at hrun
  rcases hrun with ⟨hslice, hnone⟩ | ⟨slice, hslice, hsome⟩
  · rw [hslice]
    exact .inl ⟨hnone, rfl⟩
  · rw [hslice]
    exact .inr ⟨waited.rx, hsome, rfl, rfl⟩

theorem handleAuthentication_eq (request : IoFrame) (freqHz tryIndex : ℕ) (challenge : IoFrame)
    (s : EngineState) :
    (engine.handleAuthentication request freqHz tryIndex challenge s).1 =
        s.course.sends.head?.getD false ∧
      (engine.handleAuthentication request freqHz tryIndex challenge s).2.course =
        s.course.afterSend (engine.proofOf request challenge) freqHz engine.responsePreamble := by
  have hproof := engine.proofOf_isCommand request challenge
  unfold handleAuthentication
  simp only [engine.createChallengeResp_eq request challenge]
  generalize hs' : (s.recordDebug (.outbound .buildAuthResponse) tryIndex true).recordDebug
    (.outbound .txAuthResponse) tryIndex true = s'
  have hcourse' : s'.course = s.course := by
    rw [← hs', EngineState.course_recordDebug, EngineState.course_recordDebug]
  obtain ⟨hsent, hcourse⟩ := engine.transmitFrame_eq hproof.serialize_isSome freqHz
    engine.responsePreamble s'
  rw [hcourse'] at hsent hcourse
  generalize engine.transmitFrame (engine.proofOf request challenge) freqHz
    engine.responsePreamble s' = sending at hsent hcourse
  rcases sending with ⟨_ | _, s''⟩
  · exact ⟨hsent, hcourse⟩
  · exact ⟨hsent, hcourse⟩

theorem tail_tail_eq_drop {α : Type*} (l : List α) : l.tail.tail = l.drop 2 := by
  rw [← List.drop_one, ← List.drop_one, List.drop_drop]

theorem answerChallenge_refused {request : IoFrame} {s : EngineState}
    (h : s.course.sends.head?.getD false = false) (freqHz tryIndex : ℕ) (challenge : IoFrame) :
    (engine.answerChallenge request freqHz tryIndex challenge s).1 = none ∧
      (engine.answerChallenge request freqHz tryIndex challenge s).2.course =
        s.course.afterSend (engine.proofOf request challenge) freqHz engine.responsePreamble := by
  obtain ⟨hsent, hcourse⟩ := engine.handleAuthentication_eq request freqHz tryIndex challenge s
  unfold answerChallenge
  generalize engine.handleAuthentication request freqHz tryIndex challenge s = sending
    at hsent hcourse
  rcases sending with ⟨_ | _, s'⟩
  · exact ⟨rfl, hcourse⟩
  · rw [h] at hsent
    exact absurd hsent Bool.noConfusion

theorem answerChallenge_sent {request : IoFrame} {s : EngineState}
    (h : s.course.sends.head?.getD false = true) (freqHz tryIndex : ℕ) (challenge : IoFrame) :
    (engine.answerChallenge request freqHz tryIndex challenge s).1 =
        firstAnswer request s.course.window ∧
      (engine.answerChallenge request freqHz tryIndex challenge s).2.course =
        (s.course.afterSend (engine.proofOf request challenge) freqHz
          engine.responsePreamble).afterWait (frameMatchesExchangeEndpoints request) := by
  obtain ⟨hsent, hcourse⟩ := engine.handleAuthentication_eq request freqHz tryIndex challenge s
  unfold answerChallenge
  generalize engine.handleAuthentication request freqHz tryIndex challenge s = sending
    at hsent hcourse
  rcases sending with ⟨_ | _, s'⟩
  · rw [h] at hsent
    exact absurd hsent Bool.noConfusion
  dsimp only at hcourse ⊢
  generalize hs₁ : s'.recordDebug (.outbound .waitFinalResponse) tryIndex true = s₁
  have hcourse₁ : s₁.course = s'.course := by rw [← hs₁, EngineState.course_recordDebug]
  have hwait := waitForFinalResponse_course request tryIndex challenge s₁
  have hfinal := waitForFinalResponse_cases request tryIndex challenge s₁
  have hwindow : s₁.course.window = s.course.window := by
    rw [hcourse₁, hcourse]
    rfl
  rw [hcourse₁, hcourse] at hwait
  rw [hwindow] at hfinal
  generalize waitForFinalResponse request tryIndex challenge s₁ = waited at hwait hfinal
  obtain ⟨disposition, answer, s₂⟩ := waited
  rcases hfinal with ⟨hnone, hdisposition⟩ | ⟨f, hsome, hanswer, hdisposition⟩
  · obtain rfl : disposition = .ignoreUnrelated := hdisposition
    exact ⟨hnone.symm, hwait⟩
  · obtain rfl : disposition = .accept := hdisposition
    obtain rfl : answer = f := hanswer
    exact ⟨hsome.symm, hwait⟩

/-- The course of a try whose request was sent, up to the end of the first wait. -/
def afterAsking (c : RadioCourse) (request : IoFrame) (freqHz preambleLen : ℕ) :
    RadioCourse :=
  { c with
    sends := c.sends.tail
    windows := c.windows.tail
    trace := c.trace ++ tryEvents.asked request freqHz preambleLen c.windows }

theorem afterAsking_eq {c : RadioCourse} (h : c.sends.head?.getD false = true) (request : IoFrame)
    (freqHz preambleLen : ℕ) :
    (c.afterSend request freqHz preambleLen).afterWait (frameMatchesExchangeEndpoints request) =
      afterAsking c request freqHz preambleLen := by
  simp [RadioCourse.afterWait, RadioCourse.afterSend, RadioCourse.window, afterAsking,
    tryEvents.asked, tryEvents.heard, h]

/-- The rest of a try that met a challenge. -/
theorem answerChallenge_eq {request first : IoFrame} {c : RadioCourse} {s : EngineState}
    {freqHz preambleLen : ℕ} (hsent : c.sends.head?.getD false = true)
    (hfirst : firstAnswer request (c.windows.head?.getD []) = some first)
    (hcmd : (first.cmd == cmdChallengeReq) = true)
    (hcourse : s.course = afterAsking c request freqHz preambleLen) (tryIndex : ℕ) :
    (engine.answerChallenge request freqHz tryIndex first s).1 =
        (TryOutcome.of request c.sends c.windows).answer? ∧
      (engine.answerChallenge request freqHz tryIndex first s).2.course =
        engine.afterTry request freqHz preambleLen c
          (TryOutcome.of request c.sends c.windows) := by
  have hsends : s.course.sends = c.sends.tail := by
    rw [hcourse]
    rfl
  have hwindow : s.course.window = c.windows.tail.head?.getD [] := by
    rw [hcourse]
    rfl
  -- the second send of the try is the proof
  cases hproof : c.sends.tail.head?.getD false with
  | false =>
    have hof : TryOutcome.of request c.sends c.windows = .proofRefused first := by
      simp only [TryOutcome.of, hsent, Bool.not_true, Bool.false_eq_true, if_false, hfirst, bne,
        hcmd, hproof, Bool.not_false, if_true]
    rw [← hsends] at hproof
    obtain ⟨hanswer, hafter⟩ := engine.answerChallenge_refused hproof freqHz tryIndex first
    rw [hof, hanswer, hafter]
    simp only [RadioCourse.afterSend, hproof]
    simp [hcourse, afterAsking, afterTry, tryEvents, tryEvents.proof,
      TryOutcome.sendsUsed, TryOutcome.windowsUsed, TryOutcome.answer?, tail_tail_eq_drop]
  | true =>
    have hof : TryOutcome.of request c.sends c.windows =
        match firstAnswer request (c.windows.tail.head?.getD []) with
        | none => .unanswered first
        | some answer => .proved first answer := by
      simp only [TryOutcome.of, hsent, Bool.not_true, Bool.false_eq_true, if_false, hfirst, bne,
        hcmd, hproof]
    rw [← hsends] at hproof
    obtain ⟨hanswer, hafter⟩ := engine.answerChallenge_sent hproof freqHz tryIndex first
    rw [hof, hanswer, hafter, hwindow]
    simp only [RadioCourse.afterSend, hproof]
    cases firstAnswer request (c.windows.tail.head?.getD []) <;>
      simp [hcourse, afterAsking, afterTry, tryEvents, tryEvents.proof,
        tryEvents.heard, TryOutcome.sendsUsed, TryOutcome.windowsUsed, TryOutcome.answer?,
        RadioCourse.afterWait, RadioCourse.window, tail_tail_eq_drop]

/-- A try does what its outcome says. -/
theorem exchangeTry_eq {request : IoFrame} (h : (serialize request frameMaxSize).isSome)
    (freqHz preambleLen tryIndex : ℕ) (s : EngineState) :
    (engine.exchangeTry request freqHz preambleLen tryIndex s).1 =
        (TryOutcome.of request s.course.sends s.course.windows).answer? ∧
      (engine.exchangeTry request freqHz preambleLen tryIndex s).2.course =
        engine.afterTry request freqHz preambleLen s.course
          (TryOutcome.of request s.course.sends s.course.windows) := by
  obtain ⟨hsent, hcourse⟩ := engine.transmitRequest_eq h freqHz preambleLen tryIndex s
  unfold exchangeTry
  generalize engine.transmitRequest request freqHz preambleLen tryIndex s = sending
    at hsent hcourse
  generalize s.course = c at hsent hcourse
  obtain ⟨sent, s₁⟩ := sending
  cases sent with
  | false =>
    have hof : TryOutcome.of request c.sends c.windows = .refused := by
      simp only [TryOutcome.of, ← hsent, Bool.not_false, if_true]
    dsimp only at hsent hcourse ⊢
    rw [hof, hcourse]
    refine ⟨rfl, ?_⟩
    simp only [RadioCourse.afterSend, ← hsent]
    simp [afterTry, tryEvents, TryOutcome.sendsUsed, TryOutcome.windowsUsed]
  | true =>
    dsimp only at hsent hcourse ⊢
    generalize hs₂ : s₁.recordDebug (.outbound .waitFirstResponse) tryIndex false = s₂
    have hcourse₂ : s₂.course = c.afterSend request freqHz preambleLen := by
      rw [← hs₂, EngineState.course_recordDebug, hcourse]
    have hwait := waitForFirstResponse_course request tryIndex IoFrame.zero s₂
    have hfirst := waitForFirstResponse_cases request tryIndex IoFrame.zero s₂
    have hwindow : s₂.course.window = c.windows.head?.getD [] := by
      rw [hcourse₂]
      rfl
    rw [hcourse₂, afterAsking_eq hsent.symm] at hwait
    rw [hwindow] at hfirst
    generalize waitForFirstResponse request tryIndex IoFrame.zero s₂ = waited at hwait hfirst
    obtain ⟨disposition, rx, s₃⟩ := waited
    dsimp only at hwait hfirst ⊢
    -- a try ends in silence, with an answer, or goes on to the proof
    rcases hfirst with ⟨hnone, rfl⟩ | ⟨first, hsome, rfl, rfl⟩
    · have hof : TryOutcome.of request c.sends c.windows = .silent := by
        simp only [TryOutcome.of, ← hsent, Bool.not_true, Bool.false_eq_true, if_false, hnone]
      rw [hof, hwait]
      simp [afterAsking, afterTry, tryEvents, TryOutcome.sendsUsed,
        TryOutcome.windowsUsed, TryOutcome.answer?]
    cases hcmd : rx.cmd == cmdChallengeReq with
    | false =>
      have hof : TryOutcome.of request c.sends c.windows = .direct rx := by
        simp only [TryOutcome.of, ← hsent, Bool.not_true, Bool.false_eq_true, if_false, hsome,
          bne, hcmd, Bool.not_false, if_true]
      rw [hof]
      simp [hwait, afterAsking, afterTry, tryEvents, TryOutcome.sendsUsed,
        TryOutcome.windowsUsed, TryOutcome.answer?]
    | true => exact engine.answerChallenge_eq hsent.symm hsome hcmd hwait tryIndex

/-! ## Runs of tries -/

/-- What the tries put on the air and hear, one after another until there is an answer. -/
def runEvents (request : IoFrame) (freqHz preambleLen : ℕ) :
    ℕ → List Bool → List Window → List RadioEvent
  | 0, _, _ => []
  | tries + 1, sends, windows =>
    let outcome := TryOutcome.of request sends windows
    engine.tryEvents request freqHz preambleLen windows outcome ++
      if outcome.answer?.isSome then []
      else runEvents request freqHz preambleLen tries (sends.drop outcome.sendsUsed)
        (windows.drop outcome.windowsUsed)

theorem exchangeTries_eq {request : IoFrame} (h : (serialize request frameMaxSize).isSome)
    (freqHz preambleLen tries tryIndex : ℕ) (s : EngineState) :
    (engine.exchangeTries request freqHz preambleLen tries tryIndex s).1 =
        (reachedOutcomes request tries s.course.sends s.course.windows).findSome?
          TryOutcome.answer? ∧
      (engine.exchangeTries request freqHz preambleLen tries tryIndex s).2.trace =
        s.trace ++ engine.runEvents request freqHz preambleLen tries s.course.sends
          s.course.windows ∧
      (engine.exchangeTries request freqHz preambleLen tries tryIndex s).2.telemetryAttached =
        s.telemetryAttached := by
  induction tries generalizing tryIndex s with
  | zero => exact ⟨rfl, (List.append_nil _).symm, rfl⟩
  | succ tries ih =>
    obtain ⟨hanswer, hcourse⟩ := engine.exchangeTry_eq h freqHz preambleLen tryIndex s
    unfold exchangeTries reachedOutcomes runEvents
    generalize engine.exchangeTry request freqHz preambleLen tryIndex s = tried
      at hanswer hcourse
    generalize hof : TryOutcome.of request s.course.sends s.course.windows = outcome
      at hanswer hcourse
    obtain ⟨answer, s'⟩ := tried
    obtain rfl : answer = outcome.answer? := hanswer
    have htrace : s'.trace = s.trace ++
        engine.tryEvents request freqHz preambleLen s.course.windows outcome :=
      congrArg RadioCourse.trace hcourse
    have hattached : s'.telemetryAttached = s.telemetryAttached :=
      congrArg RadioCourse.telemetryAttached hcourse
    have hsends : s'.course.sends = s.course.sends.drop outcome.sendsUsed :=
      congrArg RadioCourse.sends hcourse
    have hwindows : s'.course.windows = s.course.windows.drop outcome.windowsUsed :=
      congrArg RadioCourse.windows hcourse
    cases hsome : outcome.answer? with
    | some answer =>
      refine ⟨?_, ?_, hattached⟩
      · simp [hsome]
      · simp [hsome, htrace]
    | none =>
      obtain ⟨ih₁, ih₂, ih₃⟩ := ih (tryIndex + 1) s'
      rw [hsends, hwindows] at ih₁ ih₂
      refine ⟨?_, ?_, ih₃.trans hattached⟩
      · simpa [hsome] using ih₁
      · simpa [hsome, htrace] using ih₂

theorem exchangeTries_of_not_serializable {request : IoFrame}
    (h : serialize request frameMaxSize = none) (freqHz preambleLen tries tryIndex : ℕ)
    (s : EngineState) :
    (engine.exchangeTries request freqHz preambleLen tries tryIndex s).1 = none ∧
      (engine.exchangeTries request freqHz preambleLen tries tryIndex s).2.course = s.course := by
  induction tries generalizing tryIndex s with
  | zero => exact ⟨rfl, rfl⟩
  | succ tries ih =>
    unfold exchangeTries exchangeTry transmitRequest
    rw [engine.transmitFrame_of_not_serializable h]
    exact ih (tryIndex + 1) (s.recordDebug .txRequestFailed tryIndex false)

/-- The outcomes of the tries of an exchange. A request that does not serialize reaches no try. -/
def outcomes (request : IoFrame) (s : EngineState) : List TryOutcome :=
  if (serialize request frameMaxSize).isSome then
    reachedOutcomes request exchangeRetryCount s.script.sends s.script.windows
  else []

/-- What an exchange puts on the air and hears. -/
def exchangeEvents (request : IoFrame) (freqHz : ℕ) (s : EngineState) : List RadioEvent :=
  if (serialize request frameMaxSize).isSome then
    engine.runEvents request freqHz (engine.requestPreamble request) exchangeRetryCount
      s.script.sends s.script.windows
  else []

theorem sendAndReceive_eq (request response : IoFrame) (freqHz : ℕ) (s : EngineState) :
    let answer := (outcomes request s).findSome? TryOutcome.answer?
    (engine.sendAndReceive request response freqHz s).1 = answer.isSome ∧
      (engine.sendAndReceive request response freqHz s).2.1 = answer.getD response ∧
      (engine.sendAndReceive request response freqHz s).2.2.trace =
        s.trace ++ engine.exchangeEvents request freqHz s ∧
      (engine.sendAndReceive request response freqHz s).2.2.telemetryAttached =
        s.telemetryAttached := by
  unfold sendAndReceive outcomes exchangeEvents
  generalize hs' : s.mapStatus (fun status => status.resetDebug request.cmd) = s'
  have hcourse : s'.course = s.course := by rw [← hs', EngineState.course_mapStatus]
  have htrace : s'.trace = s.trace := congrArg RadioCourse.trace hcourse
  have hattached : s'.telemetryAttached = s.telemetryAttached :=
    congrArg RadioCourse.telemetryAttached hcourse
  cases hserial : serialize request frameMaxSize with
  | some bytes =>
    obtain ⟨hanswer, hevents, hsame⟩ := engine.exchangeTries_eq
      (Option.isSome_of_mem hserial) freqHz (engine.requestPreamble request) exchangeRetryCount 1 s'
    rw [hcourse, htrace] at hevents
    rw [hcourse] at hanswer
    rw [hattached] at hsame
    simp only [Option.isSome_some, if_true]
    generalize engine.exchangeTries request freqHz (engine.requestPreamble request)
      exchangeRetryCount 1 s' = tried at hanswer hevents hsame
    obtain ⟨answer, s''⟩ := tried
    dsimp only at hanswer hevents hsame
    change answer = (reachedOutcomes request exchangeRetryCount s.script.sends
      s.script.windows).findSome? TryOutcome.answer? at hanswer
    rw [← hanswer]
    cases answer with
    | none => exact ⟨rfl, rfl, hevents, hsame⟩
    | some answer => exact ⟨rfl, rfl, hevents, hsame⟩
  -- a request that cannot be serialized leaves the radio alone
  | none =>
    obtain ⟨hanswer, hsame⟩ := engine.exchangeTries_of_not_serializable hserial freqHz
      (engine.requestPreamble request) exchangeRetryCount 1 s'
    simp only [Option.isSome_none, Bool.false_eq_true, if_false, List.append_nil]
    generalize engine.exchangeTries request freqHz (engine.requestPreamble request)
      exchangeRetryCount 1 s' = tried at hanswer hsame
    obtain ⟨answer, s''⟩ := tried
    obtain rfl : answer = none := hanswer
    exact ⟨rfl, rfl, (congrArg RadioCourse.trace hsame).trans htrace,
      (congrArg RadioCourse.telemetryAttached hsame).trans hattached⟩

end ExchangeEngine
end HomeIoControl
