import HomeIoControl.ExchangeSoundness

namespace HomeIoControl

/-! ## The challenge flag of the debug snapshot -/

namespace EngineState

/-- Sticky within an exchange: a record sets it and only a reset clears it. -/
def sawChallenge (s : EngineState) : Bool := s.status.debug.sawChallenge

@[simp] theorem sawChallenge_recordDebug (s : EngineState) (stage : DebugStage) (tries : ℕ)
    (saw : Bool) : (s.recordDebug stage tries saw).sawChallenge = (s.sawChallenge || saw) := rfl

@[simp] theorem sawChallenge_dropWindow (s : EngineState) :
    s.dropWindow.sawChallenge = s.sawChallenge := rfl

@[simp] theorem sawChallenge_recordIfAttached (s : EngineState)
    (f : PairingTelemetry → PairingTelemetry) :
    (s.recordIfAttached f).sawChallenge = s.sawChallenge := by
  unfold recordIfAttached
  split <;> rfl

end EngineState

/-- What a wait loop records leaves the flag at the given value. -/
structure WaitLoop.KeepsFlag (loop : WaitLoop) (saw : Bool) : Prop where
  quiet : ∀ slice (status : EngineStatus), status.debug.sawChallenge = saw →
    (loop.quiet slice status).debug.sawChallenge = saw
  unparsed : ∀ slice (status : EngineStatus), status.debug.sawChallenge = saw →
    (loop.unparsed slice status).debug.sawChallenge = saw
  rejected : ∀ slice f (status : EngineStatus), status.debug.sawChallenge = saw →
    (loop.rejected slice f status).debug.sawChallenge = saw

theorem WaitLoop.KeepsFlag.run {loop : WaitLoop} {saw : Bool} (h : loop.KeepsFlag saw) (w : Window)
    (rx : IoFrame) {s : EngineState} (hs : s.sawChallenge = saw) :
    (loop.run w rx s).state.sawChallenge = saw := by
  induction w generalizing rx s with
  | nil => exact hs
  | cons slice rest ih =>
    unfold WaitLoop.run
    cases slice.packet with
    | none => exact ih rx (h.quiet slice s.status hs)
    | some packet =>
      dsimp only
      split
      · exact ih _ (h.unparsed slice (s.receive packet slice.rssi).status hs)
      · split
        · exact hs
        · exact ih _ (h.rejected slice _ (s.receive packet slice.rssi).status hs)

theorem sawChallenge_hopIfTimeLeft (slice : Slice) (status : EngineStatus) :
    (hopIfTimeLeft slice status).debug.sawChallenge = status.debug.sawChallenge := by
  unfold hopIfTimeLeft
  split <;> rfl

namespace ExchangeEngine

variable (engine : ExchangeEngine)

theorem sawChallenge_listenBeforeTalk (retries : ℕ) (s : EngineState) :
    (engine.listenBeforeTalk retries s).sawChallenge = s.sawChallenge := by
  induction retries generalizing s with
  | zero => rfl
  | succ retries ih =>
    unfold listenBeforeTalk
    dsimp only
    split
    · rfl
    · rw [ih, EngineState.sawChallenge_recordIfAttached]
      rfl

@[simp] theorem sawChallenge_transmitFrame (frame : IoFrame) (freqHz preambleLen : ℕ)
    (s : EngineState) :
    (engine.transmitFrame frame freqHz preambleLen s).2.sawChallenge = s.sawChallenge := by
  have hlbt := engine.sawChallenge_listenBeforeTalk engine.tuning.lbtMaxRetries.toNat s
  unfold transmitFrame EngineState.sendPacket
  cases serialize frame frameMaxSize with
  | none => rfl
  | some bytes =>
    dsimp only
    generalize engine.listenBeforeTalk engine.tuning.lbtMaxRetries.toNat s = s' at hlbt
    cases s'.script.sends.head?.getD false with
    | false => exact hlbt
    | true =>
      rw [EngineState.sawChallenge_recordIfAttached]
      exact hlbt

theorem sawChallenge_transmitRequest (request : IoFrame) (freqHz preambleLen tryIndex : ℕ)
    (s : EngineState) :
    (engine.transmitRequest request freqHz preambleLen tryIndex s).2.sawChallenge =
      s.sawChallenge := by
  have hsent := engine.sawChallenge_transmitFrame request freqHz preambleLen s
  unfold transmitRequest
  generalize engine.transmitFrame request freqHz preambleLen s = sending at hsent
  rcases sending with ⟨_ | _, s'⟩
  · rw [EngineState.sawChallenge_recordDebug, Bool.or_false]
    exact hsent
  · exact hsent

theorem sawChallenge_waitForFirstResponse (request : IoFrame) (tryIndex : ℕ) (rx : IoFrame)
    (s : EngineState) :
    (waitForFirstResponse request tryIndex rx s).2.2.sawChallenge = s.sawChallenge := by
  have hkeeps : (firstResponseLoop request tryIndex).KeepsFlag s.sawChallenge :=
    { quiet := fun slice status h => (sawChallenge_hopIfTimeLeft slice status).trans h
      unparsed := fun _ status h => (Bool.or_false status.debug.sawChallenge).trans h
      rejected := fun _ _ status h => (Bool.or_false status.debug.sawChallenge).trans h }
  have hrun := hkeeps.run s.window rx s.sawChallenge_dropWindow
  unfold waitForFirstResponse
  dsimp only
  split
  · rw [EngineState.sawChallenge_recordDebug, Bool.or_false]
    exact hrun
  · exact hrun

theorem sawChallenge_waitForFinalResponse (request : IoFrame) (tryIndex : ℕ) (rx : IoFrame)
    {s : EngineState} (h : s.sawChallenge = true) :
    (waitForFinalResponse request tryIndex rx s).2.2.sawChallenge = true := by
  have hkeeps : (finalResponseLoop request tryIndex).KeepsFlag true :=
    { quiet := fun slice status h => (sawChallenge_hopIfTimeLeft slice status).trans h
      unparsed := fun _ status _ => Bool.or_true status.debug.sawChallenge
      rejected := fun _ _ status _ => Bool.or_true status.debug.sawChallenge }
  have hdropped : s.dropWindow.sawChallenge = true := h
  have hrun := hkeeps.run s.window rx hdropped
  unfold waitForFinalResponse
  dsimp only
  split
  · rw [EngineState.sawChallenge_recordDebug, Bool.or_true]
  · exact hrun

theorem sawChallenge_handleAuthentication (request : IoFrame) (freqHz tryIndex : ℕ)
    (challenge : IoFrame) (s : EngineState) :
    (engine.handleAuthentication request freqHz tryIndex challenge s).2.sawChallenge = true := by
  unfold handleAuthentication
  simp only [engine.createChallengeResp_eq request challenge]
  generalize hs' : (s.recordDebug (.outbound .buildAuthResponse) tryIndex true).recordDebug
    (.outbound .txAuthResponse) tryIndex true = s'
  have hsaw : s'.sawChallenge = true := by simp [← hs']
  have hsent := engine.sawChallenge_transmitFrame (engine.proofOf request challenge) freqHz
    engine.responsePreamble s'
  generalize engine.transmitFrame (engine.proofOf request challenge) freqHz
    engine.responsePreamble s' = sending at hsent
  rcases sending with ⟨_ | _, s''⟩
  · rw [EngineState.sawChallenge_recordDebug, Bool.or_true]
  · exact hsent.trans hsaw

theorem sawChallenge_answerChallenge (request : IoFrame) (freqHz tryIndex : ℕ)
    (challenge : IoFrame) (s : EngineState) :
    (engine.answerChallenge request freqHz tryIndex challenge s).2.sawChallenge = true := by
  have hauth := engine.sawChallenge_handleAuthentication request freqHz tryIndex challenge s
  unfold answerChallenge
  generalize engine.handleAuthentication request freqHz tryIndex challenge s = sending at hauth
  rcases sending with ⟨_ | _, s₁⟩
  · exact hauth
  · have hwait := sawChallenge_waitForFinalResponse request tryIndex challenge
      (s := s₁.recordDebug (.outbound .waitFinalResponse) tryIndex true) (by simp)
    dsimp only
    generalize waitForFinalResponse request tryIndex challenge
      (s₁.recordDebug (.outbound .waitFinalResponse) tryIndex true) = waited at hwait
    rcases waited with ⟨_ | _, answer, s₂⟩
    · exact hwait
    · simp

end ExchangeEngine

/-! ## Challenges of a try -/

/-- The challenge that a try met. -/
def TryOutcome.challenge? : TryOutcome → Option IoFrame
  | proofRefused challenge | unanswered challenge | proved challenge _ => some challenge
  | _ => none

/-- A try meets the challenge that comes as the first answer to a request that went out. -/
theorem TryOutcome.challenge?_of (request : IoFrame) (sends : List Bool) (windows : List Window) :
    (of request sends windows).challenge? =
      if sends.head?.getD false then
        (firstAnswer request (windows.head?.getD [])).filter fun f => f.cmd == cmdChallengeReq
      else none := by
  unfold of
  cases sends.head?.getD false with
  | false => rfl
  | true =>
    cases firstAnswer request (windows.head?.getD []) with
    | none => rfl
    | some first =>
      cases hcmd : first.cmd == cmdChallengeReq with
      | false => simp [bne, hcmd, challenge?, Option.filter]
      | true =>
        simp only [Bool.not_true, Bool.false_eq_true, if_false, if_true, bne, hcmd,
          Option.filter_some]
        cases sends.tail.head?.getD false with
        | false => rfl
        | true => cases firstAnswer request (windows.tail.head?.getD []) <;> rfl

namespace ExchangeEngine

variable (engine : ExchangeEngine)

/-- A try sets the flag when it meets a challenge. -/
theorem sawChallenge_exchangeTry {request : IoFrame} (h : (serialize request frameMaxSize).isSome)
    (freqHz preambleLen tryIndex : ℕ) (s : EngineState) :
    (engine.exchangeTry request freqHz preambleLen tryIndex s).2.sawChallenge =
      (s.sawChallenge ||
        (TryOutcome.of request s.course.sends s.course.windows).challenge?.isSome) := by
  obtain ⟨hsent, hcourse⟩ := engine.transmitRequest_eq h freqHz preambleLen tryIndex s
  have hsaw := engine.sawChallenge_transmitRequest request freqHz preambleLen tryIndex s
  rw [TryOutcome.challenge?_of]
  unfold exchangeTry
  generalize engine.transmitRequest request freqHz preambleLen tryIndex s = sending
    at hsent hcourse hsaw
  obtain ⟨sent, s₁⟩ := sending
  obtain rfl : sent = s.course.sends.head?.getD false := hsent
  cases hsent : s.course.sends.head?.getD false with
  | false => simpa using hsaw
  | true =>
    dsimp only at hcourse hsaw ⊢
    generalize hs₂ : s₁.recordDebug (.outbound .waitFirstResponse) tryIndex false = s₂
    have hsaw₂ : s₂.sawChallenge = s.sawChallenge := by simp [← hs₂, hsaw]
    have hwindow : s₂.course.window = s.course.windows.head?.getD [] := by
      rw [← hs₂, EngineState.course_recordDebug, hcourse]
      rfl
    have hwait := sawChallenge_waitForFirstResponse request tryIndex IoFrame.zero s₂
    have hfirst := waitForFirstResponse_cases request tryIndex IoFrame.zero s₂
    rw [hsaw₂] at hwait
    rw [hwindow] at hfirst
    generalize waitForFirstResponse request tryIndex IoFrame.zero s₂ = waited at hwait hfirst
    obtain ⟨disposition, rx, s₃⟩ := waited
    dsimp only at hwait hfirst ⊢
    rcases hfirst with ⟨hnone, rfl⟩ | ⟨first, hsome, rfl, rfl⟩
    · rw [hnone]
      simpa using hwait
    · rw [hsome, Option.filter_some]
      cases rx.cmd == cmdChallengeReq with
      | false => simpa using hwait
      | true =>
        have hanswer := engine.sawChallenge_answerChallenge request freqHz tryIndex rx s₃
        simpa using hanswer

theorem sawChallenge_exchangeTries {request : IoFrame}
    (h : (serialize request frameMaxSize).isSome) (freqHz preambleLen tries tryIndex : ℕ)
    (s : EngineState) :
    (engine.exchangeTries request freqHz preambleLen tries tryIndex s).2.sawChallenge =
      (s.sawChallenge || (reachedOutcomes request tries s.course.sends s.course.windows).any
        fun outcome => outcome.challenge?.isSome) := by
  induction tries generalizing tryIndex s with
  | zero => simp [exchangeTries, reachedOutcomes]
  | succ tries ih =>
    obtain ⟨hanswer, hcourse⟩ := engine.exchangeTry_eq h freqHz preambleLen tryIndex s
    have hsaw := engine.sawChallenge_exchangeTry h freqHz preambleLen tryIndex s
    unfold exchangeTries reachedOutcomes
    generalize engine.exchangeTry request freqHz preambleLen tryIndex s = tried
      at hanswer hcourse hsaw
    generalize TryOutcome.of request s.course.sends s.course.windows = outcome
      at hanswer hcourse hsaw
    obtain ⟨answer, s'⟩ := tried
    obtain rfl : answer = outcome.answer? := hanswer
    have hsends : s'.course.sends = s.course.sends.drop outcome.sendsUsed :=
      congrArg RadioCourse.sends hcourse
    have hwindows : s'.course.windows = s.course.windows.drop outcome.windowsUsed :=
      congrArg RadioCourse.windows hcourse
    cases hsome : outcome.answer? with
    -- an answer ends the tries, else the flag is carried into the next one
    | some answer => simpa [hsome] using hsaw
    | none =>
      have hrest := ih (tryIndex + 1) s'
      rw [hsends, hwindows] at hrest
      dsimp only at hsaw
      rw [hsaw] at hrest
      simpa [hsome, Bool.or_assoc] using hrest

theorem sawChallenge_exchangeTries_of_not_serializable {request : IoFrame}
    (h : serialize request frameMaxSize = none) (freqHz preambleLen tries tryIndex : ℕ)
    (s : EngineState) :
    (engine.exchangeTries request freqHz preambleLen tries tryIndex s).2.sawChallenge =
      s.sawChallenge := by
  induction tries generalizing tryIndex s with
  | zero => rfl
  | succ tries ih =>
    unfold exchangeTries exchangeTry transmitRequest
    rw [engine.transmitFrame_of_not_serializable h]
    have hrest := ih (tryIndex + 1) (s.recordDebug .txRequestFailed tryIndex false)
    rw [EngineState.sawChallenge_recordDebug, Bool.or_false] at hrest
    exact hrest

/-- After an exchange the flag tells whether one of its tries met a challenge. -/
theorem sawChallenge_sendAndReceive (request response : IoFrame) (freqHz : ℕ) (s : EngineState) :
    (engine.sendAndReceive request response freqHz s).2.2.sawChallenge =
      (outcomes request s).any fun outcome => outcome.challenge?.isSome := by
  unfold sendAndReceive outcomes
  generalize hs' : s.mapStatus (fun status => status.resetDebug request.cmd) = s'
  have hsaw : s'.sawChallenge = false := by
    rw [← hs']
    rfl
  have hcourse : s'.course = s.course := by rw [← hs', EngineState.course_mapStatus]
  have htried : (engine.exchangeTries request freqHz (engine.requestPreamble request)
      exchangeRetryCount 1 s').2.sawChallenge =
      ((if (serialize request frameMaxSize).isSome then
        reachedOutcomes request exchangeRetryCount s.script.sends s.script.windows
      else []).any fun outcome => outcome.challenge?.isSome) := by
    cases hserial : serialize request frameMaxSize with
    | some bytes =>
      rw [engine.sawChallenge_exchangeTries (Option.isSome_of_mem hserial), hsaw, hcourse]
      rfl
    | none =>
      rw [engine.sawChallenge_exchangeTries_of_not_serializable hserial, hsaw]
      rfl
  dsimp only
  generalize engine.exchangeTries request freqHz (engine.requestPreamble request)
    exchangeRetryCount 1 s' = tried at htried
  rcases tried with ⟨_ | _, s''⟩
  · exact htried
  · exact htried

/-! ## The shape of a try -/

/-- A packet with a 0x3C from the target of the request to its sender. -/
structure Challenges (request : IoFrame) (packet : RadioRxPacket) (challenge : IoFrame) : Prop where
  parses : parse packet.data = some challenge
  cmd : challenge.cmd = cmdChallengeReq
  src : challenge.src = request.dst
  dst : challenge.dst = request.src

/-- The request; once it is sent, what is heard; and at most one proof, right after a challenge and
for its bytes. A proof that is not sent ends the try. -/
inductive TryShape (request : IoFrame) (freqHz preambleLen : ℕ) : List RadioEvent → Prop
  | refused : TryShape request freqHz preambleLen [.tx request freqHz preambleLen false]
  | asked (heard : List RadioRxPacket) :
    TryShape request freqHz preambleLen
      (.tx request freqHz preambleLen true :: heard.map .rx)
  | proved (earlier later : List RadioRxPacket) {packet : RadioRxPacket}
      {challenge proof : IoFrame} {sent : Bool} (hchallenge : Challenges request packet challenge)
      (hproof : IsCommand proof engine.nodeId request.dst cmdChallengeResp
        (createHmac (transcript request) (hmacField challenge) engine.systemKey).toList)
      (hlater : sent = false → later = []) :
    TryShape request freqHz preambleLen
      (.tx request freqHz preambleLen true :: (earlier.map .rx ++ .rx packet ::
        .tx proof freqHz engine.responsePreamble sent :: later.map .rx))

/-- A challenge for the request was received. -/
def Challenged (request : IoFrame) (events : List RadioEvent) : Prop :=
  ∃ packet challenge, .rx packet ∈ events ∧ Challenges request packet challenge

theorem challenges_of_firstAnswer {request f : IoFrame} {w : Window} {packet : RadioRxPacket}
    (h : firstAnswer request w = some f) (hparse : parse packet.data = some f)
    (hcmd : f.cmd = cmdChallengeReq) : Challenges request packet f where
  parses := hparse
  cmd := hcmd
  src := (endpoints_of_firstAnswer h).1
  dst := (endpoints_of_firstAnswer h).2

/-- A challenge heard while waiting is the answer that ends the wait. -/
theorem firstAnswer_of_challenges {request challenge : IoFrame} {w : Window}
    {packet : RadioRxPacket} (hheard : .rx packet ∈ tryEvents.heard request w)
    (h : Challenges request packet challenge) : firstAnswer request w = some challenge := by
  obtain ⟨p, hp, hpacket⟩ := List.mem_map.1 hheard
  obtain rfl : p = packet := RadioEvent.rx.inj hpacket
  apply Window.firstAccepted_of_mem_heard hp h.parses
  simp [frameMatchesExchangeEndpoints, frameMatchesNodes, h.src, h.dst]

theorem challenged_asked_iff (request : IoFrame) (freqHz preambleLen : ℕ) (windows : List Window) :
    Challenged request (tryEvents.asked request freqHz preambleLen windows) ↔
      ∃ f, firstAnswer request (windows.head?.getD []) = some f ∧ f.cmd = cmdChallengeReq := by
  constructor
  · rintro ⟨packet, challenge, hmem, hchallenge⟩
    unfold tryEvents.asked at hmem
    rcases List.mem_cons.1 hmem with heq | hheard
    · cases heq
    · exact ⟨challenge, firstAnswer_of_challenges hheard hchallenge, hchallenge.cmd⟩
  · rintro ⟨f, hfirst, hcmd⟩
    obtain ⟨earlier, packet, hheard, hparse⟩ := heard_of_firstAnswer hfirst
    refine ⟨packet, f, ?_, challenges_of_firstAnswer hfirst hparse hcmd⟩
    simp [tryEvents.asked, hheard]

theorem Challenged.append {request : IoFrame} {events : List RadioEvent}
    (h : Challenged request events) (later : List RadioEvent) :
    Challenged request (events ++ later) := by
  obtain ⟨packet, challenge, hmem, hchallenge⟩ := h
  exact ⟨packet, challenge, List.mem_append_left later hmem, hchallenge⟩

theorem sent_of_ne_refused {request : IoFrame} {sends : List Bool}
    {windows : List Window} (h : TryOutcome.of request sends windows ≠ .refused) :
    sends.head?.getD false = true := by
  by_contra hsent
  apply h
  simp [TryOutcome.of, hsent]

theorem challenged_asked_iff_challenge? {request : IoFrame} {sends : List Bool}
    {windows : List Window} (h : TryOutcome.of request sends windows ≠ .refused)
    (freqHz preambleLen : ℕ) :
    Challenged request (tryEvents.asked request freqHz preambleLen windows) ↔
      (TryOutcome.of request sends windows).challenge?.isSome = true := by
  rw [challenged_asked_iff, TryOutcome.challenge?_of, if_pos (sent_of_ne_refused h)]
  cases firstAnswer request (windows.head?.getD []) with
  | none => simp
  | some f => simp [Option.filter_some]

/-- The events of a try that answered a challenge. -/
theorem tryShape_proof {request challenge : IoFrame} {windows : List Window}
    (hfirst : firstAnswer request (windows.head?.getD []) = some challenge)
    (hcmd : challenge.cmd = cmdChallengeReq) (freqHz preambleLen : ℕ) {sent : Bool}
    {later : List RadioRxPacket} (hlater : sent = false → later = []) :
    engine.TryShape request freqHz preambleLen
      (tryEvents.asked request freqHz preambleLen windows ++
        tryEvents.proof engine request freqHz challenge sent :: later.map .rx) := by
  obtain ⟨earlier, packet, hheard, hparse⟩ := Window.heard_of_firstAccepted hfirst
  have hshape : engine.TryShape request freqHz preambleLen _ :=
    .proved earlier later (challenges_of_firstAnswer hfirst hparse hcmd)
      (engine.proofOf_isCommand request challenge) hlater
  simpa [tryEvents.asked, tryEvents.heard, tryEvents.proof, hheard] using hshape

/-- What a try does has the shape, and it heard a challenge exactly if it met one. -/
theorem tryShape_tryEvents (request : IoFrame) (freqHz preambleLen : ℕ) (sends : List Bool)
    (windows : List Window) :
    let outcome := TryOutcome.of request sends windows
    let events := engine.tryEvents request freqHz preambleLen windows outcome
    engine.TryShape request freqHz preambleLen events ∧
      (Challenged request events ↔ outcome.challenge?.isSome = true) := by
  have hasked := fun h => challenged_asked_iff_challenge? (h : TryOutcome.of request sends windows ≠
    .refused) freqHz preambleLen
  have hfirst : ∀ challenge, (TryOutcome.of request sends windows).challenge? = some challenge →
      firstAnswer request (windows.head?.getD []) = some challenge ∧
        challenge.cmd = cmdChallengeReq := by
    intro challenge h
    rw [TryOutcome.challenge?_of] at h
    split at h
    · simpa [Option.filter_eq_some_iff] using h
    · cases h
  generalize TryOutcome.of request sends windows = outcome at hasked hfirst
  dsimp only
  cases outcome with
  | refused =>
    refine ⟨.refused, iff_of_false ?_ (by simp [TryOutcome.challenge?])⟩
    rintro ⟨packet, challenge, hmem, -⟩
    simp [tryEvents] at hmem
  | silent => exact ⟨.asked _, hasked (by simp)⟩
  | direct answer => exact ⟨.asked _, hasked (by simp)⟩
  | proofRefused challenge =>
    obtain ⟨first, hcmd⟩ := hfirst challenge rfl
    have hmet := (hasked (by simp)).2 rfl
    exact ⟨engine.tryShape_proof first hcmd freqHz preambleLen fun _ => rfl,
      iff_of_true (hmet.append _) rfl⟩
  | unanswered challenge =>
    obtain ⟨first, hcmd⟩ := hfirst challenge rfl
    have hmet := (hasked (by simp)).2 rfl
    exact ⟨engine.tryShape_proof first hcmd freqHz preambleLen fun h => absurd h (by simp),
      iff_of_true (hmet.append _) rfl⟩
  | proved challenge answer =>
    obtain ⟨first, hcmd⟩ := hfirst challenge rfl
    have hmet := (hasked (by simp)).2 rfl
    exact ⟨engine.tryShape_proof first hcmd freqHz preambleLen fun h => absurd h (by simp),
      iff_of_true (hmet.append _) rfl⟩

/-- A run is made of its tries, one after another. -/
theorem exists_tryShapes_runEvents (request : IoFrame) (freqHz preambleLen tries : ℕ)
    (sends : List Bool) (windows : List Window) :
    ∃ shapes : List (List RadioEvent),
      engine.runEvents request freqHz preambleLen tries sends windows = shapes.flatten ∧
      shapes.length ≤ tries ∧
      (∀ events ∈ shapes, engine.TryShape request freqHz preambleLen events) ∧
      ((reachedOutcomes request tries sends windows).any (fun o => o.challenge?.isSome) = true ↔
        ∃ events ∈ shapes, Challenged request events) := by
  induction tries generalizing sends windows with
  | zero => exact ⟨[], rfl, Nat.le_refl 0, by simp, by simp [reachedOutcomes]⟩
  | succ tries ih =>
    obtain ⟨hshape, hmet⟩ := engine.tryShape_tryEvents request freqHz preambleLen sends windows
    unfold runEvents reachedOutcomes
    dsimp only
    generalize TryOutcome.of request sends windows = outcome at hshape hmet
    cases hanswer : outcome.answer? with
    | some answer =>
      refine ⟨[engine.tryEvents request freqHz preambleLen windows outcome], ?_, ?_, ?_, ?_⟩
      · simp
      · simp
      · simpa using hshape
      · simpa using hmet.symm
    | none =>
      obtain ⟨shapes, hevents, hlength, hshapes, hrest⟩ :=
        ih (sends.drop outcome.sendsUsed) (windows.drop outcome.windowsUsed)
      refine ⟨engine.tryEvents request freqHz preambleLen windows outcome :: shapes, ?_, ?_, ?_, ?_⟩
      · simp [hevents]
      · simpa using hlength
      · simpa using ⟨hshape, hshapes⟩
      · rw [Option.isSome_none, if_neg (by simp), List.any_cons, Bool.or_eq_true, hrest, ← hmet]
        simp

/-- An exchange is at most three tries, each a copy of the request and at most one proof for the
challenge received in it; the flag tells whether one of them received a challenge. -/
theorem sendAndReceive_shape (request response : IoFrame) (freqHz : ℕ) (s : EngineState) :
    let result := engine.sendAndReceive request response freqHz s
    ∃ tries : List (List RadioEvent),
      newEvents s result.2.2 = tries.flatten ∧ tries.length ≤ exchangeRetryCount ∧
      (∀ events ∈ tries,
        engine.TryShape request freqHz (engine.requestPreamble request) events) ∧
      (result.2.2.status.debug.sawChallenge = true ↔
        ∃ events ∈ tries, Challenged request events) := by
  obtain ⟨-, -, htrace, -⟩ := engine.sendAndReceive_eq request response freqHz s
  have hsaw := engine.sawChallenge_sendAndReceive request response freqHz s
  dsimp only
  rw [newEvents_of_trace htrace]
  change (engine.sendAndReceive request response freqHz s).2.2.status.debug.sawChallenge = _
    at hsaw
  rw [hsaw]
  unfold exchangeEvents outcomes
  split
  · exact engine.exists_tryShapes_runEvents request freqHz (engine.requestPreamble request)
      exchangeRetryCount s.script.sends s.script.windows
  · exact ⟨[], rfl, Nat.zero_le _, by simp, by simp⟩

end ExchangeEngine
end HomeIoControl
