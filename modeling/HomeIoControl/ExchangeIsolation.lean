import HomeIoControl.ExchangeSoundness

namespace HomeIoControl

/-! ## Foreign traffic -/

/-- The packets that arrive before the deadline. -/
def Window.packets (w : Window) : List RadioRxPacket := w.filterMap Slice.packet

/-- A packet that does not parse, or whose frame is between other nodes. -/
def Foreign (request : IoFrame) (packet : RadioRxPacket) : Prop :=
  ∀ f, parse packet.data = some f → ¬(f.src = request.dst ∧ f.dst = request.src)

instance (request : IoFrame) : DecidablePred (Foreign request) := fun packet =>
  match hparse : parse packet.data with
  | none => .isTrue fun f hf => by rw [hparse] at hf; cases hf
  | some g =>
    if hmatch : g.src = request.dst ∧ g.dst = request.src then
      .isFalse fun h => h g hparse hmatch
    else .isTrue fun f hf => by
      rw [hparse] at hf
      rwa [← Option.some.inj hf]

/-- The packets of a window without the foreign ones. -/
def Window.own (request : IoFrame) (w : Window) : List RadioRxPacket :=
  w.packets.filter fun packet => ¬Foreign request packet

/-- Two radios that differ in foreign packets, in the times of all packets and in what the engine
keeps for diagnostics. -/
structure SameButForeign (request : IoFrame) (s s' : EngineState) : Prop where
  sends : s'.script.sends = s.script.sends
  windows : ∀ i : ℕ,
    Window.own request (s'.script.windows[i]?.getD []) =
      Window.own request (s.script.windows[i]?.getD [])

theorem foreign_iff {request : IoFrame} {packet : RadioRxPacket} :
    Foreign request packet ↔
      (parse packet.data).filter (frameMatchesExchangeEndpoints request) = none := by
  simp [Foreign, Option.filter_eq_none_iff, frameMatchesExchangeEndpoints, frameMatchesNodes]

/-- A wait sees the packets that are not foreign, and of these the first. -/
theorem firstAnswer_eq_own (request : IoFrame) (w : Window) :
    firstAnswer request w =
      (Window.own request w).head?.bind fun packet => parse packet.data := by
  induction w with
  | nil => rfl
  | cons slice rest ih =>
    have hrest : firstAnswer request (slice :: rest) =
        (slice.frame.filter (frameMatchesExchangeEndpoints request)).or
          (firstAnswer request rest) := by
      rw [firstAnswer, Window.firstAccepted, List.findSome?_cons]
      cases slice.frame.filter (frameMatchesExchangeEndpoints request) <;> rfl
    rw [hrest]
    cases hpacket : slice.packet with
    | none => simpa [Slice.frame, hpacket, Window.own, Window.packets] using ih
    | some packet =>
      have hframe : slice.frame = parse packet.data := by rw [Slice.frame, hpacket]; rfl
      rw [hframe]
      cases hfilter : (parse packet.data).filter (frameMatchesExchangeEndpoints request) with
      | none =>
        have hforeign := foreign_iff.2 hfilter
        rw [Option.none_or, ih]
        simp [Window.own, Window.packets, hpacket, hforeign]
      | some f =>
        have hown : ¬Foreign request packet := by
          rw [foreign_iff, hfilter]
          exact Option.some_ne_none f
        have hparse := (Option.filter_eq_some_iff.1 hfilter).1
        simp [Window.own, Window.packets, hpacket, hown, hparse]

/-! ## What does not depend on it -/

def RadioEvent.isTx : RadioEvent → Bool
  | .tx _ _ _ _ => true
  | .rx _ => false

/-- The frames handed to the radio, in order. -/
def transmitted (events : List RadioEvent) : List RadioEvent := events.filter RadioEvent.isTx

@[simp] theorem transmitted_append (xs ys : List RadioEvent) :
    transmitted (xs ++ ys) = transmitted xs ++ transmitted ys := List.filter_append ..

@[simp] theorem transmitted_cons_tx (frame : IoFrame) (freqHz preambleLen : ℕ) (sent : Bool)
    (events : List RadioEvent) :
    transmitted (.tx frame freqHz preambleLen sent :: events) =
      .tx frame freqHz preambleLen sent :: transmitted events := rfl

@[simp] theorem transmitted_heard (request : IoFrame) (w : Window) :
    transmitted (ExchangeEngine.tryEvents.heard request w) = [] := by
  simp [transmitted, ExchangeEngine.tryEvents.heard, RadioEvent.isTx]

/-- The windows answer alike, wait by wait. -/
def SameAnswers (request : IoFrame) (ws ws' : List Window) : Prop :=
  ∀ i : ℕ, firstAnswer request (ws'[i]?.getD []) = firstAnswer request (ws[i]?.getD [])

theorem SameButForeign.sameAnswers {request : IoFrame} {s s' : EngineState}
    (h : SameButForeign request s s') : SameAnswers request s.script.windows s'.script.windows := by
  intro i
  rw [firstAnswer_eq_own, firstAnswer_eq_own, h.windows i]

variable {request : IoFrame} {ws ws' : List Window}

theorem SameAnswers.head (h : SameAnswers request ws ws') :
    firstAnswer request (ws'.head?.getD []) = firstAnswer request (ws.head?.getD []) := by
  rw [List.head?_eq_getElem?, List.head?_eq_getElem?]
  exact h 0

theorem SameAnswers.drop (h : SameAnswers request ws ws') (n : ℕ) :
    SameAnswers request (ws.drop n) (ws'.drop n) := by
  intro i
  rw [List.getElem?_drop, List.getElem?_drop]
  exact h (n + i)

theorem SameAnswers.of_eq (h : SameAnswers request ws ws') (sends : List Bool) :
    TryOutcome.of request sends ws' = TryOutcome.of request sends ws := by
  have htail := (h.drop 1).head
  rw [List.drop_one, List.drop_one] at htail
  unfold TryOutcome.of
  rw [h.head, htail]

theorem SameAnswers.reachedOutcomes_eq (h : SameAnswers request ws ws') (tries : ℕ)
    (sends : List Bool) :
    reachedOutcomes request tries sends ws' = reachedOutcomes request tries sends ws := by
  induction tries generalizing sends ws ws' with
  | zero => rfl
  | succ tries ih =>
    unfold reachedOutcomes
    dsimp only
    rw [h.of_eq, ih (h.drop _)]

namespace ExchangeEngine

variable (engine : ExchangeEngine)

/-- An outcome determines the frames of its try. -/
theorem transmitted_tryEvents (freqHz preambleLen : ℕ) (ws ws' : List Window)
    (outcome : TryOutcome) :
    transmitted (engine.tryEvents request freqHz preambleLen ws' outcome) =
      transmitted (engine.tryEvents request freqHz preambleLen ws outcome) := by
  cases outcome <;> simp [tryEvents, tryEvents.asked, tryEvents.proof]

theorem transmitted_runEvents (h : SameAnswers request ws ws') (freqHz preambleLen tries : ℕ)
    (sends : List Bool) :
    transmitted (engine.runEvents request freqHz preambleLen tries sends ws') =
      transmitted (engine.runEvents request freqHz preambleLen tries sends ws) := by
  induction tries generalizing sends ws ws' with
  | zero => rfl
  | succ tries ih =>
    unfold runEvents
    dsimp only
    rw [h.of_eq, transmitted_append, transmitted_append,
      engine.transmitted_tryEvents freqHz preambleLen ws ws']
    congr 1
    split
    · rfl
    · exact ih (h.drop _) _

/-- The tries, however many, end alike. -/
theorem exchangeTries_isolated {s s' : EngineState} (h : SameButForeign request s s')
    (freqHz preambleLen tries tryIndex tryIndex' : ℕ) :
    let result := engine.exchangeTries request freqHz preambleLen tries tryIndex s
    let result' := engine.exchangeTries request freqHz preambleLen tries tryIndex' s'
    result'.1 = result.1 ∧
      transmitted (newEvents s' result'.2) = transmitted (newEvents s result.2) := by
  have hsends : s'.course.sends = s.course.sends := h.sends
  have hwindows : SameAnswers request s.course.windows s'.course.windows := h.sameAnswers
  dsimp only
  cases hserial : serialize request frameMaxSize with
  | some bytes =>
    have hsome := Option.isSome_of_mem hserial
    obtain ⟨hanswer, hevents, -⟩ :=
      engine.exchangeTries_eq hsome freqHz preambleLen tries tryIndex s
    obtain ⟨hanswer', hevents', -⟩ :=
      engine.exchangeTries_eq hsome freqHz preambleLen tries tryIndex' s'
    -- the answers decide how many tries there are
    rw [hanswer, hanswer', newEvents_of_trace hevents, newEvents_of_trace hevents', hsends,
      hwindows.reachedOutcomes_eq]
    exact ⟨rfl, engine.transmitted_runEvents hwindows freqHz preambleLen tries _⟩
  | none =>
    obtain ⟨hanswer, hcourse⟩ :=
      engine.exchangeTries_of_not_serializable hserial freqHz preambleLen tries tryIndex s
    obtain ⟨hanswer', hcourse'⟩ :=
      engine.exchangeTries_of_not_serializable hserial freqHz preambleLen tries tryIndex' s'
    have hsilent : ∀ {t t' : EngineState}, t'.course = t.course → newEvents t t' = [] := by
      intro t t' ht
      apply newEvents_of_trace
      rw [List.append_nil]
      exact congrArg RadioCourse.trace ht
    rw [hanswer, hanswer', hsilent hcourse, hsilent hcourse']
    exact ⟨rfl, rfl⟩

/-- Foreign packets change neither the result nor the response nor what is transmitted, for any
number of tries. -/
theorem sendAndReceive_isolated {s s' : EngineState} (h : SameButForeign request s s')
    (response : IoFrame) (freqHz : ℕ) :
    (let result := engine.sendAndReceive request response freqHz s
      let result' := engine.sendAndReceive request response freqHz s'
      result'.1 = result.1 ∧ result'.2.1 = result.2.1 ∧
        transmitted (newEvents s' result'.2.2) = transmitted (newEvents s result.2.2)) ∧
      ∀ preambleLen tries tryIndex : ℕ,
        let result := engine.exchangeTries request freqHz preambleLen tries tryIndex s
        let result' := engine.exchangeTries request freqHz preambleLen tries tryIndex s'
        result'.1 = result.1 ∧
          transmitted (newEvents s' result'.2) = transmitted (newEvents s result.2) := by
  refine ⟨?_, fun preambleLen tries tryIndex =>
    engine.exchangeTries_isolated h freqHz preambleLen tries tryIndex tryIndex⟩
  obtain ⟨hsuccess, hanswer, htrace, -⟩ := engine.sendAndReceive_eq request response freqHz s
  obtain ⟨hsuccess', hanswer', htrace', -⟩ := engine.sendAndReceive_eq request response freqHz s'
  have houtcomes : outcomes request s' = outcomes request s := by
    unfold outcomes
    rw [h.sends, h.sameAnswers.reachedOutcomes_eq]
  have hevents : transmitted (engine.exchangeEvents request freqHz s') =
      transmitted (engine.exchangeEvents request freqHz s) := by
    unfold exchangeEvents
    rw [h.sends]
    split
    · exact engine.transmitted_runEvents h.sameAnswers _ _ _ _
    · rfl
  dsimp only
  rw [newEvents_of_trace htrace, newEvents_of_trace htrace', hsuccess, hsuccess', hanswer,
    hanswer', houtcomes]
  exact ⟨rfl, rfl, hevents⟩

def undisturbedScript : RadioScript where
  sends := [true]
  windows := [oneFrame (deviceFrame cmdPrivateResp [1, 2, 3])]
  challenges := []
  rssis := []

/-- Noise and a challenge of another node come before the answer. -/
def disturbedScript : RadioScript where
  sends := [true]
  windows :=
    [oneFrame [0xFF] ++
      oneFrame (wireFrame 0x0E sampleEngine.nodeId (.replicate 3 0x99) cmdChallengeReq
        [1, 2, 3, 4, 5, 6]) ++
      oneFrame (deviceFrame cmdPrivateResp [1, 2, 3])]
  challenges := []
  rssis := []

theorem disturbed_exchange_isolated :
    let result := sampleEngine.sendAndReceive statusRequest .zero freqCh2
      { script := undisturbedScript }
    let result' := sampleEngine.sendAndReceive statusRequest .zero freqCh2
      { script := disturbedScript }
    result'.1 = result.1 ∧ result'.2.1 = result.2.1 := by
  have hsame : SameButForeign statusRequest { script := undisturbedScript }
      { script := disturbedScript } := by
    refine ⟨rfl, fun i => ?_⟩
    cases i with
    | zero => decide +kernel
    | succ i => rfl
  have h := (sampleEngine.sendAndReceive_isolated hsame .zero freqCh2).1
  exact ⟨h.1, h.2.1⟩

end ExchangeEngine
end HomeIoControl
