import HomeIoControl.EventTrace
import HomeIoControl.ExchangeOutcome

namespace HomeIoControl
open EventTrace

def newEvents (s s' : EngineState) : List RadioEvent := s'.trace.drop s.trace.length

theorem newEvents_of_trace {s s' : EngineState} {events : List RadioEvent}
    (h : s'.trace = s.trace ++ events) : newEvents s s' = events := by
  rw [newEvents, h, List.drop_left]

/-! ## What an outcome says about the radio -/

/-- The script facts behind an outcome. -/
inductive TryOutcome.Follows (request : IoFrame) (sends : List Bool) (windows : List Window) :
    TryOutcome → Prop
  | refused : Follows request sends windows refused
  | silent : Follows request sends windows silent
  | direct {answer : IoFrame}
      (first : firstAnswer request (windows.head?.getD []) = some answer)
      (cmd : answer.cmd ≠ cmdChallengeReq) : Follows request sends windows (direct answer)
  | proofRefused {challenge : IoFrame} : Follows request sends windows (proofRefused challenge)
  | unanswered {challenge : IoFrame}
      (first : firstAnswer request (windows.head?.getD []) = some challenge)
      (cmd : challenge.cmd = cmdChallengeReq) :
      Follows request sends windows (unanswered challenge)
  | proved {challenge answer : IoFrame}
      (first : firstAnswer request (windows.head?.getD []) = some challenge)
      (cmd : challenge.cmd = cmdChallengeReq)
      (final : firstAnswer request (windows.tail.head?.getD []) = some answer) :
      Follows request sends windows (proved challenge answer)

theorem TryOutcome.follows_of (request : IoFrame) (sends : List Bool) (windows : List Window) :
    Follows request sends windows (of request sends windows) := by
  unfold of
  split
  · exact .refused
  · split
    · exact .silent
    · rename_i first hfirst
      split
      · rename_i hcmd
        exact .direct hfirst (by simpa using hcmd)
      · rename_i hcmd
        have hcmd' : first.cmd = cmdChallengeReq := by simpa using hcmd
        split
        · exact .proofRefused
        · split
          · exact .unanswered hfirst hcmd'
          · rename_i answer hanswer
            exact .proved hfirst hcmd' hanswer

theorem endpoints_of_firstAnswer {request f : IoFrame} {w : Window}
    (h : firstAnswer request w = some f) : f.src = request.dst ∧ f.dst = request.src := by
  have hmatch := Window.accept_of_firstAccepted h
  simpa [frameMatchesExchangeEndpoints, frameMatchesNodes] using hmatch

theorem heard_of_firstAnswer {request f : IoFrame} {w : Window}
    (h : firstAnswer request w = some f) :
    ∃ earlier p, ExchangeEngine.tryEvents.heard request w = earlier ++ [.rx p] ∧
      parse p.data = some f := by
  obtain ⟨earlier, p, hheard, hparse⟩ := Window.heard_of_firstAccepted h
  refine ⟨earlier.map .rx, p, ?_, hparse⟩
  simp [ExchangeEngine.tryEvents.heard, hheard]

/-! ## A controller and a device -/

def sampleEngine : ExchangeEngine where
  nodeId := #v[0x12, 0x34, 0x56]
  systemKey := .replicate 16 0x11

def sampleDevice : NodeId := #v[0x65, 0x43, 0x21]

def statusRequest : IoFrame := (createGetStatus sampleEngine.nodeId sampleDevice).getD .zero

def oneFrame (frame : List UInt8) : Window := [{ packet := some { data := frame } }]

def wireFrame (ctrl0 : UInt8) (dst src : NodeId) (cmd : UInt8) (payload : List UInt8) :
    List UInt8 :=
  [ctrl0, 0x00] ++ dst.toList ++ src.toList ++ cmd :: payload

def deviceFrame (cmd : UInt8) (payload : List UInt8) : List UInt8 :=
  wireFrame (UInt8.ofNat (8 + payload.length)) sampleEngine.nodeId sampleDevice cmd payload

namespace ExchangeEngine

variable (engine : ExchangeEngine)

/-! ## Sound answers -/

/-- A successful exchange returns an answer of the peer, a failed one leaves the caller's frame. -/
def SoundExchange (request response : IoFrame) (freqHz : ℕ) (s : EngineState) : Prop :=
  let result := engine.sendAndReceive request response freqHz s
  let answer := result.2.1
  (result.1 = true →
    (∃ p, .rx p ∈ newEvents s result.2.2 ∧ parse p.data = some answer) ∧
      answer.src = request.dst ∧ answer.dst = request.src ∧ answer.cmd ≠ cmdChallengeReq) ∧
    (result.1 = false → answer = response)

def ChallengedTwice (outcome : TryOutcome) : Prop :=
  ∃ challenge answer, outcome = .proved challenge answer ∧ answer.cmd = cmdChallengeReq

theorem tryEvents_answer {request answer : IoFrame} {sends : List Bool} {windows : List Window}
    (h : (TryOutcome.of request sends windows).answer? = some answer) (freqHz preambleLen : ℕ) :
    (∃ p, .rx p ∈ engine.tryEvents request freqHz preambleLen windows
        (TryOutcome.of request sends windows) ∧ parse p.data = some answer) ∧
      answer.src = request.dst ∧ answer.dst = request.src ∧
      (answer.cmd = cmdChallengeReq → ChallengedTwice (TryOutcome.of request sends windows)) := by
  have hfollows := TryOutcome.follows_of request sends windows
  generalize TryOutcome.of request sends windows = outcome at h hfollows
  cases hfollows with
  | refused | silent | proofRefused | unanswered => exact absurd h (by simp [TryOutcome.answer?])
  | direct first cmd =>
    obtain rfl := Option.some.inj h
    obtain ⟨earlier, p, hheard, hparse⟩ := heard_of_firstAnswer first
    obtain ⟨hsrc, hdst⟩ := endpoints_of_firstAnswer first
    refine ⟨⟨p, ?_, hparse⟩, hsrc, hdst, fun hcmd => absurd hcmd cmd⟩
    simp [tryEvents, tryEvents.asked, hheard]
  | @proved challenge _ _ _ final =>
    obtain rfl := Option.some.inj h
    obtain ⟨earlier, p, hheard, hparse⟩ := heard_of_firstAnswer final
    obtain ⟨hsrc, hdst⟩ := endpoints_of_firstAnswer final
    refine ⟨⟨p, ?_, hparse⟩, hsrc, hdst, fun hcmd => ⟨challenge, _, rfl, hcmd⟩⟩
    simp only [tryEvents, List.mem_append, List.mem_cons, hheard]
    simp

theorem runEvents_answer {request answer : IoFrame} {tries : ℕ} {sends : List Bool}
    {windows : List Window}
    (h : (reachedOutcomes request tries sends windows).findSome? TryOutcome.answer? = some answer)
    (freqHz preambleLen : ℕ) :
    (∃ p, .rx p ∈ engine.runEvents request freqHz preambleLen tries sends windows ∧
        parse p.data = some answer) ∧
      answer.src = request.dst ∧ answer.dst = request.src ∧
      (answer.cmd = cmdChallengeReq →
        ∃ o ∈ reachedOutcomes request tries sends windows, ChallengedTwice o) := by
  induction tries generalizing sends windows with
  | zero => simp [reachedOutcomes] at h
  | succ tries ih =>
    unfold reachedOutcomes at h ⊢
    unfold runEvents
    dsimp only at h ⊢
    cases hanswer : (TryOutcome.of request sends windows).answer? with
    | some a =>
      obtain rfl : a = answer := by simpa [hanswer] using h
      obtain ⟨⟨p, hmem, hparse⟩, hsrc, hdst, htwice⟩ :=
        engine.tryEvents_answer hanswer freqHz preambleLen
      exact ⟨⟨p, List.mem_append_left _ hmem, hparse⟩, hsrc, hdst,
        fun hcmd => ⟨_, List.mem_cons_self, htwice hcmd⟩⟩
    | none =>
      simp only [hanswer, Option.isSome_none, Bool.false_eq_true, if_false] at h ⊢
      rw [List.findSome?_cons, hanswer] at h
      obtain ⟨⟨p, hmem, hparse⟩, hsrc, hdst, htwice⟩ := ih h
      refine ⟨⟨p, List.mem_append_right _ hmem, hparse⟩, hsrc, hdst, fun hcmd => ?_⟩
      obtain ⟨o, ho, htwice'⟩ := htwice hcmd
      exact ⟨o, List.mem_cons_of_mem _ ho, htwice'⟩

theorem findSome?_answer_of_mem {request answer : IoFrame} {tries : ℕ} {sends : List Bool}
    {windows : List Window} {o : TryOutcome}
    (ho : o ∈ reachedOutcomes request tries sends windows) (h : o.answer? = some answer) :
    (reachedOutcomes request tries sends windows).findSome? TryOutcome.answer? = some answer := by
  induction tries generalizing sends windows with
  | zero => simp [reachedOutcomes] at ho
  | succ tries ih =>
    unfold reachedOutcomes at ho ⊢
    dsimp only at ho ⊢
    cases hanswer : (TryOutcome.of request sends windows).answer? with
    | some a =>
      simp only [hanswer, Option.isSome_some, if_true, List.mem_singleton] at ho ⊢
      rw [ho, hanswer] at h
      rw [List.findSome?_cons, hanswer]
      exact h
    | none =>
      simp only [hanswer, Option.isSome_none, Bool.false_eq_true, if_false, List.mem_cons] at ho ⊢
      rw [List.findSome?_cons, hanswer]
      rcases ho with rfl | ho
      · rw [hanswer] at h
        exact absurd h (by simp)
      · exact ih ho

theorem outcomes_answer {request answer : IoFrame} {s : EngineState}
    (h : (outcomes request s).findSome? TryOutcome.answer? = some answer) (freqHz : ℕ) :
    (∃ p, .rx p ∈ engine.exchangeEvents request freqHz s ∧ parse p.data = some answer) ∧
      answer.src = request.dst ∧ answer.dst = request.src ∧
      (answer.cmd = cmdChallengeReq → ∃ o ∈ outcomes request s, ChallengedTwice o) := by
  unfold outcomes at h ⊢
  unfold exchangeEvents
  split at h
  · rename_i hserial
    simp only [hserial, if_true]
    exact engine.runEvents_answer h freqHz (engine.requestPreamble request)
  · simp at h

/-- An exchange is sound unless a device that got our proof answers with another challenge. -/
theorem sendAndReceive_sound_iff (request response : IoFrame) (freqHz : ℕ) (s : EngineState) :
    engine.SoundExchange request response freqHz s ↔
      ∀ o ∈ outcomes request s, ¬ChallengedTwice o := by
  obtain ⟨hsuccess, hanswer, htrace, -⟩ := engine.sendAndReceive_eq request response freqHz s
  unfold SoundExchange
  simp only [newEvents_of_trace htrace, hsuccess, hanswer]
  constructor
  · rintro ⟨hsound, -⟩ o ho ⟨challenge, answer, rfl, hcmd⟩
    have hfind : (outcomes request s).findSome? TryOutcome.answer? = some answer := by
      unfold outcomes at ho ⊢
      split at ho
      · rename_i hserial
        rw [if_pos hserial]
        exact findSome?_answer_of_mem ho rfl
      · exact absurd ho List.not_mem_nil
    rw [hfind] at hsound
    exact (hsound rfl).2.2.2 hcmd
  · intro hnot
    cases hfind : (outcomes request s).findSome? TryOutcome.answer? with
    | none => exact ⟨fun h => absurd h (by simp), fun _ => rfl⟩
    | some answer =>
      refine ⟨fun _ => ?_, fun h => absurd h (by simp)⟩
      obtain ⟨hheard, hsrc, hdst, htwice⟩ := engine.outcomes_answer hfind freqHz
      refine ⟨hheard, hsrc, hdst, fun hcmd => ?_⟩
      obtain ⟨o, ho, htwice'⟩ := htwice hcmd
      exact hnot o ho htwice'

def challengedTwiceScript : RadioScript where
  sends := [true, true]
  windows :=
    [oneFrame (deviceFrame cmdChallengeReq [1, 2, 3, 4, 5, 6]),
      oneFrame (deviceFrame cmdChallengeReq [1, 2, 3, 4, 5, 6])]
  challenges := []
  rssis := []

theorem repeated_challenge_taken_as_answer :
    ¬sampleEngine.SoundExchange statusRequest .zero freqCh2
      { script := challengedTwiceScript } := by
  intro h
  obtain ⟨hsuccess, hanswer, -⟩ := sampleEngine.sendAndReceive_eq statusRequest .zero freqCh2
    { script := challengedTwiceScript }
  unfold SoundExchange at h
  dsimp only at h
  rw [hsuccess, hanswer] at h
  have hcmd := (h.1 (by decide +kernel)).2.2.2
  exact hcmd (by decide +kernel)

/-! ## Proofs of key knowledge -/

def lastPacket (events : List RadioEvent) : Option RadioRxPacket :=
  events.reverse.findSome? fun
    | .rx packet => some packet
    | .tx _ _ _ _ => none

@[simp] theorem lastPacket_concat_rx (events : List RadioEvent) (packet : RadioRxPacket) :
    lastPacket (events ++ [.rx packet]) = some packet := by
  simp [lastPacket]

@[simp] theorem lastPacket_concat_tx (events : List RadioEvent) (frame : IoFrame)
    (freqHz preambleLen : ℕ) (sent : Bool) :
    lastPacket (events ++ [.tx frame freqHz preambleLen sent]) = lastPacket events := by
  simp [lastPacket]

/-- A transmitted 0x3D answers the packet received last, a challenge of six bytes from the peer of
the request. -/
def AnswersChallenge (request : IoFrame) (before : List RadioEvent) : RadioEvent → Prop
  | .tx frame _ _ true =>
    frame.cmd = cmdChallengeResp →
      ∃ p challenge, lastPacket before = some p ∧ parse p.data = some challenge ∧
        challenge.cmd = cmdChallengeReq ∧ challenge.src = request.dst ∧
        challenge.dst = request.src ∧ challenge.dataLen = hmacSize ∧
        frame.payload =
          (createHmac (transcript request) (hmacField challenge) engine.systemKey).toList
  | _ => True

/-- Every 0x3D of an exchange answers a well-formed challenge. -/
def ProvesToChallenger (request response : IoFrame) (freqHz : ℕ) (s : EngineState) : Prop :=
  Justified (engine.AnswersChallenge request)
    (newEvents s (engine.sendAndReceive request response freqHz s).2.2)

/-- The challenge that a transmitted proof answered. -/
def provedTo? : TryOutcome → Option IoFrame
  | .unanswered challenge | .proved challenge _ => some challenge
  | _ => none

/-- The request went out and is itself a 0x3D, or a challenge of another length was answered. -/
def ProvesToOther (request : IoFrame) (outcome : TryOutcome) : Prop :=
  (request.cmd = cmdChallengeResp ∧ outcome ≠ .refused) ∨
    ∃ challenge, provedTo? outcome = some challenge ∧ challenge.dataLen ≠ hmacSize

theorem justified_asked {request : IoFrame} (h : request.cmd ≠ cmdChallengeResp)
    (freqHz preambleLen : ℕ) (windows : List Window) (earlier : List RadioEvent) :
    Justified (fun before => engine.AnswersChallenge request (earlier ++ before))
      (tryEvents.asked request freqHz preambleLen windows) := by
  unfold tryEvents.asked tryEvents.heard
  rw [justified_cons]
  refine ⟨fun hcmd => absurd hcmd h, ?_⟩
  exact justified_map fun _ _ => trivial

theorem answersChallenge_proof_iff {request challenge : IoFrame} {windows : List Window}
    (first : firstAnswer request (windows.head?.getD []) = some challenge)
    (cmd : challenge.cmd = cmdChallengeReq) (freqHz preambleLen : ℕ)
    (earlier : List RadioEvent) :
    engine.AnswersChallenge request
        (earlier ++ tryEvents.asked request freqHz preambleLen windows)
        (tryEvents.proof engine request freqHz challenge true) ↔
      challenge.dataLen = hmacSize := by
  obtain ⟨before, p, hheard, hparse⟩ := heard_of_firstAnswer first
  obtain ⟨hsrc, hdst⟩ := endpoints_of_firstAnswer first
  have hproof := engine.proofOf_isCommand request challenge
  have hlast : lastPacket (earlier ++ tryEvents.asked request freqHz preambleLen windows) =
      some p := by
    rw [tryEvents.asked, hheard, ← List.cons_append, ← List.append_assoc]
    exact lastPacket_concat_rx _ _
  constructor
  · intro h
    obtain ⟨p', challenge', hlast', hparse', -, -, -, hlen, -⟩ := h hproof.cmd_eq
    rw [hlast, Option.some.injEq] at hlast'
    rw [← hlast', hparse, Option.some.injEq] at hparse'
    rw [hparse']
    exact hlen
  · intro hlen _
    exact ⟨p, challenge, hlast, hparse, cmd, hsrc, hdst, hlen, hproof.payload_eq⟩

theorem justified_tryEvents_iff {request : IoFrame} (hrequest : request.cmd ≠ cmdChallengeResp)
    (freqHz preambleLen : ℕ) (sends : List Bool) (windows : List Window)
    (earlier : List RadioEvent) :
    Justified (fun before => engine.AnswersChallenge request (earlier ++ before))
        (engine.tryEvents request freqHz preambleLen windows
          (TryOutcome.of request sends windows)) ↔
      ¬ProvesToOther request (TryOutcome.of request sends windows) := by
  have hasked := engine.justified_asked hrequest freqHz preambleLen windows earlier
  have hfollows := TryOutcome.follows_of request sends windows
  have hproved : ∀ {challenge : IoFrame},
      firstAnswer request (windows.head?.getD []) = some challenge →
      challenge.cmd = cmdChallengeReq →
      (Justified (fun before => engine.AnswersChallenge request (earlier ++ before))
        (tryEvents.asked request freqHz preambleLen windows ++
          tryEvents.proof engine request freqHz challenge true ::
            tryEvents.heard request (windows.tail.head?.getD [])) ↔
        ¬(challenge.dataLen ≠ hmacSize)) := by
    intro challenge first cmd
    rw [justified_append, justified_cons, not_not,
      ← engine.answersChallenge_proof_iff first cmd freqHz preambleLen earlier]
    simp only [List.append_nil]
    constructor
    · intro h
      exact h.2.1
    · intro h
      exact ⟨hasked, h, justified_map fun _ _ => trivial⟩
  -- a proof on the air is the only event that can break the rule
  generalize TryOutcome.of request sends windows = outcome at hfollows ⊢
  cases hfollows with
  | refused =>
    simp [tryEvents, justified_singleton, AnswersChallenge, ProvesToOther, provedTo?, hrequest]
  | silent => simpa [tryEvents, ProvesToOther, provedTo?, hrequest] using hasked
  | direct first cmd => simpa [tryEvents, ProvesToOther, provedTo?, hrequest] using hasked
  | @proofRefused challenge =>
    have hrefused : Justified (fun before => engine.AnswersChallenge request (earlier ++ before))
        (tryEvents.asked request freqHz preambleLen windows ++
          [tryEvents.proof engine request freqHz challenge false]) := by
      rw [justified_append, justified_singleton]
      exact ⟨hasked, trivial⟩
    simpa [tryEvents, ProvesToOther, provedTo?, hrequest] using hrefused
  | unanswered first cmd =>
    simpa [tryEvents, ProvesToOther, provedTo?, hrequest] using hproved first cmd
  | proved first cmd final =>
    simpa [tryEvents, ProvesToOther, provedTo?, hrequest] using hproved first cmd

/-- An answered try is the last one, so the tries of a run are judged one by one. -/
theorem justified_runEvents_iff {request : IoFrame} (hrequest : request.cmd ≠ cmdChallengeResp)
    (freqHz preambleLen tries : ℕ) (sends : List Bool) (windows : List Window)
    (earlier : List RadioEvent) :
    Justified (fun before => engine.AnswersChallenge request (earlier ++ before))
        (engine.runEvents request freqHz preambleLen tries sends windows) ↔
      ∀ o ∈ reachedOutcomes request tries sends windows, ¬ProvesToOther request o := by
  induction tries generalizing sends windows earlier with
  | zero => simp [runEvents, reachedOutcomes, justified_nil]
  | succ tries ih =>
    unfold runEvents reachedOutcomes
    dsimp only
    have htry := engine.justified_tryEvents_iff hrequest freqHz preambleLen sends windows earlier
    rw [justified_append, htry, List.forall_mem_cons]
    apply and_congr_right'
    split
    · simp [justified_nil]
    · simp only [← List.append_assoc]
      exact ih _ _ _

/-- A request that is itself a 0x3D goes out before anything was received. -/
theorem not_justified_runEvents {request : IoFrame} (hrequest : request.cmd = cmdChallengeResp)
    (freqHz preambleLen : ℕ) {tries : ℕ} {sends : List Bool} {windows : List Window}
    {earlier : List RadioEvent} (hearlier : lastPacket earlier = none) {o : TryOutcome}
    (ho : o ∈ reachedOutcomes request tries sends windows) (hsent : o ≠ .refused) :
    ¬Justified (fun before => engine.AnswersChallenge request (earlier ++ before))
      (engine.runEvents request freqHz preambleLen tries sends windows) := by
  induction tries generalizing sends windows earlier with
  | zero => simp [reachedOutcomes] at ho
  | succ tries ih =>
    unfold reachedOutcomes at ho
    unfold runEvents
    dsimp only at ho ⊢
    rw [justified_append]
    generalize TryOutcome.of request sends windows = outcome at ho
    by_cases hout : outcome = .refused
    · subst hout
      simp only [TryOutcome.answer?, Option.isSome_none, Bool.false_eq_true, if_false,
        List.mem_cons] at ho ⊢
      rcases ho with rfl | ho
      · exact absurd rfl hsent
      · rintro ⟨-, hrest⟩
        simp only [← List.append_assoc] at hrest
        refine ih ?_ ho hrest
        rw [tryEvents, lastPacket_concat_tx]
        exact hearlier
    · rintro ⟨htry, -⟩
      have hfirst : ∃ rest, engine.tryEvents request freqHz preambleLen windows outcome =
          .tx request freqHz preambleLen true :: rest := by
        cases outcome with
        | refused => exact absurd rfl hout
        | silent | direct => exact ⟨_, rfl⟩
        | proofRefused | unanswered | proved =>
          rw [tryEvents, tryEvents.asked, List.cons_append]
          exact ⟨_, rfl⟩
      obtain ⟨rest, hrest⟩ := hfirst
      rw [hrest, justified_cons, List.append_nil] at htry
      obtain ⟨p, challenge, hlast, -⟩ := htry.1 hrequest
      rw [hearlier] at hlast
      exact absurd hlast (by simp)

theorem justified_runEvents_of_refused {request : IoFrame} (freqHz preambleLen : ℕ) {tries : ℕ}
    {sends : List Bool} {windows : List Window} (earlier : List RadioEvent)
    (h : ∀ o ∈ reachedOutcomes request tries sends windows, o = .refused) :
    Justified (fun before => engine.AnswersChallenge request (earlier ++ before))
      (engine.runEvents request freqHz preambleLen tries sends windows) := by
  induction tries generalizing sends windows earlier with
  | zero => exact justified_nil _
  | succ tries ih =>
    unfold reachedOutcomes at h
    unfold runEvents
    dsimp only at h ⊢
    rw [List.forall_mem_cons] at h
    obtain ⟨hout, hrest⟩ := h
    rw [hout] at hrest ⊢
    rw [justified_append]
    constructor
    · rw [tryEvents, justified_singleton]
      trivial
    · simp only [TryOutcome.answer?, Option.isSome_none, Bool.false_eq_true, if_false] at hrest ⊢
      simp only [← List.append_assoc]
      exact ih _ hrest

/-- Every 0x3D answers a well-formed challenge unless a reached try answered a challenge of another
length, or the request is itself a 0x3D that goes out. -/
theorem sendAndReceive_proves_to_challenger_iff (request response : IoFrame) (freqHz : ℕ)
    (s : EngineState) :
    engine.ProvesToChallenger request response freqHz s ↔
      ∀ o ∈ outcomes request s, ¬ProvesToOther request o := by
  obtain ⟨-, -, htrace, -⟩ := engine.sendAndReceive_eq request response freqHz s
  unfold ProvesToChallenger
  rw [newEvents_of_trace htrace]
  unfold exchangeEvents outcomes
  split
  · have hnil : engine.AnswersChallenge request =
        fun before => engine.AnswersChallenge request ([] ++ before) := rfl
    by_cases hrequest : request.cmd = cmdChallengeResp
    · have hsent : ∀ o : TryOutcome, ProvesToOther request o ↔ o ≠ .refused := by
        intro o
        constructor
        · rintro (⟨-, h⟩ | ⟨challenge, h, -⟩)
          · exact h
          · rintro rfl
            exact absurd h (by simp [provedTo?])
        · intro h
          exact .inl ⟨hrequest, h⟩
      simp only [hsent, not_not]
      constructor
      · intro h o ho
        by_contra hne
        rw [hnil] at h
        exact engine.not_justified_runEvents hrequest _ _ rfl ho hne h
      · intro h
        exact engine.justified_runEvents_of_refused _ _ [] h
    · rw [hnil]
      exact engine.justified_runEvents_iff hrequest _ _ _ _ _ _
  · simp [justified_nil]

def truncatedChallengeScript : RadioScript where
  sends := [true, true]
  windows := [oneFrame (deviceFrame cmdChallengeReq [1, 2, 3])]
  challenges := []
  rssis := []

theorem truncated_challenge_answered :
    ¬sampleEngine.ProvesToChallenger statusRequest .zero freqCh2
      { script := truncatedChallengeScript } := by
  intro h
  obtain ⟨-, -, htrace, -⟩ := sampleEngine.sendAndReceive_eq statusRequest .zero freqCh2
    { script := truncatedChallengeScript }
  let challenge := (parse (deviceFrame cmdChallengeReq [1, 2, 3])).getD .zero
  have hevents : sampleEngine.exchangeEvents statusRequest freqCh2
      { script := truncatedChallengeScript } =
      [.tx statusRequest freqCh2 longPreamble true,
        .rx { data := deviceFrame cmdChallengeReq [1, 2, 3] },
        .tx (sampleEngine.proofOf statusRequest challenge) freqCh2 12 true,
        .tx statusRequest freqCh2 longPreamble false,
        .tx statusRequest freqCh2 longPreamble false] := rfl
  unfold ProvesToChallenger at h
  rw [newEvents_of_trace htrace, hevents] at h
  let before : List RadioEvent :=
    [.tx statusRequest freqCh2 longPreamble true,
      .rx { data := deviceFrame cmdChallengeReq [1, 2, 3] }]
  obtain ⟨p, c, hlast, hparse, -, -, -, hlen, -⟩ :=
    h before (.tx (sampleEngine.proofOf statusRequest challenge) freqCh2 12 true)
      [.tx statusRequest freqCh2 longPreamble false, .tx statusRequest freqCh2 longPreamble false]
      rfl (sampleEngine.proofOf_isCommand statusRequest challenge).cmd_eq
  obtain rfl := Option.some.inj hlast
  have hshort : (parse (deviceFrame cmdChallengeReq [1, 2, 3])).map IoFrame.dataLen = some 3 := by
    decide +kernel
  rw [hparse, Option.map_some, hlen] at hshort
  exact absurd hshort (by decide)

/-! ## Inbound authentication -/

theorem payload_of_dataLen {f : IoFrame} (h : f.dataLen = hmacSize) :
    f.payload = (hmacField f).toList := by
  rw [IoFrame.payload, h]
  apply List.ext_getElem
  · simp [hmacSize]
  · intro i hi _
    simp [hmacField]

def AuthenticatesRequester (request : IoFrame) (freqHz : ℕ) (s : EngineState) : Prop :=
  let result := engine.authenticateRequest request freqHz s
  result.1 = true →
    ∃ challenge p rx, newEvents s result.2 = [.tx challenge freqHz shortPreamble true, .rx p] ∧
      challenge.cmd = cmdChallengeReq ∧ parse p.data = some rx ∧ rx.cmd = cmdChallengeResp ∧
      rx.src = request.src ∧ rx.dst = engine.nodeId ∧ rx.dataLen = hmacSize ∧
      rx.payload =
        (createHmac (transcript request) (hmacField challenge) engine.systemKey).toList

/-- The challenge goes out and the packet received next carries its code in a 0x3D between other
nodes or of another length. -/
def AnsweredElsewhere (request : IoFrame) (s : EngineState) : Prop :=
  s.script.sends.head?.getD false = true ∧
    ∃ p rx, s.window.head?.bind Slice.packet = some p ∧ parse p.data = some rx ∧
      rx.cmd = cmdChallengeResp ∧
      hmacField rx = createHmac (transcript request) s.nextChallenge engine.systemKey ∧
      ¬(rx.src = request.src ∧ rx.dst = engine.nodeId ∧ rx.dataLen = hmacSize)

theorem waitForPacket_eq (s : EngineState) :
    (waitForPacket s).1 = s.window.head?.bind Slice.packet ∧
      (waitForPacket s).2.trace =
        s.trace ++ ((s.window.head?.bind Slice.packet).map RadioEvent.rx).toList := by
  unfold waitForPacket
  cases s.window.head?.bind Slice.packet with
  | none => exact ⟨rfl, (List.append_nil _).symm⟩
  | some packet => exact ⟨rfl, rfl⟩

def AcceptsProof (request : IoFrame) (challenge : Challenge) (packet : RadioRxPacket) : Prop :=
  ∃ rx, parse packet.data = some rx ∧ rx.cmd = cmdChallengeResp ∧
    hmacField rx = createHmac (transcript request) challenge engine.systemKey

theorem acceptsProof_iff {request challenge rx : IoFrame} {challengeBytes : Challenge}
    {packet : RadioRxPacket} (hparse : parse packet.data = some rx)
    (hfield : hmacField challenge = challengeBytes) :
    engine.AcceptsProof request challengeBytes packet ↔
      frameIsChallengeResponse rx = true ∧
        verifyHmac (transcript request) (hmacField rx) (hmacField challenge)
          engine.systemKey = true := by
  simp [AcceptsProof, hparse, frameIsChallengeResponse, verifyHmac, hfield]

def answerHeard (s : EngineState) : Option RadioRxPacket :=
  if s.script.sends.head?.getD false then s.window.head?.bind Slice.packet else none

theorem authenticateRequest_course (request : IoFrame) (freqHz : ℕ) (s : EngineState) :
    ∃ challenge, createChallengeReq request.src engine.nodeId s.nextChallenge = some challenge ∧
      ((engine.authenticateRequest request freqHz s).1 = true ↔
        ∃ p, answerHeard s = some p ∧ engine.AcceptsProof request s.nextChallenge p) ∧
      (engine.authenticateRequest request freqHz s).2.trace =
        s.trace ++ .tx challenge freqHz shortPreamble (s.script.sends.head?.getD false) ::
          (answerHeard s).toList.map .rx := by
  obtain ⟨challenge, hchallenge⟩ :=
    exists_createChallengeReq request.src engine.nodeId s.nextChallenge
  have hbuilt := buildFrame_isCommand hchallenge
  have hfield : hmacField challenge = s.nextChallenge := hmacField_of_payload hbuilt.data_eq
  refine ⟨challenge, hchallenge, ?_⟩
  unfold authenticateRequest answerHeard
  dsimp only
  generalize hs₁ : (s.recordDebug (.inbound .txChallenge) 1 true).dropChallenge = s₁
  have hnext : (s.recordDebug (.inbound .txChallenge) 1 true).nextChallenge = s.nextChallenge := rfl
  have hcourse₁ : s₁.course = { s.course with challenges := s.course.challenges.tail } := by
    rw [← hs₁]
    rfl
  obtain ⟨hsent, hcourse₂⟩ := engine.transmitFrame_eq hbuilt.serialize_isSome freqHz
    shortPreamble s₁
  rw [hcourse₁] at hsent hcourse₂
  simp only [hnext, hchallenge]
  generalize engine.transmitFrame challenge freqHz shortPreamble s₁ = sending at hsent hcourse₂
  obtain ⟨sent, s₂⟩ := sending
  obtain rfl : sent = s.script.sends.head?.getD false := hsent
  have htrace₂ : s₂.trace =
      s.trace ++ [.tx challenge freqHz shortPreamble (s.script.sends.head?.getD false)] :=
    congrArg RadioCourse.trace hcourse₂
  have hwindow₂ : s₂.window = s.window :=
    congrArg (fun c : RadioCourse => c.windows.head?.getD []) hcourse₂
  generalize s.script.sends.head?.getD false = sent at htrace₂ ⊢
  cases sent with
  | false => exact ⟨by simp, htrace₂⟩
  | true =>
    dsimp only
    generalize hs₃ : s₂.recordDebug (.inbound .waitChallengeResponse) 1 true = s₃
    have hcourse₃ : s₃.course = s₂.course := by rw [← hs₃, EngineState.course_recordDebug]
    have hwindow₃ : s₃.window = s₂.window :=
      congrArg (fun c : RadioCourse => c.windows.head?.getD []) hcourse₃
    have htrace₃ : s₃.trace = s₂.trace := congrArg RadioCourse.trace hcourse₃
    obtain ⟨hpacket, hevents⟩ := waitForPacket_eq s₃
    rw [hwindow₃, hwindow₂] at hpacket hevents
    rw [htrace₃, htrace₂, List.append_assoc] at hevents
    generalize waitForPacket s₃ = waited at hpacket hevents
    obtain ⟨packet, s₄⟩ := waited
    obtain rfl : packet = s.window.head?.bind Slice.packet := hpacket
    rw [if_pos rfl]
    generalize s.window.head?.bind Slice.packet = packet at hevents ⊢
    cases packet with
    | none => exact ⟨by simp, hevents⟩
    | some p =>
      -- the judgement leaves the trace alone
      dsimp only
      cases hparse : parse p.data with
      | none => exact ⟨by simp [AcceptsProof, hparse], hevents⟩
      | some rx =>
        have haccepts : engine.AcceptsProof request s.nextChallenge p ↔ _ :=
          engine.acceptsProof_iff hparse hfield
        dsimp only
        by_cases hcmd : frameIsChallengeResponse rx = true
        · by_cases hhmac : verifyHmac (transcript request) (hmacField rx) (hmacField challenge)
            engine.systemKey = true
          · rw [if_neg (by simp [hcmd]), if_neg (by simp [hhmac])]
            exact ⟨iff_of_true rfl ⟨p, rfl, haccepts.2 ⟨hcmd, hhmac⟩⟩, hevents⟩
          · rw [if_neg (by simp [hcmd]), if_pos (by simp [hhmac])]
            exact ⟨by simp [hhmac, haccepts], hevents⟩
        · rw [if_pos (by simp [hcmd])]
          exact ⟨by simp [hcmd, haccepts], hevents⟩

/-- The request is authenticated when the challenge goes out and the next packet is accepted. -/
theorem authenticateRequest_iff (request : IoFrame) (freqHz : ℕ) (s : EngineState) :
    ((engine.authenticateRequest request freqHz s).1 = true ↔
      s.script.sends.head?.getD false = true ∧
        ∃ p, s.window.head?.bind Slice.packet = some p ∧
          engine.AcceptsProof request s.nextChallenge p) ∧
      ((engine.authenticateRequest request freqHz s).1 = true →
        ∃ challenge p, createChallengeReq request.src engine.nodeId s.nextChallenge =
            some challenge ∧
          s.window.head?.bind Slice.packet = some p ∧
          newEvents s (engine.authenticateRequest request freqHz s).2 =
            [.tx challenge freqHz shortPreamble true, .rx p]) := by
  obtain ⟨challenge, hchallenge, hiff, htrace⟩ :=
    engine.authenticateRequest_course request freqHz s
  rw [hiff]
  unfold answerHeard at htrace ⊢
  cases hsent : s.script.sends.head?.getD false with
  | false => simp
  | true =>
    simp only [hsent, if_true, true_and, iff_self] at htrace ⊢
    rintro ⟨p, hpacket, -⟩
    rw [hpacket] at htrace
    exact ⟨challenge, p, hchallenge, hpacket, newEvents_of_trace htrace⟩

/-- Authentication is bound to the requester unless the code comes in a 0x3D between other nodes or
of another length. -/
theorem authenticateRequest_bound_iff (request : IoFrame) (freqHz : ℕ) (s : EngineState) :
    engine.AuthenticatesRequester request freqHz s ↔ ¬engine.AnsweredElsewhere request s := by
  obtain ⟨hiff, hevents⟩ := engine.authenticateRequest_iff request freqHz s
  unfold AuthenticatesRequester AnsweredElsewhere
  dsimp only
  constructor
  · rintro hbound ⟨hsent, p, rx, hpacket, hparse, hcmd, hhmac, hwrong⟩
    have htrue := hiff.2 ⟨hsent, p, hpacket, rx, hparse, hcmd, hhmac⟩
    obtain ⟨_, p', -, hpacket', hnew⟩ := hevents htrue
    obtain ⟨challenge, p'', rx', hnew', -, hparse', -, hsrc, hdst, hlen, -⟩ := hbound htrue
    obtain rfl : p' = p := Option.some.inj (hpacket'.symm.trans hpacket)
    rw [hnew] at hnew'
    obtain rfl : p' = p'' := RadioEvent.rx.inj (List.cons.inj (List.cons.inj hnew').2).1
    obtain rfl : rx = rx' := Option.some.inj (hparse.symm.trans hparse')
    exact hwrong ⟨hsrc, hdst, hlen⟩
  · intro hnot htrue
    obtain ⟨hsent, p, hpacket, rx, hparse, hcmd, hhmac⟩ := hiff.1 htrue
    obtain ⟨challenge, p', hchallenge, hpacket', hnew⟩ := hevents htrue
    obtain rfl : p' = p := Option.some.inj (hpacket'.symm.trans hpacket)
    have hright : rx.src = request.src ∧ rx.dst = engine.nodeId ∧ rx.dataLen = hmacSize := by
      by_contra hwrong
      exact hnot ⟨hsent, p', rx, hpacket, hparse, hcmd, hhmac, hwrong⟩
    obtain ⟨hsrc, hdst, hlen⟩ := hright
    have hbuilt := buildFrame_isCommand hchallenge
    refine ⟨challenge, p', rx, hnew, hbuilt.cmd_eq, hparse, hcmd, hsrc, hdst, hlen, ?_⟩
    rw [payload_of_dataLen hlen, hhmac, hmacField_of_payload hbuilt.data_eq]

def statusUpdate : IoFrame :=
  (parse (deviceFrame cmdStatusUpdate [1, 2, 3])).getD .zero

theorem createHmac_statusUpdate :
    createHmac (transcript statusUpdate) (.replicate 6 0x05) sampleEngine.systemKey =
      #v[0xFD, 0x44, 0x07, 0x9F, 0xDD, 0x18] := by
  decide +kernel

def overheardScript : RadioScript where
  sends := [true]
  windows :=
    [oneFrame (wireFrame 0x0E sampleEngine.nodeId (.replicate 3 0x99) cmdChallengeResp
      [0xFD, 0x44, 0x07, 0x9F, 0xDD, 0x18])]
  challenges := [.replicate 6 0x05]
  rssis := []

def overheardProof : IoFrame :=
  (parse (wireFrame 0x0E sampleEngine.nodeId (.replicate 3 0x99) cmdChallengeResp
    [0xFD, 0x44, 0x07, 0x9F, 0xDD, 0x18])).getD .zero

/-- The proof of another node authenticates the device. -/
theorem proof_of_other_node_accepted :
    ¬sampleEngine.AuthenticatesRequester statusUpdate freqCh2 { script := overheardScript } := by
  intro h
  have htrue : (sampleEngine.authenticateRequest statusUpdate freqCh2
      { script := overheardScript }).1 = true := by
    rw [(sampleEngine.authenticateRequest_iff statusUpdate freqCh2 _).1]
    exact ⟨rfl, _, rfl, overheardProof, rfl, rfl, createHmac_statusUpdate.symm⟩
  obtain ⟨challenge, p, rx, hnew, -, hparse, -, hsrc, -⟩ := h htrue
  obtain ⟨_, q, -, hpacket, hnew'⟩ :=
    (sampleEngine.authenticateRequest_iff statusUpdate freqCh2
      { script := overheardScript }).2 htrue
  rw [hnew'] at hnew
  obtain rfl : q = p := RadioEvent.rx.inj (List.cons.inj (List.cons.inj hnew).2).1
  have hoverheard : ((overheardScript.windows.head?.getD []).head?.bind Slice.packet).bind
      (fun packet => (parse packet.data).map IoFrame.src) = some (.replicate 3 0x99) := by
    decide +kernel
  have hq : ((overheardScript.windows.head?.getD []).head?.bind Slice.packet) = some q := hpacket
  rw [hq, Option.bind_some, hparse, Option.map_some, hsrc] at hoverheard
  exact absurd hoverheard (by decide +kernel)

end ExchangeEngine
end HomeIoControl
