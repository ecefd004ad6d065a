import HomeIoControl.PairingSafety

namespace HomeIoControl

/-! ## What the radio has left -/

/-- Which of the next frames the radio takes, and what the next waits bring. -/
structure RadioRest where
  sends : List Bool
  windows : List Window

def EngineState.rest (s : EngineState) : RadioRest := ⟨s.script.sends, s.script.windows⟩

namespace RadioRest

def ask (accept : IoFrame → Bool) (r : RadioRest) : Option IoFrame × RadioRest :=
  if r.sends.head?.getD false then
    ((r.windows.head?.getD []).firstAccepted accept, ⟨r.sends.tail, r.windows.tail⟩)
  else (none, ⟨r.sends.tail, r.windows⟩)

def askProved (accept : IoFrame → Bool) (r : RadioRest) : Option IoFrame × RadioRest :=
  match r.ask accept with
  | (none, r) => (none, r)
  | (some f, r) => if f.cmd = cmdChallengeReq then r.ask accept else (some f, r)

def tries (attempt : RadioRest → Option IoFrame × RadioRest) :
    ℕ → RadioRest → Option IoFrame × RadioRest
  | 0, r => (none, r)
  | left + 1, r =>
    match attempt r with
    | (some f, r) => (some f, r)
    | (none, r) => tries attempt left r

def confirming (answer : Option IoFrame × RadioRest) : Option IoFrame × RadioRest :=
  (answer.1.filter frameIsKeyConfirm, answer.2)

end RadioRest

/-! ## The confirmation of an attempt -/

namespace ExchangeEngine

variable (engine : ExchangeEngine)

def keyInitAgain (node : NodeId) (r : RadioRest) : Option IoFrame × RadioRest :=
  RadioRest.confirming (r.ask (keyChallengeLoop engine.nodeId node).accept)

/-- The key goes out to the node that has challenged. A radio with a slow turnaround answers no
further challenge. It sends the key-init again when the key is not confirmed. -/
def keyTransferAnswer (node : NodeId) (r : RadioRest) : Option IoFrame × RadioRest :=
  let fromNode (f : IoFrame) := frameMatchesNodes f node engine.nodeId
  if engine.hasFastTxRxTurnaround then
    RadioRest.confirming (RadioRest.tries (RadioRest.askProved fromNode) exchangeRetryCount r)
  else
    match RadioRest.confirming (RadioRest.tries (RadioRest.ask fromNode) exchangeRetryCount r) with
    | (some f, r) => (some f, r)
    | (none, r) => RadioRest.tries (engine.keyInitAgain node) pairingKeyInitResends r

/-- A key-init goes out. The node confirms it, or it challenges and the key goes out. -/
def keyInitAnswer (node : NodeId) (r : RadioRest) : Option IoFrame × RadioRest :=
  match r.ask (keyChallengeLoop engine.nodeId node).accept with
  | (none, r) => (none, r)
  | (some f, r) => if frameIsKeyConfirm f then (some f, r) else engine.keyTransferAnswer node r

/-- The confirmation that an attempt receives from the sender of the answer that it accepts. -/
def attemptConfirmation (w : PairingWorld) : Option IoFrame :=
  (engine.attemptAnswer w).bind fun (d, sends, windows) =>
    (RadioRest.tries (engine.keyInitAnswer d.src) engine.tuning.pairingKeyExchangeRetries.toNat
      ⟨sends, windows⟩).1

end ExchangeEngine

/-! ## The engine follows the script -/

structure FollowsScript (answer : Option IoFrame × RadioRest) (ok : Bool) (s : EngineState) : Prop where
  ok_eq : ok = answer.1.isSome
  rest_eq : s.rest = answer.2

theorem WaitLoop.run_rest (loop : WaitLoop) (w : Window) (rx : IoFrame) (s : EngineState) :
    (loop.run w rx s).state.rest = s.rest := by
  have hcourse := loop.run_course w rx s
  exact congrArg₂ RadioRest.mk (congrArg RadioCourse.sends hcourse)
    (congrArg RadioCourse.windows hcourse)

theorem waitForKeyChallenge_answer (own node : NodeId) (rx : IoFrame) (s : EngineState) :
    let result := waitForKeyChallenge own node rx s
    s.window.firstAccepted (keyChallengeLoop own node).accept =
        (if result.1 then some result.2.1 else none) ∧
      result.2.2.rest = s.dropWindow.rest := by
  have hrest := (keyChallengeLoop own node).run_rest s.window rx s.dropWindow
  have hcases := (keyChallengeLoop own node).run_cases s.window rx s.dropWindow
  unfold waitForKeyChallenge
  generalize (keyChallengeLoop own node).run s.window rx s.dropWindow = waited at hrest hcases
  dsimp only
  rcases hcases with ⟨hslice, hnone⟩ | ⟨slice, hslice, hsome⟩
  · rw [hslice]
    exact ⟨hnone, hrest⟩
  · rw [hslice]
    exact ⟨hsome, hrest⟩

namespace ExchangeEngine

variable (engine : ExchangeEngine)

section Transmitted
variable {engine} {frame : IoFrame} (h : (serialize frame frameMaxSize).isSome)
  {freqHz preambleLen : ℕ} {s s₁ : EngineState} (accept : IoFrame → Bool)
include h

theorem ask_of_refused (hsending : engine.transmitFrame frame freqHz preambleLen s = (false, s₁)) :
    s.rest.ask accept = (none, s₁.rest) := by
  obtain ⟨hsent, hcourse⟩ := engine.transmitFrame_eq h freqHz preambleLen s
  rw [hsending] at hsent hcourse
  have hrest : s₁.rest = ⟨s.rest.sends.tail, s.rest.windows⟩ :=
    congrArg₂ RadioRest.mk (congrArg RadioCourse.sends hcourse)
      (congrArg RadioCourse.windows hcourse)
  rw [RadioRest.ask, if_neg, hrest]
  exact fun hhead => Bool.noConfusion (hsent.trans hhead)

theorem ask_of_sent (hsending : engine.transmitFrame frame freqHz preambleLen s = (true, s₁)) :
    s.rest.ask accept = (s₁.window.firstAccepted accept, s₁.dropWindow.rest) := by
  obtain ⟨hsent, hcourse⟩ := engine.transmitFrame_eq h freqHz preambleLen s
  rw [hsending] at hsent hcourse
  have hsends : s₁.script.sends = s.script.sends.tail := congrArg RadioCourse.sends hcourse
  have hwindows : s₁.script.windows = s.script.windows := congrArg RadioCourse.windows hcourse
  have hrest : s₁.dropWindow.rest = ⟨s.rest.sends.tail, s.rest.windows.tail⟩ :=
    congrArg₂ RadioRest.mk hsends (congrArg List.tail hwindows)
  have hhead : s.rest.sends.head?.getD false = true := hsent.symm
  rw [RadioRest.ask, if_pos hhead, hrest, EngineState.window, hwindows]
  rfl

end Transmitted

/-! ## Exchanges -/

/-- A try of an exchange is the script's, whatever the request is. -/
theorem askProved_eq (request : IoFrame) (sends : List Bool) (windows : List Window) :
    RadioRest.askProved (frameMatchesExchangeEndpoints request) ⟨sends, windows⟩ =
      let outcome := TryOutcome.of request sends windows
      (outcome.answer?, ⟨sends.drop outcome.sendsUsed, windows.drop outcome.windowsUsed⟩) := by
  -- a try uses up what its outcome says
  have hused (outcome : TryOutcome) (answer : Option IoFrame) (r : RadioRest)
      (hanswer : outcome.answer? = answer) (hsends : sends.drop outcome.sendsUsed = r.sends)
      (hwindows : windows.drop outcome.windowsUsed = r.windows) :
      (answer, r) = (outcome.answer?, (⟨sends.drop outcome.sendsUsed,
        windows.drop outcome.windowsUsed⟩ : RadioRest)) := by
    rw [hanswer, hsends, hwindows]
  unfold RadioRest.askProved RadioRest.ask TryOutcome.of firstAnswer
  dsimp only
  cases sends.head?.getD false with
  | false => exact hused .refused _ _ rfl List.drop_one rfl
  | true =>
    simp only [Bool.not_true, Bool.false_eq_true, if_true, if_false]
    cases (windows.head?.getD []).firstAccepted (frameMatchesExchangeEndpoints request) with
    | none => exact hused .silent _ _ rfl List.drop_one List.drop_one
    | some first =>
      by_cases hcmd : first.cmd = cmdChallengeReq
      · simp only [hcmd, bne_self_eq_false, Bool.false_eq_true, if_true, if_false]
        cases sends.tail.head?.getD false with
        | false => exact hused (.proofRefused first) _ _ rfl (tail_tail_eq_drop sends).symm List.drop_one
        | true =>
          simp only [Bool.not_true, Bool.false_eq_true, if_true, if_false]
          cases (windows.tail.head?.getD []).firstAccepted
            (frameMatchesExchangeEndpoints request) with
          | none => exact hused (.unanswered first) _ _ rfl (tail_tail_eq_drop sends).symm (tail_tail_eq_drop windows).symm
          | some answer => exact hused (.proved first answer) _ _ rfl (tail_tail_eq_drop sends).symm (tail_tail_eq_drop windows).symm
      · simp only [hcmd, bne_iff_ne.2 hcmd, if_true, if_false]
        exact hused (.direct first) _ _ rfl List.drop_one List.drop_one

theorem exchangeTries_answer {request : IoFrame} (h : (serialize request frameMaxSize).isSome)
    (freqHz preambleLen tries tryIndex : ℕ) (s : EngineState) :
    let result := engine.exchangeTries request freqHz preambleLen tries tryIndex s
    (result.1, result.2.rest) =
      RadioRest.tries (RadioRest.askProved (frameMatchesExchangeEndpoints request)) tries s.rest := by
  induction tries generalizing tryIndex s with
  | zero => rfl
  | succ tries ih =>
    obtain ⟨hanswer, hcourse⟩ := engine.exchangeTry_eq h freqHz preambleLen tryIndex s
    have htry := askProved_eq request s.script.sends s.script.windows
    have hrest := congrArg₂ RadioRest.mk (congrArg RadioCourse.sends hcourse)
      (congrArg RadioCourse.windows hcourse)
    unfold exchangeTries RadioRest.tries
    generalize engine.exchangeTry request freqHz preambleLen tryIndex s = tried
      at hanswer hrest
    obtain ⟨answer, s'⟩ := tried
    have hround : RadioRest.askProved (frameMatchesExchangeEndpoints request) s.rest =
        (answer, s'.rest) := htry.trans (congrArg₂ Prod.mk hanswer.symm hrest.symm)
    rw [hround]
    cases answer with
    | some answer => rfl
    | none => exact ih (tryIndex + 1) s'

theorem sendAndReceive_answer {request : IoFrame} (h : (serialize request frameMaxSize).isSome)
    (response : IoFrame) (freqHz : ℕ) (s : EngineState) :
    let result := engine.sendAndReceive request response freqHz s
    FollowsScript (RadioRest.confirming (RadioRest.tries
      (RadioRest.askProved (frameMatchesExchangeEndpoints request)) exchangeRetryCount s.rest))
      (result.1 && frameIsKeyConfirm result.2.1) result.2.2 := by
  unfold sendAndReceive
  generalize hs' : s.mapStatus (fun status => status.resetDebug request.cmd) = s'
  have hrest : s'.rest = s.rest := by rw [← hs']; rfl
  have htries := engine.exchangeTries_answer h freqHz (engine.requestPreamble request)
    exchangeRetryCount 1 s'
  rw [hrest] at htries
  rw [← htries]
  dsimp only
  generalize engine.exchangeTries request freqHz _ exchangeRetryCount 1 s' = tried
  obtain ⟨answer, s''⟩ := tried
  cases answer with
  | none => exact ⟨rfl, rfl⟩
  | some answer =>
    refine ⟨?_, rfl⟩
    cases hconfirm : frameIsKeyConfirm answer <;> simp [RadioRest.confirming, hconfirm]

/-! ## The key exchange -/

theorem waitForKeyConfirm_answer {req : IoFrame} (h : (serialize req frameMaxSize).isSome)
    (tries : ℕ) (resp : IoFrame) (s : EngineState) :
    let result := engine.waitForKeyConfirm req tries resp s
    FollowsScript (RadioRest.confirming (RadioRest.tries
      (RadioRest.ask (frameMatchesExchangeEndpoints req)) tries s.rest)) result.1 result.2.2 := by
  induction tries generalizing resp s with
  | zero => exact ⟨rfl, rfl⟩
  | succ tries ih =>
    unfold waitForKeyConfirm RadioRest.tries
    cases hsending : engine.transmitFrame req freqCh2 engine.responsePreamble s with
    | mk sent s₁ =>
    cases sent with
    | false =>
      rw [ask_of_refused h _ hsending]
      exact ih resp s₁
    | true =>
      rw [ask_of_sent h _ hsending]
      dsimp only
      have hrest := (keyConfirmLoop req).run_rest s₁.window resp s₁.dropWindow
      have hcases := (keyConfirmLoop req).run_cases s₁.window resp s₁.dropWindow
      generalize (keyConfirmLoop req).run s₁.window resp s₁.dropWindow = waited at hrest hcases
      change _ ∨ ∃ slice, waited.slice = some slice ∧
        s₁.window.firstAccepted (frameMatchesExchangeEndpoints req) = some waited.rx at hcases
      rcases hcases with ⟨hslice, hnone⟩ | ⟨slice, hslice, hsome⟩
      · change s₁.window.firstAccepted (frameMatchesExchangeEndpoints req) = none at hnone
        rw [hslice, hnone, ← hrest]
        exact ih waited.rx waited.state
      · -- the first frame of the node decides
        rw [hslice, hsome, ← hrest]
        dsimp only
        cases hconfirm : frameIsKeyConfirm waited.rx with
        | true => exact ⟨by simp [RadioRest.confirming, hconfirm], rfl⟩
        | false => exact ⟨by simp [RadioRest.confirming, hconfirm], rfl⟩

theorem resendKeyInit_answer (resends : ℕ) (context : PairingContext) (s : EngineState)
    (h : (serialize context.keyInit frameMaxSize).isSome) :
    let result := engine.resendKeyInit resends context s
    FollowsScript (RadioRest.tries (engine.keyInitAgain context.device.nodeId) resends s.rest) result.1
      result.2.2 := by
  induction resends generalizing context s with
  | zero => exact ⟨rfl, rfl⟩
  | succ resends ih =>
    unfold resendKeyInit RadioRest.tries keyInitAgain
    cases hsending : engine.transmitFrame context.keyInit freqCh2 longPreamble s with
    | mk sent s₁ =>
    cases sent with
    | false =>
      rw [ask_of_refused h _ hsending]
      exact ih context s₁ h
    | true =>
      rw [ask_of_sent h _ hsending]
      obtain ⟨hanswer, hrest⟩ :=
        waitForKeyChallenge_answer engine.nodeId context.device.nodeId context.rx s₁
      dsimp only
      generalize waitForKeyChallenge engine.nodeId context.device.nodeId context.rx s₁ = waited
        at hanswer hrest
      obtain ⟨heard, rx, s₂⟩ := waited
      dsimp only at hanswer hrest ⊢
      rw [hanswer, ← hrest]
      cases hok : heard && frameIsKeyConfirm rx with
      | true =>
        obtain ⟨rfl, hconfirm⟩ := Bool.and_eq_true_iff.1 hok
        simp only [RadioRest.confirming, if_true, Option.filter_some, hconfirm]
        exact ⟨rfl, rfl⟩
      | false =>
        have hnone : (if heard then some rx else none).filter frameIsKeyConfirm = none := by
          cases heard <;> simp_all
        simp only [RadioRest.confirming, hnone, Bool.false_eq_true, if_false]
        exact ih { context with rx } s₂ h

theorem confirmKeyTransfer_answer {params : List UInt8} (context : PairingContext)
    (s : EngineState)
    (hreq : IsCommand context.req engine.nodeId context.device.nodeId cmdKeyTransfer params)
    (hinit : (serialize context.keyInit frameMaxSize).isSome) :
    let result := engine.confirmKeyTransfer context s
    FollowsScript (engine.keyTransferAnswer context.device.nodeId s.rest) result.1 result.2.2 := by
  have hendpoints : frameMatchesExchangeEndpoints context.req =
      fun f => frameMatchesNodes f context.device.nodeId engine.nodeId := by
    funext f
    rw [frameMatchesExchangeEndpoints, hreq.src_eq, hreq.dst_eq]
  unfold confirmKeyTransfer keyTransferAnswer
  dsimp only
  split
  · have hexchanged := engine.sendAndReceive_answer hreq.serialize_isSome context.resp freqCh2 s
    rw [hendpoints] at hexchanged
    exact hexchanged
  · have hconfirmed := engine.waitForKeyConfirm_answer hreq.serialize_isSome exchangeRetryCount
      context.resp s
    rw [hendpoints] at hconfirmed
    generalize RadioRest.confirming _ = answer at hconfirmed
    generalize engine.waitForKeyConfirm context.req exchangeRetryCount context.resp s = confirmed
      at hconfirmed
    obtain ⟨ok, resp, s'⟩ := confirmed
    obtain ⟨answer, r⟩ := answer
    obtain ⟨hok, rfl⟩ := hconfirmed
    cases answer with
    | some f =>
      obtain rfl : ok = true := hok
      exact ⟨rfl, rfl⟩
    | none =>
      -- the key-init goes out again, and what it brings decides
      obtain rfl : ok = false := hok
      exact engine.resendKeyInit_answer pairingKeyInitResends { context with resp } s' hinit

theorem transferKey_answer (context : PairingContext) (s : EngineState)
    (hinit : (serialize context.keyInit frameMaxSize).isSome) :
    let result := engine.transferKey context s
    FollowsScript (engine.keyTransferAnswer context.device.nodeId s.rest) result.1 result.2.2 := by
  obtain ⟨req, hreq⟩ : ∃ req, createKeyTransfer context.keyInit context.device.nodeId
      engine.nodeId engine.systemKey (hmacField context.rx) = some req :=
    exists_buildFrame _ _ _ _ _ _ (by simp [frameMaxDataSize])
  unfold transferKey
  dsimp only
  rw [hreq]
  dsimp only
  have hstart : ((s.setStage .txKeyTransfer 1 true).setStage .waitKeyConfirm 1 true).rest =
      s.rest := rfl
  rw [← hstart]
  exact engine.confirmKeyTransfer_answer { context with req } _ (buildFrame_isCommand hreq) hinit

theorem runKeyExchangePhase_answer (context : PairingContext) (s : EngineState) :
    let result := engine.runKeyExchangePhase context s
    FollowsScript (engine.keyInitAnswer context.device.nodeId s.rest) result.1 result.2.2 := by
  obtain ⟨keyInit, hkeyInit⟩ : ∃ keyInit,
      createKeyInit engine.nodeId context.device.nodeId = some keyInit :=
    exists_buildFrame _ _ _ _ _ _ (by simp)
  have hserial := (buildFrame_isCommand hkeyInit).serialize_isSome
  unfold runKeyExchangePhase keyInitAnswer
  dsimp only
  rw [hkeyInit]
  dsimp only
  have hstart : (s.setStage .txKeyInit 1 false).rest = s.rest := rfl
  rw [← hstart]
  cases hsending : engine.transmitFrame keyInit freqCh2 longPreamble
    (s.setStage .txKeyInit 1 false) with
  | mk sent s₁ =>
  cases sent with
  | false =>
    rw [ask_of_refused hserial _ hsending]
    exact ⟨rfl, rfl⟩
  | true =>
    rw [ask_of_sent hserial _ hsending]
    obtain ⟨hanswer, hrest⟩ := waitForKeyChallenge_answer engine.nodeId context.device.nodeId
      context.rx (s₁.setStage .waitKeyChallenge 1 true)
    change s₁.window.firstAccepted _ = _ at hanswer
    change _ = s₁.dropWindow.rest at hrest
    dsimp only
    generalize waitForKeyChallenge engine.nodeId context.device.nodeId context.rx
      (s₁.setStage .waitKeyChallenge 1 true) = waited at hanswer hrest
    obtain ⟨heard, rx, s₂⟩ := waited
    dsimp only at hanswer hrest ⊢
    rw [hanswer, ← hrest]
    cases heard with
    | false => exact ⟨rfl, rfl⟩
    | true =>
      dsimp only
      rw [if_pos rfl]
      dsimp only
      split
      · exact ⟨rfl, rfl⟩
      · exact engine.transferKey_answer { context with keyInit, rx } s₂ hserial

theorem runKeyExchanges_answer (retries : ℕ) (context : PairingContext) (s : EngineState) :
    let result := engine.runKeyExchanges retries context s
    FollowsScript (RadioRest.tries (engine.keyInitAnswer context.device.nodeId) retries s.rest) result.1
      result.2.2 := by
  induction retries generalizing context s with
  | zero => exact ⟨rfl, rfl⟩
  | succ retries ih =>
    have hphase := engine.runKeyExchangePhase_answer context s
    obtain ⟨_, _, -, hexchanged, -⟩ := engine.runKeyExchangePhase_exchanged context s
    have hdevice := hexchanged.same.device_eq
    unfold runKeyExchanges RadioRest.tries
    generalize engine.keyInitAnswer context.device.nodeId s.rest = answer at hphase
    generalize engine.runKeyExchangePhase context s = phase at hphase hdevice
    obtain ⟨ok, context', s'⟩ := phase
    obtain ⟨answer, r⟩ := answer
    obtain ⟨hok, rfl⟩ := hphase
    cases answer with
    | some f =>
      obtain rfl : ok = true := hok
      exact ⟨rfl, rfl⟩
    | none =>
      -- the next exchange is with the same device
      obtain rfl : ok = false := hok
      have hrest := ih context' s'
      rw [hdevice] at hrest
      exact hrest

end ExchangeEngine

/-! ## The record that pairing enters -/

def discoveredDevice (d : IoFrame) : IoDevice := (parseDeviceFromDiscovery d {}).1

namespace ExchangeEngine

variable (engine : ExchangeEngine)

/-- The attempt accepts the 0x29, and its sender confirms the key. -/
structure Pairs (w : PairingWorld) (d : IoFrame) : Prop where
  answer : (engine.attemptAnswer w).map Prod.fst = some d
  cmd : d.cmd = cmdDiscoverResp
  confirmed : (engine.attemptConfirmation w).isSome

/-- The rounds leave the rest of the script to the key exchange, and they learn what the answer
announces. -/
theorem runDiscoveryRounds_found (rounds : List (DiscoveryCommand × ℕ)) (sawInvalid : Bool)
    (context : PairingContext) (s : EngineState) {d : IoFrame} {sends : List Bool}
    {windows : List Window}
    (h : discoveryAnswer rounds.length s.script.sends s.script.windows = some (d, sends, windows)) :
    let result := engine.runDiscoveryRounds rounds sawInvalid context s
    result.1 = .accept ∧ result.2.1.rx = d ∧
      result.2.1.device = (parseDeviceFromDiscovery d context.device).1 ∧
      result.2.1.deviceId = nodeIdToString d.src ∧
      result.2.2.script.sends = sends ∧ result.2.2.script.windows = windows := by
  induction rounds generalizing sawInvalid context s with
  | nil => cases h
  | cons round rounds ih =>
    obtain ⟨command, attempt⟩ := round
    obtain ⟨-, -, hsent, -, hsends, hwindows⟩ := engine.sendRound_eq command attempt context s
    have hsame : (engine.transmitDiscovery command context
        ((s.recordTelemetry PairingTelemetry.incrementDiscoveryAttempt).setStage .txDiscover
          attempt false)).2.1.device = context.device := by
      obtain ⟨req, -, -, hcontext, -⟩ := engine.transmitDiscovery_eq command context
        ((s.recordTelemetry PairingTelemetry.incrementDiscoveryAttempt).setStage .txDiscover
          attempt false)
      rw [hcontext]
    rw [List.length_cons, discoveryAnswer] at h
    unfold runDiscoveryRounds
    dsimp only
    generalize engine.transmitDiscovery command context _ = sending at hsent hsends hwindows hsame
    obtain ⟨sent, context₁, s₁⟩ := sending
    dsimp only at hsent hsends hwindows hsame ⊢
    rw [← hsent] at h
    cases sent with
    | false => cases h
    | true =>
      simp only [Bool.not_true, Bool.false_eq_true, if_false] at h
      obtain ⟨hdisposition, hfound, -, hsendsLeft, hwindowsLeft⟩ :=
        waitRound_eq attempt context₁.rx s₁
      rw [hwindows] at hdisposition hfound hwindowsLeft
      rw [hsends] at hsendsLeft
      dsimp only
      generalize waitForDiscoveryResponse context₁.rx _ = waited
        at hdisposition hfound hsendsLeft hwindowsLeft
      obtain ⟨disposition, rx, s₂⟩ := waited
      dsimp only at hdisposition hfound hsendsLeft hwindowsLeft ⊢
      cases hfirst : (s.script.windows.head?.getD []).firstAccepted isDiscoveryAnswer with
      | some answer =>
        rw [hfirst] at h hdisposition
        simp only [Option.some.injEq, Prod.mk.injEq] at h
        obtain ⟨rfl, rfl, rfl⟩ := h
        obtain rfl : disposition = .accept := hdisposition.2 rfl
        obtain rfl := hfound answer hfirst
        dsimp only
        rw [hsame]
        exact ⟨rfl, rfl, rfl, rfl, hsendsLeft, hwindowsLeft⟩
      | none =>
        -- whether there was traffic makes no difference to the next round
        rw [hfirst] at h hdisposition
        rw [← hsendsLeft, ← hwindowsLeft] at h
        rw [← hsame]
        cases disposition with
        | accept => exact absurd (hdisposition.1 rfl) (by simp)
        | noResponse => exact ih sawInvalid { context₁ with rx } s₂ h
        | invalid => exact ih true { context₁ with rx } s₂ h

/-- After an accepted 0x29 the confirmation decides. -/
theorem discoverAndPair_answered {w : PairingWorld} {d : IoFrame}
    (h : (engine.attemptAnswer w).map Prod.fst = some d) (hcmd : d.cmd = cmdDiscoverResp) :
    let run := engine.discoverAndPair w
    run.1 = (engine.attemptConfirmation w).isSome ∧
      run.2.registry =
        if run.1 then w.registry.put (nodeIdToString d.src) (discoveredDevice d)
        else w.registry := by
  obtain ⟨⟨answer, sends, windows⟩, hanswer, hd⟩ := Option.map_eq_some_iff.1 h
  obtain rfl : d = answer := hd.symm
  have hlength := length_discoveryRounds engine.tuning.pairingDiscoveryCommands
  have hfound := engine.runDiscoveryRounds_found
    (discoveryRounds engine.tuning.pairingDiscoveryCommands) false {}
    (beginPairingAttempt w.engine) (by rw [hlength]; exact hanswer)
  have hconfirmation : engine.attemptConfirmation w =
      (RadioRest.tries (engine.keyInitAnswer d.src)
        engine.tuning.pairingKeyExchangeRetries.toNat ⟨sends, windows⟩).1 := by
    rw [attemptConfirmation, hanswer]
    rfl
  rw [hconfirmation]
  unfold discoverAndPair runDiscoveryPhase
  generalize engine.runDiscoveryRounds _ false {} (beginPairingAttempt w.engine) = phase at hfound
  obtain ⟨disposition, context, s⟩ := phase
  obtain ⟨rfl, rfl, hdevice, hid, rfl, rfl⟩ := hfound
  dsimp only at hcmd hdevice hid ⊢
  have halt : ¬(context.rx.cmd == cmdDiscoverAltResp) = true := by
    rw [hcmd]
    decide
  have hnode : context.device.nodeId = context.rx.src := congrArg IoDevice.nodeId hdevice
  rw [if_neg halt]
  have hfollows := engine.runKeyExchanges_answer engine.tuning.pairingKeyExchangeRetries.toNat
    context s
  rw [hnode] at hfollows
  obtain ⟨_, hexchanged, -⟩ := engine.runKeyExchanges_exchanged
    engine.tuning.pairingKeyExchangeRetries.toNat context s
  have hsame := hexchanged.same
  have hok : _ = (RadioRest.tries _ _ ⟨s.script.sends, s.script.windows⟩).1.isSome :=
    hfollows.ok_eq
  rw [← hok]
  generalize engine.runKeyExchanges engine.tuning.pairingKeyExchangeRetries.toNat context s =
    keys at hsame
  obtain ⟨exchanged, context', s'⟩ := keys
  cases exchanged with
  | false => exact ⟨rfl, rfl⟩
  | true =>
    obtain ⟨hfinal, -⟩ := engine.finalizePairingConfiguration_emits context' s'
    refine ⟨rfl, ?_⟩
    dsimp only
    generalize engine.finalizePairingConfiguration context' s' = final at hfinal
    -- neither the key exchange nor the configuration touches the device or its ID
    have hboth := hsame.trans hfinal
    show w.registry.put final.2.1.deviceId final.2.1.device = _
    rw [hboth.device_eq, hboth.deviceId_eq, hid, hdevice]
    rfl

/-- A confirmed device is entered as its answer describes it. -/
theorem discoverAndPair_of_pairs {w : PairingWorld} {d : IoFrame} (h : engine.Pairs w d) :
    (engine.discoverAndPair w).2.registry =
      w.registry.put (nodeIdToString d.src) (discoveredDevice d) := by
  obtain ⟨hok, hregistry⟩ := engine.discoverAndPair_answered h.answer h.cmd
  rw [hregistry, if_pos (hok.trans h.confirmed)]

theorem discoverAndPair_of_not_pairs {w : PairingWorld} (h : ∀ d, ¬engine.Pairs w d) :
    (engine.discoverAndPair w).2.registry = w.registry := by
  have hunconfirmed : ∀ d sends windows, engine.attemptAnswer w = some (d, sends, windows) →
      d.cmd = cmdDiscoverResp → (engine.discoverAndPair w).2.registry = w.registry := by
    intro d sends windows hanswer hcmd
    have hfst : (engine.attemptAnswer w).map Prod.fst = some d := by rw [hanswer]; rfl
    obtain ⟨hok, hregistry⟩ := engine.discoverAndPair_answered hfst hcmd
    rw [hregistry, if_neg]
    exact fun hpaired => h d ⟨hfst, hcmd, hok.symm.trans hpaired⟩
  cases engine.discoverAndPair_course w with
  | undiscovered answer heard ends => exact ends.registry_eq
  | alternate answer heard cmd ends => exact ends.registry_eq
  | keyExchangeFailed answer heard cmd node exchanged opens ends => exact ends.registry_eq
  | paired answer heard cmd => exact hunconfirmed _ _ _ answer cmd

end ExchangeEngine
end HomeIoControl
