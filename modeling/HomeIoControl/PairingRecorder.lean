import HomeIoControl.PairingTraffic
import HomeIoControl.PairingTrace

namespace HomeIoControl

/-! ## Calls between two records -/

/-- The second record is the first after some calls. Whether one reported a frame is kept. -/
def Records (heard : Bool) (t t' : PairingTelemetry) : Prop :=
  ∃ calls : List TelemetryCall, t' = calls.foldl TelemetryCall.apply t ∧
    calls.any TelemetryCall.hears = heard

namespace Records

theorem refl (t : PairingTelemetry) : Records false t t := ⟨[], rfl, rfl⟩

theorem call (call : TelemetryCall) (t : PairingTelemetry) :
    Records call.hears t (call.apply t) :=
  ⟨[call], rfl, Bool.or_false _⟩

theorem trans {heard later : Bool} {t t' t'' : PairingTelemetry} (h : Records heard t t')
    (h' : Records later t' t'') : Records (heard || later) t t'' := by
  obtain ⟨calls, rfl, hheard⟩ := h
  obtain ⟨calls', rfl, hlater⟩ := h'
  refine ⟨calls ++ calls', ?_, ?_⟩
  · rw [List.foldl_append]
  · rw [List.any_append, hheard, hlater]

/-- The record of an attempt that began with nothing recorded. -/
theorem telemetryOf {heard : Bool} {t : PairingTelemetry} (h : Records heard .begin t) :
    ∃ calls, t = HomeIoControl.telemetryOf calls ∧ calls.any TelemetryCall.hears = heard :=
  h

end Records

/-- The second record is the first after some calls. -/
def Recorded (t t' : PairingTelemetry) : Prop := ∃ heard, Records heard t t'

theorem Records.recorded {heard : Bool} {t t' : PairingTelemetry} (h : Records heard t t') :
    Recorded t t' :=
  ⟨heard, h⟩

theorem Recorded.trans {t t' t'' : PairingTelemetry} (h : Recorded t t') (h' : Recorded t' t'') :
    Recorded t t'' := by
  obtain ⟨heard, h⟩ := h
  obtain ⟨later, h'⟩ := h'
  exact (h.trans h').recorded

/-! ## The engine's calls -/

def EngineState.telemetry (s : EngineState) : PairingTelemetry := s.status.telemetry

theorem EngineState.recordIfAttached_records (s : EngineState) (call : TelemetryCall)
    (hcall : call.hears = false) :
    Records false s.telemetry (s.recordIfAttached fun t => call.apply t).telemetry := by
  unfold recordIfAttached
  split
  · rw [← hcall]
    exact .call call s.telemetry
  · exact .refl s.telemetry

theorem EngineState.setStage_records (s : EngineState) (stage : PairingState) (attempt : ℕ)
    (sawChallenge : Bool) :
    Records false s.telemetry (s.setStage stage attempt sawChallenge).telemetry :=
  .call (.setPhase stage) s.telemetry

theorem hopIfTimeLeft_records (slice : Slice) (status : EngineStatus) :
    Records false status.telemetry (hopIfTimeLeft slice status).telemetry := by
  unfold hopIfTimeLeft
  split
  · exact .refl _
  · exact .refl _

theorem hopAndRecord_records (slice : Slice) (status : EngineStatus) :
    Records false status.telemetry (hopAndRecord slice status).telemetry := by
  unfold hopAndRecord
  split
  · exact .call .hop _
  · exact .refl _

theorem rejectFrame_records (slice : Slice) (frame : IoFrame) (status : EngineStatus) :
    Records true status.telemetry (rejectFrame slice frame status).telemetry :=
  .call (.rxReject frame slice.rssi) _

/-! ## Waits -/

/-- The packet is a frame. -/
def RadioRxPacket.parses (packet : RadioRxPacket) : Bool := (parse packet.data).isSome

namespace Window

/-- A frame was received that the wait does not end with. -/
def hearsRejected (accept : IoFrame → Bool) (w : Window) : Bool :=
  (w.heard accept).any fun packet => (parse packet.data).any fun f => !accept f

theorem any_parses_heard (accept : IoFrame → Bool) (w : Window) :
    (w.heard accept).any RadioRxPacket.parses =
      (w.hearsRejected accept || (w.firstAccepted accept).isSome) := by
  induction w with
  | nil => rfl
  | cons slice rest ih =>
    unfold hearsRejected at ih ⊢
    unfold firstAccepted at ih ⊢
    rw [heard, List.any_append, List.any_append, List.findSome?_cons]
    cases hpacket : slice.packet with
    | none =>
      have hframe : slice.frame = none := by rw [Slice.frame, hpacket, Option.bind_none]
      simpa [hframe] using ih
    | some packet =>
      have hframe : slice.frame = parse packet.data := by
        rw [Slice.frame, hpacket, Option.bind_some]
      cases hparse : parse packet.data with
      | none => simpa [hframe, hparse, RadioRxPacket.parses] using ih
      | some f =>
        cases haccept : accept f <;>
          simp [hframe, hparse, haccept, RadioRxPacket.parses, Option.filter_some]

end Window

/-- What a wait loop records. Of what comes in it may report the frames it rejects. -/
structure WaitLoop.Reports (loop : WaitLoop) (rejects : Bool) : Prop where
  quiet : ∀ slice (status : EngineStatus),
    Records false status.telemetry (loop.quiet slice status).telemetry
  unparsed : ∀ slice (status : EngineStatus),
    Records false status.telemetry (loop.unparsed slice status).telemetry
  rejected : ∀ slice f (status : EngineStatus),
    Records rejects status.telemetry (loop.rejected slice f status).telemetry

theorem WaitLoop.Reports.run {loop : WaitLoop} {rejects : Bool} (h : loop.Reports rejects)
    (w : Window) (rx : IoFrame) (s : EngineState) :
    Records (rejects && w.hearsRejected loop.accept) s.telemetry
      (loop.run w rx s).state.telemetry := by
  unfold Window.hearsRejected
  induction w generalizing rx s with
  | nil =>
    rw [Window.heard, List.any_nil, Bool.and_false]
    exact .refl s.telemetry
  | cons slice rest ih =>
    unfold WaitLoop.run
    rw [Window.heard]
    cases hpacket : slice.packet with
    | none =>
      have hframe : slice.frame = none := by rw [Slice.frame, hpacket, Option.bind_none]
      simp only [hframe, Option.toList_none, List.nil_append, Option.any_none, Bool.false_eq_true,
        if_false]
      exact (h.quiet slice s.status).trans (ih rx _)
    | some packet =>
      have hframe : slice.frame = parse packet.data := by
        rw [Slice.frame, hpacket, Option.bind_some]
      simp only [hframe, Option.toList_some, List.cons_append, List.nil_append, List.any_cons]
      cases hparse : parse packet.data with
      | none =>
        obtain ⟨left, hinto⟩ := parseInto_of_parse_eq_none hparse rx
        simp only [hinto, Option.any_none, Bool.false_eq_true, if_false, Bool.false_or]
        exact (h.unparsed slice (s.receive packet slice.rssi).status).trans (ih left _)
      | some f =>
        simp only [parseInto_of_parse hparse rx, Option.any_some]
        by_cases haccept : loop.accept f = true
        · simp only [haccept, if_true, List.any_nil, Bool.not_true, Bool.or_false, Bool.and_false]
          exact .refl s.telemetry
        · simp only [haccept, Bool.false_eq_true, if_false, Bool.not_false, Bool.true_or,
            Bool.and_true]
          have hrejected := h.rejected slice f (s.receive packet slice.rssi).status
          have hrest := hrejected.trans
            (ih f ((s.receive packet slice.rssi).mapStatus (loop.rejected slice f)))
          rw [Bool.or_eq_left_iff_imp.2] at hrest
          · exact hrest
          · exact fun hall => (Bool.and_eq_true_iff.1 hall).1

theorem firstResponseLoop_reports (request : IoFrame) (tryIndex : ℕ) :
    (ExchangeEngine.firstResponseLoop request tryIndex).Reports false where
  quiet := hopIfTimeLeft_records
  unparsed _ status := .refl status.telemetry
  rejected _ _ status := .refl status.telemetry

theorem finalResponseLoop_reports (request : IoFrame) (tryIndex : ℕ) :
    (ExchangeEngine.finalResponseLoop request tryIndex).Reports false where
  quiet := hopIfTimeLeft_records
  unparsed _ status := .refl status.telemetry
  rejected _ _ status := .refl status.telemetry

theorem keyChallengeLoop_reports (own node : NodeId) :
    (keyChallengeLoop own node).Reports true where
  quiet _ status := .refl status.telemetry
  unparsed _ status := .refl status.telemetry
  rejected := rejectFrame_records

theorem keyConfirmLoop_reports (req : IoFrame) : (keyConfirmLoop req).Reports false where
  quiet := hopAndRecord_records
  unparsed _ status := .refl status.telemetry
  rejected _ _ status := .refl status.telemetry

theorem discoveryLoop_reports : discoveryLoop.Reports true where
  quiet := hopAndRecord_records
  unparsed := hopAndRecord_records
  rejected slice frame status :=
    (rejectFrame_records slice frame status).trans (hopAndRecord_records slice _)

/-- Every frame that a discovery wait receives is reported. -/
theorem waitForDiscoveryResponse_records (rx : IoFrame) (s : EngineState) :
    Records ((s.window.heard isDiscoveryAnswer).any RadioRxPacket.parses) s.telemetry
      (waitForDiscoveryResponse rx s).2.2.telemetry := by
  have hrun := discoveryLoop_reports.run s.window rx s.dropWindow
  have hcases := discoveryLoop.run_cases s.window rx s.dropWindow
  have haccept : discoveryLoop.accept = isDiscoveryAnswer := rfl
  rw [haccept, Bool.true_and] at hrun
  rw [haccept] at hcases
  rw [Window.any_parses_heard]
  unfold waitForDiscoveryResponse
  generalize discoveryLoop.run s.window rx s.dropWindow = waited at hrun hcases
  dsimp only
  rcases hcases with ⟨hslice, hnone⟩ | ⟨slice, hslice, hsome⟩
  · rw [hslice, hnone]
    exact hrun.trans (.refl _)
  · rw [hslice, hsome]
    exact hrun.trans (.call (.rx waited.rx slice.rssi) waited.state.telemetry)

theorem waitForKeyChallenge_records (own node : NodeId) (rx : IoFrame) (s : EngineState) :
    Recorded s.telemetry (waitForKeyChallenge own node rx s).2.2.telemetry := by
  have hrun := (keyChallengeLoop_reports own node).run s.window rx s.dropWindow
  unfold waitForKeyChallenge
  generalize (keyChallengeLoop own node).run s.window rx s.dropWindow = waited at hrun
  dsimp only
  split
  · rename_i slice hslice
    exact (hrun.trans (.call (.rx waited.rx slice.rssi) waited.state.telemetry)).recorded
  · exact hrun.recorded

namespace ExchangeEngine

variable (engine : ExchangeEngine)

/-! ## Transmissions and exchanges -/

theorem listenBeforeTalk_records (retries : ℕ) (s : EngineState) :
    Records false s.telemetry (engine.listenBeforeTalk retries s).telemetry := by
  induction retries generalizing s with
  | zero => exact .refl s.telemetry
  | succ retries ih =>
    unfold listenBeforeTalk
    dsimp only
    generalize hs' : { s with script := { s.script with rssis := s.script.rssis.tail } } = s'
    have hstart : s.telemetry = s'.telemetry := by rw [← hs']; rfl
    rw [hstart]
    split
    · exact .refl s'.telemetry
    · generalize s.script.rssis.head?.getD 0 = rssi
      exact (s'.recordIfAttached_records (.lbtDefer rssi) rfl).trans (ih _)

theorem transmitFrame_records (frame : IoFrame) (freqHz preambleLen : ℕ) (s : EngineState) :
    Records false s.telemetry
      (engine.transmitFrame frame freqHz preambleLen s).2.telemetry := by
  have hlbt := engine.listenBeforeTalk_records engine.tuning.lbtMaxRetries.toNat s
  unfold transmitFrame EngineState.sendPacket
  cases serialize frame frameMaxSize with
  | none => exact .refl s.telemetry
  | some bytes =>
    dsimp only
    generalize engine.listenBeforeTalk engine.tuning.lbtMaxRetries.toNat s = s' at hlbt
    cases s'.script.sends.head?.getD false with
    | false => exact hlbt
    | true => exact hlbt.trans (EngineState.recordIfAttached_records _ (.tx frame.cmd) rfl)

theorem waitForFirstResponse_records (request : IoFrame) (tryIndex : ℕ) (rx : IoFrame)
    (s : EngineState) :
    Records false s.telemetry (waitForFirstResponse request tryIndex rx s).2.2.telemetry := by
  have hrun := (firstResponseLoop_reports request tryIndex).run s.window rx s.dropWindow
  rw [Bool.false_and] at hrun
  unfold waitForFirstResponse
  dsimp only
  split
  · exact hrun
  · exact hrun

theorem waitForFinalResponse_records (request : IoFrame) (tryIndex : ℕ) (rx : IoFrame)
    (s : EngineState) :
    Records false s.telemetry (waitForFinalResponse request tryIndex rx s).2.2.telemetry := by
  have hrun := (finalResponseLoop_reports request tryIndex).run s.window rx s.dropWindow
  rw [Bool.false_and] at hrun
  unfold waitForFinalResponse
  dsimp only
  split
  · exact hrun
  · exact hrun

theorem transmitRequest_records (request : IoFrame) (freqHz preambleLen tryIndex : ℕ)
    (s : EngineState) :
    Records false s.telemetry
      (engine.transmitRequest request freqHz preambleLen tryIndex s).2.telemetry := by
  have hsent := engine.transmitFrame_records request freqHz preambleLen s
  unfold transmitRequest
  generalize engine.transmitFrame request freqHz preambleLen s = sending at hsent
  rcases sending with ⟨_ | _, s'⟩
  · exact hsent
  · exact hsent

theorem handleAuthentication_records (request : IoFrame) (freqHz tryIndex : ℕ)
    (challenge : IoFrame) (s : EngineState) :
    Records false s.telemetry
      (engine.handleAuthentication request freqHz tryIndex challenge s).2.telemetry := by
  unfold handleAuthentication
  simp only [engine.createChallengeResp_eq request challenge]
  have hsent := engine.transmitFrame_records (engine.proofOf request challenge) freqHz
    engine.responsePreamble
    ((s.recordDebug (.outbound .buildAuthResponse) tryIndex true).recordDebug
      (.outbound .txAuthResponse) tryIndex true)
  generalize engine.transmitFrame (engine.proofOf request challenge) freqHz
    engine.responsePreamble _ = sending at hsent
  rcases sending with ⟨_ | _, s'⟩
  · exact hsent
  · exact hsent

theorem answerChallenge_records (request : IoFrame) (freqHz tryIndex : ℕ) (rx : IoFrame)
    (s : EngineState) :
    Records false s.telemetry
      (engine.answerChallenge request freqHz tryIndex rx s).2.telemetry := by
  have hproof := engine.handleAuthentication_records request freqHz tryIndex rx s
  unfold answerChallenge
  generalize engine.handleAuthentication request freqHz tryIndex rx s = proof at hproof
  rcases proof with ⟨_ | _, s₁⟩
  · exact hproof
  · have hwait := waitForFinalResponse_records request tryIndex rx
      (s₁.recordDebug (.outbound .waitFinalResponse) tryIndex true)
    dsimp only
    generalize waitForFinalResponse request tryIndex rx _ = waited at hwait
    rcases waited with ⟨_ | _, rx', s₂⟩
    · exact hproof.trans hwait
    · exact hproof.trans hwait

theorem exchangeTry_records (request : IoFrame) (freqHz preambleLen tryIndex : ℕ)
    (s : EngineState) :
    Records false s.telemetry
      (engine.exchangeTry request freqHz preambleLen tryIndex s).2.telemetry := by
  have hsent := engine.transmitRequest_records request freqHz preambleLen tryIndex s
  unfold exchangeTry
  generalize engine.transmitRequest request freqHz preambleLen tryIndex s = sending at hsent
  rcases sending with ⟨_ | _, s₁⟩
  · exact hsent
  · have hwait := waitForFirstResponse_records request tryIndex .zero
      (s₁.recordDebug (.outbound .waitFirstResponse) tryIndex false)
    dsimp only
    generalize waitForFirstResponse request tryIndex .zero _ = waited at hwait
    rcases waited with ⟨_ | _ | _, rx, s₂⟩
    · exact hsent.trans hwait
    · exact hsent.trans hwait
    · exact (hsent.trans hwait).trans (engine.answerChallenge_records request freqHz tryIndex rx s₂)

/-- An exchange records its transmissions and none of the frames that it receives. -/
theorem sendAndReceive_records (request response : IoFrame) (freqHz : ℕ) (s : EngineState) :
    Records false s.telemetry (engine.sendAndReceive request response freqHz s).2.2.telemetry := by
  have htries : ∀ preambleLen tries tryIndex (s : EngineState), Records false s.telemetry
      (engine.exchangeTries request freqHz preambleLen tries tryIndex s).2.telemetry := by
    intro preambleLen tries
    induction tries with
    | zero => exact fun tryIndex s => .refl s.telemetry
    | succ tries ih =>
      intro tryIndex s
      have htry := engine.exchangeTry_records request freqHz preambleLen tryIndex s
      unfold exchangeTries
      generalize engine.exchangeTry request freqHz preambleLen tryIndex s = tried at htry
      rcases tried with ⟨_ | _, s'⟩
      · exact htry.trans (ih (tryIndex + 1) s')
      · exact htry
  have hall := htries (engine.requestPreamble request) exchangeRetryCount 1
    (s.mapStatus fun status => status.resetDebug request.cmd)
  unfold sendAndReceive
  dsimp only
  generalize engine.exchangeTries request freqHz _ _ _ _ = tried at hall
  rcases tried with ⟨_ | _, s'⟩
  · exact hall
  · exact hall

/-! ## Key exchange and configuration -/

theorem waitForKeyConfirm_records (req : IoFrame) (tries : ℕ) (resp : IoFrame)
    (s : EngineState) :
    Recorded s.telemetry (engine.waitForKeyConfirm req tries resp s).2.2.telemetry := by
  induction tries generalizing resp s with
  | zero => exact ⟨false, .refl s.telemetry⟩
  | succ tries ih =>
    have hsent := engine.transmitFrame_records req freqCh2 engine.responsePreamble s
    unfold waitForKeyConfirm
    generalize engine.transmitFrame req freqCh2 engine.responsePreamble s = sending at hsent
    rcases sending with ⟨_ | _, s₁⟩
    · exact hsent.recorded.trans (ih resp s₁)
    · have hrun := (keyConfirmLoop_reports req).run s₁.window resp s₁.dropWindow
      dsimp only
      generalize (keyConfirmLoop req).run s₁.window resp s₁.dropWindow = waited at hrun
      have hwaited := hsent.trans hrun
      split
      · exact hwaited.recorded.trans (ih waited.rx waited.state)
      · rename_i slice hslice
        split
        · exact (hwaited.trans (.call (.rx waited.rx slice.rssi) _)).recorded
        · exact (hwaited.trans (rejectFrame_records slice waited.rx waited.state.status)).recorded

theorem resendKeyInit_records (resends : ℕ) (context : PairingContext) (s : EngineState) :
    Recorded s.telemetry (engine.resendKeyInit resends context s).2.2.telemetry := by
  induction resends generalizing context s with
  | zero => exact ⟨false, .refl s.telemetry⟩
  | succ resends ih =>
    have hsent := engine.transmitFrame_records context.keyInit freqCh2 longPreamble s
    unfold resendKeyInit
    generalize engine.transmitFrame context.keyInit freqCh2 longPreamble s = sending at hsent
    rcases sending with ⟨_ | _, s₁⟩
    · exact hsent.recorded.trans (ih context s₁)
    · have hwait := waitForKeyChallenge_records engine.nodeId context.device.nodeId context.rx s₁
      dsimp only
      generalize waitForKeyChallenge engine.nodeId context.device.nodeId context.rx s₁ = waited
        at hwait
      obtain ⟨heard, rx, s₂⟩ := waited
      have hwaited : Recorded s.telemetry s₂.telemetry :=
        hsent.recorded.trans hwait
      dsimp only
      split
      · exact hwaited
      · exact hwaited.trans (ih { context with rx } s₂)

theorem confirmKeyTransfer_records (context : PairingContext) (s : EngineState) :
    Recorded s.telemetry (engine.confirmKeyTransfer context s).2.2.telemetry := by
  unfold confirmKeyTransfer
  split
  · exact ⟨false, engine.sendAndReceive_records context.req context.resp freqCh2 s⟩
  · have hconfirm := engine.waitForKeyConfirm_records context.req exchangeRetryCount context.resp s
    generalize engine.waitForKeyConfirm context.req exchangeRetryCount context.resp s = confirmed
      at hconfirm
    rcases confirmed with ⟨_ | _, resp, s₁⟩
    · exact hconfirm.trans
        (engine.resendKeyInit_records pairingKeyInitResends { context with resp } s₁)
    · exact hconfirm

theorem transferKey_records (context : PairingContext) (s : EngineState) :
    Recorded s.telemetry (engine.transferKey context s).2.2.telemetry := by
  have htransfer := s.setStage_records .txKeyTransfer 1 true
  unfold transferKey
  dsimp only
  generalize s.setStage .txKeyTransfer 1 true = s₁ at htransfer
  split
  · exact htransfer.recorded
  · have hwait := htransfer.trans (s₁.setStage_records .waitKeyConfirm 1 true)
    exact hwait.recorded.trans (engine.confirmKeyTransfer_records _ _)

theorem runKeyExchangePhase_records (context : PairingContext) (s : EngineState) :
    Recorded s.telemetry (engine.runKeyExchangePhase context s).2.2.telemetry := by
  have hinit := s.setStage_records .txKeyInit 1 false
  unfold runKeyExchangePhase
  dsimp only
  generalize s.setStage .txKeyInit 1 false = s₁ at hinit
  split
  · exact hinit.recorded
  · rename_i keyInit hbuilt
    have hsent := hinit.trans (engine.transmitFrame_records keyInit freqCh2 longPreamble s₁)
    generalize engine.transmitFrame keyInit freqCh2 longPreamble s₁ = sending at hsent
    rcases sending with ⟨_ | _, s₂⟩
    · exact hsent.recorded
    · have hstage := hsent.trans (s₂.setStage_records .waitKeyChallenge 1 true)
      dsimp only
      generalize s₂.setStage .waitKeyChallenge 1 true = s₃ at hstage
      have hwait := hstage.recorded.trans
        (waitForKeyChallenge_records engine.nodeId context.device.nodeId context.rx s₃)
      generalize waitForKeyChallenge engine.nodeId context.device.nodeId context.rx s₃ = waited
        at hwait
      rcases waited with ⟨_ | _, rx, s₄⟩
      · exact hwait
      · dsimp only
        split
        · exact hwait
        · exact hwait.trans (engine.transferKey_records { context with keyInit, rx } s₄)

theorem runKeyExchanges_records (retries : ℕ) (context : PairingContext) (s : EngineState) :
    Recorded s.telemetry (engine.runKeyExchanges retries context s).2.2.telemetry := by
  induction retries generalizing context s with
  | zero => exact ⟨false, .refl s.telemetry⟩
  | succ retries ih =>
    have hphase := engine.runKeyExchangePhase_records context s
    unfold runKeyExchanges
    generalize engine.runKeyExchangePhase context s = phase at hphase
    rcases phase with ⟨_ | _, context', s'⟩
    · exact hphase.trans (ih context' s')
    · exact hphase

theorem finalizePairingConfiguration_records (context : PairingContext) (s : EngineState) :
    Records false s.telemetry (engine.finalizePairingConfiguration context s).2.2.telemetry := by
  unfold finalizePairingConfiguration
  split
  · exact .refl s.telemetry
  · rename_i req hbuilt
    exact engine.sendAndReceive_records req context.resp freqCh2 s

/-! ## The end of an attempt -/

theorem finishPairingAttempt_records (outcome : PairingOutcome) (s : EngineState) :
    Records false s.telemetry (engine.finishPairingAttempt outcome s).telemetry :=
  (Records.call (.setOutcome outcome) s.telemetry).trans (.call (.setAdviceCodes _) _)

theorem registerDevice_records (context : PairingContext) (outcome : PairingOutcome)
    (w : PairingWorld) :
    Records false w.engine.telemetry
      (engine.registerDevice context outcome w).engine.telemetry := by
  have hregister := w.engine.setStage_records .registerDevice 1 true
  have hdevice := hregister.trans
    (.call (.setPairedDevice context.device.nodeId context.device.type) _)
  have hcomplete := hdevice.trans (EngineState.setStage_records
    ((w.engine.setStage .registerDevice 1 true).recordTelemetry fun t =>
      t.setPairedDevice context.device.nodeId context.device.type) .complete 1 true)
  exact hcomplete.trans (engine.finishPairingAttempt_records outcome _)

end ExchangeEngine
end HomeIoControl
