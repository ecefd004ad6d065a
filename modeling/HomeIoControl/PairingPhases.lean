import HomeIoControl.PairingSafety

namespace HomeIoControl

theorem Emits.unique {events later : List RadioEvent} {s s' : EngineState} (h : Emits events s s')
    (h' : Emits later s s') : events = later :=
  List.append_cancel_left (h.trace_eq.symm.trans h'.trace_eq)

/-! ## The transfers of a key -/

/-- A frame is handed over until the radio takes it. Nothing is heard before. -/
inductive OpensWith (req : IoFrame) : List RadioEvent → Prop
  | unsent : OpensWith req []
  | refused {events : List RadioEvent} (freqHz preambleLen : ℕ) (later : OpensWith req events) :
      OpensWith req (.tx req freqHz preambleLen false :: events)
  | sent (freqHz preambleLen : ℕ) (events : List RadioEvent) :
      OpensWith req (.tx req freqHz preambleLen true :: events)

namespace ExchangeEngine

variable (engine : ExchangeEngine)

theorem runEvents_opens (request : IoFrame) (freqHz preambleLen tries : ℕ) (sends : List Bool)
    (windows : List Window) :
    OpensWith request (engine.runEvents request freqHz preambleLen tries sends windows) := by
  induction tries generalizing sends windows with
  | zero => exact .unsent
  | succ tries ih =>
    unfold runEvents
    dsimp only
    cases TryOutcome.of request sends windows with
    | refused => exact .refused freqHz preambleLen (ih _ _)
    | silent | direct | proofRefused | unanswered | proved => exact .sent freqHz preambleLen _

theorem sendAndReceive_opens (request response : IoFrame) (freqHz : ℕ) (s : EngineState)
    {events : List RadioEvent}
    (h : Emits events s (engine.sendAndReceive request response freqHz s).2.2) :
    OpensWith request events := by
  obtain ⟨-, -, htrace, hattached⟩ := engine.sendAndReceive_eq request response freqHz s
  rw [h.unique ⟨htrace, hattached⟩]
  unfold exchangeEvents
  split
  · exact engine.runEvents_opens _ _ _ _ _ _
  · exact .unsent

theorem waitForKeyConfirm_opens {req : IoFrame} (h : (serialize req frameMaxSize).isSome)
    (tries : ℕ) (resp : IoFrame) (s : EngineState) :
    ∃ events, Emits events s (engine.waitForKeyConfirm req tries resp s).2.2 ∧
      OpensWith req events := by
  induction tries generalizing resp s with
  | zero => exact ⟨[], emits_nil s, .unsent⟩
  | succ tries ih =>
    have hsending := engine.transmitFrame_emits h freqCh2 engine.responsePreamble s
    unfold waitForKeyConfirm
    generalize engine.transmitFrame req freqCh2 engine.responsePreamble s = sending at hsending
    obtain ⟨sent, s₁⟩ := sending
    cases sent with
    | false =>
      obtain ⟨events, hemits, hopens⟩ := ih resp s₁
      exact ⟨_, hsending.trans hemits, .refused _ _ hopens⟩
    | true =>
      dsimp only
      have hemits := (keyConfirmLoop req).run_emits s₁.window resp s₁.dropWindow
      have hdrop : Emits [] s₁ s₁.dropWindow := ⟨(List.append_nil _).symm, rfl⟩
      generalize (keyConfirmLoop req).run s₁.window resp s₁.dropWindow = waited at hemits
      have hwaited := hsending.trans (hdrop.trans hemits)
      cases waited.slice with
      | none =>
        obtain ⟨events, hlater, -⟩ := ih waited.rx waited.state
        exact ⟨_, hwaited.trans hlater, .sent _ _ _⟩
      | some slice =>
        dsimp only
        split
        · exact ⟨_, hwaited.of_course (EngineState.course_recordTelemetry ..), .sent _ _ _⟩
        · exact ⟨_, hwaited.of_course (EngineState.course_mapStatus ..), .sent _ _ _⟩

/-- The transfers of a key come first, then key-inits. -/
theorem confirmKeyTransfer_segments {params : List UInt8} (context : PairingContext)
    (s : EngineState)
    (hreq : IsCommand context.req engine.nodeId context.device.nodeId cmdKeyTransfer params)
    (hinit : (serialize context.keyInit frameMaxSize).isSome) :
    ∃ transfers inits, Emits (transfers ++ inits) s (engine.confirmKeyTransfer context s).2.2 ∧
      OpensWith context.req transfers ∧
      (∀ e ∈ transfers, e.TxSatisfies fun f => f = context.req ∨ f.cmd = cmdChallengeResp) ∧
      ∀ e ∈ inits, e.TxSatisfies fun f => f = context.keyInit := by
  unfold confirmKeyTransfer
  split
  · obtain ⟨events, hemits, htx, -⟩ :=
      engine.sendAndReceive_emits context.req context.resp freqCh2 s
    refine ⟨events, [], ?_, engine.sendAndReceive_opens _ _ _ _ hemits, htx, by simp⟩
    rwa [List.append_nil]
  · obtain ⟨events, hemits, hopens⟩ :=
      engine.waitForKeyConfirm_opens hreq.serialize_isSome exchangeRetryCount context.resp s
    obtain ⟨events', hemits', htx, -⟩ :=
      engine.waitForKeyConfirm_emits hreq.serialize_isSome exchangeRetryCount context.resp s
    rw [← hemits.unique hemits'] at htx
    have htransfers : ∀ e ∈ events, e.TxSatisfies fun f =>
        f = context.req ∨ f.cmd = cmdChallengeResp :=
      fun e he => (htx e he).mono fun f hf => .inl hf
    generalize engine.waitForKeyConfirm context.req exchangeRetryCount context.resp s = confirmed
      at hemits
    rcases confirmed with ⟨_ | _, resp, s'⟩
    · obtain ⟨-, later, hlater, htxLater, -⟩ :=
        engine.resendKeyInit_emits pairingKeyInitResends { context with resp } s' hinit
      exact ⟨events, later, hemits.trans hlater, hopens, htransfers, htxLater⟩
    · refine ⟨events, [], ?_, hopens, htransfers, by simp⟩
      rwa [List.append_nil]

theorem transferKey_segments (context : PairingContext)
    (hinit : IsCommand context.keyInit engine.nodeId context.device.nodeId cmdKeyInit [])
    (s : EngineState) :
    ∃ req transfers inits, Emits (transfers ++ inits) s (engine.transferKey context s).2.2 ∧
      req.src = engine.nodeId ∧ req.cmd = cmdKeyTransfer ∧
      engine.CarriesKey context.device.nodeId context.rx req ∧
      (serialize req frameMaxSize).isSome ∧ OpensWith req transfers ∧
      (∀ e ∈ transfers, e.TxSatisfies fun f => f = req ∨ f.cmd = cmdChallengeResp) ∧
      ∀ e ∈ inits, e.TxSatisfies fun f => f.cmd = cmdKeyInit := by
  obtain ⟨req, hreq⟩ : ∃ req, createKeyTransfer context.keyInit context.device.nodeId
      engine.nodeId engine.systemKey (hmacField context.rx) = some req :=
    exists_buildFrame _ _ _ _ _ _ (by simp [frameMaxDataSize])
  have hcommand := buildFrame_isCommand hreq
  have hcarries : engine.CarriesKey context.device.nodeId context.rx req := by
    refine ⟨hcommand.dst_eq, _, hcommand.payload_eq, ?_⟩
    rw [hinit.cmd_eq, cryptKey_cryptKey]
  unfold transferKey
  dsimp only
  rw [hreq]
  dsimp only
  generalize hs' : (s.setStage .txKeyTransfer 1 true).setStage .waitKeyConfirm 1 true = s'
  have hstart : Emits [] s s' := by
    apply (emits_nil s).of_course
    rw [← hs', EngineState.course_setStage, EngineState.course_setStage]
  obtain ⟨transfers, inits, hemits, hopens, htransfers, hinits⟩ :=
    engine.confirmKeyTransfer_segments { context with req } s' hcommand hinit.serialize_isSome
  refine ⟨req, transfers, inits, hstart.trans hemits, hcommand.src_eq, hcommand.cmd_eq, hcarries,
    hcommand.serialize_isSome, hopens, htransfers, fun e he => ?_⟩
  refine (hinits e he).mono fun f hf => ?_
  rw [hf]
  exact hinit.cmd_eq

/-! ## The phases of a pairing -/

/-- A phase of the key exchange: without a challenge only key-inits are sent. After one the key goes
out under it. -/
inductive PhaseEvents (node : NodeId) : List RadioEvent → Prop
  | unchallenged {events : List RadioEvent}
      (inits : ∀ e ∈ events, e.TxSatisfies fun f => f.cmd = cmdKeyInit) : PhaseEvents node events
  | challenged {opening transfers inits : List RadioEvent} {earlier : List RadioRxPacket}
      {packet : RadioRxPacket} {challenge req : IoFrame}
      (opens : ∀ e ∈ opening, e.TxSatisfies fun f => f.cmd = cmdKeyInit)
      (parses : parse packet.data = some challenge)
      (challenges : IsKeyChallenge engine.nodeId node challenge)
      (src : req.src = engine.nodeId) (cmd : req.cmd = cmdKeyTransfer)
      (carries : engine.CarriesKey node challenge req)
      (serializes : (serialize req frameMaxSize).isSome)
      (begins : OpensWith req transfers)
      (transferred : ∀ e ∈ transfers, e.TxSatisfies fun f => f = req ∨ f.cmd = cmdChallengeResp)
      (ends : ∀ e ∈ inits, e.TxSatisfies fun f => f.cmd = cmdKeyInit) :
      PhaseEvents node (opening ++ (earlier ++ [packet]).map .rx ++ (transfers ++ inits))

/-- The accepted frame is the last one heard. -/
theorem waitForKeyChallenge_last (own node : NodeId) (rx : IoFrame) (s : EngineState) :
    let result := waitForKeyChallenge own node rx s
    ∃ packets : List RadioRxPacket, Emits (packets.map .rx) s result.2.2 ∧
      (result.1 = true → ∃ earlier packet, packets = earlier ++ [packet] ∧
        parse packet.data = some result.2.1 ∧
        (IsKeyConfirm own node result.2.1 ∨ IsKeyChallenge own node result.2.1)) := by
  have hemits := (keyChallengeLoop own node).run_emits s.window rx s.dropWindow
  have hcases := (keyChallengeLoop own node).run_cases s.window rx s.dropWindow
  have hdrop : Emits [] s s.dropWindow := ⟨(List.append_nil _).symm, rfl⟩
  unfold waitForKeyChallenge
  generalize (keyChallengeLoop own node).run s.window rx s.dropWindow = waited at hemits hcases
  refine ⟨s.window.heard (keyChallengeLoop own node).accept, ?_⟩
  dsimp only
  rcases hcases with ⟨hslice, -⟩ | ⟨slice, hslice, hsome⟩
  · rw [hslice]
    exact ⟨hdrop.trans hemits, fun h => absurd h Bool.noConfusion⟩
  · rw [hslice]
    refine ⟨hdrop.trans (hemits.of_course (EngineState.course_recordTelemetry ..)), fun _ => ?_⟩
    obtain ⟨earlier, packet, hheard, hparse⟩ := Window.heard_of_firstAccepted hsome
    exact ⟨earlier, packet, hheard, hparse,
      keyChallengeLoop_accept (Window.accept_of_firstAccepted hsome)⟩

theorem runKeyExchangePhase_phase (context : PairingContext) (s : EngineState) :
    ∃ events, Emits events s (engine.runKeyExchangePhase context s).2.2 ∧
      engine.PhaseEvents context.device.nodeId events := by
  obtain ⟨keyInit, hkeyInit⟩ : ∃ keyInit,
      createKeyInit engine.nodeId context.device.nodeId = some keyInit :=
    exists_buildFrame _ _ _ _ _ _ (by simp)
  have hcommand := buildFrame_isCommand hkeyInit
  unfold runKeyExchangePhase
  dsimp only
  rw [hkeyInit]
  dsimp only
  generalize hs₀ : s.setStage .txKeyInit 1 false = s₀
  have hcourse₀ : s₀.course = s.course := by rw [← hs₀, EngineState.course_setStage]
  have hsending := ((emits_nil s).of_course hcourse₀).trans
    (engine.transmitFrame_emits hcommand.serialize_isSome freqCh2 longPreamble s₀)
  rw [List.nil_append] at hsending
  generalize engine.transmitFrame keyInit freqCh2 longPreamble s₀ = sending at hsending
  obtain ⟨sent, s₁⟩ := sending
  have hopening : ∀ e ∈ [RadioEvent.tx keyInit freqCh2 longPreamble sent],
      e.TxSatisfies fun f => f.cmd = cmdKeyInit := txSatisfies_singleton hcommand.cmd_eq
  cases sent with
  | false => exact ⟨_, hsending, .unchallenged hopening⟩
  | true =>
    dsimp only
    generalize hs₂ : s₁.setStage .waitKeyChallenge 1 true = s₂
    have hcourse₂ : s₂.course = s₁.course := by rw [← hs₂, EngineState.course_setStage]
    obtain ⟨packets, hwait, hlast⟩ :=
      waitForKeyChallenge_last engine.nodeId context.device.nodeId context.rx s₂
    generalize waitForKeyChallenge engine.nodeId context.device.nodeId context.rx s₂ = waited
      at hwait hlast
    obtain ⟨heard, rx, s₃⟩ := waited
    have hwaited := (hsending.of_course hcourse₂).trans hwait
    have hsilent : ∀ e ∈ [RadioEvent.tx keyInit freqCh2 longPreamble true] ++ packets.map .rx,
        e.TxSatisfies fun f => f.cmd = cmdKeyInit :=
      List.forall_mem_append.2 ⟨hopening, txSatisfies_of_heard packets⟩
    dsimp only at hwaited hlast
    cases heard with
    | false => exact ⟨_, hwaited, .unchallenged hsilent⟩
    | true =>
      dsimp only
      obtain ⟨earlier, packet, rfl, hparse, hrx⟩ := hlast rfl
      split
      · exact ⟨_, hwaited, .unchallenged hsilent⟩
      · rename_i hconfirm
        have hchallenge := hrx.resolve_left fun h => hconfirm (by simp [frameIsKeyConfirm, h.1])
        obtain ⟨req, transfers, inits, hlater, hsrc, hcmd, hcarries, hserial, hopens, htransfers,
          hinits⟩ := engine.transferKey_segments { context with keyInit, rx } hcommand s₃
        exact ⟨_, hwaited.trans hlater, .challenged hopening hparse hchallenge hsrc hcmd hcarries
          hserial hopens htransfers hinits⟩

/-! ## A whole pairing -/

/-- The frames that neither move a key nor challenge. -/
def Keyless (events : List RadioEvent) : Prop :=
  ∀ e ∈ events, e.TxSatisfies fun f => f.cmd ≠ cmdKeyTransfer ∧ f.cmd ≠ cmdChallengeReq

theorem keyless_of_keyInit {events : List RadioEvent}
    (h : ∀ e ∈ events, e.TxSatisfies fun f => f.cmd = cmdKeyInit) : Keyless events := by
  intro e he
  refine (h e he).mono fun f hf => ?_
  rw [hf]
  decide

theorem keyless_of_discovery {answer : Option IoFrame} {discovery : List RadioEvent}
    (h : DiscoveryEvents answer discovery) : Keyless discovery := by
  intro e he
  refine (h.requests e he).mono fun f hf => ?_
  obtain ⟨command, hcmd⟩ := hf
  rw [hcmd]
  cases command <;> decide

variable {Q : List RadioEvent → Prop}

/-- What the phases of an attempt have, and what a sequence has if its parts have it, the whole
attempt has. -/
theorem runKeyExchanges_composed (hnil : Q [])
    (happend : ∀ {events later}, Q events → Q later → Q (events ++ later))
    (hphase : ∀ {node events}, engine.PhaseEvents node events → Q events) (retries : ℕ)
    (context : PairingContext) (s : EngineState) :
    ∃ events, Emits events s (engine.runKeyExchanges retries context s).2.2 ∧ Q events := by
  induction retries generalizing context s with
  | zero => exact ⟨[], emits_nil s, hnil⟩
  | succ retries ih =>
    obtain ⟨events, hemits, hevents⟩ := engine.runKeyExchangePhase_phase context s
    unfold runKeyExchanges
    generalize engine.runKeyExchangePhase context s = phase at hemits
    obtain ⟨exchanged, context', s'⟩ := phase
    cases exchanged with
    | true => exact ⟨events, hemits, hphase hevents⟩
    | false =>
      obtain ⟨later, hlater, hrest⟩ := ih context' s'
      exact ⟨_, hemits.trans hlater, happend (hphase hevents) hrest⟩

theorem discoverAndPair_composed
    (happend : ∀ {events later}, Q events → Q later → Q (events ++ later))
    (hkeyless : ∀ {events}, Keyless events → Q events)
    (hphase : ∀ {node events}, engine.PhaseEvents node events → Q events) (w : PairingWorld) :
    ∃ events, (engine.discoverAndPair w).2.engine.trace = w.engine.trace ++ events ∧ Q events := by
  obtain ⟨discovery, hdiscovered⟩ := engine.runDiscoveryPhase_discovered w
  have hdiscovery : Q discovery := hkeyless (keyless_of_discovery hdiscovered.discovery)
  unfold discoverAndPair
  generalize engine.runDiscoveryPhase {} (beginPairingAttempt w.engine) = phase at hdiscovered
  obtain ⟨disposition, context, s⟩ := phase
  have hemits : Emits discovery (beginPairingAttempt w.engine) s := hdiscovered.emits
  cases disposition with
  | noResponse => exact ⟨discovery, (engine.unpaired_of_emits hemits _).trace_eq, hdiscovery⟩
  | invalid => exact ⟨discovery, (engine.unpaired_of_emits hemits _).trace_eq, hdiscovery⟩
  | accept =>
    dsimp only
    split
    · exact ⟨discovery, (engine.unpaired_of_emits hemits _).trace_eq, hdiscovery⟩
    · obtain ⟨exchange, hexchange, hphases⟩ := engine.runKeyExchanges_composed
        (hkeyless (by simp [Keyless])) happend hphase
        engine.tuning.pairingKeyExchangeRetries.toNat context s
      generalize engine.runKeyExchanges engine.tuning.pairingKeyExchangeRetries.toNat context s =
        keys at hexchange
      obtain ⟨exchanged, context', s'⟩ := keys
      have hboth := hemits.trans hexchange
      have hopened := happend hdiscovery hphases
      cases exchanged with
      | false => exact ⟨_, (engine.unpaired_of_emits hboth _).trace_eq, hopened⟩
      | true =>
        obtain ⟨-, configuration, hconfiguration, htx⟩ :=
          engine.finalizePairingConfiguration_emits context' s'
        dsimp only
        generalize engine.finalizePairingConfiguration context' s' = final at hconfiguration
        obtain ⟨configOk, context'', s''⟩ := final
        have hall := hboth.trans hconfiguration
        refine ⟨_, (engine.paired_of_emits hall context''
          (if configOk then .paired else .configFailed)).trace_eq, happend hopened (hkeyless ?_)⟩
        intro e he
        refine (htx e he).mono fun f hf => ?_
        rcases hf with hf | hf
        · rw [hf]
          decide
        · rw [hf]
          decide

end ExchangeEngine
end HomeIoControl
