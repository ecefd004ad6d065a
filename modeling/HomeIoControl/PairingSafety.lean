import HomeIoControl.PairingKeyExchange

namespace HomeIoControl
open EventTrace

/-! ## How an attempt goes -/

structure Unpaired (w : PairingWorld) (events : List RadioEvent) (run : Bool × PairingWorld) :
    Prop where
  failed : run.1 = false
  trace_eq : run.2.engine.trace = w.engine.trace ++ events
  detached : run.2.engine.telemetryAttached = false
  puts_eq : run.2.puts = w.puts
  registry_eq : run.2.registry = w.registry

structure Paired (w : PairingWorld) (deviceId : DeviceId) (device : IoDevice)
    (events : List RadioEvent) (run : Bool × PairingWorld) : Prop where
  succeeded : run.1 = true
  trace_eq : run.2.engine.trace = w.engine.trace ++ events
  detached : run.2.engine.telemetryAttached = false
  puts_eq : run.2.puts = w.puts ++ [(deviceId, device)]
  registry_eq : run.2.registry = w.registry.put deviceId device

namespace ExchangeEngine

variable (engine : ExchangeEngine)

/-- The answer that the discovery rounds of an attempt accept. -/
def attemptAnswer (w : PairingWorld) : Option (IoFrame × List Bool × List Window) :=
  discoveryAnswer (pairingDiscoveryMaxAttempts * engine.tuning.pairingDiscoveryCommands.length)
    w.engine.script.sends w.engine.script.windows

/-- The ways in which an attempt can go. -/
inductive AttemptCourse (w : PairingWorld) (run : Bool × PairingWorld) : Prop
  | undiscovered {discovery : List RadioEvent}
      (answer : engine.attemptAnswer w = none)
      (heard : DiscoveryEvents none discovery)
      (ends : Unpaired w discovery run)
  | alternate {d : IoFrame} {sends : List Bool} {windows : List Window}
      {discovery : List RadioEvent}
      (answer : engine.attemptAnswer w = some (d, sends, windows))
      (heard : DiscoveryEvents (some d) discovery)
      (cmd : d.cmd = cmdDiscoverAltResp)
      (ends : Unpaired w discovery run)
  | keyExchangeFailed {d : IoFrame} {sends : List Bool} {windows : List Window}
      {discovery exchange : List RadioEvent} {context : PairingContext} {s : EngineState}
      {result : Bool × PairingContext × EngineState}
      (answer : engine.attemptAnswer w = some (d, sends, windows))
      (heard : DiscoveryEvents (some d) discovery)
      (cmd : d.cmd = cmdDiscoverResp)
      (node : context.device.nodeId = d.src)
      (exchanged : engine.KeyExchanged context exchange s result)
      (opens : engine.OpensWithKeyInit d.src
        (sends.take engine.tuning.pairingKeyExchangeRetries.toNat) exchange)
      (ends : Unpaired w (discovery ++ exchange) run)
  | paired {d : IoFrame} {sends : List Bool} {windows : List Window}
      {discovery exchange configuration : List RadioEvent} {context : PairingContext}
      {s : EngineState} {result : Bool × PairingContext × EngineState}
      (answer : engine.attemptAnswer w = some (d, sends, windows))
      (heard : DiscoveryEvents (some d) discovery)
      (cmd : d.cmd = cmdDiscoverResp)
      (node : context.device.nodeId = d.src)
      (exchanged : engine.KeyExchanged context exchange s result)
      (opens : engine.OpensWithKeyInit d.src
        (sends.take engine.tuning.pairingKeyExchangeRetries.toNat) exchange)
      (ok : result.1 = true)
      (configured : ∀ e ∈ configuration, e.TxSatisfies fun f =>
        f.cmd = cmdSetConfig1 ∨ f.cmd = cmdChallengeResp)
      (ends : Paired w (nodeIdToString d.src) context.device
        (discovery ++ (exchange ++ configuration)) run)

theorem trace_finishPairingAttempt (outcome : PairingOutcome) (s : EngineState) :
    (engine.finishPairingAttempt outcome s).trace = s.trace := rfl

theorem telemetryAttached_finishPairingAttempt (outcome : PairingOutcome) (s : EngineState) :
    (engine.finishPairingAttempt outcome s).telemetryAttached = false := rfl

theorem trace_beginPairingAttempt (s : EngineState) : (beginPairingAttempt s).trace = s.trace :=
  rfl

theorem unpaired_of_emits {w : PairingWorld} {events : List RadioEvent} {s : EngineState}
    (h : Emits events (beginPairingAttempt w.engine) s) (outcome : PairingOutcome) :
    Unpaired w events (false, { w with engine := engine.finishPairingAttempt outcome s }) where
  failed := rfl
  trace_eq := by
    rw [trace_finishPairingAttempt, h.trace_eq, trace_beginPairingAttempt]
  detached := engine.telemetryAttached_finishPairingAttempt outcome s
  puts_eq := rfl
  registry_eq := rfl

theorem paired_of_emits {w : PairingWorld} {events : List RadioEvent} {s : EngineState}
    (h : Emits events (beginPairingAttempt w.engine) s) (context : PairingContext)
    (outcome : PairingOutcome) :
    Paired w context.deviceId context.device events
      (true, engine.registerDevice context outcome { w with engine := s }) where
  succeeded := rfl
  trace_eq := by
    rw [← trace_beginPairingAttempt w.engine, ← h.trace_eq]
    rfl
  detached := rfl
  puts_eq := rfl
  registry_eq := rfl

theorem finalizePairingConfiguration_emits (context : PairingContext) (s : EngineState) :
    let result := engine.finalizePairingConfiguration context s
    SameDevice context result.2.1 ∧
      ∃ events, Emits events s result.2.2 ∧
        ∀ e ∈ events, e.TxSatisfies fun f => f.cmd = cmdSetConfig1 ∨ f.cmd = cmdChallengeResp := by
  have hbuild : ∃ req, createSetConfig1 engine.nodeId context.device.nodeId = some req :=
    exists_buildFrame _ _ _ _ _ _ (by decide)
  obtain ⟨req, hreq⟩ := hbuild
  have hcommand := buildFrame_isCommand hreq
  obtain ⟨events, hemits, htx, -⟩ := engine.sendAndReceive_emits req context.resp freqCh2 s
  unfold finalizePairingConfiguration
  rw [hreq]
  refine ⟨⟨rfl, rfl⟩, events, hemits, ?_⟩
  intro e he
  refine (htx e he).mono fun f hf => ?_
  rcases hf with rfl | hf
  · exact .inl hcommand.cmd_eq
  · exact .inr hf

theorem runDiscoveryPhase_discovered (w : PairingWorld) :
    ∃ discovery, Discovered (engine.attemptAnswer w) discovery (beginPairingAttempt w.engine)
      (engine.runDiscoveryPhase {} (beginPairingAttempt w.engine)) := by
  obtain ⟨discovery, hdiscovered⟩ := engine.runDiscoveryRounds_discovered
    (discoveryRounds engine.tuning.pairingDiscoveryCommands) false {}
    (beginPairingAttempt w.engine)
  rw [length_discoveryRounds] at hdiscovered
  exact ⟨discovery, hdiscovered⟩

theorem discoverAndPair_course (w : PairingWorld) :
    engine.AttemptCourse w (engine.discoverAndPair w) := by
  obtain ⟨discovery, hdiscovered⟩ := engine.runDiscoveryPhase_discovered w
  unfold discoverAndPair
  generalize engine.runDiscoveryPhase {} (beginPairingAttempt w.engine) = phase at hdiscovered
  obtain ⟨disposition, context, s⟩ := phase
  obtain ⟨hemits, hevents, hdisposition, hfound⟩ := hdiscovered
  dsimp only at hemits hdisposition hfound ⊢
  cases hanswer : engine.attemptAnswer w with
  | none =>
    rw [hanswer] at hevents hdisposition
    cases disposition with
    | accept => exact absurd (hdisposition.1 rfl) (by simp)
    | noResponse => exact .undiscovered hanswer hevents (engine.unpaired_of_emits hemits _)
    | invalid => exact .undiscovered hanswer hevents (engine.unpaired_of_emits hemits _)
  | some found =>
    obtain ⟨d, sends, windows⟩ := found
    rw [hanswer] at hevents hdisposition
    obtain rfl : disposition = .accept := hdisposition.2 rfl
    obtain ⟨rfl, hnode, hid, hsends⟩ := hfound d sends windows hanswer
    dsimp only
    split
    · -- the attempt ends before a key is exchanged
      rename_i halt
      exact .alternate hanswer hevents (by simpa using halt) (engine.unpaired_of_emits hemits _)
    · rename_i halt
      have hcmd : context.rx.cmd = cmdDiscoverResp := by
        have hmem : acceptedDiscovery discovery = some context.rx := hevents.accepted
        obtain ⟨e, -, he⟩ := List.exists_of_findSome?_eq_some hmem
        cases e with
        | tx => simp at he
        | rx packet =>
          have haccept := (Option.filter_eq_some_iff.1 he).2
          exact ((isDiscoveryAnswer_iff _).1 haccept).resolve_right (by simpa using halt)
      obtain ⟨exchange, hexchanged, hopens⟩ := engine.runKeyExchanges_exchanged
        engine.tuning.pairingKeyExchangeRetries.toNat context s
      rw [hnode, hsends] at hopens
      generalize engine.runKeyExchanges engine.tuning.pairingKeyExchangeRetries.toNat context s =
        keys at hexchanged
      obtain ⟨exchanged, context', s'⟩ := keys
      have hboth := hemits.trans hexchanged.emits
      cases exchanged with
      | false =>
        exact .keyExchangeFailed hanswer hevents hcmd hnode hexchanged hopens
          (engine.unpaired_of_emits hboth _)
      | true =>
        obtain ⟨hsame, configuration, hconfiguration, htx⟩ :=
          engine.finalizePairingConfiguration_emits context' s'
        dsimp only
        generalize engine.finalizePairingConfiguration context' s' = final
          at hsame hconfiguration
        obtain ⟨configOk, context'', s''⟩ := final
        have hall := hboth.trans hconfiguration
        rw [List.append_assoc] at hall
        have hdevice : context''.device = context.device :=
          (hexchanged.same.trans hsame).device_eq
        have hid' : context''.deviceId = nodeIdToString context.rx.src :=
          ((hexchanged.same.trans hsame).deviceId_eq).trans hid
        have hends := engine.paired_of_emits hall context''
          (if configOk then .paired else .configFailed)
        rw [hdevice, hid'] at hends
        exact .paired hanswer hevents hcmd hnode hexchanged hopens rfl htx hends

/-! ## Safety of an attempt -/

/-- A 0x32 goes to the node whose 0x29 was accepted, after our 0x31 and the node's challenge. -/
def TransfersToAccepted (before : List RadioEvent) (e : RadioEvent) : Prop :=
  (e.TxSatisfies fun f => f.cmd ≠ cmdKeyTransfer) ∨
    ∃ d, acceptedDiscovery before = some d ∧ d.cmd = cmdDiscoverResp ∧
      engine.KeyTransferJustified d.src before e

/-- What holds of every attempt, told from its events. -/
structure SafeAttempt (w : PairingWorld) (run : Bool × PairingWorld) (events : List RadioEvent) :
    Prop where
  transfers : Justified engine.TransfersToAccepted events
  alternate : ∀ d, acceptedDiscovery events = some d → d.cmd = cmdDiscoverAltResp →
    ∀ e ∈ events, e.TxSatisfies fun f => f.cmd ≠ cmdKeyInit ∧ f.cmd ≠ cmdKeyTransfer
  registered : run.1 = true ↔ run.2.puts ≠ w.puts
  confirmed : run.1 = true → ∃ d device, acceptedDiscovery events = some d ∧
    d.cmd = cmdDiscoverResp ∧ device.nodeId = d.src ∧
    run.2.puts = w.puts ++ [(nodeIdToString d.src, device)] ∧
    run.2.registry = w.registry.put (nodeIdToString d.src) device ∧
    Precedes (RadioEvent.IsSent (IsKeyInit engine.nodeId d.src))
      (RadioEvent.IsHeard (IsKeyConfirm engine.nodeId d.src)) events
  detached : run.2.engine.telemetryAttached = false

theorem isDiscoveryRequest_ne {f : IoFrame} (h : IsDiscoveryRequest f) :
    f.cmd ≠ cmdKeyInit ∧ f.cmd ≠ cmdKeyTransfer := by
  obtain ⟨command, hcmd⟩ := h
  rw [hcmd]
  cases command <;> decide

theorem transfers_of_discovery {answer : Option IoFrame} {discovery : List RadioEvent}
    (h : DiscoveryEvents answer discovery) : Justified engine.TransfersToAccepted discovery := by
  apply justified_of_forall
  intro e he before
  exact .inl ((h.requests e he).mono fun f hf => (isDiscoveryRequest_ne hf).2)

theorem KeyExchanged.transfersToAccepted {d : IoFrame} {discovery exchange : List RadioEvent}
    {context : PairingContext} {s : EngineState} {result : Bool × PairingContext × EngineState}
    (h : engine.KeyExchanged context exchange s result)
    (hdiscovery : DiscoveryEvents (some d) discovery) (hcmd : d.cmd = cmdDiscoverResp)
    (hnode : context.device.nodeId = d.src) :
    Justified engine.TransfersToAccepted (discovery ++ exchange) := by
  rw [justified_append]
  refine ⟨engine.transfers_of_discovery hdiscovery, h.transfers.mono ?_⟩
  intro before e he
  refine .inr ⟨d, hdiscovery.accepted_append before, hcmd, ?_⟩
  rw [← hnode]
  exact engine.keyTransferJustified_append_left _ _ _ he

theorem safeAttempt_of_unpaired {w : PairingWorld} {run : Bool × PairingWorld}
    {events : List RadioEvent} (h : Unpaired w events run)
    (htransfers : Justified engine.TransfersToAccepted events)
    (halternate : ∀ d, acceptedDiscovery events = some d → d.cmd = cmdDiscoverAltResp →
      ∀ e ∈ events, e.TxSatisfies fun f => f.cmd ≠ cmdKeyInit ∧ f.cmd ≠ cmdKeyTransfer) :
    engine.SafeAttempt w run events where
  transfers := htransfers
  alternate := halternate
  registered := by simp [h.failed, h.puts_eq]
  confirmed := by
    intro hok
    rw [h.failed] at hok
    exact absurd hok Bool.noConfusion
  detached := h.detached

/-- Pairing hands the key to the discovered node only, in answer to its challenge, and registers it
exactly when it confirmed. -/
theorem discoverAndPair_safe (w : PairingWorld) :
    let run := engine.discoverAndPair w
    engine.SafeAttempt w run (newEvents w.engine run.2.engine) := by
  have hcourse := engine.discoverAndPair_course w
  generalize engine.discoverAndPair w = run at hcourse
  dsimp only
  cases hcourse with
  | undiscovered answer heard ends =>
    rw [newEvents_of_trace ends.trace_eq]
    apply engine.safeAttempt_of_unpaired ends (engine.transfers_of_discovery heard)
    intro d hd
    rw [heard.accepted] at hd
    exact absurd hd (by simp)
  -- an answer of the other kind hands out no key
  | alternate answer heard cmd ends =>
    rw [newEvents_of_trace ends.trace_eq]
    apply engine.safeAttempt_of_unpaired ends (engine.transfers_of_discovery heard)
    intro d _ _ e he
    exact (heard.requests e he).mono fun f hf => isDiscoveryRequest_ne hf
  | keyExchangeFailed answer heard cmd node exchanged opens ends =>
    rw [newEvents_of_trace ends.trace_eq]
    apply engine.safeAttempt_of_unpaired ends (exchanged.transfersToAccepted engine heard cmd node)
    intro d' hd' hcmd'
    rw [heard.accepted_append, Option.some.injEq] at hd'
    rw [← hd', cmd] at hcmd'
    exact absurd hcmd' (by decide)
  | @paired d _ _ discovery exchange configuration context _ _ answer heard cmd node exchanged
      opens ok configured ends =>
    rw [newEvents_of_trace ends.trace_eq]
    have haccepted := heard.accepted_append (exchange ++ configuration)
    refine ⟨?_, ?_, ?_, fun _ => ⟨d, context.device, haccepted, cmd, node, ends.puts_eq,
      ends.registry_eq, ?_⟩, ends.detached⟩
    · rw [← List.append_assoc, justified_append]
      refine ⟨exchanged.transfersToAccepted engine heard cmd node, justified_of_forall ?_⟩
      intro e he before
      -- the configuration sends two commands, none of them a key transfer
      refine .inl ((configured e he).mono fun f hf => ?_)
      rcases hf with hf | hf
      · rw [hf]
        decide
      · rw [hf]
        decide
    · intro d' hd' hcmd'
      rw [haccepted, Option.some.injEq] at hd'
      rw [← hd', cmd] at hcmd'
      exact absurd hcmd' (by decide)
    · simp [ends.succeeded, ends.puts_eq]
    · have hconfirmed := exchanged.confirmed ok
      rw [node] at hconfirmed
      exact (hconfirmed.append_right configuration).append_left discovery

/-! ## Whose answers are adopted -/

def KeyInitAnswered (before : List RadioEvent) (e : RadioEvent) : Prop :=
  ∀ node, e.IsSent (fun f => f.cmd = cmdKeyInit ∧ f.dst = node) →
    ∃ e' ∈ before, e'.IsHeard fun f =>
      f.cmd = cmdDiscoverResp ∧ f.src = node ∧ f.dst = engine.nodeId

def StartsWithAnswerers (w : PairingWorld) : Prop :=
  Justified engine.KeyInitAnswered
    (newEvents w.engine (engine.discoverAndPair w).2.engine)

/-- A 0x29 that the discovery phase accepts is addressed to this controller. -/
def AcceptsOwnAnswers (w : PairingWorld) : Prop :=
  let phase := engine.runDiscoveryPhase {} (beginPairingAttempt w.engine)
  phase.1 = .accept → phase.2.1.rx.cmd = cmdDiscoverResp → phase.2.1.rx.dst = engine.nodeId

/-- The first answer in the discovery windows is a 0x29 to another controller. -/
def ForeignAnswerFirst (w : PairingWorld) : Prop :=
  ∃ answer ∈ engine.attemptAnswer w,
    answer.1.cmd = cmdDiscoverResp ∧ answer.1.dst ≠ engine.nodeId

def KeyInitSent (w : PairingWorld) : Prop :=
  ∃ answer ∈ engine.attemptAnswer w,
    true ∈ answer.2.1.take engine.tuning.pairingKeyExchangeRetries.toNat

theorem keyInitAnswered_of_txSatisfies {e : RadioEvent}
    (h : e.TxSatisfies fun f => f.cmd ≠ cmdKeyInit) (before : List RadioEvent) :
    engine.KeyInitAnswered before e := by
  intro node hsent
  cases e with
  | rx packet => exact hsent.elim
  | tx frame freqHz preambleLen sent =>
    cases sent with
    | false => exact hsent.elim
    | true => exact absurd hsent.1 h

theorem answered_of_discovery {answer : Option IoFrame} {discovery : List RadioEvent}
    (h : DiscoveryEvents answer discovery) : Justified engine.KeyInitAnswered discovery := by
  apply justified_of_forall
  intro e he before
  apply engine.keyInitAnswered_of_txSatisfies
  exact (h.requests e he).mono fun f hf => (isDiscoveryRequest_ne hf).1

theorem isHeard_of_discovery {d : IoFrame} {discovery : List RadioEvent}
    (h : DiscoveryEvents (some d) discovery) : ∃ e ∈ discovery, e.IsHeard fun f => f = d := by
  obtain ⟨e, hmem, he⟩ := List.exists_of_findSome?_eq_some h.accepted
  refine ⟨e, hmem, ?_⟩
  cases e with
  | tx => simp at he
  | rx packet => exact ⟨d, (Option.filter_eq_some_iff.1 he).1, rfl⟩

theorem KeyExchanged.answered {d : IoFrame} {discovery exchange : List RadioEvent}
    {context : PairingContext} {s : EngineState} {result : Bool × PairingContext × EngineState}
    (h : engine.KeyExchanged context exchange s result)
    (hdiscovery : DiscoveryEvents (some d) discovery) (hcmd : d.cmd = cmdDiscoverResp)
    (hdst : d.dst = engine.nodeId) (hnode : context.device.nodeId = d.src) :
    Justified engine.KeyInitAnswered (discovery ++ exchange) := by
  rw [justified_append]
  refine ⟨engine.answered_of_discovery hdiscovery, justified_of_forall ?_⟩
  intro e he before node hsent
  obtain ⟨e', hmem, hheard⟩ := isHeard_of_discovery hdiscovery
  refine ⟨e', List.mem_append_left _ hmem, ?_⟩
  have hcommands := h.commands e he
  cases e with
  | rx packet => exact hsent.elim
  | tx frame freqHz preambleLen sent =>
    cases sent with
    | false => exact hsent.elim
    | true =>
      obtain ⟨hinit, rfl⟩ := hsent
      have hdstNode : frame.dst = d.src := by
        rcases hcommands with hcase | hcase | hcase
        · rw [← hnode]
          exact hcase.2.2
        · rw [hinit] at hcase
          exact absurd hcase (by decide)
        · rw [hinit] at hcase
          exact absurd hcase (by decide)
      cases e' with
      | tx => exact hheard
      | rx packet =>
        obtain ⟨f, hparse, rfl⟩ := hheard
        exact ⟨f, hparse, hcmd, hdstNode.symm, hdst⟩

theorem OpensWithKeyInit.not_answered {d : IoFrame} {discovery exchange later : List RadioEvent}
    {sends : List Bool} (h : engine.OpensWithKeyInit d.src sends exchange) (hmem : true ∈ sends)
    (hdiscovery : DiscoveryEvents (some d) discovery) (hdst : d.dst ≠ engine.nodeId) :
    ¬Justified engine.KeyInitAnswered (discovery ++ (exchange ++ later)) := by
  intro hjustified
  rw [OpensWithKeyInit, if_pos hmem] at h
  obtain ⟨refused, keyInit, rest, rfl, ⟨hcmd, -, hkeyDst⟩, hall⟩ := h
  obtain ⟨e, he, hheard⟩ := hjustified (discovery ++ refused)
    (.tx keyInit freqCh2 longPreamble true) (rest ++ later) (by simp) d.src ⟨hcmd, hkeyDst⟩
  rcases List.mem_append.1 he with he | he
  · cases e with
    | tx => exact hheard
    | rx packet =>
      obtain ⟨f, hparse, hcmd, -, hf⟩ := hheard
      have hsome := hdiscovery.only packet f he hparse ((isDiscoveryAnswer_iff f).2 (.inl hcmd))
      rw [Option.some.injEq] at hsome
      rw [hsome] at hdst
      exact hdst hf
  · have hrefused := hall e he
    cases e with
    | tx => exact hheard
    | rx => exact hrefused

theorem OpensWithKeyInit.answered_of_refused {node : NodeId} {exchange : List RadioEvent}
    {sends : List Bool} (h : engine.OpensWithKeyInit node sends exchange) (hmem : true ∉ sends)
    {discovery : List RadioEvent} {answer : Option IoFrame}
    (hdiscovery : DiscoveryEvents answer discovery) :
    Justified engine.KeyInitAnswered (discovery ++ exchange) := by
  rw [justified_append]
  refine ⟨engine.answered_of_discovery hdiscovery, justified_of_forall ?_⟩
  rw [OpensWithKeyInit, if_neg hmem] at h
  intro e he before node hsent
  have hrefused := h e he
  cases e with
  | rx packet => exact hsent.elim
  | tx frame freqHz preambleLen sent =>
    cases sent with
    | false => exact hsent.elim
    | true => exact hrefused.elim

theorem answered_iff {d : IoFrame} {discovery exchange later : List RadioEvent}
    {context : PairingContext} {s : EngineState} {result : Bool × PairingContext × EngineState}
    {sends : List Bool} (hdiscovery : DiscoveryEvents (some d) discovery)
    (hcmd : d.cmd = cmdDiscoverResp) (hnode : context.device.nodeId = d.src)
    (hexchanged : engine.KeyExchanged context exchange s result)
    (hopens : engine.OpensWithKeyInit d.src sends exchange)
    (hlater : ∀ e ∈ later, e.TxSatisfies fun f => f.cmd ≠ cmdKeyInit) :
    Justified engine.KeyInitAnswered (discovery ++ (exchange ++ later)) ↔
      ¬(d.dst ≠ engine.nodeId ∧ true ∈ sends) := by
  constructor
  · rintro hjustified ⟨hdst, hmem⟩
    exact hopens.not_answered engine hmem hdiscovery hdst hjustified
  · intro hnot
    rw [← List.append_assoc, justified_append]
    refine ⟨?_, justified_of_forall fun e he before =>
      engine.keyInitAnswered_of_txSatisfies (hlater e he) _⟩
    by_cases hmem : true ∈ sends
    · have hdst : d.dst = engine.nodeId := by
        by_contra hdst
        exact hnot ⟨hdst, hmem⟩
      exact hexchanged.answered engine hdiscovery hcmd hdst hnode
    · exact hopens.answered_of_refused engine hmem hdiscovery

theorem startsWithAnswerers_iff (w : PairingWorld) :
    engine.StartsWithAnswerers w ↔ ¬(engine.ForeignAnswerFirst w ∧ engine.KeyInitSent w) := by
  have hcourse := engine.discoverAndPair_course w
  unfold StartsWithAnswerers ForeignAnswerFirst KeyInitSent
  generalize engine.discoverAndPair w = run at hcourse
  cases hcourse with
  | undiscovered answer heard ends =>
    rw [newEvents_of_trace ends.trace_eq, answer]
    refine iff_of_true (engine.answered_of_discovery heard) ?_
    simp
  | alternate answer heard cmd ends =>
    rw [newEvents_of_trace ends.trace_eq, answer]
    refine iff_of_true (engine.answered_of_discovery heard) ?_
    rintro ⟨⟨_, hmem, hcmd, -⟩, -⟩
    obtain rfl := Option.some.inj hmem
    rw [cmd] at hcmd
    exact absurd hcmd (by decide)
  | keyExchangeFailed answer heard cmd node exchanged opens ends =>
    rw [newEvents_of_trace ends.trace_eq, answer, ← List.append_nil (_ ++ _), List.append_assoc,
      engine.answered_iff heard cmd node exchanged opens (by simp)]
    simp [cmd]
  | paired answer heard cmd node exchanged opens ok configured ends =>
    rw [newEvents_of_trace ends.trace_eq, answer,
      engine.answered_iff heard cmd node exchanged opens]
    · simp [cmd]
    · intro e he
      refine (configured e he).mono fun f hf => ?_
      rcases hf with hf | hf
      · rw [hf]
        decide
      · rw [hf]
        decide

theorem acceptsOwnAnswers_iff (w : PairingWorld) :
    engine.AcceptsOwnAnswers w ↔ ¬engine.ForeignAnswerFirst w := by
  obtain ⟨discovery, hdiscovered⟩ := engine.runDiscoveryPhase_discovered w
  obtain ⟨-, -, hdisposition, hfound⟩ := hdiscovered
  unfold AcceptsOwnAnswers ForeignAnswerFirst
  dsimp only
  rw [hdisposition]
  cases hanswer : engine.attemptAnswer w with
  | none => simp
  | some answer =>
    obtain ⟨d, sends, windows⟩ := answer
    obtain ⟨hrx, -⟩ := hfound d sends windows hanswer
    rw [hrx]
    simp

/-- Pairing adopts only devices that answered this controller unless a 0x29 to another one comes
first. -/
theorem adoptsOwnAnswers_iff (w : PairingWorld) :
    (engine.StartsWithAnswerers w ∧ engine.AcceptsOwnAnswers w) ↔
      ¬engine.ForeignAnswerFirst w := by
  rw [startsWithAnswerers_iff, acceptsOwnAnswers_iff]
  constructor
  · exact fun h => h.2
  · exact fun h => ⟨fun hforeign => h hforeign.1, h⟩

def foreignAnswer : List UInt8 :=
  wireFrame 0x0A #v[0x77, 0x88, 0x99] sampleDevice cmdDiscoverResp [0x00, 0x80]

def foreignAnswerWorld : PairingWorld where
  engine :=
    { script :=
        { sends := [true, true], windows := [oneFrame foreignAnswer], challenges := [],
          rssis := [] } }

theorem attemptAnswer_foreignAnswerWorld :
    sampleEngine.attemptAnswer foreignAnswerWorld = some (readFrame foreignAnswer, [true], []) := by
  decide +kernel

/-- The answer to the other controller is accepted, and our key-init follows. -/
theorem foreign_answer_adopted :
    ¬sampleEngine.StartsWithAnswerers foreignAnswerWorld ∧
      ¬sampleEngine.AcceptsOwnAnswers foreignAnswerWorld := by
  have hforeign : sampleEngine.ForeignAnswerFirst foreignAnswerWorld :=
    ⟨_, attemptAnswer_foreignAnswerWorld, by decide, by decide⟩
  have hsent : sampleEngine.KeyInitSent foreignAnswerWorld :=
    ⟨_, attemptAnswer_foreignAnswerWorld, by decide⟩
  rw [startsWithAnswerers_iff, acceptsOwnAnswers_iff, not_not, not_not]
  exact ⟨⟨hforeign, hsent⟩, hforeign⟩

end ExchangeEngine
end HomeIoControl
