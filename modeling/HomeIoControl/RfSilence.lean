import HomeIoControl.PairingConfirmation
import HomeIoControl.PairingRecorder

namespace HomeIoControl
open EventTrace

/-! ## Packets of a discovery -/

/-- What the rounds receive while they wait for an answer. -/
def discoveryPackets : ℕ → List Bool → List Window → List RadioRxPacket
  | 0, _, _ => []
  | rounds + 1, sends, windows =>
    if !sends.head?.getD false then []
    else
      let w := windows.head?.getD []
      w.heard isDiscoveryAnswer ++
        if (w.firstAccepted isDiscoveryAnswer).isSome then []
        else discoveryPackets rounds sends.tail windows.tail

def receivedPackets (events : List RadioEvent) : List RadioRxPacket :=
  events.filterMap fun
    | .rx packet => some packet
    | .tx _ _ _ _ => none

theorem receivedPackets_append (events later : List RadioEvent) :
    receivedPackets (events ++ later) = receivedPackets events ++ receivedPackets later :=
  List.filterMap_append

theorem receivedPackets_map_rx (packets : List RadioRxPacket) :
    receivedPackets (packets.map .rx) = packets := by
  rw [receivedPackets, List.filterMap_map]
  exact List.filterMap_some

theorem Window.heard_ne_nil_iff (accept : IoFrame → Bool) (w : Window) :
    w.heard accept ≠ [] ↔ w.any (fun slice => slice.packet.isSome) = true := by
  induction w with
  | nil => simp [Window.heard]
  | cons slice rest ih =>
    rw [Window.heard, List.any_cons]
    cases hpacket : slice.packet with
    | none => simpa [Slice.frame, hpacket] using ih
    | some packet => simp

namespace ExchangeEngine

variable (engine : ExchangeEngine)

/-- What an attempt receives in its discovery phase. -/
def attemptPackets (w : PairingWorld) : List RadioRxPacket :=
  discoveryPackets (pairingDiscoveryMaxAttempts * engine.tuning.pairingDiscoveryCommands.length)
    w.engine.script.sends w.engine.script.windows

theorem any_parses_discoveryPackets {rounds : ℕ} {sends : List Bool} {windows : List Window}
    (h : (discoveryAnswer rounds sends windows).isSome) :
    (discoveryPackets rounds sends windows).any RadioRxPacket.parses = true := by
  induction rounds generalizing sends windows with
  | zero => exact absurd h Bool.false_ne_true
  | succ rounds ih =>
    rw [discoveryAnswer] at h
    rw [discoveryPackets]
    split at h
    · exact absurd h Bool.false_ne_true
    · rename_i hsent
      rw [if_neg hsent]
      dsimp only
      rw [List.any_append, Window.any_parses_heard, Bool.or_eq_true, Bool.or_eq_true]
      cases hfirst : (windows.head?.getD []).firstAccepted isDiscoveryAnswer with
      | some answer => exact .inl (.inr rfl)
      | none =>
        rw [hfirst] at h
        exact .inr (ih h)

theorem transmitDiscovery_records (command : DiscoveryCommand) (context : PairingContext)
    (s : EngineState) :
    Records false s.telemetry (engine.transmitDiscovery command context s).2.2.telemetry := by
  unfold transmitDiscovery
  split
  · exact .refl s.telemetry
  · rename_i req hreq
    dsimp only
    generalize hs' : (if command = .discoverSpe then s.dropChallenge else s) = s'
    have hstart : s'.telemetry = s.telemetry := by
      rw [← hs']
      split <;> rfl
    rw [← hstart]
    exact engine.transmitFrame_records req freqCh2 longPreamble s'

theorem sendRound_records (command : DiscoveryCommand) (attempt : ℕ) (context : PairingContext)
    (s : EngineState) :
    Records false s.telemetry
      (engine.transmitDiscovery command context
        ((s.recordTelemetry PairingTelemetry.incrementDiscoveryAttempt).setStage
          .txDiscover attempt false)).2.2.telemetry := by
  have hstage := (Records.call .incrementDiscoveryAttempt s.telemetry).trans
    (EngineState.setStage_records
      (s.recordTelemetry PairingTelemetry.incrementDiscoveryAttempt) .txDiscover attempt false)
  exact hstage.trans (engine.transmitDiscovery_records command context _)

/-- The wait of a round. Traffic is what it calls invalid. -/
theorem waitRound_records (attempt : ℕ) (rx : IoFrame) (s : EngineState) :
    let packets := (s.script.windows.head?.getD []).heard isDiscoveryAnswer
    let result := waitForDiscoveryResponse rx (s.setStage .waitDiscoverResponse attempt false)
    Records (packets.any RadioRxPacket.parses) s.telemetry result.2.2.telemetry ∧
      (result.1 = .invalid → packets ≠ []) := by
  have hstage := s.setStage_records .waitDiscoverResponse attempt false
  generalize hs' : s.setStage .waitDiscoverResponse attempt false = s' at hstage
  have hwindow : s'.window = s.script.windows.head?.getD [] := by rw [← hs']; rfl
  have hwait := waitForDiscoveryResponse_records rx s'
  rw [hwindow] at hwait
  refine ⟨hstage.trans hwait, ?_⟩
  unfold waitForDiscoveryResponse
  dsimp only
  rw [hwindow, Window.heard_ne_nil_iff]
  split
  · exact fun h => absurd h (by simp)
  · split_ifs with htraffic
    · exact fun _ => htraffic
    · exact fun h => absurd h (by simp)

/-- Rounds that receive these packets, record the frames among them, and call an attempt invalid
only for one of them or for what came before. -/
structure Collected (packets : List RadioRxPacket) (sawInvalid : Bool) (s : EngineState)
    (result : PairingDiscoveryDisposition × PairingContext × EngineState) : Prop where
  emits : ∃ events, Emits events s result.2.2 ∧ receivedPackets events = packets
  records : Records (packets.any RadioRxPacket.parses) s.telemetry result.2.2.telemetry
  invalid : result.1 = .invalid → sawInvalid = true ∨ packets ≠ []

theorem Collected.after {earlier packets : List RadioRxPacket} {sawEarlier sawInvalid : Bool}
    {events : List RadioEvent} {s s' : EngineState}
    {result : PairingDiscoveryDisposition × PairingContext × EngineState}
    (h : Collected packets sawInvalid s' result) (hemits : Emits events s s')
    (hpackets : receivedPackets events = earlier)
    (hrecords : Records (earlier.any RadioRxPacket.parses) s.telemetry s'.telemetry)
    (hsaw : sawInvalid = true → sawEarlier = true ∨ earlier ≠ []) :
    Collected (earlier ++ packets) sawEarlier s result where
  emits := by
    obtain ⟨later, hlater, rfl⟩ := h.emits
    exact ⟨_, hemits.trans hlater, by rw [receivedPackets_append, hpackets]⟩
  records := by
    rw [List.any_append]
    exact hrecords.trans h.records
  invalid := by
    intro hinvalid
    rcases h.invalid hinvalid with hearlier | hne
    · exact (hsaw hearlier).imp_right fun hne => List.append_ne_nil_of_left_ne_nil hne _
    · exact .inr (List.append_ne_nil_of_right_ne_nil _ hne)

/-- Without an answer no window is left out. -/
theorem runDiscoveryRounds_packets (rounds : List (DiscoveryCommand × ℕ)) (sawInvalid : Bool)
    (context : PairingContext) (s : EngineState) :
    Collected (discoveryPackets rounds.length s.script.sends s.script.windows) sawInvalid s
      (engine.runDiscoveryRounds rounds sawInvalid context s) := by
  induction rounds generalizing sawInvalid context s with
  | nil =>
    refine ⟨⟨[], emits_nil s, rfl⟩, .refl s.telemetry, ?_⟩
    unfold runDiscoveryRounds
    cases sawInvalid <;> simp
  | cons round rounds ih =>
    obtain ⟨command, attempt⟩ := round
    obtain ⟨req, -, hsent, hemits, hsends, hwindows⟩ :=
      engine.sendRound_eq command attempt context s
    have hrecords := engine.sendRound_records command attempt context s
    unfold runDiscoveryRounds
    dsimp only
    generalize engine.transmitDiscovery command context _ = sending
      at hsent hemits hsends hwindows hrecords
    obtain ⟨sent, context₁, s₁⟩ := sending
    dsimp only at hsent hemits hsends hwindows hrecords ⊢
    rw [List.length_cons, discoveryPackets, ← hsent]
    -- a request that does not go out ends the rounds and waits for nothing
    cases sent with
    | false => exact ⟨⟨_, hemits, rfl⟩, hrecords, by simp⟩
    | true =>
      obtain ⟨hdisposition, -, hwait, hsendsLeft, hwindowsLeft⟩ :=
        waitRound_eq attempt context₁.rx s₁
      obtain ⟨hreports, hinvalid⟩ := waitRound_records attempt context₁.rx s₁
      rw [hwindows] at hdisposition hwait hwindowsLeft hreports hinvalid
      rw [hsends] at hsendsLeft
      have hround := hemits.trans hwait
      have hrecorded := hrecords.trans hreports
      dsimp only
      generalize waitForDiscoveryResponse context₁.rx _ = waited
        at hdisposition hround hsendsLeft hwindowsLeft hrecorded hinvalid
      obtain ⟨disposition, rx, s₂⟩ := waited
      dsimp only at hdisposition hround hsendsLeft hwindowsLeft hrecorded hinvalid ⊢
      simp only [Bool.not_true, Bool.false_eq_true, if_false]
      generalize hw : s.script.windows.head?.getD [] = w at hdisposition hround hrecorded hinvalid
      have hpackets : receivedPackets
          ([RadioEvent.tx req freqCh2 longPreamble true] ++
            (w.heard isDiscoveryAnswer).map .rx) = w.heard isDiscoveryAnswer := by
        rw [receivedPackets_append, receivedPackets_map_rx]
        rfl
      -- the first answer ends the rounds, without one the induction goes on from here
      cases hfirst : w.firstAccepted isDiscoveryAnswer with
      | some d =>
        rw [hfirst] at hdisposition
        obtain rfl : disposition = .accept := hdisposition.2 rfl
        rw [Option.isSome_some, if_pos rfl, List.append_nil]
        exact ⟨⟨_, hround, hpackets⟩, hrecorded, by simp⟩
      | none =>
        rw [hfirst] at hdisposition
        rw [Option.isSome_none, if_neg Bool.false_ne_true, ← hsendsLeft, ← hwindowsLeft]
        cases disposition with
        | accept => exact absurd (hdisposition.1 rfl) (by simp)
        | noResponse =>
          have hrest := ih sawInvalid { context₁ with rx } s₂
          exact hrest.after hround hpackets hrecorded .inl
        | invalid =>
          have hrest := ih true { context₁ with rx } s₂
          exact hrest.after hround hpackets hrecorded fun _ => .inr (hinvalid rfl)

theorem discoveryPhase_packets (w : PairingWorld) :
    let result := engine.runDiscoveryPhase {} (beginPairingAttempt w.engine)
    (result.1 = .accept ↔ (engine.attemptAnswer w).isSome) ∧
      (∃ events, Emits events (beginPairingAttempt w.engine) result.2.2 ∧
        receivedPackets events = engine.attemptPackets w) ∧
      Records ((engine.attemptPackets w).any RadioRxPacket.parses) .begin
        result.2.2.telemetry ∧
      (result.1 = .invalid → engine.attemptPackets w ≠ []) := by
  obtain ⟨discovery, hdiscovered⟩ := engine.runDiscoveryRounds_discovered
    (discoveryRounds engine.tuning.pairingDiscoveryCommands) false {}
    (beginPairingAttempt w.engine)
  obtain ⟨hevents, hrecords, hinvalid⟩ := engine.runDiscoveryRounds_packets
    (discoveryRounds engine.tuning.pairingDiscoveryCommands) false {}
    (beginPairingAttempt w.engine)
  have hdisposition := hdiscovered.disposition
  rw [length_discoveryRounds] at hdisposition hevents hrecords hinvalid
  exact ⟨hdisposition, hevents, hrecords, fun h => (hinvalid h).resolve_left Bool.false_ne_true⟩

/-- The record of an attempt reports a frame if one came in during the discovery. -/
theorem discoverAndPair_records (w : PairingWorld) :
    Records ((engine.attemptPackets w).any RadioRxPacket.parses) .begin
      (engine.discoverAndPair w).2.engine.telemetry := by
  obtain ⟨hdisposition, -, hrecords, -⟩ := engine.discoveryPhase_packets w
  unfold discoverAndPair
  generalize engine.runDiscoveryPhase {} (beginPairingAttempt w.engine) = phase
    at hdisposition hrecords
  obtain ⟨disposition, context, s⟩ := phase
  dsimp only at hdisposition hrecords ⊢
  have hfailed : ∀ outcome, Records ((engine.attemptPackets w).any RadioRxPacket.parses) .begin
      (engine.finishPairingAttempt outcome s).telemetry := fun outcome => by
    have hfinished := hrecords.trans (engine.finishPairingAttempt_records outcome s)
    rwa [Bool.or_false] at hfinished
  cases disposition with
  | invalid => exact hfailed .invalidResponse
  | noResponse => exact hfailed .noResponse
  | accept =>
    dsimp only
    split
    · exact hfailed .invalidResponse
    · -- the answer was reported, and nothing takes that back
      have hparses : (engine.attemptPackets w).any RadioRxPacket.parses = true :=
        any_parses_discoveryPackets (hdisposition.1 rfl)
      rw [hparses] at hrecords ⊢
      have hlater : ∀ {t}, Recorded s.telemetry t → Records true .begin t := by
        rintro t ⟨heard, h⟩
        exact hrecords.trans h
      have hkeys := engine.runKeyExchanges_records
        engine.tuning.pairingKeyExchangeRetries.toNat context s
      generalize engine.runKeyExchanges engine.tuning.pairingKeyExchangeRetries.toNat context s =
        keys at hkeys
      rcases keys with ⟨_ | _, context', s'⟩
      · exact hlater (hkeys.trans (engine.finishPairingAttempt_records _ s').recorded)
      · have hconfigured := hkeys.trans
          (engine.finalizePairingConfiguration_records context' s').recorded
        dsimp only
        generalize engine.finalizePairingConfiguration context' s' = final at hconfigured
        obtain ⟨configOk, context'', s''⟩ := final
        exact hlater (hconfigured.trans
          (engine.registerDevice_records context'' _ { w with engine := s'' }).recorded)

theorem discoverAndPair_undiscovered {w : PairingWorld} (h : engine.attemptAnswer w = none) :
    receivedPackets (newEvents w.engine (engine.discoverAndPair w).2.engine) =
        engine.attemptPackets w ∧
      ((engine.discoverAndPair w).2.engine.telemetry.outcome = .invalidResponse →
        engine.attemptPackets w ≠ []) := by
  obtain ⟨hdisposition, ⟨events, hemits, hpackets⟩, -, hinvalid⟩ := engine.discoveryPhase_packets w
  rw [h] at hdisposition
  unfold discoverAndPair
  generalize engine.runDiscoveryPhase {} (beginPairingAttempt w.engine) = phase
    at hdisposition hemits hinvalid
  obtain ⟨disposition, context, s⟩ := phase
  dsimp only at hdisposition hemits hinvalid ⊢
  have htrace : ∀ outcome,
      newEvents w.engine (engine.finishPairingAttempt outcome s) = events := fun outcome => by
    apply newEvents_of_trace
    rw [trace_finishPairingAttempt, hemits.trace_eq, trace_beginPairingAttempt]
  cases disposition with
  | accept => exact absurd (hdisposition.1 rfl) (by simp)
  | invalid => exact ⟨by rw [htrace, hpackets], fun _ => hinvalid rfl⟩
  | noResponse =>
    refine ⟨by rw [htrace, hpackets], fun houtcome => ?_⟩
    have hset : (engine.finishPairingAttempt .noResponse s).telemetry.outcome = .noResponse := rfl
    exact absurd (hset.symm.trans houtcome) (by decide)

/-! ## Silence -/

/-- The advice that the hub derives at the end of an attempt. -/
def attemptAdvice (w : PairingWorld) : List PairingAdviceCode :=
  (analyzePairingTelemetry (engine.discoverAndPair w).2.engine.telemetry engine.nodeId).map (·.code)

/-- Silence is reported only if nothing was received, and never for an invalid response. -/
def SilenceTruthful (w : PairingWorld) : Prop :=
  .rfSilent ∈ engine.attemptAdvice w →
    receivedPackets (newEvents w.engine (engine.discoverAndPair w).2.engine) = [] ∧
      (engine.discoverAndPair w).2.engine.telemetry.outcome ≠ .invalidResponse

theorem rfSilent_mem_attemptAdvice (w : PairingWorld) :
    .rfSilent ∈ engine.attemptAdvice w ↔
      (engine.attemptPackets w).any RadioRxPacket.parses = false := by
  obtain ⟨calls, htelemetry, hcalls⟩ := (engine.discoverAndPair_records w).telemetryOf
  rw [attemptAdvice, htelemetry, rfSilent_iff, hcalls]

/-- Traffic counts as heard once a frame can be made of it. -/
theorem silenceTruthful_iff (w : PairingWorld) :
    engine.SilenceTruthful w ↔
      (engine.attemptPackets w = [] ∨
        ∃ packet ∈ engine.attemptPackets w, (parse packet.data).isSome) := by
  unfold SilenceTruthful
  rw [rfSilent_mem_attemptAdvice]
  have hparses : (∃ packet ∈ engine.attemptPackets w, (parse packet.data).isSome) ↔
      (engine.attemptPackets w).any RadioRxPacket.parses = true := List.any_eq_true.symm
  rw [hparses]
  cases hany : (engine.attemptPackets w).any RadioRxPacket.parses with
  | true => exact iff_of_true (fun h => absurd h Bool.true_eq_false.mp) (.inr rfl)
  | false =>
    have hnone : engine.attemptAnswer w = none := by
      rw [← Option.not_isSome_iff_eq_none]
      intro hsome
      have hheard : (engine.attemptPackets w).any RadioRxPacket.parses = true :=
        any_parses_discoveryPackets hsome
      rw [hany] at hheard
      exact absurd hheard Bool.false_ne_true
    obtain ⟨hpackets, hinvalid⟩ := engine.discoverAndPair_undiscovered hnone
    rw [hpackets]
    constructor
    · exact fun htruthful => .inl (htruthful rfl).1
    · intro hcondition _
      have hempty := hcondition.resolve_right Bool.false_ne_true
      exact ⟨hempty, fun h => hinvalid h hempty⟩

def cutAnswerWorld : PairingWorld where
  engine :=
    { script :=
        { sends := [true, true, true], windows := [oneFrame foreignAnswer.dropLast],
          challenges := [], rssis := [] } }

theorem cut_answer_called_silence :
    ¬ ∀ (engine : ExchangeEngine) (w : PairingWorld), engine.SilenceTruthful w := by
  intro h
  have hparses : (sampleEngine.attemptPackets cutAnswerWorld).any RadioRxPacket.parses = false := by
    decide +kernel
  have hanswer : sampleEngine.attemptAnswer cutAnswerWorld = none := by decide +kernel
  have hheard : sampleEngine.attemptPackets cutAnswerWorld ≠ [] := by decide +kernel
  have hempty := (h sampleEngine cutAnswerWorld
    ((sampleEngine.rfSilent_mem_attemptAdvice cutAnswerWorld).2 hparses)).1
  rw [(sampleEngine.discoverAndPair_undiscovered hanswer).1] at hempty
  exact hheard hempty

end ExchangeEngine
end HomeIoControl
