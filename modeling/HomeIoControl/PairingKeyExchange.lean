import HomeIoControl.PairingTrace

namespace HomeIoControl
open EventTrace

/-! ## Key exchange -/

def IsKeyInit (own node : NodeId) (f : IoFrame) : Prop :=
  f.cmd = cmdKeyInit ∧ f.src = own ∧ f.dst = node

/-- A challenge of six bytes. -/
def IsKeyChallenge (own node : NodeId) (f : IoFrame) : Prop :=
  f.cmd = cmdChallengeReq ∧ f.dataLen = hmacSize ∧ f.src = node ∧ f.dst = own

def IsKeyConfirm (own node : NodeId) (f : IoFrame) : Prop :=
  f.cmd = cmdKeyConfirm ∧ f.src = node ∧ f.dst = own

theorem keyChallengeLoop_accept {own node : NodeId} {f : IoFrame}
    (h : (keyChallengeLoop own node).accept f = true) :
    IsKeyConfirm own node f ∨ IsKeyChallenge own node f := by
  unfold keyChallengeLoop classifyPairingKeyChallenge frameIsKeyConfirm frameMatchesNodes at h
  dsimp only at h
  rcases Bool.or_eq_true_iff.1 h with h | h
  · left
    simpa [IsKeyConfirm] using h
  · right
    split at h
    · rename_i haccept
      simpa [IsKeyChallenge, and_assoc] using haccept
    · simp at h

theorem waitForKeyChallenge_emits (own node : NodeId) (rx : IoFrame) (s : EngineState) :
    let result := waitForKeyChallenge own node rx s
    ∃ packets : List RadioRxPacket, Emits (packets.map .rx) s result.2.2 ∧
      (result.1 = true →
        ∃ e ∈ packets.map RadioEvent.rx, e.IsHeard fun f =>
          f = result.2.1 ∧ (IsKeyConfirm own node f ∨ IsKeyChallenge own node f)) := by
  have hemits := (keyChallengeLoop own node).run_emits s.window rx s.dropWindow
  have hcases := (keyChallengeLoop own node).run_cases s.window rx s.dropWindow
  have hdrop : Emits [] s s.dropWindow := ⟨(List.append_nil _).symm, rfl⟩
  unfold waitForKeyChallenge
  generalize (keyChallengeLoop own node).run s.window rx s.dropWindow = waited at hemits hcases
  refine ⟨s.window.heard (keyChallengeLoop own node).accept, ?_⟩
  dsimp only
  rcases hcases with ⟨hslice, -⟩ | ⟨slice, hslice, hsome⟩
  · rw [hslice]
    exact ⟨hdrop.trans hemits, fun h => absurd h Bool.noConfusion⟩
  · rw [hslice]
    refine ⟨hdrop.trans (hemits.of_course (EngineState.course_recordTelemetry ..)), fun _ => ?_⟩
    exact Window.isHeard_of_firstAccepted hsome
      ⟨rfl, keyChallengeLoop_accept (Window.accept_of_firstAccepted hsome)⟩

/-- The buffers that say which device is being paired. -/
structure SameDevice (context context' : PairingContext) : Prop where
  device_eq : context'.device = context.device
  deviceId_eq : context'.deviceId = context.deviceId

theorem SameDevice.trans {context context' context'' : PairingContext}
    (h : SameDevice context context') (h' : SameDevice context' context'') :
    SameDevice context context'' where
  device_eq := h'.device_eq.trans h.device_eq
  deviceId_eq := h'.deviceId_eq.trans h.deviceId_eq

/-- What is heard at the end of an exchange is heard in the exchange. -/
theorem heard_after {ok : Prop} {P : RadioEvent → Prop} {events : List RadioEvent}
    (earlier : List RadioEvent) (h : ok → ∃ e ∈ events, P e) (hok : ok) :
    ∃ e ∈ earlier ++ events, P e := by
  obtain ⟨e, he, hP⟩ := h hok
  exact ⟨e, List.mem_append_right _ he, hP⟩

namespace ExchangeEngine

variable (engine : ExchangeEngine)

theorem waitForKeyConfirm_emits {req : IoFrame} (h : (serialize req frameMaxSize).isSome)
    (tries : ℕ) (resp : IoFrame) (s : EngineState) :
    let result := engine.waitForKeyConfirm req tries resp s
    ∃ events, Emits events s result.2.2 ∧ (∀ e ∈ events, e.TxSatisfies fun f => f = req) ∧
      (result.1 = true → ∃ e ∈ events, e.IsHeard (IsKeyConfirm req.src req.dst)) := by
  induction tries generalizing resp s with
  | zero => exact ⟨[], emits_nil s, by simp, fun h => absurd h Bool.noConfusion⟩
  | succ tries ih =>
    have hsending := engine.transmitFrame_emits h freqCh2 engine.responsePreamble s
    unfold waitForKeyConfirm
    generalize engine.transmitFrame req freqCh2 engine.responsePreamble s = sending at hsending
    obtain ⟨sent, s₁⟩ := sending
    have hsent : ∀ e ∈ [RadioEvent.tx req freqCh2 engine.responsePreamble sent],
        e.TxSatisfies fun f => f = req := txSatisfies_singleton rfl
    -- whatever was sent and heard so far, the remaining tries come after
    have hafter : ∀ earlier resp' s', Emits earlier s s' →
        (∀ e ∈ earlier, e.TxSatisfies fun f => f = req) →
        ∃ events, Emits events s (engine.waitForKeyConfirm req tries resp' s').2.2 ∧
          (∀ e ∈ events, e.TxSatisfies fun f => f = req) ∧
          ((engine.waitForKeyConfirm req tries resp' s').1 = true →
            ∃ e ∈ events, e.IsHeard (IsKeyConfirm req.src req.dst)) := by
      intro earlier resp' s' hemits htx
      obtain ⟨events, hevents, htx', hheard⟩ := ih resp' s'
      exact ⟨_, hemits.trans hevents, List.forall_mem_append.2 ⟨htx, htx'⟩,
        heard_after earlier hheard⟩
    cases sent with
    | false =>
      -- a refused frame counts as a try
      exact hafter _ resp s₁ hsending hsent
    | true =>
      dsimp only
      have hemits := (keyConfirmLoop req).run_emits s₁.window resp s₁.dropWindow
      have hcases := (keyConfirmLoop req).run_cases s₁.window resp s₁.dropWindow
      have hdrop : Emits [] s₁ s₁.dropWindow := ⟨(List.append_nil _).symm, rfl⟩
      have htx := List.forall_mem_append.2 ⟨hsent, txSatisfies_of_heard
        (s₁.window.heard (keyConfirmLoop req).accept)⟩
      generalize (keyConfirmLoop req).run s₁.window resp s₁.dropWindow = waited at hemits hcases
      have hwaited := hsending.trans (hdrop.trans hemits)
      rcases hcases with ⟨hslice, -⟩ | ⟨slice, hslice, hsome⟩
      · rw [hslice]
        exact hafter _ waited.rx waited.state hwaited htx
      · rw [hslice]
        dsimp only
        have hmatch : waited.rx.src = req.dst ∧ waited.rx.dst = req.src := by
          have haccept := Window.accept_of_firstAccepted hsome
          simpa [keyConfirmLoop, frameMatchesExchangeEndpoints, frameMatchesNodes] using haccept
        split
        · rename_i hconfirm
          refine ⟨_, hwaited.of_course (EngineState.course_recordTelemetry ..), htx, fun _ => ?_⟩
          have hcmd : waited.rx.cmd = cmdKeyConfirm := by
            simpa [frameIsKeyConfirm] using hconfirm
          obtain ⟨e, he, hheard⟩ := Window.isHeard_of_firstAccepted hsome
            (P := IsKeyConfirm req.src req.dst) ⟨hcmd, hmatch⟩
          exact ⟨e, List.mem_append_right _ he, hheard⟩
        · exact ⟨_, hwaited.of_course (EngineState.course_mapStatus ..), htx,
            fun h => absurd h Bool.noConfusion⟩

theorem resendKeyInit_emits (resends : ℕ) (context : PairingContext) (s : EngineState)
    (h : (serialize context.keyInit frameMaxSize).isSome) :
    let result := engine.resendKeyInit resends context s
    SameDevice context result.2.1 ∧
      ∃ events, Emits events s result.2.2 ∧
        (∀ e ∈ events, e.TxSatisfies fun f => f = context.keyInit) ∧
        (result.1 = true →
          ∃ e ∈ events, e.IsHeard (IsKeyConfirm engine.nodeId context.device.nodeId)) := by
  induction resends generalizing context s with
  | zero => exact ⟨⟨rfl, rfl⟩, [], emits_nil s, by simp, fun h => absurd h Bool.noConfusion⟩
  | succ resends ih =>
    have hsending := engine.transmitFrame_emits h freqCh2 longPreamble s
    unfold resendKeyInit
    generalize engine.transmitFrame context.keyInit freqCh2 longPreamble s = sending at hsending
    obtain ⟨sent, s₁⟩ := sending
    have hsent : ∀ e ∈ [RadioEvent.tx context.keyInit freqCh2 longPreamble sent],
        e.TxSatisfies fun f => f = context.keyInit := txSatisfies_singleton rfl
    cases sent with
    | false =>
      -- a refused key-init uses up one of the resends
      obtain ⟨hsame, events, hevents, htx, hheard⟩ := ih context s₁ h
      exact ⟨hsame, _, hsending.trans hevents, List.forall_mem_append.2 ⟨hsent, htx⟩,
        heard_after _ hheard⟩
    | true =>
      dsimp only
      obtain ⟨packets, hwait, hchallenge⟩ :=
        waitForKeyChallenge_emits engine.nodeId context.device.nodeId context.rx s₁
      generalize waitForKeyChallenge engine.nodeId context.device.nodeId context.rx s₁ = waited
        at hwait hchallenge
      obtain ⟨heard, rx, s₂⟩ := waited
      dsimp only at hwait hchallenge ⊢
      have hwaited := hsending.trans hwait
      have htx := List.forall_mem_append.2 ⟨hsent, txSatisfies_of_heard packets⟩
      split
      · rename_i hok
        obtain ⟨rfl, hconfirm⟩ : heard = true ∧ rx.cmd = cmdKeyConfirm := by
          simpa [frameIsKeyConfirm] using hok
        refine ⟨⟨rfl, rfl⟩, _, hwaited, htx, fun _ => ?_⟩
        obtain ⟨e, he, hheard⟩ := hchallenge rfl
        refine ⟨e, List.mem_append_right _ he, ?_⟩
        cases e with
        | tx => exact hheard
        | rx packet =>
          obtain ⟨f, hparse, rfl, hf | hf⟩ := hheard
          · exact ⟨f, hparse, hf⟩
          · rw [hf.1] at hconfirm
            exact absurd hconfirm (by decide)
      · obtain ⟨hsame, events, hevents, htx', hheard⟩ := ih { context with rx } s₂ h
        exact ⟨⟨hsame.device_eq, hsame.deviceId_eq⟩, _, hwaited.trans hevents,
          List.forall_mem_append.2 ⟨htx, htx'⟩, heard_after _ hheard⟩

theorem confirmKeyTransfer_emits {params : List UInt8} (context : PairingContext)
    (s : EngineState)
    (hreq : IsCommand context.req engine.nodeId context.device.nodeId cmdKeyTransfer params)
    (hinit : (serialize context.keyInit frameMaxSize).isSome) :
    let result := engine.confirmKeyTransfer context s
    SameDevice context result.2.1 ∧
      ∃ events, Emits events s result.2.2 ∧
        (∀ e ∈ events, e.TxSatisfies fun f =>
          f = context.req ∨ f = context.keyInit ∨ f.cmd = cmdChallengeResp) ∧
        (result.1 = true →
          ∃ e ∈ events, e.IsHeard (IsKeyConfirm engine.nodeId context.device.nodeId)) := by
  unfold confirmKeyTransfer
  split
  · -- the standard exchange
    obtain ⟨events, hemits, htx, hanswer⟩ :=
      engine.sendAndReceive_emits context.req context.resp freqCh2 s
    generalize engine.sendAndReceive context.req context.resp freqCh2 s = exchanged
      at hemits hanswer
    obtain ⟨answered, resp, s'⟩ := exchanged
    dsimp only at hemits hanswer ⊢
    refine ⟨⟨rfl, rfl⟩, events, hemits, ?_, ?_⟩
    · intro e he
      exact (htx e he).mono fun f hf => hf.imp_right .inr
    · intro hok
      obtain ⟨rfl, hconfirm⟩ : answered = true ∧ resp.cmd = cmdKeyConfirm := by
        simpa [frameIsKeyConfirm] using hok
      obtain ⟨e, he, hheard⟩ := hanswer rfl
      refine ⟨e, he, ?_⟩
      cases e with
      | tx => exact hheard
      | rx packet =>
        obtain ⟨f, hparse, rfl, hsrc, hdst⟩ := hheard
        exact ⟨f, hparse, hconfirm, hsrc.trans hreq.dst_eq, hdst.trans hreq.src_eq⟩
  · -- the dedicated wait, then the key-init again
    obtain ⟨events, hemits, htx, hheard⟩ :=
      engine.waitForKeyConfirm_emits hreq.serialize_isSome exchangeRetryCount context.resp s
    rw [hreq.src_eq, hreq.dst_eq] at hheard
    generalize engine.waitForKeyConfirm context.req exchangeRetryCount context.resp s = confirmed
      at hemits hheard
    have htx' : ∀ e ∈ events, e.TxSatisfies fun f =>
        f = context.req ∨ f = context.keyInit ∨ f.cmd = cmdChallengeResp := by
      intro e he
      exact (htx e he).mono fun f hf => .inl hf
    rcases confirmed with ⟨_ | _, resp, s'⟩
    · obtain ⟨hsame, later, hlater, htxLater, hheardLater⟩ :=
        engine.resendKeyInit_emits pairingKeyInitResends { context with resp } s' hinit
      refine ⟨⟨hsame.device_eq, hsame.deviceId_eq⟩, _, hemits.trans hlater,
        List.forall_mem_append.2 ⟨htx', ?_⟩, heard_after events hheardLater⟩
      intro e he
      exact (htxLater e he).mono fun f hf => .inr (.inl hf)
    · exact ⟨⟨rfl, rfl⟩, events, hemits, htx', hheard⟩

/-- The frame hands the system key to a node that sent the challenge. -/
def CarriesKey (node : NodeId) (challenge f : IoFrame) : Prop :=
  f.dst = node ∧ ∃ wrapped : AesKey, f.payload = wrapped.toList ∧
    cryptKey [cmdKeyInit] (hmacField challenge) wrapped = engine.systemKey

/-- A 0x32 comes after our 0x31 and the node's challenge, under which it hides the key. -/
def KeyTransferJustified (node : NodeId) (before : List RadioEvent) : RadioEvent → Prop
  | .tx frame _ _ _ =>
    frame.cmd = cmdKeyTransfer →
      Precedes (RadioEvent.IsSent (IsKeyInit engine.nodeId node))
        (RadioEvent.IsHeard fun f =>
          IsKeyChallenge engine.nodeId node f ∧ engine.CarriesKey node f frame) before
  | .rx _ => True

theorem keyTransferJustified_append_left {node : NodeId} (earlier before : List RadioEvent)
    (e : RadioEvent) (h : engine.KeyTransferJustified node before e) :
    engine.KeyTransferJustified node (earlier ++ before) e := by
  cases e with
  | tx frame freqHz preambleLen sent => exact fun hcmd => (h hcmd).append_left earlier
  | rx packet => exact trivial

theorem justified_of_txSatisfies {node : NodeId} {events : List RadioEvent}
    (h : ∀ e ∈ events, e.TxSatisfies fun f => f.cmd ≠ cmdKeyTransfer) :
    Justified (engine.KeyTransferJustified node) events := by
  apply justified_of_forall
  intro e he before
  cases e with
  | tx frame freqHz preambleLen sent => exact fun hcmd => absurd hcmd (h _ he)
  | rx packet => exact trivial

/-- How a key exchange with a node came out, told from its events. -/
structure KeyExchanged (context : PairingContext) (events : List RadioEvent) (s : EngineState)
    (result : Bool × PairingContext × EngineState) : Prop where
  emits : Emits events s result.2.2
  same : SameDevice context result.2.1
  transfers : Justified (engine.KeyTransferJustified context.device.nodeId) events
  commands : ∀ e ∈ events, e.TxSatisfies fun f =>
    IsKeyInit engine.nodeId context.device.nodeId f ∨ f.cmd = cmdKeyTransfer ∨
      f.cmd = cmdChallengeResp
  confirmed : result.1 = true →
    Precedes (RadioEvent.IsSent (IsKeyInit engine.nodeId context.device.nodeId))
      (RadioEvent.IsHeard (IsKeyConfirm engine.nodeId context.device.nodeId)) events

/-- The events of the key transfer, with the frames they transmit. -/
theorem transferKey_emits (context : PairingContext)
    (hinit : IsCommand context.keyInit engine.nodeId context.device.nodeId cmdKeyInit [])
    (s : EngineState) :
    let result := engine.transferKey context s
    SameDevice context result.2.1 ∧
      ∃ events, Emits events s result.2.2 ∧
        (∀ e ∈ events, e.TxSatisfies fun f =>
          (f.cmd = cmdKeyTransfer ∧
              engine.CarriesKey context.device.nodeId context.rx f) ∨
            IsKeyInit engine.nodeId context.device.nodeId f ∨ f.cmd = cmdChallengeResp) ∧
        (result.1 = true →
          ∃ e ∈ events, e.IsHeard (IsKeyConfirm engine.nodeId context.device.nodeId)) := by
  have hbuild : ∃ req, createKeyTransfer context.keyInit context.device.nodeId engine.nodeId
      engine.systemKey (hmacField context.rx) = some req :=
    exists_buildFrame _ _ _ _ _ _ (by simp [frameMaxDataSize])
  obtain ⟨req, hreq⟩ := hbuild
  have hcommand := buildFrame_isCommand hreq
  have hcarries : engine.CarriesKey context.device.nodeId context.rx req := by
    refine ⟨hcommand.dst_eq, _, hcommand.payload_eq, ?_⟩
    rw [hinit.cmd_eq, cryptKey_cryptKey]
  unfold transferKey
  dsimp only
  rw [hreq]
  dsimp only
  generalize hs' : (s.setStage .txKeyTransfer 1 true).setStage .waitKeyConfirm 1 true = s'
  have hstart : Emits [] s s' := by
    apply (emits_nil s).of_course
    rw [← hs', EngineState.course_setStage, EngineState.course_setStage]
  obtain ⟨hsame, events, hemits, htx, hheard⟩ :=
    engine.confirmKeyTransfer_emits { context with req } s' hcommand hinit.serialize_isSome
  refine ⟨⟨hsame.device_eq, hsame.deviceId_eq⟩, events, hstart.trans hemits, ?_, hheard⟩
  intro e he
  refine (htx e he).mono fun f hf => ?_
  rcases hf with rfl | rfl | hf
  · exact .inl ⟨hcommand.cmd_eq, hcarries⟩
  · exact .inr (.inl ⟨hinit.cmd_eq, hinit.src_eq, hinit.dst_eq⟩)
  · exact .inr (.inr hf)

/-- The key-init and what was heard after it. -/
theorem keyInit_events {node : NodeId} {keyInit : IoFrame}
    (hinit : IsKeyInit engine.nodeId node keyInit) (sent : Bool) (packets : List RadioRxPacket) :
    let events := RadioEvent.tx keyInit freqCh2 longPreamble sent :: packets.map .rx
    Justified (engine.KeyTransferJustified node) events ∧
      ∀ e ∈ events, e.TxSatisfies fun f =>
        IsKeyInit engine.nodeId node f ∨ f.cmd = cmdKeyTransfer ∨ f.cmd = cmdChallengeResp := by
  constructor
  · apply engine.justified_of_txSatisfies
    intro e he
    rcases List.mem_cons.1 he with rfl | he
    · show keyInit.cmd ≠ cmdKeyTransfer
      rw [hinit.1]
      decide
    · exact txSatisfies_of_heard _ e he
  · intro e he
    rcases List.mem_cons.1 he with rfl | he
    · exact .inl hinit
    · exact txSatisfies_of_heard _ e he

/-- Nothing is transferred. -/
theorem KeyExchanged.of_heard {context : PairingContext} {keyInit : IoFrame} {sent : Bool}
    (packets : List RadioRxPacket) {s : EngineState} {result : Bool × PairingContext × EngineState}
    (hinit : IsKeyInit engine.nodeId context.device.nodeId keyInit)
    (hemits : Emits (.tx keyInit freqCh2 longPreamble sent :: packets.map .rx) s result.2.2)
    (hsame : SameDevice context result.2.1)
    (hconfirmed : result.1 = true → sent = true ∧ ∃ e ∈ packets.map RadioEvent.rx,
      e.IsHeard (IsKeyConfirm engine.nodeId context.device.nodeId)) :
    engine.KeyExchanged context (.tx keyInit freqCh2 longPreamble sent :: packets.map .rx) s
      result := by
  obtain ⟨hjustified, hcommands⟩ := engine.keyInit_events hinit sent packets
  refine ⟨hemits, hsame, hjustified, hcommands, fun hok => ?_⟩
  obtain ⟨rfl, e, he, hheard⟩ := hconfirmed hok
  have hsent : RadioEvent.IsSent (IsKeyInit engine.nodeId context.device.nodeId)
      (.tx keyInit freqCh2 longPreamble true) := hinit
  rw [← List.singleton_append]
  exact precedes_append_of_mem List.mem_cons_self he hsent hheard

/-- The key transfer follows the challenge. -/
theorem KeyExchanged.of_transfer {context : PairingContext} {keyInit challenge : IoFrame}
    {packets : List RadioRxPacket} {packet : RadioRxPacket} {later : List RadioEvent}
    {s s' : EngineState} {result : Bool × PairingContext × EngineState}
    (hinit : IsKeyInit engine.nodeId context.device.nodeId keyInit)
    (hwaited : Emits (.tx keyInit freqCh2 longPreamble true :: packets.map .rx) s s')
    (hpacket : packet ∈ packets) (hparse : parse packet.data = some challenge)
    (hchallenge : IsKeyChallenge engine.nodeId context.device.nodeId challenge)
    (hsame : SameDevice context result.2.1) (hlater : Emits later s' result.2.2)
    (htx : ∀ e ∈ later, e.TxSatisfies fun f =>
      (f.cmd = cmdKeyTransfer ∧ engine.CarriesKey context.device.nodeId challenge f) ∨
        IsKeyInit engine.nodeId context.device.nodeId f ∨ f.cmd = cmdChallengeResp)
    (hconfirmed : result.1 = true →
      ∃ e ∈ later, e.IsHeard (IsKeyConfirm engine.nodeId context.device.nodeId)) :
    engine.KeyExchanged context
      (.tx keyInit freqCh2 longPreamble true :: (packets.map .rx ++ later)) s result := by
  obtain ⟨hjustified, hcommands⟩ := engine.keyInit_events hinit true packets
  have hsent : RadioEvent.IsSent (IsKeyInit engine.nodeId context.device.nodeId)
      (.tx keyInit freqCh2 longPreamble true) := hinit
  rw [← List.cons_append]
  refine ⟨hwaited.trans hlater, hsame, ?_, List.forall_mem_append.2 ⟨hcommands, ?_⟩, ?_⟩
  · rw [justified_append]
    refine ⟨hjustified, justified_of_forall ?_⟩
    intro e he before
    have hcase := htx e he
    -- only a key transfer has to follow a challenge, which is among the packets
    cases e with
    | rx packet => exact trivial
    | tx frame freqHz preambleLen sent =>
      intro hcmd
      rcases hcase with ⟨-, hcarries⟩ | hcase | hcase
      · apply Precedes.append_right
        rw [← List.singleton_append]
        exact precedes_append_of_mem List.mem_cons_self (List.mem_map_of_mem hpacket) hsent
          ⟨challenge, hparse, hchallenge, hcarries⟩
      · rw [hcase.1] at hcmd
        exact absurd hcmd (by decide)
      · rw [hcase] at hcmd
        exact absurd hcmd (by decide)
  · intro e he
    refine (htx e he).mono fun f hf => ?_
    rcases hf with hf | hf | hf
    · exact .inr (.inl hf.1)
    · exact .inl hf
    · exact .inr (.inr hf)
  · intro hok
    obtain ⟨e, he, hheard⟩ := hconfirmed hok
    exact precedes_append_of_mem List.mem_cons_self he hsent hheard

/-- A refused key-init ends the phase. -/
theorem runKeyExchangePhase_exchanged (context : PairingContext) (s : EngineState) :
    let result := engine.runKeyExchangePhase context s
    let sent := s.script.sends.head?.getD false
    ∃ keyInit later, IsKeyInit engine.nodeId context.device.nodeId keyInit ∧
      engine.KeyExchanged context (.tx keyInit freqCh2 longPreamble sent :: later) s result ∧
      (sent = false →
        later = [] ∧ result.1 = false ∧ result.2.2.script.sends = s.script.sends.tail) := by
  have hbuild : ∃ keyInit, createKeyInit engine.nodeId context.device.nodeId = some keyInit :=
    exists_buildFrame _ _ _ _ _ _ (by simp)
  obtain ⟨keyInit, hkeyInit⟩ := hbuild
  have hcommand := buildFrame_isCommand hkeyInit
  have hinit : IsKeyInit engine.nodeId context.device.nodeId keyInit :=
    ⟨hcommand.cmd_eq, hcommand.src_eq, hcommand.dst_eq⟩
  unfold runKeyExchangePhase
  dsimp only
  rw [hkeyInit]
  dsimp only
  generalize hs₀ : s.setStage .txKeyInit 1 false = s₀
  have hcourse₀ : s₀.course = s.course := by rw [← hs₀, EngineState.course_setStage]
  obtain ⟨hsent, hcourse⟩ := engine.transmitFrame_eq hcommand.serialize_isSome freqCh2
    longPreamble s₀
  have hsending := ((emits_nil s).of_course hcourse₀).trans
    (engine.transmitFrame_emits hcommand.serialize_isSome freqCh2 longPreamble s₀)
  rw [hcourse₀] at hsent hcourse
  generalize engine.transmitFrame keyInit freqCh2 longPreamble s₀ = sending
    at hsent hcourse hsending
  obtain ⟨sent, s₁⟩ := sending
  obtain rfl : sent = s.script.sends.head?.getD false := hsent
  have hsends : s₁.script.sends = s.script.sends.tail := congrArg RadioCourse.sends hcourse
  refine ⟨keyInit, ?_⟩
  cases hhead : s.script.sends.head?.getD false with
  | false =>
    rw [hhead] at hsending
    exact ⟨[], hinit, .of_heard engine [] hinit hsending ⟨rfl, rfl⟩
      fun h => absurd h Bool.noConfusion, fun _ => ⟨rfl, rfl, hsends⟩⟩
  | true =>
    rw [hhead] at hsending
    dsimp only
    generalize hs₂ : s₁.setStage .waitKeyChallenge 1 true = s₂
    have hcourse₂ : s₂.course = s₁.course := by rw [← hs₂, EngineState.course_setStage]
    obtain ⟨packets, hwait, hchallenge⟩ :=
      waitForKeyChallenge_emits engine.nodeId context.device.nodeId context.rx s₂
    generalize waitForKeyChallenge engine.nodeId context.device.nodeId context.rx s₂ = waited
      at hwait hchallenge
    obtain ⟨heard, rx, s₃⟩ := waited
    have hwaited := (hsending.of_course hcourse₂).trans hwait
    dsimp only at hwaited hchallenge
    cases heard with
    | false =>
      exact ⟨_, hinit, .of_heard engine packets hinit hwaited ⟨rfl, rfl⟩
        fun h => absurd h Bool.noConfusion, fun h => absurd h Bool.noConfusion⟩
    | true =>
      dsimp only
      obtain ⟨e, he, hheard⟩ := hchallenge rfl
      obtain ⟨packet, hpacket, rfl⟩ := List.mem_map.1 he
      obtain ⟨f, hparse, hf, hrx⟩ := hheard
      rw [hf] at hparse hrx
      split
      · -- the device confirms without a challenge
        rename_i hconfirm
        have hcmd : rx.cmd = cmdKeyConfirm := by simpa [frameIsKeyConfirm] using hconfirm
        refine ⟨_, hinit,
          .of_heard engine packets hinit hwaited ⟨rfl, rfl⟩ fun _ => ⟨rfl, _, he, ?_⟩,
          fun h => absurd h Bool.noConfusion⟩
        rcases hrx with hrx | hrx
        · exact ⟨rx, hparse, hrx⟩
        · rw [hrx.1] at hcmd
          exact absurd hcmd (by decide)
      · -- a challenge of the device: the key goes out under it
        rename_i hconfirm
        have hcmd : rx.cmd ≠ cmdKeyConfirm := by simpa [frameIsKeyConfirm] using hconfirm
        have hrx := hrx.resolve_left fun h => hcmd h.1
        obtain ⟨hsame, later, hlater, htx, hconfirmed⟩ :=
          engine.transferKey_emits { context with keyInit, rx } hcommand s₃
        exact ⟨_, hinit, .of_transfer engine hinit hwaited hpacket hparse hrx
          ⟨hsame.device_eq, hsame.deviceId_eq⟩ hlater htx hconfirmed,
          fun h => absurd h Bool.noConfusion⟩

/-! ## Repeated key exchanges -/

/-- A failed phase goes before. -/
theorem KeyExchanged.trans {context context' : PairingContext} {events later : List RadioEvent}
    {s s' : EngineState} {result : Bool × PairingContext × EngineState}
    (h : engine.KeyExchanged context events s (false, context', s'))
    (h' : engine.KeyExchanged context' later s' result) :
    engine.KeyExchanged context (events ++ later) s result := by
  obtain ⟨hemits, hsame, htransfers, hcommands, hconfirmed⟩ := h'
  have hdevice : context'.device = context.device := h.same.device_eq
  rw [hdevice] at htransfers hcommands hconfirmed
  refine ⟨h.emits.trans hemits, h.same.trans hsame, ?_,
    List.forall_mem_append.2 ⟨h.commands, hcommands⟩,
    fun hok => (hconfirmed hok).append_left events⟩
  rw [justified_append]
  exact ⟨h.transfers,
    htransfers.append_left (fun _ _ _ h => engine.keyTransferJustified_append_left _ _ _ h) events⟩

/-- Before the first key-init that the radio sends there are only refused ones. -/
def OpensWithKeyInit (node : NodeId) (sends : List Bool) (events : List RadioEvent) : Prop :=
  if true ∈ sends then
    ∃ refused keyInit later, events = refused ++ .tx keyInit freqCh2 longPreamble true :: later ∧
      IsKeyInit engine.nodeId node keyInit ∧ ∀ e ∈ refused, e.IsRefused
  else ∀ e ∈ events, e.IsRefused

/-- A sent key-init is the first. -/
theorem opensWithKeyInit_of_sent {node : NodeId} {keyInit : IoFrame} {sends : List Bool}
    (hinit : IsKeyInit engine.nodeId node keyInit) (h : true ∈ sends) (later : List RadioEvent) :
    engine.OpensWithKeyInit node sends (.tx keyInit freqCh2 longPreamble true :: later) := by
  rw [OpensWithKeyInit, if_pos h]
  exact ⟨[], keyInit, later, rfl, hinit, by simp⟩

/-- A refused one leaves the first to the later tries. -/
theorem OpensWithKeyInit.after_refused {node : NodeId} {sends sends' : List Bool}
    {events : List RadioEvent} (h : engine.OpensWithKeyInit node sends events)
    (hsends : true ∈ sends' ↔ true ∈ sends) (keyInit : IoFrame) :
    engine.OpensWithKeyInit node sends' (.tx keyInit freqCh2 longPreamble false :: events) := by
  unfold OpensWithKeyInit at h ⊢
  rw [if_congr hsends rfl rfl]
  split at h
  · rename_i hmem
    rw [if_pos hmem]
    obtain ⟨refused, keyInit', later, rfl, hinit', hall⟩ := h
    refine ⟨.tx keyInit freqCh2 longPreamble false :: refused, keyInit', later, rfl, hinit', ?_⟩
    exact List.forall_mem_cons.2 ⟨trivial, hall⟩
  · rename_i hmem
    rw [if_neg hmem]
    exact List.forall_mem_cons.2 ⟨trivial, h⟩

theorem runKeyExchanges_exchanged (retries : ℕ) (context : PairingContext) (s : EngineState) :
    ∃ events, engine.KeyExchanged context events s (engine.runKeyExchanges retries context s) ∧
      engine.OpensWithKeyInit context.device.nodeId (s.script.sends.take retries) events := by
  induction retries generalizing context s with
  | zero =>
    refine ⟨[], ⟨emits_nil s, ⟨rfl, rfl⟩, justified_nil _, by simp,
      fun h => absurd h Bool.noConfusion⟩, ?_⟩
    simp [OpensWithKeyInit]
  | succ retries ih =>
    obtain ⟨keyInit, later, hinit, hphase, hrefused⟩ :=
      engine.runKeyExchangePhase_exchanged context s
    have htake : true ∈ s.script.sends.take (retries + 1) ↔
        s.script.sends.head?.getD false = true ∨ true ∈ s.script.sends.tail.take retries := by
      cases s.script.sends with
      | nil => simp
      | cons b sends => cases b <;> simp
    unfold runKeyExchanges
    generalize engine.runKeyExchangePhase context s = phase at hphase hrefused
    obtain ⟨exchanged, context', s'⟩ := phase
    dsimp only at hrefused
    -- once a key init goes out it stays the first, whatever the later tries do
    cases hhead : s.script.sends.head?.getD false with
    | true =>
      rw [hhead] at hphase
      have hopens := engine.opensWithKeyInit_of_sent hinit (htake.2 (.inl hhead))
      cases exchanged with
      | true => exact ⟨_, hphase, hopens later⟩
      | false =>
        obtain ⟨events, hevents, -⟩ := ih context' s'
        exact ⟨_, hphase.trans engine hevents, hopens _⟩
    | false =>
      rw [hhead] at hphase
      obtain ⟨rfl, rfl, hsends⟩ := hrefused hhead
      obtain ⟨events, hevents, hopens⟩ := ih context' s'
      have hdevice : context'.device = context.device := hphase.same.device_eq
      rw [hsends, hdevice] at hopens
      refine ⟨_, hphase.trans engine hevents, ?_⟩
      have htail : true ∈ s.script.sends.take (retries + 1) ↔
          true ∈ s.script.sends.tail.take retries := by
        rw [htake, hhead]
        exact or_iff_right Bool.noConfusion
      exact hopens.after_refused engine htail keyInit

end ExchangeEngine
end HomeIoControl
