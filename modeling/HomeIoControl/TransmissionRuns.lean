import HomeIoControl.HubQueue
import HomeIoControl.TransmissionWarrants

namespace HomeIoControl
open EventTrace GuardedRun ManagementActions

namespace ExchangeEngine

variable {engine : ExchangeEngine} {pairs : Prop} {s : EngineState} {context : PairingContext}

/-! ## Pairing -/

theorem discoveryRequest_isCommand {command : DiscoveryCommand} {req : IoFrame}
    (h : engine.discoveryRequest command s = some req) :
    ∃ dst params, IsCommand req engine.nodeId dst command.byte params :=
  ⟨_, _, buildFrame_isCommand h⟩

theorem transmitDiscovery_grows (asked : pairs) (command : DiscoveryCommand)
    (context : PairingContext) (s : EngineState) :
    Grows (engine.Warranted pairs) s.trace
      (engine.transmitDiscovery command context s).2.2.trace := by
  unfold transmitDiscovery
  cases hreq : engine.discoveryRequest command s with
  | none => exact .refl _ _
  | some req =>
    obtain ⟨dst, params, hcommand⟩ := discoveryRequest_isCommand hreq
    have hcmd : command.byte ∈ pairingCommands := by cases command <;> decide
    dsimp only
    generalize hs' : (if command = .discoverSpe then s.dropChallenge else s) = s'
    have htrace : s'.trace = s.trace := by
      rw [← hs']
      split_ifs <;> rfl
    have hgrows := transmitFrame_grows (s := s') hcommand.serialize_isSome
      (.pairing asked hcommand hcmd) freqCh2 longPreamble
    rw [htrace] at hgrows
    exact hgrows

theorem runDiscoveryRounds_grows (asked : pairs) (rounds : List (DiscoveryCommand × ℕ))
    (sawInvalid : Bool) (context : PairingContext) (s : EngineState) :
    Grows (engine.Warranted pairs) s.trace
      (engine.runDiscoveryRounds rounds sawInvalid context s).2.2.trace := by
  induction rounds generalizing sawInvalid context s with
  | nil => exact .refl _ _
  | cons round rounds ih =>
    obtain ⟨command, attempt⟩ := round
    unfold runDiscoveryRounds
    dsimp only
    generalize hs₀ : (s.recordTelemetry PairingTelemetry.incrementDiscoveryAttempt).setStage
      .txDiscover attempt false = s₀
    have htrace : s₀.trace = s.trace := by rw [← hs₀]; rfl
    have hsending : Grows (engine.Warranted pairs) s₀.trace _ :=
      transmitDiscovery_grows asked command context s₀
    rw [htrace] at hsending
    generalize engine.transmitDiscovery command context s₀ = sending at hsending
    obtain ⟨sent, context₁, s₁⟩ := sending
    cases sent with
    | false => exact hsending
    | true =>
      obtain ⟨-, -, hwait, -⟩ := waitRound_eq attempt context₁.rx s₁
      dsimp only at hwait ⊢
      generalize waitForDiscoveryResponse context₁.rx _ = waited at hwait
      obtain ⟨disposition, rx, s₂⟩ := waited
      have hround := hsending.trans (grows_of_heard hwait)
      cases disposition with
      | accept => exact hround
      | noResponse => exact hround.trans (ih _ _ _)
      | invalid => exact hround.trans (ih _ _ _)

/-- The device of the attempt was heard to answer a discovery. -/
def Answered (context : PairingContext) (t : List RadioEvent) : Prop :=
  ∃ packet answer, .rx packet ∈ t ∧ parse packet.data = some answer ∧
    answer.cmd = cmdDiscoverResp ∧ answer.src = context.device.nodeId

theorem Answered.of_prefix {t t' : List RadioEvent} (h : Answered context t) (ht : t <+: t') :
    Answered context t' := by
  obtain ⟨packet, answer, hmem, hanswer⟩ := h
  exact ⟨packet, answer, ht.subset hmem, hanswer⟩

theorem Answered.same {context' : PairingContext} {t : List RadioEvent} (h : Answered context t)
    (hsame : SameDevice context context') : Answered context' t := by
  obtain ⟨packet, answer, hmem, hparse, hcmd, hsrc⟩ := h
  exact ⟨packet, answer, hmem, hparse, hcmd, by rw [hsrc, hsame.device_eq]⟩

theorem Answered.keyInit {t : List RadioEvent} {keyInit : IoFrame} (asked : pairs)
    (h : Answered context t)
    (hinit : IsCommand keyInit engine.nodeId context.device.nodeId cmdKeyInit []) :
    engine.Standing pairs t keyInit := by
  obtain ⟨packet, answer, hmem, hparse, hcmd, hsrc⟩ := h
  rw [← hsrc] at hinit
  exact fun later => .keyInit asked hinit (List.mem_append_left later hmem) hparse hcmd

theorem standing_keyTransfer {t : List RadioEvent} {node : NodeId} {challenge f : IoFrame}
    (asked : pairs)
    (h : IsCommand f engine.nodeId node cmdKeyTransfer
      (cryptKey [cmdKeyInit] (hmacField challenge) engine.systemKey).toList)
    (horder : Precedes (RadioEvent.IsSent (IsKeyInit engine.nodeId node))
      (RadioEvent.IsHeard fun f => f = challenge ∧ IsKeyChallenge engine.nodeId node f) t) :
    engine.Standing pairs t f :=
  fun later => .keyTransfer asked h (horder.append_right later)

theorem confirmKeyTransfer_grows (context : PairingContext) (s : EngineState)
    (hreq : engine.Standing pairs s.trace context.req)
    (hserial : (serialize context.req frameMaxSize).isSome)
    (hinit : engine.Standing pairs s.trace context.keyInit)
    (hinitSerial : (serialize context.keyInit frameMaxSize).isSome) :
    Grows (engine.Warranted pairs) s.trace (engine.confirmKeyTransfer context s).2.2.trace := by
  unfold confirmKeyTransfer
  split_ifs
  · exact sendAndReceive_grows hreq context.resp freqCh2
  · obtain ⟨events, hemits, htx, -⟩ :=
      engine.waitForKeyConfirm_emits hserial exchangeRetryCount context.resp s
    have hconfirm : Grows (engine.Warranted pairs) s.trace _ := grows_of_emits hemits fun e he =>
      (htx e he).mono fun f hf => by rw [hf]; exact hreq
    generalize engine.waitForKeyConfirm context.req exchangeRetryCount context.resp s = confirmed
      at hconfirm
    obtain ⟨confirmed, resp, s'⟩ := confirmed
    cases confirmed with
    | true => exact hconfirm
    | false =>
      obtain ⟨-, later, hlater, htxLater, -⟩ := engine.resendKeyInit_emits pairingKeyInitResends
        { context with resp } s' hinitSerial
      refine hconfirm.trans (grows_of_emits hlater fun e he => (htxLater e he).mono fun f hf => ?_)
      rw [hf]
      exact hinit.of_prefix hconfirm.isPrefix

/-- The key goes out after our key-init and the device's challenge. -/
theorem transferKey_grows (asked : pairs) (context : PairingContext) (s : EngineState)
    (hinit : IsCommand context.keyInit engine.nodeId context.device.nodeId cmdKeyInit [])
    (hanswered : Answered context s.trace)
    (horder : Precedes (RadioEvent.IsSent (IsKeyInit engine.nodeId context.device.nodeId))
      (RadioEvent.IsHeard fun f => f = context.rx ∧
        IsKeyChallenge engine.nodeId context.device.nodeId f) s.trace) :
    Grows (engine.Warranted pairs) s.trace (engine.transferKey context s).2.2.trace := by
  have hbuild : ∃ req, createKeyTransfer context.keyInit context.device.nodeId engine.nodeId
      engine.systemKey (hmacField context.rx) = some req :=
    exists_buildFrame _ _ _ _ _ _ (by simp [frameMaxDataSize])
  obtain ⟨req, hreq⟩ := hbuild
  have hcommand := buildFrame_isCommand hreq
  rw [hinit.cmd_eq] at hcommand
  unfold transferKey
  dsimp only
  rw [hreq]
  exact confirmKeyTransfer_grows { context with req }
    ((s.setStage .txKeyTransfer 1 true).setStage .waitKeyConfirm 1 true)
    (standing_keyTransfer asked hcommand horder) hcommand.serialize_isSome
    (hanswered.keyInit asked hinit) hinit.serialize_isSome

theorem runKeyExchangePhase_grows (asked : pairs) (context : PairingContext) (s : EngineState)
    (hanswered : Answered context s.trace) :
    Grows (engine.Warranted pairs) s.trace (engine.runKeyExchangePhase context s).2.2.trace := by
  have hbuild : ∃ keyInit, createKeyInit engine.nodeId context.device.nodeId = some keyInit :=
    exists_buildFrame _ _ _ _ _ _ (by simp)
  obtain ⟨keyInit, hkeyInit⟩ := hbuild
  have hcommand := buildFrame_isCommand hkeyInit
  have hinit : IsKeyInit engine.nodeId context.device.nodeId keyInit :=
    ⟨hcommand.cmd_eq, hcommand.src_eq, hcommand.dst_eq⟩
  unfold runKeyExchangePhase
  dsimp only
  rw [hkeyInit]
  dsimp only
  have hemits := engine.transmitFrame_emits hcommand.serialize_isSome freqCh2 longPreamble
    (s.setStage .txKeyInit 1 false)
  have hsending := transmitFrame_grows (s := s.setStage .txKeyInit 1 false)
    hcommand.serialize_isSome (hanswered.keyInit asked hcommand).warrant freqCh2 longPreamble
  generalize engine.transmitFrame keyInit freqCh2 longPreamble _ = sending at hemits hsending
  obtain ⟨sent, s₁⟩ := sending
  cases sent with
  | false => exact hsending
  | true =>
    obtain ⟨packets, hwait, hchallenge⟩ := waitForKeyChallenge_emits engine.nodeId
      context.device.nodeId context.rx (s₁.setStage .waitKeyChallenge 1 true)
    dsimp only at hemits hsending hwait hchallenge ⊢
    generalize waitForKeyChallenge engine.nodeId context.device.nodeId context.rx _ = waited
      at hwait hchallenge
    obtain ⟨heard, rx, s₃⟩ := waited
    have hwaited := hsending.trans
      (grows_of_heard (s := s₁.setStage .waitKeyChallenge 1 true) hwait)
    cases heard with
    | false => exact hwaited
    | true =>
      dsimp only
      split_ifs with hconfirm
      · exact hwaited
      · obtain ⟨e, he, hheard⟩ := hchallenge rfl
        obtain ⟨packet, -, rfl⟩ := List.mem_map.1 he
        obtain ⟨f, hparse, rfl, hf⟩ := hheard
        have hcmd : f.cmd ≠ cmdKeyConfirm := by simpa [frameIsKeyConfirm] using hconfirm
        have hf := hf.resolve_left fun h => hcmd h.1
        have htrace : s₃.trace = s.trace ++ ([.tx keyInit freqCh2 longPreamble true] ++
            packets.map .rx) := by
          have hafter : s₃.trace = s₁.trace ++ packets.map .rx := hwait.trace_eq
          have hbefore : s₁.trace = s.trace ++ [.tx keyInit freqCh2 longPreamble true] :=
            hemits.trace_eq
          rw [hafter, hbefore, List.append_assoc]
        refine hwaited.trans (transferKey_grows asked { context with keyInit, rx := f } s₃ hcommand
          ((hanswered.of_prefix hwaited.isPrefix).same ⟨rfl, rfl⟩) ?_)
        rw [htrace]
        apply Precedes.append_left
        exact precedes_append_of_mem List.mem_cons_self he hinit ⟨f, hparse, rfl, hf⟩

theorem runKeyExchanges_grows (asked : pairs) (retries : ℕ) (context : PairingContext)
    (s : EngineState) (hanswered : Answered context s.trace) :
    Grows (engine.Warranted pairs) s.trace (engine.runKeyExchanges retries context s).2.2.trace := by
  induction retries generalizing context s with
  | zero => exact .refl _ _
  | succ retries ih =>
    obtain ⟨_, _, -, hexchanged, -⟩ := engine.runKeyExchangePhase_exchanged context s
    have hphase : Grows (engine.Warranted pairs) s.trace _ :=
      runKeyExchangePhase_grows asked context s hanswered
    have hsame := hexchanged.same
    unfold runKeyExchanges
    generalize engine.runKeyExchangePhase context s = phase at hphase hsame
    obtain ⟨exchanged, context', s'⟩ := phase
    cases exchanged with
    | true => exact hphase
    | false =>
      exact hphase.trans (ih context' s' ((hanswered.of_prefix hphase.isPrefix).same hsame))

theorem finalizePairingConfiguration_grows (asked : pairs) (context : PairingContext)
    (s : EngineState) :
    Grows (engine.Warranted pairs) s.trace
      (engine.finalizePairingConfiguration context s).2.2.trace := by
  have hbuild : ∃ req, createSetConfig1 engine.nodeId context.device.nodeId = some req :=
    exists_buildFrame _ _ _ _ _ _ (by decide)
  obtain ⟨req, hreq⟩ := hbuild
  have hrequest : engine.Standing pairs s.trace req :=
    fun _ => .pairing asked (buildFrame_isCommand hreq) (by decide)
  unfold finalizePairingConfiguration
  rw [hreq]
  exact sendAndReceive_grows hrequest context.resp freqCh2

theorem discoverAndPair_grows (asked : pairs) (w : PairingWorld) :
    Grows (engine.Warranted pairs) w.engine.trace (engine.discoverAndPair w).2.engine.trace := by
  obtain ⟨discovery, hemits, hevents, hdisposition, hfound⟩ := engine.runDiscoveryPhase_discovered w
  have hrounds : Grows (engine.Warranted pairs) w.engine.trace
      (engine.runDiscoveryPhase {} (beginPairingAttempt w.engine)).2.2.trace :=
    runDiscoveryRounds_grows asked _ false {} (beginPairingAttempt w.engine)
  unfold discoverAndPair
  generalize engine.runDiscoveryPhase {} (beginPairingAttempt w.engine) = phase
    at hemits hdisposition hfound hrounds
  obtain ⟨disposition, context, s⟩ := phase
  cases disposition with
  | noResponse => exact hrounds
  | invalid => exact hrounds
  | accept =>
    dsimp only at hemits hfound hrounds ⊢
    split_ifs with halt
    · exact hrounds
    -- the accepted answer is the discovered device's
    have hanswered : Answered context s.trace := by
      obtain ⟨⟨d, sends, windows⟩, hanswer⟩ := Option.isSome_iff_exists.1 (hdisposition.1 rfl)
      obtain ⟨rfl, hnode, -⟩ := hfound d sends windows hanswer
      rw [hanswer] at hevents
      obtain ⟨e, he, hheard⟩ := isHeard_of_discovery hevents
      cases e with
      | tx => exact hheard.elim
      | rx packet =>
        obtain ⟨f, hparse, rfl⟩ := hheard
        have haccept := hevents.accepted
        obtain ⟨e', -, he'⟩ := List.exists_of_findSome?_eq_some haccept
        have hcmd : context.rx.cmd = cmdDiscoverResp := by
          cases e' with
          | tx => simp at he'
          | rx packet' =>
            have hanswers := (Option.filter_eq_some_iff.1 he').2
            exact ((isDiscoveryAnswer_iff _).1 hanswers).resolve_right (by simpa using halt)
        refine ⟨packet, context.rx, ?_, hparse, hcmd, hnode.symm⟩
        rw [hemits.trace_eq]
        exact List.mem_append_right _ he
    have hkeys : Grows (engine.Warranted pairs) s.trace _ := runKeyExchanges_grows asked
      engine.tuning.pairingKeyExchangeRetries.toNat context s hanswered
    generalize engine.runKeyExchanges engine.tuning.pairingKeyExchangeRetries.toNat context s =
      keys at hkeys
    obtain ⟨exchanged, context', s'⟩ := keys
    cases exchanged with
    | false => exact hrounds.trans hkeys
    | true =>
      have hfinal : Grows (engine.Warranted pairs) s'.trace _ :=
        finalizePairingConfiguration_grows asked context' s'
      dsimp only
      generalize engine.finalizePairingConfiguration context' s' = final at hfinal
      obtain ⟨configOk, context'', s''⟩ := final
      exact hrounds.trans (hkeys.trans hfinal)

/-! ## The whole component -/

variable {hub : Hub}

theorem execute_grows {call : HubCall} (h : call = .discoverAndPair → pairs) (hub : Hub) :
    Grows (engine.Warranted pairs) hub.exchange.trace
      (engine.execute call hub).2.exchange.trace := by
  by_cases hcall : call = .discoverAndPair
  · have hattempt : Grows (engine.Warranted pairs) hub.exchange.trace _ :=
      discoverAndPair_grows (h hcall) { engine := hub.exchange, registry := hub.registry }
    rw [hcall]
    unfold execute hubDiscoverAndPair
    dsimp only
    split_ifs
    · exact .refl _ _
    · generalize engine.discoverAndPair { engine := hub.exchange, registry := hub.registry } =
        attempt at hattempt
      exact hattempt
  · exact execute_grows_of_ne hcall hub

theorem dispatch_eq_discoverAndPair {op : PendingOperation} :
    op.dispatch = .discoverAndPair ↔ op.dispatch.device = none := by
  obtain ⟨type, deviceId, position, tilt, command⟩ := op
  cases type <;> simp [PendingOperation.dispatch, HubCall.device]

theorem processPendingOperation_grows
    (h : (∃ op ∈ hub.opQueue, op.dispatch = .discoverAndPair) → pairs) :
    Grows (engine.Warranted pairs) hub.exchange.trace
      (engine.processPendingOperation hub).exchange.trace := by
  unfold processPendingOperation
  cases hq : hub.opQueue with
  | nil => exact .refl _ _
  | cons operation rest =>
    refine execute_grows (fun hpairing => h ⟨operation, ?_, hpairing⟩) { hub with opQueue := rest }
    rw [hq]
    exact List.mem_cons_self

theorem identifyDevice_grows (deviceId : List UInt8) (hub : Hub) :
    Grows (engine.Warranted pairs) hub.exchange.trace
      (engine.identifyDevice deviceId hub).2.exchange.trace := by
  by_cases hidentifies : ∃ dev request, engine.Identifies deviceId hub dev request
  · obtain ⟨dev, request, hidentifies⟩ := hidentifies
    have hrequest : IsRequestTo engine.nodeId dev.nodeId request :=
      isRequestTo_of_build hidentifies.built (by decide)
    rw [snd_identifyDevice hidentifies]
    exact exchanged_grows hrequest hub
  · unfold identifyDevice
    cases hresolve : resolveDevice identifyDeviceAction deviceId hub with
    | mk result found =>
      cases found with
      | none => exact .refl _ _
      | some dev =>
        cases hbuilt : createIdentify engine.nodeId dev.nodeId with
        | none =>
          simp only [hbuilt]
          exact .refl _ _
        | some request => exact absurd ⟨dev, request, by rw [hresolve], hbuilt⟩ hidentifies

theorem renameDevice_grows (deviceId newName : List UInt8) (hub : Hub) :
    Grows (engine.Warranted pairs) hub.exchange.trace
      (engine.renameDevice deviceId newName hub).2.exchange.trace := by
  unfold renameDevice
  obtain ⟨result, found⟩ := resolveDevice renameDeviceAction deviceId hub
  cases found with
  | none => exact .refl _ _
  | some dev =>
    dsimp only
    cases encodeDeviceNamePayload newName with
    | error nameError => exact .refl _ _
    | ok encoded =>
      obtain ⟨payload, name⟩ := encoded
      dsimp only
      cases hbuilt : createSetName engine.nodeId dev.nodeId payload.toList with
      | none => exact .refl _ _
      | some request =>
        have hrequest : IsRequestTo engine.nodeId dev.nodeId request :=
          isRequestTo_of_build hbuilt (by decide)
        have hsent : Grows (engine.Warranted pairs) hub.exchange.trace _ :=
          exchanged_grows hrequest hub
        dsimp only
        rw [sendAuthenticatedRequest_eq]
        cases hub.reply request with
        | none => exact hsent
        | some response =>
          dsimp only
          split_ifs
          · unfold applyErrorResponse
            split_ifs <;> exact hsent
          · exact hsent
          -- the readback is an exchange of its own
          · have hreadback : HubCall.requestDeviceName result.deviceId = .discoverAndPair → pairs :=
              fun h => nomatch h
            rw [snd_verifyRename]
            exact hsent.trans (execute_grows hreadback _)

/-- A step transmits what it has a reason for, as long as a queued pairing was asked for. -/
theorem componentStep_grows (h : (∃ op ∈ hub.opQueue, op.dispatch = .discoverAndPair) → pairs)
    (event : ComponentEvent) :
    Grows (engine.Warranted pairs) hub.exchange.trace
      (engine.componentStep hub event).exchange.trace := by
  cases event with
  | renameDevice deviceId newName => exact renameDevice_grows deviceId newName hub
  | identifyDevice deviceId => exact identifyDevice_grows deviceId hub
  | hub event =>
    cases event with
    | packetReceived packet rssi =>
      have hreceived : Grows (engine.Warranted pairs) hub.exchange.trace
          (hub.receive packet rssi).exchange.trace := grows_concat trivial
      exact hreceived.trans (processReceivedPacket_grows rfl)
    | pendingOperation => exact processPendingOperation_grows h
    | hop due =>
      show Grows (engine.Warranted pairs) _ (hub.maybeHop due).exchange.trace
      rw [hub.trace_maybeHop]
      exact .refl _ _
    | dueDevice =>
      show Grows (engine.Warranted pairs) _ hub.pollDueDevice.exchange.trace
      rw [hub.exchange_pollDueDevice]
      exact .refl _ _
    | queued call =>
      show Grows (engine.Warranted pairs) _ (hub.queue call).exchange.trace
      rw [hub.exchange_queue]
      exact .refl _ _
    | remotePoll id =>
      show Grows (engine.Warranted pairs) _ (hub.fireRemotePoll id).exchange.trace
      rw [hub.exchange_fireRemotePoll]
      exact .refl _ _
    | pollInterval id intervalMs =>
      show Grows (engine.Warranted pairs) _ (hub.setDeviceStatusPollInterval id intervalMs).exchange.trace
      rw [hub.exchange_setDeviceStatusPollInterval]
      exact .refl _ _
    | timePasses | remoteLinked | remoteClassLinked | connection | deviceAdded | optimisticTarget
    | optimisticTargetCleared => exact .refl _ _

/-- A pairing comes into the queue when it is queued. -/
theorem queuesPairing_componentStep {event : ComponentEvent}
    (h : ∃ op ∈ (engine.componentStep hub event).opQueue, op.dispatch = .discoverAndPair) :
    (∃ op ∈ hub.opQueue, op.dispatch = .discoverAndPair) ∨
      event = .hub (.queued .discoverAndPair) := by
  obtain ⟨op, hop, hpairing⟩ := h
  rcases (queueChange_componentStep engine hub event).mem hop with hold | ⟨call, hcall, hdevice⟩
  · exact .inl ⟨op, hold, hpairing⟩
  right
  rw [dispatch_eq_discoverAndPair.1 hpairing] at hdevice
  have hnone : call = .discoverAndPair := by
    cases call with
    | discoverAndPair => rfl
    | _ => cases hdevice
  cases event with
  | renameDevice | identifyDevice => exact hcall.elim
  | hub event =>
    cases event with
    | queued queued =>
      have hqueued : call = queued := hcall
      rw [← hqueued, hnone]
    | remotePoll deviceId =>
      have hpoll : call = .requestDeviceStatus deviceId := hcall
      rw [hpoll] at hnone
      cases hnone
    | dueDevice =>
      obtain ⟨deviceId, -, hpoll⟩ := hcall
      rw [hpoll] at hnone
      cases hnone
    | packetReceived | pendingOperation | hop | timePasses | pollInterval | deviceAdded
    | remoteLinked | remoteClassLinked | optimisticTarget | optimisticTargetCleared
    | connection => exact hcall.elim

/-- In every run the controller transmits only frames that it has a reason for, and frames of a
pairing only if a pairing was queued before or in the run. -/
theorem transmissions_warranted (engine : ExchangeEngine) (hub : Hub)
    (events : List ComponentEvent) :
    let pairs := (∃ op ∈ hub.opQueue, op.dispatch = .discoverAndPair) ∨
      .hub (.queued .discoverAndPair) ∈ events
    Grows (engine.Warranted pairs) hub.exchange.trace
      (run engine.componentStep hub events).exchange.trace := by
  intro pairs
  have hkeeps : ∀ (hub : Hub) (event : ComponentEvent),
      ((∃ op ∈ hub.opQueue, op.dispatch = .discoverAndPair) → pairs) →
      (event = .hub (.queued .discoverAndPair) → pairs) →
      (∃ op ∈ (engine.componentStep hub event).opQueue, op.dispatch = .discoverAndPair) → pairs :=
    fun hub event hhub hevent h => (queuesPairing_componentStep h).elim hhub hevent
  have hstep : ∀ (hub : Hub) (event : ComponentEvent),
      ((∃ op ∈ hub.opQueue, op.dispatch = .discoverAndPair) → pairs) →
      (event = .hub (.queued .discoverAndPair) → pairs) →
      Grows (engine.Warranted pairs) hub.exchange.trace
        (engine.componentStep hub event).exchange.trace :=
    fun hub event hhub _ => componentStep_grows hhub event
  refine grows_run_of_guarded (fun hub : Hub => hub.exchange.trace) hkeeps hstep .inl ?_
  rintro event hevent rfl
  exact .inr hevent

end ExchangeEngine
end HomeIoControl
