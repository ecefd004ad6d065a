import HomeIoControl.ExchangeShape
import HomeIoControl.RecordInvariants
import HomeIoControl.TraceGrowth

namespace HomeIoControl
open EventTrace GuardedRun ManagementActions

/-! ## What leaves the radio alone -/

namespace Hub

variable (hub : Hub)

theorem exchange_queueIf (accepts : IoDevice → Bool) (deviceId : DeviceId)
    (enqueue : OperationQueue → OperationQueue) :
    (hub.queueIf accepts deviceId enqueue).exchange = hub.exchange := by
  unfold queueIf
  cases hub.getDevice deviceId with
  | none => rfl
  | some dev =>
    dsimp only
    split_ifs <;> rfl

theorem exchange_queue (call : HubCall) : (hub.queue call).exchange = hub.exchange := by
  cases call with
  | executeDeviceCommand deviceId cmd =>
    simp only [queue, queueDeviceCommand]
    split_ifs
    · rfl
    · exact hub.exchange_queueIf _ _ _
  | requestDeviceName deviceId =>
    simp only [queue, queueRequestDeviceName]
    split_ifs <;> rfl
  | discoverAndPair => rfl
  | setDevicePosition | setDeviceTilt | setDevicePositionAndTilt | setLightState | setLockState
  | setSwitchState | requestDeviceStatus => exact hub.exchange_queueIf _ _ _

theorem exchange_fireRemotePoll (deviceId : DeviceId) :
    (hub.fireRemotePoll deviceId).exchange = hub.exchange := by
  unfold fireRemotePoll
  cases hub.remotePolls[deviceId]? with
  | none => rfl
  | some due =>
    dsimp only
    split_ifs
    · rfl
    · exact exchange_queueIf _ _ _ _

theorem exchange_pollDueDevice : hub.pollDueDevice.exchange = hub.exchange := by
  unfold pollDueDevice
  obtain ⟨due, pollPolicy⟩ := hub.pollPolicy.popDueDevice hub.now
  cases due with
  | none => rfl
  | some deviceId => exact exchange_queueIf _ _ _ _

theorem exchange_setDeviceStatusPollInterval (deviceId : DeviceId) (pollIntervalMs : Millis) :
    (hub.setDeviceStatusPollInterval deviceId pollIntervalMs).exchange = hub.exchange := by
  unfold setDeviceStatusPollInterval
  split_ifs <;> rfl

theorem exchange_scheduleDevicePolls (deviceIds : List DeviceId) (delayMs : Millis) :
    (hub.scheduleDevicePolls deviceIds delayMs).exchange = hub.exchange := by
  unfold scheduleDevicePolls
  induction deviceIds generalizing hub with
  | nil => rfl
  | cons deviceId deviceIds ih =>
    rw [List.foldl_cons, ih]
    exact hub.exchange_beginStatusPollTracking deviceId 0

theorem exchange_process1wFrame (frame : IoFrame) :
    (hub.process1wFrame frame).exchange = hub.exchange := by
  have hevent : ∀ (hub : Hub) info linked srcId,
      (hub.maybeFireSenderEvent info linked srcId).exchange = hub.exchange := by
    intro hub info linked srcId
    unfold maybeFireSenderEvent
    split_ifs <;> rfl
  have hoptimistic : ∀ (hub : Hub) info deviceIds,
      (hub.applyOptimisticLinkedState info deviceIds).2.exchange = hub.exchange := by
    intro hub info deviceIds
    unfold applyOptimisticLinkedState
    split_ifs <;> rfl
  unfold process1wFrame
  dsimp only
  split_ifs
  · rfl
  · rw [exchange_scheduleDevicePolls, hoptimistic, hevent]
    rfl
  · rw [exchange_scheduleDevicePolls, hoptimistic, hevent]
    rfl

theorem exchange_capStopPoll (deviceId : DeviceId) :
    (hub.capStopPoll deviceId).exchange = hub.exchange := by
  obtain ⟨pollPolicy, hcapped⟩ := hub.capStopPoll_writes deviceId
  rw [hcapped]

theorem trace_maybeHop (due : Bool) : (hub.maybeHop due).exchange.trace = hub.exchange.trace := by
  unfold maybeHop
  split_ifs <;> rfl

end Hub

/-! ## Why a frame goes out -/

/-- The commands of requests to paired devices. -/
def requestCommands : List UInt8 := [cmdExecute, cmdPrivate, cmdGetName, cmdSetName, cmdIdentify]

/-- The requests that only pairing makes. -/
def pairingCommands : List UInt8 :=
  [cmdDiscoverReq, cmdDiscoverSpeReq, cmdDiscoverAltReq, cmdSetConfig1]

namespace ExchangeEngine

variable (engine : ExchangeEngine)

/-- A packet with a status update to this controller. -/
structure Reported (packet : RadioRxPacket) (update : IoFrame) : Prop where
  parses : parse packet.data = some update
  cmd : update.cmd = cmdStatusUpdate
  dst : update.dst = engine.nodeId

/-- What makes the controller transmit a frame, told from what was on the air before. Frames of a
pairing need `pairs`. -/
inductive Warrant (pairs : Prop) (before : List RadioEvent) (f : IoFrame) : Prop
  | request {dst : NodeId} {cmd : UInt8} {params : List UInt8}
      (command : IsCommand f engine.nodeId dst cmd params) (begins : cmd ∈ requestCommands)
  /-- Our request went out last, and the last packet since is the challenge for it. -/
  | proof {request challenge : IoFrame} {packet : RadioRxPacket} {earlier : List RadioEvent}
      {heard : List RadioRxPacket} {freqHz preambleLen : ℕ}
      (command : IsCommand f engine.nodeId request.dst cmdChallengeResp
        (createHmac (transcript request) (hmacField challenge) engine.systemKey).toList)
      (asked : before = earlier ++ .tx request freqHz preambleLen true ::
        (heard ++ [packet]).map .rx)
      (challenges : Challenges request packet challenge)
  /-- A status update comes last. -/
  | challenge {update : IoFrame} {packet : RadioRxPacket} {earlier : List RadioEvent}
      {nonce : Challenge}
      (command : IsCommand f engine.nodeId update.src cmdChallengeReq nonce.toList)
      (last : before = earlier ++ [.rx packet]) (reported : engine.Reported packet update)
  /-- After a status update, our challenge to its sender and a proof for both. -/
  | acknowledgement {update challenge : IoFrame} {packet answer : RadioRxPacket}
      {nonce : Challenge} {freqHz preambleLen : ℕ}
      (command : IsCommand f engine.nodeId update.src cmdStatusUpdateResp statusUpdateAckPayload)
      (reported : engine.Reported packet update)
      (asked : IsCommand challenge engine.nodeId update.src cmdChallengeReq nonce.toList)
      (proved : engine.AcceptsProof update nonce answer)
      (order : [.rx packet, .tx challenge freqHz preambleLen true, .rx answer].Sublist before)
  | pairing {dst : NodeId} {cmd : UInt8} {params : List UInt8} (asked : pairs)
      (command : IsCommand f engine.nodeId dst cmd params) (begins : cmd ∈ pairingCommands)
  /-- After an answer to a discovery. -/
  | keyInit {answer : IoFrame} {packet : RadioRxPacket} (asked : pairs)
      (command : IsCommand f engine.nodeId answer.src cmdKeyInit [])
      (heard : .rx packet ∈ before) (parses : parse packet.data = some answer)
      (answers : answer.cmd = cmdDiscoverResp)
  /-- After our key-init and a challenge of six bytes from the same node. -/
  | keyTransfer {node : NodeId} {challenge : IoFrame} (asked : pairs)
      (command : IsCommand f engine.nodeId node cmdKeyTransfer
        (cryptKey [cmdKeyInit] (hmacField challenge) engine.systemKey).toList)
      (order : Precedes (RadioEvent.IsSent (IsKeyInit engine.nodeId node))
        (RadioEvent.IsHeard fun f => f = challenge ∧ IsKeyChallenge engine.nodeId node f) before)

/-- Whatever is handed to the driver has its warrant. -/
def Warranted (pairs : Prop) (before : List RadioEvent) (e : RadioEvent) : Prop :=
  e.TxSatisfies (engine.Warrant pairs before)

variable {engine} {pairs : Prop} {before : List RadioEvent} {f : IoFrame}

variable (engine) in
/-- The frame is warranted from now on, whatever comes. -/
def Standing (pairs : Prop) (past : List RadioEvent) (f : IoFrame) : Prop :=
  ∀ later, engine.Warrant pairs (past ++ later) f

theorem Standing.warrant {past : List RadioEvent} (h : engine.Standing pairs past f) :
    engine.Warrant pairs past f := by
  simpa only [List.append_nil] using h []

theorem Standing.of_prefix {past past' : List RadioEvent} (h : engine.Standing pairs past f)
    (hpast : past <+: past') : engine.Standing pairs past' f := by
  obtain ⟨more, rfl⟩ := hpast
  intro later
  rw [List.append_assoc]
  exact h (more ++ later)

/-! ## Exchanges -/

variable {request : IoFrame} {s s' : EngineState}

theorem grows_of_emits {events : List RadioEvent} (hemits : Emits events s s')
    (htx : ∀ e ∈ events, e.TxSatisfies (engine.Standing pairs s.trace)) :
    Grows (engine.Warranted pairs) s.trace s'.trace := by
  rw [hemits.trace_eq]
  apply grows_append
  apply justified_of_forall
  intro e he before
  exact (htx e he).mono fun _ hf => hf before

theorem grows_of_heard {packets : List RadioRxPacket} (hemits : Emits (packets.map .rx) s s') :
    Grows (engine.Warranted pairs) s.trace s'.trace :=
  grows_of_emits hemits (txSatisfies_of_heard packets)

/-- A try behind a past in which its request is warranted, whatever comes after that past. -/
theorem TryShape.warranted {freqHz preambleLen : ℕ} {events past : List RadioEvent}
    (h : engine.TryShape request freqHz preambleLen events)
    (hrequest : engine.Standing pairs past request) :
    Justified (fun before => engine.Warranted pairs (past ++ before)) events := by
  have hwarrant : engine.Warrant pairs (past ++ []) request := hrequest []
  cases h with
  | refused => exact justified_singleton.2 hwarrant
  | asked heard =>
    refine justified_cons.2 ⟨hwarrant, ?_⟩
    exact justified_map fun _ _ => trivial
  | @proved earlier later packet challenge proof sent hchallenge hproof hlater =>
    refine justified_cons.2 ⟨hwarrant, justified_append.2 ⟨justified_map fun _ _ => trivial, ?_⟩⟩
    refine justified_cons.2 ⟨trivial, justified_cons.2 ⟨?_, justified_map fun _ _ => trivial⟩⟩
    have hasked : past ++ ([.tx request freqHz preambleLen true] ++ (earlier.map .rx ++
        [.rx packet])) =
        past ++ .tx request freqHz preambleLen true :: (earlier ++ [packet]).map .rx := by simp
    exact .proof hproof hasked hchallenge

/-- An exchange of a request that is warranted from now on. -/
theorem sendAndReceive_grows (hrequest : engine.Standing pairs s.trace request) (response : IoFrame)
    (freqHz : ℕ) :
    Grows (engine.Warranted pairs) s.trace (engine.sendAndReceive request response freqHz s).2.2.trace := by
  obtain ⟨-, -, htrace, -⟩ := engine.sendAndReceive_eq request response freqHz s
  rw [htrace]
  apply grows_append
  unfold exchangeEvents
  split_ifs
  · obtain ⟨tries, hevents, -, hshapes, -⟩ := engine.exists_tryShapes_runEvents request freqHz
      (engine.requestPreamble request) exchangeRetryCount s.script.sends s.script.windows
    rw [hevents]
    apply justified_flatten
    intro events hevents earlier
    simp only [← List.append_assoc]
    apply (hshapes events hevents).warranted
    exact hrequest.of_prefix (List.prefix_append s.trace earlier)
  · exact justified_nil _

theorem transmitFrame_grows (hserial : (serialize f frameMaxSize).isSome)
    (h : engine.Warrant pairs s.trace f) (freqHz preambleLen : ℕ) :
    Grows (engine.Warranted pairs) s.trace (engine.transmitFrame f freqHz preambleLen s).2.trace := by
  rw [(engine.transmitFrame_emits hserial freqHz preambleLen s).trace_eq]
  exact grows_concat h

/-! ## Received packets -/

variable {hub : Hub}

/-- The challenge for a status update that was received last. -/
theorem authenticateRequest_grows {packet : RadioRxPacket} {update : IoFrame}
    {earlier : List RadioEvent} (hlast : s.trace = earlier ++ [.rx packet])
    (hreported : engine.Reported packet update) (freqHz : ℕ) :
    Grows (engine.Warranted pairs) s.trace (engine.authenticateRequest update freqHz s).2.trace := by
  obtain ⟨challenge, hchallenge, -, htrace⟩ := engine.authenticateRequest_course update freqHz s
  rw [htrace]
  apply grows_append
  refine justified_cons.2 ⟨?_, justified_map fun _ _ => trivial⟩
  exact .challenge (buildFrame_isCommand hchallenge) (by rw [List.append_nil, hlast]) hreported

theorem hubTransmit_grows (hserial : (serialize f frameMaxSize).isSome)
    (h : engine.Warrant pairs hub.exchange.trace f) (freqHz : ℕ) :
    Grows (engine.Warranted pairs) hub.exchange.trace
      (engine.hubTransmit f freqHz hub).exchange.trace :=
  transmitFrame_grows hserial h freqHz shortPreamble

/-- An acknowledgement goes out three times, and stays warranted meanwhile. -/
theorem acknowledge_grows (hserial : (serialize f frameMaxSize).isSome)
    (h : engine.Standing pairs hub.exchange.trace f) :
    Grows (engine.Warranted pairs) hub.exchange.trace
      (engine.hubTransmit f freqCh3 (engine.hubTransmit f freqCh2
        (engine.hubTransmit f freqCh1 hub))).exchange.trace := by
  have hfirst := hubTransmit_grows hserial h.warrant freqCh1
  have hsecond := hfirst.trans
    (hubTransmit_grows hserial (h.of_prefix hfirst.isPrefix).warrant freqCh2)
  exact hsecond.trans (hubTransmit_grows hserial (h.of_prefix hsecond.isPrefix).warrant freqCh3)

theorem acceptStatusUpdate_grows {packet : RadioRxPacket} {update : IoFrame}
    {earlier : List RadioEvent} (hlast : hub.exchange.trace = earlier ++ [.rx packet])
    (hreported : engine.Reported packet update) (freqHz : ℕ) :
    Grows (engine.Warranted pairs) hub.exchange.trace
      (engine.acceptStatusUpdate update freqHz hub).exchange.trace := by
  have hgrows : Grows (engine.Warranted pairs) hub.exchange.trace _ :=
    authenticateRequest_grows hlast hreported freqHz
  obtain ⟨challenge, hchallenge, haccepted, htrace⟩ :=
    engine.authenticateRequest_course update freqHz hub.exchange
  obtain ⟨resp, hresp⟩ : ∃ resp, createStatusUpdateResp engine.nodeId update.src = some resp :=
    exists_buildFrame _ _ _ _ _ _ (by decide)
  have hcommand := buildFrame_isCommand hresp
  unfold acceptStatusUpdate
  generalize engine.authenticateRequest update freqHz hub.exchange = authenticated
    at hgrows haccepted htrace
  obtain ⟨ok, s⟩ := authenticated
  cases ok with
  | false => exact hgrows
  | true =>
    obtain ⟨answer, hanswer, hproved⟩ := haccepted.1 rfl
    -- a proof only comes for a challenge that went out
    have hsent : hub.exchange.script.sends.head?.getD false = true := by
      unfold answerHeard at hanswer
      by_contra hsent
      rw [if_neg hsent] at hanswer
      cases hanswer
    dsimp only at hgrows htrace ⊢
    rw [hresp]
    dsimp only
    rw [Hub.exchange_updateDeviceStatus]
    refine hgrows.trans (acknowledge_grows hcommand.serialize_isSome fun later => ?_)
    have htrace' : s.trace = earlier ++
        [.rx packet, .tx challenge freqHz shortPreamble true, .rx answer] := by
      rw [htrace, hlast, hsent, hanswer]
      simp
    have horder : [.rx packet, .tx challenge freqHz shortPreamble true, .rx answer].Sublist
        (s.trace ++ later) := by
      rw [htrace']
      exact (List.sublist_append_right earlier _).trans (List.sublist_append_left _ later)
    exact .acknowledgement hcommand hreported (buildFrame_isCommand hchallenge) hproved horder

theorem processReceivedPacket_grows {packet : RadioRxPacket} {earlier : List RadioEvent}
    (hlast : hub.exchange.trace = earlier ++ [.rx packet]) :
    Grows (engine.Warranted pairs) hub.exchange.trace
      (engine.processReceivedPacket packet hub).exchange.trace := by
  unfold processReceivedPacket
  cases hparse : parse packet.data with
  | none => exact .refl _ _
  | some frame =>
    dsimp only
    split_ifs with hinternal h1w haddressed
    · exact .refl _ _
    · rw [hub.exchange_process1wFrame]
      exact .refl _ _
    · exact acceptStatusUpdate_grows hlast ⟨hparse, haddressed.1, haddressed.2⟩ packet.freqHz
    · rw [hub.exchange_updateDeviceStatus]
      exact .refl _ _
    · exact .refl _ _
    · have hpolled := hub.exchange_scheduleDevicePolls [nodeIdToString frame.dst]
        remoteActivityStatusPollDelayMs
      rw [show hub.scheduleDevicePoll remoteActivityStatusPollDelayMs (nodeIdToString frame.dst) =
        hub.scheduleDevicePolls [nodeIdToString frame.dst] remoteActivityStatusPollDelayMs from rfl,
        hpolled]
      exact .refl _ _
    · unfold Hub.scheduleLinkedRemotePolls
      rw [hub.exchange_scheduleDevicePolls]
      exact .refl _ _

/-! ## Requests -/

/-- The frame is a request of a controller to a node. -/
def IsRequestTo (own node : NodeId) (f : IoFrame) : Prop :=
  ∃ cmd ∈ requestCommands, ∃ params, IsCommand f own node cmd params

theorem isRequestTo_of_build {start «end» lowPower : Bool} {own node : NodeId} {cmd : UInt8}
    {params : List UInt8}
    (h : buildFrame start «end» lowPower own node cmd params = some request)
    (hcmd : cmd ∈ requestCommands) : IsRequestTo own node request :=
  ⟨cmd, hcmd, params, buildFrame_isCommand h⟩

theorem IsRequestTo.standing {node : NodeId} (h : IsRequestTo engine.nodeId node request)
    (past : List RadioEvent) : engine.Standing pairs past request := by
  obtain ⟨cmd, hcmd, params, hcommand⟩ := h
  exact fun _ => .request hcommand hcmd

theorem controlCommand_isRequestTo {call : HubCall} {command : ControlCommand} {dev : IoDevice}
    (h : engine.controlCommand call = some command) (hbuild : command.build dev = some request) :
    IsRequestTo engine.nodeId dev.nodeId request := by
  have hcmd : cmdExecute ∈ requestCommands := by decide
  cases call with
  | requestDeviceStatus | requestDeviceName | discoverAndPair => cases h
  | setDevicePosition | setLightState | setLockState | setSwitchState =>
    obtain rfl := Option.some.inj h
    exact isRequestTo_of_build hbuild hcmd
  | setDeviceTilt =>
    obtain rfl := Option.some.inj h
    dsimp only [createExecuteTilt] at hbuild
    exact isRequestTo_of_build hbuild hcmd
  | setDevicePositionAndTilt =>
    obtain rfl := Option.some.inj h
    dsimp only [createExecutePositionAndTilt] at hbuild
    split_ifs at hbuild
    exact isRequestTo_of_build hbuild hcmd
  | executeDeviceCommand deviceId cmd =>
    obtain rfl := Option.some.inj h
    dsimp only [namedCommand] at hbuild
    by_cases hforce : cmd = .forceOpen
    · rw [if_pos hforce] at hbuild
      exact isRequestTo_of_build hbuild hcmd
    · rw [if_neg hforce] at hbuild
      unfold createExecuteCommand at hbuild
      cases cmd with
      | forceOpen => exact absurd rfl hforce
      | stop | favorite | vent => exact isRequestTo_of_build hbuild hcmd

/-- A call sends its request to the device it is about. -/
theorem sentRequest_isRequestTo {call : HubCall} (h : engine.sentRequest call hub = some request) :
    ∃ deviceId dev, call.device = some deviceId ∧ hub.getDevice deviceId = some dev ∧
      IsRequestTo engine.nodeId dev.nodeId request := by
  have htaken : ∀ {deviceId accepts build}, hub.requestIf deviceId accepts build = some request →
      ∃ dev, hub.getDevice deviceId = some dev ∧ build dev = some request := by
    intro deviceId accepts build hsent
    obtain ⟨dev, hdev, hbuild⟩ := Option.bind_eq_some_iff.1 hsent
    split_ifs at hbuild
    exact ⟨dev, hdev, hbuild⟩
  cases hcommand : engine.controlCommand call with
  | some command =>
    obtain ⟨hdevice, hsent⟩ := control_of_controlCommand hcommand
    rw [hsent] at h
    obtain ⟨dev, hdev, hbuild⟩ := htaken h
    exact ⟨_, dev, hdevice, hdev, controlCommand_isRequestTo hcommand hbuild⟩
  | none =>
    cases call with
    | discoverAndPair => cases h
    | requestDeviceStatus deviceId =>
      obtain ⟨dev, hdev, hbuild⟩ := htaken h
      refine ⟨deviceId, dev, rfl, hdev, ?_⟩
      unfold createStatusRequest at hbuild
      split_ifs at hbuild
      · exact isRequestTo_of_build hbuild (by decide)
      · exact isRequestTo_of_build hbuild (by decide)
    | requestDeviceName deviceId =>
      obtain ⟨dev, hdev, hbuild⟩ := htaken h
      exact ⟨deviceId, dev, rfl, hdev, isRequestTo_of_build hbuild (by decide)⟩
    | setDevicePosition | setDeviceTilt | setDevicePositionAndTilt | executeDeviceCommand
    | setLightState | setLockState | setSwitchState => cases hcommand

theorem exchange_beginCommand (hub : Hub) (deviceId : DeviceId) :
    (hub.beginCommand deviceId).exchange = hub.exchange :=
  hub.exchange_beginStatusPollTracking deviceId _

/-- Around its exchange a movement command leaves the radio alone. -/
theorem exchange_control (command : ControlCommand) (hub : Hub) :
    (engine.control command hub).2.exchange =
      match hub.requestIf command.deviceId command.accepts command.build with
      | none => hub.exchange
      | some request => engine.exchanged request hub := by
  by_cases htakes : ∃ dev, hub.Takes command.deviceId command.accepts dev
  · obtain ⟨dev, htakes⟩ := htakes
    rw [Hub.requestIf_of_takes htakes]
    cases hbuild : command.build dev with
    | none =>
      rw [engine.control_of_not_built htakes hbuild]
      exact exchange_beginCommand hub command.deviceId
    | some request =>
      obtain ⟨-, hexchange, -⟩ := engine.executeRequestAndUpdate_writes command.deviceId request 0
        (hub.beginCommand command.deviceId)
      have hbegun : engine.exchanged request (hub.beginCommand command.deviceId) =
          engine.exchanged request hub := by
        unfold exchanged
        rw [exchange_beginCommand]
      dsimp only at hexchange ⊢
      rw [← hbegun, ← hexchange]
      unfold control
      rw [engine.controlDevice_of_takes htakes hbuild]
      generalize engine.executeRequestAndUpdate command.deviceId request 0
        (hub.beginCommand command.deviceId) = executed
      obtain ⟨ok, after⟩ := executed
      cases ok with
      | false => rfl
      | true =>
        dsimp only
        split_ifs
        · rw [Hub.exchange_capStopPoll, exchange_beginCommand]
        · rw [Hub.exchange_capStopPoll]
        · rw [exchange_beginCommand]
        · rfl
  · have hnot : ∀ dev, ¬hub.Takes command.deviceId command.accepts dev :=
      fun dev hdev => htakes ⟨dev, hdev⟩
    rw [Hub.requestIf_of_not_takes hnot, engine.control_of_not_takes hnot]

/-- Except for pairing, a call's exchange is all that it does on the radio. -/
theorem exchange_execute {call : HubCall} (hcall : call ≠ .discoverAndPair) (hub : Hub) :
    (engine.execute call hub).2.exchange =
      match engine.sentRequest call hub with
      | none => hub.exchange
      | some request => engine.exchanged request hub := by
  cases hcommand : engine.controlCommand call with
  | some command =>
    rw [(control_of_controlCommand hcommand).2, engine.execute_eq_control hcommand]
    exact exchange_control command hub
  | none =>
    cases call with
    | discoverAndPair => exact absurd rfl hcall
    | requestDeviceStatus deviceId =>
      unfold sentRequest Hub.requestIf execute requestDeviceStatus
      dsimp only
      cases hub.getDevice deviceId with
      | none => rfl
      | some dev =>
        rw [Option.bind_some]
        cases hub.initialized with
        | false => rfl
        | true =>
          cases hsupports : knownDeviceSupportsStatusRequests dev with
          | false => simp [hsupports]
          | true =>
            cases hbuild : engine.createStatusRequest dev with
            | none => simp [hsupports, hbuild]
            | some request =>
              simp only [hsupports, hbuild, and_self, if_true, Bool.not_true, Bool.false_eq_true,
                if_false]
              exact (engine.executeRequestAndUpdate_writes deviceId request _ hub).2.1
    | requestDeviceName deviceId =>
      unfold sentRequest Hub.requestIf execute requestDeviceName
      dsimp only
      cases hub.getDevice deviceId with
      | none => rfl
      | some dev =>
        rw [Option.bind_some]
        cases hub.initialized with
        | false => rfl
        | true =>
          cases hbuild : createGetName engine.nodeId dev.nodeId true with
          | none => simp [hbuild]
          | some request =>
            simp only [hbuild, and_self, if_true, Bool.not_true, Bool.false_eq_true, if_false]
            exact (engine.executeRequestAndUpdate_writes deviceId request 0 hub).2.1
    | setDevicePosition | setDeviceTilt | setDevicePositionAndTilt | executeDeviceCommand
    | setLightState | setLockState | setSwitchState => cases hcommand

theorem exchanged_grows {node : NodeId} (h : IsRequestTo engine.nodeId node request) (hub : Hub) :
    Grows (engine.Warranted pairs) hub.exchange.trace (engine.exchanged request hub).trace :=
  sendAndReceive_grows (h.standing _) .zero freqCh2

theorem execute_grows_of_ne {call : HubCall} (hcall : call ≠ .discoverAndPair) (hub : Hub) :
    Grows (engine.Warranted pairs) hub.exchange.trace (engine.execute call hub).2.exchange.trace := by
  rw [exchange_execute hcall]
  cases hsent : engine.sentRequest call hub with
  | none => exact .refl _ _
  | some request =>
    obtain ⟨-, dev, -, -, hrequest⟩ := sentRequest_isRequestTo hsent
    exact exchanged_grows hrequest hub

end ExchangeEngine
end HomeIoControl
