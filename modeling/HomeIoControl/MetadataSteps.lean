import HomeIoControl.DeviceMetadata
import HomeIoControl.PairingConfirmation

namespace HomeIoControl
open GuardedRun

/-! ## Requests and their replies -/

namespace DeviceRegistry

/-- The declared fields after an exchange. -/
def replied (r : DeviceRegistry) (deviceId : DeviceId) (reply : Option IoFrame) :
    Option DeviceMetadata :=
  match reply with
  | none => r.metadata deviceId
  | some f => r.heard deviceId f

end DeviceRegistry

namespace Hub

/-- A request to a registered device that takes it, from a running hub. -/
def requestIf (hub : Hub) (deviceId : DeviceId) (accepts : IoDevice → Bool)
    (build : IoDevice → Option IoFrame) : Option IoFrame :=
  (hub.getDevice deviceId).bind fun dev =>
    if hub.initialized = true ∧ accepts dev = true then build dev else none

theorem requestIf_of_takes {hub : Hub} {deviceId : DeviceId} {accepts : IoDevice → Bool}
    {dev : IoDevice} (h : hub.Takes deviceId accepts dev) (build : IoDevice → Option IoFrame) :
    hub.requestIf deviceId accepts build = build dev := by
  rw [requestIf, h.registered, Option.bind_some, if_pos ⟨h.initialized, h.accepts⟩]

theorem requestIf_of_not_takes {hub : Hub} {deviceId : DeviceId} {accepts : IoDevice → Bool}
    (h : ∀ dev, ¬hub.Takes deviceId accepts dev) (build : IoDevice → Option IoFrame) :
    hub.requestIf deviceId accepts build = none := by
  unfold requestIf
  cases hdev : hub.getDevice deviceId with
  | none => rfl
  | some dev =>
    rw [Option.bind_some, if_neg fun htakes => h dev ⟨hdev, htakes.1, htakes.2⟩]

end Hub

namespace ExchangeEngine

variable (engine : ExchangeEngine)

/-- The request that a call sends, if it sends one. -/
def sentRequest (call : HubCall) (hub : Hub) : Option IoFrame :=
  match call with
  | .requestDeviceStatus deviceId =>
    hub.requestIf deviceId knownDeviceSupportsStatusRequests engine.createStatusRequest
  | .requestDeviceName deviceId =>
    hub.requestIf deviceId (fun _ => true) fun dev => createGetName engine.nodeId dev.nodeId true
  | call =>
    (engine.controlCommand call).bind fun command =>
      hub.requestIf command.deviceId command.accepts command.build

theorem metadata_executeRequestAndUpdate (deviceId : DeviceId) (request : IoFrame)
    (retryAfterFailMs : Millis) (hub : Hub) (other : DeviceId) :
    (engine.executeRequestAndUpdate deviceId request retryAfterFailMs hub).2.registry.metadata
        other = hub.registry.replied other (hub.acceptedReply request) := by
  obtain ⟨hsuccess, hanswer, -⟩ :=
    engine.sendAndReceive_eq request .zero freqCh2 hub.exchange
  unfold executeRequestAndUpdate Hub.acceptedReply Hub.reply
  generalize (outcomes request hub.exchange).findSome? TryOutcome.answer? = reply
    at hsuccess hanswer
  generalize engine.sendAndReceive request .zero freqCh2 hub.exchange = exchanged
    at hsuccess hanswer
  obtain ⟨ok, response, s⟩ := exchanged
  -- failures touch counters and results only
  have hfailed : ∀ f : IoDevice → IoDevice, (∀ dev, (f dev).metadata = dev.metadata) →
      ((if retryAfterFailMs ≠ 0 then
          ((hub.block s).updateDevice deviceId f).scheduleBackgroundPollBackoff deviceId
            s.status.debug.sawChallenge
        else (hub.block s).updateDevice deviceId f).registry.metadata other) =
        hub.registry.metadata other := by
    intro f hf
    have hupdated := congrFun (hub.registry.metadata_update deviceId hf) other
    split_ifs
    · exact hupdated
    · exact hupdated
  cases reply with
  | none =>
    obtain rfl : ok = false := hsuccess
    exact hfailed _ fun dev => dev.metadata_recordExchangeTimeout _
  | some f =>
    obtain rfl : ok = true := hsuccess
    obtain rfl : response = f := hanswer
    dsimp only
    by_cases hcmd : response.cmd = cmdErrorResp
    · have hreply : (some response).filter (fun f => f.cmd != cmdErrorResp) = none := by
        simp [hcmd]
      rw [if_pos hcmd, hreply]
      apply hfailed
      intro dev
      split_ifs <;> rfl
    · have hreply : (some response).filter (fun f => f.cmd != cmdErrorResp) = some response := by
        simp [hcmd]
      rw [if_neg hcmd, hreply]
      dsimp only
      rw [Hub.metadata_updateDeviceStatus]
      split_ifs <;> rfl

theorem metadata_control (command : ControlCommand) (hub : Hub) (other : DeviceId) :
    (engine.control command hub).2.registry.metadata other =
      hub.registry.replied other
        ((hub.requestIf command.deviceId command.accepts command.build).bind
          hub.acceptedReply) := by
  by_cases htakes : ∃ dev, hub.Takes command.deviceId command.accepts dev
  · obtain ⟨dev, htakes⟩ := htakes
    have hbegun : (hub.beginCommand command.deviceId).registry = hub.registry :=
      hub.registry_beginStatusPollTracking _ _
    rw [Hub.requestIf_of_takes htakes]
    -- tracking starts before the request is built and touches the policy only
    cases hbuild : command.build dev with
    | none =>
      rw [engine.control_of_not_built htakes hbuild]
      exact congrFun (congrArg DeviceRegistry.metadata hbegun) other
    | some request =>
      have hexchanged := engine.metadata_executeRequestAndUpdate command.deviceId request 0
        (hub.beginCommand command.deviceId) other
      rw [hbegun, Hub.beginCommand, Hub.acceptedReply_beginStatusPollTracking] at hexchanged
      change (engine.executeRequestAndUpdate command.deviceId request 0
        (hub.beginCommand command.deviceId)).2.registry.metadata other = _ at hexchanged
      rw [Option.bind_some, ← hexchanged]
      unfold control
      rw [engine.controlDevice_of_takes htakes hbuild]
      generalize engine.executeRequestAndUpdate command.deviceId request 0
        (hub.beginCommand command.deviceId) = executed
      obtain ⟨ok, hub'⟩ := executed
      cases ok with
      | false => rfl
      | true =>
        dsimp only
        split_ifs
        · rw [Hub.registry_capStopPoll, Hub.beginCommand, Hub.registry_beginStatusPollTracking]
        · rw [Hub.registry_capStopPoll]
        · rw [Hub.beginCommand, Hub.registry_beginStatusPollTracking]
        · rfl
  · have hrefused (dev : IoDevice) : ¬hub.Takes command.deviceId command.accepts dev :=
      fun hdev => htakes ⟨dev, hdev⟩
    rw [engine.control_of_not_takes hrefused, Hub.requestIf_of_not_takes hrefused]
    rfl

theorem metadata_requestDeviceStatus (deviceId : DeviceId) (hub : Hub) (other : DeviceId) :
    (engine.requestDeviceStatus deviceId hub).2.registry.metadata other =
      hub.registry.replied other
        ((engine.sentRequest (.requestDeviceStatus deviceId) hub).bind hub.acceptedReply) := by
  unfold requestDeviceStatus sentRequest Hub.requestIf
  dsimp only
  cases hub.getDevice deviceId with
  | none => rfl
  | some dev =>
    cases hinitialized : hub.initialized with
    | false => simp [DeviceRegistry.replied]
    | true =>
      cases hsupports : knownDeviceSupportsStatusRequests dev with
      | false => simp [hsupports, DeviceRegistry.replied]
      | true =>
        cases hrequest : engine.createStatusRequest dev with
        | none => simp [hsupports, hrequest, DeviceRegistry.replied]
        | some request =>
          simp only [hsupports, hrequest, Bool.not_true, Bool.false_eq_true, if_false,
            Option.bind_some, and_self, if_true]
          exact engine.metadata_executeRequestAndUpdate deviceId request _ hub other

theorem metadata_requestDeviceName (deviceId : DeviceId) (hub : Hub) (other : DeviceId) :
    (engine.requestDeviceName deviceId hub).2.registry.metadata other =
      hub.registry.replied other
        ((engine.sentRequest (.requestDeviceName deviceId) hub).bind hub.acceptedReply) := by
  unfold requestDeviceName sentRequest Hub.requestIf
  dsimp only
  cases hub.getDevice deviceId with
  | none => rfl
  | some dev =>
    cases hinitialized : hub.initialized with
    | false => simp [DeviceRegistry.replied]
    | true =>
      cases hrequest : createGetName engine.nodeId dev.nodeId true with
      | none => simp [hrequest, DeviceRegistry.replied]
      | some request =>
        simp only [hrequest, Bool.not_true, Bool.false_eq_true, if_false, Option.bind_some,
          and_self, if_true]
        exact engine.metadata_executeRequestAndUpdate deviceId request 0 hub other

/-- Only the reply to its request lets a call touch the declared fields. -/
theorem metadata_execute {call : HubCall} (h : call ≠ .discoverAndPair) (hub : Hub)
    (other : DeviceId) :
    (engine.execute call hub).2.registry.metadata other =
      hub.registry.replied other ((engine.sentRequest call hub).bind hub.acceptedReply) := by
  cases hcommand : engine.controlCommand call with
  | some command =>
    rw [engine.execute_eq_control hcommand, engine.metadata_control]
    cases call with
    | requestDeviceStatus | requestDeviceName | discoverAndPair => cases hcommand
    | setDevicePosition | setDeviceTilt | setDevicePositionAndTilt | executeDeviceCommand
    | setLightState | setLockState | setSwitchState =>
      obtain rfl := Option.some.inj hcommand
      rfl
  | none =>
    cases call with
    | requestDeviceStatus deviceId => exact engine.metadata_requestDeviceStatus deviceId hub other
    | requestDeviceName deviceId => exact engine.metadata_requestDeviceName deviceId hub other
    | discoverAndPair => exact absurd rfl h
    | setDevicePosition | setDeviceTilt | setDevicePositionAndTilt | executeDeviceCommand
    | setLightState | setLockState | setSwitchState => cases hcommand

end ExchangeEngine

/-! ## Where the declared fields change -/

/-- What can happen to the declared fields of a device. -/
inductive MetadataChange
  | declared (m : DeviceMetadata)
  | learned (f : IoFrame)
  | paired (d : IoFrame)

/-- Declaring keeps what is there, learning needs a record, and pairing makes a new one. -/
def MetadataChange.apply : MetadataChange → Option DeviceMetadata → Option DeviceMetadata
  | declared m, current => current.or (some m)
  | learned f, current => current.map fun m => m.learn f
  | paired d, _ => some (discoveredDevice d).metadata

/-- The world in which a pairing attempt of the hub runs. -/
def Hub.pairingWorld (hub : Hub) : PairingWorld where
  engine := hub.exchange
  registry := hub.registry

namespace ExchangeEngine

variable (engine : ExchangeEngine)

/-- The next operation sends a request, and the device replies with its type. -/
structure Learns (hub : Hub) (deviceId : DeviceId) (f : IoFrame) : Prop where
  replies : ∃ operation rest request, hub.opQueue.pop = some (operation, rest) ∧
    engine.sentRequest operation.dispatch hub = some request ∧ hub.acceptedReply request = some f
  sender : nodeIdToString f.src = deviceId
  info : f.IsInfo2

/-- The next operation pairs with the device. -/
structure Adopts (hub : Hub) (deviceId : DeviceId) (d : IoFrame) : Prop where
  pairing : ∃ operation rest, hub.opQueue.pop = some (operation, rest) ∧
    operation.dispatch = .discoverAndPair
  initialized : hub.initialized = true
  pairs : engine.Pairs hub.pairingWorld d
  sender : nodeIdToString d.src = deviceId

/-- The event brings the change about. -/
def Brings (hub : Hub) (deviceId : DeviceId) : HubEvent → MetadataChange → Prop
  | .deviceAdded id type subtype inverted optimisticState, .declared m =>
    id = deviceId ∧ (hexToBytes id).isSome ∧ m = { type, subtype, inverted, optimisticState }
  | .pendingOperation, .learned f => engine.Learns hub deviceId f
  | .pendingOperation, .paired d => engine.Adopts hub deviceId d
  | _, _ => False

theorem registry_hubDiscoverAndPair (hub : Hub) (hinitialized : hub.initialized = true) :
    (engine.hubDiscoverAndPair hub).2.registry =
      (engine.discoverAndPair hub.pairingWorld).2.registry := by
  unfold hubDiscoverAndPair
  rw [hinitialized]
  rfl

variable {engine} {hub : Hub} {deviceId : DeviceId}

theorem metadata_hubDiscoverAndPair_of_pairs {d : IoFrame} {rest : OperationQueue}
    (hinitialized : hub.initialized = true) (hpairs : engine.Pairs hub.pairingWorld d)
    (hsender : nodeIdToString d.src = deviceId) :
    (engine.hubDiscoverAndPair { hub with opQueue := rest }).2.registry.metadata deviceId =
      some (discoveredDevice d).metadata := by
  have hregistry := engine.registry_hubDiscoverAndPair { hub with opQueue := rest }
    hinitialized
  rw [hregistry]
  change (engine.discoverAndPair hub.pairingWorld).2.registry.metadata deviceId = _
  rw [engine.discoverAndPair_of_pairs hpairs, DeviceRegistry.metadata_put, if_pos hsender]

theorem metadata_hubDiscoverAndPair_of_other {rest : OperationQueue}
    (h : hub.initialized = true →
      ∀ d, engine.Pairs hub.pairingWorld d → nodeIdToString d.src ≠ deviceId) :
    (engine.hubDiscoverAndPair { hub with opQueue := rest }).2.registry.metadata deviceId =
      hub.registry.metadata deviceId := by
  by_cases hinitialized : hub.initialized = true
  · have hregistry := engine.registry_hubDiscoverAndPair { hub with opQueue := rest }
      hinitialized
    rw [hregistry]
    change (engine.discoverAndPair hub.pairingWorld).2.registry.metadata deviceId = _
    by_cases hpairs : ∃ d, engine.Pairs hub.pairingWorld d
    · obtain ⟨d, hpairs⟩ := hpairs
      rw [engine.discoverAndPair_of_pairs hpairs, DeviceRegistry.metadata_put,
        if_neg (h hinitialized d hpairs)]
      rfl
    · rw [engine.discoverAndPair_of_not_pairs fun d hd => hpairs ⟨d, hd⟩]
      rfl
  · unfold hubDiscoverAndPair
    dsimp only
    rw [if_pos (by simpa using hinitialized)]

theorem metadata_processPendingOperation {operation : PendingOperation} {rest : OperationQueue}
    (hnext : hub.opQueue.pop = some (operation, rest))
    (hcall : operation.dispatch ≠ .discoverAndPair) :
    (engine.processPendingOperation hub).registry.metadata deviceId =
      hub.registry.replied deviceId
        ((engine.sentRequest operation.dispatch hub).bind hub.acceptedReply) := by
  unfold processPendingOperation
  rw [hnext]
  exact engine.metadata_execute hcall { hub with opQueue := rest } deviceId

theorem processPendingOperation_of_pairing {operation : PendingOperation} {rest : OperationQueue}
    (hnext : hub.opQueue.pop = some (operation, rest))
    (hcall : operation.dispatch = .discoverAndPair) :
    engine.processPendingOperation hub =
      (engine.hubDiscoverAndPair { hub with opQueue := rest }).2 := by
  unfold processPendingOperation
  rw [hnext]
  dsimp only
  rw [hcall]
  rfl

/-- A change that the event brings about is what happens. -/
theorem metadata_step_of_brings {e : HubEvent} {c : MetadataChange}
    (h : engine.Brings hub deviceId e c) :
    (engine.step hub e).registry.metadata deviceId = c.apply (hub.registry.metadata deviceId) := by
  cases e with
  | deviceAdded id type subtype inverted optimisticState =>
    cases c with
    | declared m =>
      obtain ⟨rfl, hvalid, rfl⟩ := h
      have hadded := hub.registry.metadata_add id id { type, subtype, inverted, optimisticState }
      rw [if_pos ⟨rfl, hvalid⟩] at hadded
      exact hadded
    | learned | paired => exact h.elim
  | pendingOperation =>
    cases c with
    | declared m => exact h.elim
    | learned f =>
      obtain ⟨⟨operation, rest, request, hnext, hsent, hreply⟩, hsender, hinfo⟩ := h
      -- a request was sent, so the operation is no pairing attempt
      have hcall : operation.dispatch ≠ .discoverAndPair := by
        intro hcall
        rw [hcall] at hsent
        cases hsent
      refine (metadata_processPendingOperation hnext hcall).trans ?_
      rw [hsent, Option.bind_some, hreply]
      exact if_pos ⟨hsender, hinfo⟩
    | paired d =>
      obtain ⟨⟨operation, rest, hnext, hcall⟩, hinitialized, hpairs, hsender⟩ := h
      show (engine.processPendingOperation hub).registry.metadata deviceId = _
      rw [processPendingOperation_of_pairing hnext hcall]
      exact metadata_hubDiscoverAndPair_of_pairs hinitialized hpairs hsender
  | packetReceived | hop | dueDevice | queued | remotePoll | timePasses | pollInterval
  | remoteLinked | remoteClassLinked | optimisticTarget | optimisticTargetCleared | connection =>
    exact h.elim

theorem metadata_processPendingOperation_of_not_brings
    (h : ∀ c, ¬engine.Brings hub deviceId .pendingOperation c) :
    (engine.processPendingOperation hub).registry.metadata deviceId =
      hub.registry.metadata deviceId := by
  cases hnext : hub.opQueue.pop with
  | none =>
    unfold processPendingOperation
    rw [hnext]
  | some next =>
    obtain ⟨operation, rest⟩ := next
    by_cases hcall : operation.dispatch = .discoverAndPair
    · rw [processPendingOperation_of_pairing hnext hcall]
      apply metadata_hubDiscoverAndPair_of_other
      intro hinitialized d hpairs hsender
      exact h (.paired d) ⟨⟨operation, rest, hnext, hcall⟩, hinitialized, hpairs, hsender⟩
    · rw [metadata_processPendingOperation hnext hcall]
      cases hreply : (engine.sentRequest operation.dispatch hub).bind hub.acceptedReply with
      | none => rfl
      | some f =>
        obtain ⟨request, hsent, hreply⟩ := Option.bind_eq_some_iff.1 hreply
        refine if_neg fun hlearns => h (.learned f) ?_
        exact ⟨⟨operation, rest, request, hnext, hsent, hreply⟩, hlearns.1, hlearns.2⟩

/-- Nothing else touches them. -/
theorem metadata_step_of_not_brings {e : HubEvent} (h : ∀ c, ¬engine.Brings hub deviceId e c) :
    (engine.step hub e).registry.metadata deviceId = hub.registry.metadata deviceId := by
  cases e with
  | packetReceived packet rssi =>
    exact engine.metadata_processReceivedPacket (hub.receive packet rssi) packet deviceId
  | pendingOperation => exact metadata_processPendingOperation_of_not_brings h
  | hop due =>
    show (hub.maybeHop due).registry.metadata deviceId = _
    rw [hub.registry_maybeHop]
  | dueDevice =>
    show hub.pollDueDevice.registry.metadata deviceId = _
    rw [hub.registry_pollDueDevice]
  | queued call =>
    show (hub.queue call).registry.metadata deviceId = _
    rw [hub.registry_queue]
  | remotePoll id =>
    show (hub.fireRemotePoll id).registry.metadata deviceId = _
    rw [hub.registry_fireRemotePoll]
  | pollInterval id intervalMs =>
    show (hub.setDeviceStatusPollInterval id intervalMs).registry.metadata deviceId = _
    rw [hub.registry_setDeviceStatusPollInterval]
  | deviceAdded id type subtype inverted optimisticState =>
    have hadded := hub.registry.metadata_add id deviceId
      { type, subtype, inverted, optimisticState }
    rw [if_neg fun hnew => h (.declared _) ⟨hnew.1, hnew.2, rfl⟩] at hadded
    exact hadded
  | optimisticTarget id target =>
    exact congrFun (hub.registry.metadata_applyOptimisticTarget id target) deviceId
  | optimisticTargetCleared id =>
    exact congrFun (hub.registry.metadata_clearOptimisticTarget id) deviceId
  | timePasses | remoteLinked | remoteClassLinked | connection => rfl

end ExchangeEngine

/-! ## A device that is paired again -/

def sampleDeviceId : DeviceId := nodeIdToString sampleDevice

/-- The device answers the discovery as a roller shutter and confirms the key at once. -/
def repairedHub : Hub where
  exchange :=
    { script :=
        { sends := [true, true]
          windows :=
            [oneFrame (deviceFrame cmdDiscoverResp [0x00, 0x80]),
              oneFrame (deviceFrame cmdKeyConfirm [])]
          challenges := []
          rssis := [] } }

def repairEvents : List HubEvent := [.queued .discoverAndPair, .pendingOperation]

end HomeIoControl
