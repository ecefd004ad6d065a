import HomeIoControl.HubRun
import HomeIoControl.LinkHealth

namespace HomeIoControl
open GuardedRun ManagementActions

/-! ## Properties of all records -/

namespace DeviceRegistry

def All (P : IoDevice → Prop) (r : DeviceRegistry) : Prop := ∀ id dev, r.get id = some dev → P dev

variable {P : IoDevice → Prop} {r : DeviceRegistry}

theorem All.put (h : r.All P) (deviceId : DeviceId) {dev : IoDevice} (hdev : P dev) :
    (r.put deviceId dev).All P := by
  intro id dev' hget
  rw [get_put] at hget
  split_ifs at hget
  · rwa [← Option.some.inj hget]
  · exact h id dev' hget

theorem All.update (h : r.All P) (deviceId : DeviceId) {f : IoDevice → IoDevice}
    (hf : ∀ dev, P dev → P (f dev)) : (r.update deviceId f).All P := by
  unfold DeviceRegistry.update
  cases hget : r.get deviceId with
  | none => exact h
  | some dev => exact h.put deviceId (hf dev (h deviceId dev hget))

theorem All.updateOptimistic (h : r.All P) (deviceId : DeviceId) {f : IoDevice → IoDevice}
    (hf : ∀ dev, P dev → P (f dev)) : (r.updateOptimistic deviceId f).2.All P := by
  unfold DeviceRegistry.updateOptimistic
  cases hget : r.get deviceId with
  | none => exact h
  | some dev =>
    dsimp only
    split_ifs
    · exact h.put deviceId (hf dev (h deviceId dev hget))
    · exact h

end DeviceRegistry

/-! ## What the component does -/

/-- What can happen to the hub, with the management actions. -/
inductive ComponentEvent
  | hub (event : HubEvent)
  | renameDevice (deviceId newName : List UInt8)
  | identifyDevice (deviceId : List UInt8)

def ExchangeEngine.componentStep (engine : ExchangeEngine) (hub : Hub) : ComponentEvent → Hub
  | .hub event => engine.step hub event
  | .renameDevice deviceId newName => (engine.renameDevice deviceId newName hub).2
  | .identifyDevice deviceId => (engine.identifyDevice deviceId hub).2

/-- A property that every writer of a record keeps. Entities set optimistic targets of the given
kind. -/
structure RecordInvariant (IsTarget : ℚ → Prop) (P : IoDevice → Prop) : Prop where
  added : ∀ nodeId type subtype inverted optimisticState,
    P { nodeId, type := type, subtype, inverted, optimisticState }
  discovered : ∀ d, P (discoveredDevice d)
  linkHealth : ∀ dev rssiDbm now, P dev → P (dev.updateLinkHealth rssiDbm now)
  exchangeTimeout : ∀ dev tries, P dev → P (dev.recordExchangeTimeout tries)
  commandResult : ∀ dev result now, P dev → P (dev.recordCommandResult result now)
  merged : ∀ dev frame trustPosition now, P dev → P (dev.mergeFrame frame trustPosition now)
  intent : ∀ dev info, P dev → P (dev.applyIntent info)
  optimisticTarget : ∀ dev target, IsTarget target → P dev →
    P { dev with target, isStopped := false }
  optimisticTargetCleared : ∀ dev, P dev →
    P { dev with target := unknownPosition, isStopped := true }

/-- Entities set targets of the kind. -/
def ComponentEvent.Allowed (IsTarget : ℚ → Prop) : ComponentEvent → Prop
  | hub (.optimisticTarget _ target) => IsTarget target
  | _ => True

namespace RecordInvariant

variable {IsTarget : ℚ → Prop} {P : IoDevice → Prop} (hP : RecordInvariant IsTarget P)
  {engine : ExchangeEngine} {hub : Hub}

include hP

theorem processReceivedPacket (h : hub.registry.All P) (packet : RadioRxPacket) :
    (engine.processReceivedPacket packet hub).registry.All P := by
  cases hparse : parse packet.data with
  | none =>
    unfold ExchangeEngine.processReceivedPacket
    rw [hparse]
    exact h
  | some frame =>
    by_cases h1w : ExchangeEngine.isExchangeInternalCommand frame.cmd = false ∧ frame.is1W = true
    · intro id dev hget
      rw [ExchangeEngine.processReceivedPacket_of_1w engine hparse h1w.1 h1w.2,
        Hub.get_process1wFrame] at hget
      split_ifs at hget
      · obtain ⟨dev', hdev', rfl⟩ := Option.map_eq_some_iff.1 hget
        exact hP.intent dev' _ (h id dev' hdev')
      · exact h id dev hget
    by_cases hreports : engine.Reports packet.freqHz hub frame
    · obtain ⟨hub', hregistry, hresult⟩ :=
        ExchangeEngine.processReceivedPacket_of_reports hparse hreports
      rw [hresult, Hub.registry_updateDeviceStatus, hregistry]
      apply h.update
      intro dev hdev
      exact hP.merged _ frame true _ (hP.linkHealth dev _ _ hdev)
    · rw [ExchangeEngine.registry_processReceivedPacket_of_not_reports hparse hreports h1w]
      exact h

theorem replyRegistry (h : hub.registry.All P) (deviceId : DeviceId) (request : IoFrame) :
    (engine.replyRegistry deviceId request hub).All P := by
  unfold ExchangeEngine.replyRegistry
  cases hub.reply request with
  | none => exact h.update deviceId fun dev hdev => hP.exchangeTimeout dev _ hdev
  | some f =>
    dsimp only
    split_ifs
    · apply h.update
      intro dev hdev
      unfold ExchangeEngine.recordRefusal
      dsimp only
      split_ifs
      · exact hP.linkHealth dev _ _ hdev
      · exact hP.commandResult _ _ _ (hP.linkHealth dev _ _ hdev)
    · apply h.update
      intro dev hdev
      exact hP.merged _ f _ _ (hP.linkHealth dev _ _ hdev)

theorem discoverAndPair (h : hub.registry.All P) :
    (engine.hubDiscoverAndPair hub).2.registry.All P := by
  by_cases hinitialized : hub.initialized = true
  · rw [engine.registry_hubDiscoverAndPair hub hinitialized]
    by_cases hpairs : ∃ d, engine.Pairs hub.pairingWorld d
    · obtain ⟨d, hpairs⟩ := hpairs
      rw [engine.discoverAndPair_of_pairs hpairs]
      exact h.put _ (hP.discovered d)
    · rw [engine.discoverAndPair_of_not_pairs fun d hd => hpairs ⟨d, hd⟩]
      exact h
  · unfold ExchangeEngine.hubDiscoverAndPair
    rw [if_pos (by simpa using hinitialized)]
    exact h

theorem execute (h : hub.registry.All P) (call : HubCall) :
    (engine.execute call hub).2.registry.All P := by
  by_cases hcall : call = .discoverAndPair
  · rw [hcall]
    exact hP.discoverAndPair h
  · cases hsent : engine.sentRequest call hub with
    | none =>
      rw [ExchangeEngine.registry_execute_of_not_sent hsent hcall]
      exact h
    | some request =>
      obtain ⟨deviceId, -, hregistry, -⟩ := ExchangeEngine.execute_writes hsent
      rw [hregistry]
      exact hP.replyRegistry h deviceId request

theorem processPendingOperation (h : hub.registry.All P) :
    (engine.processPendingOperation hub).registry.All P := by
  unfold ExchangeEngine.processPendingOperation
  cases hub.opQueue.pop with
  | none => exact h
  | some next =>
    obtain ⟨operation, rest⟩ := next
    have hrest : { hub with opQueue := rest }.registry.All P := h
    exact hP.execute hrest operation.dispatch

/-- A rename writes through its readback only. -/
theorem renameDevice (h : hub.registry.All P) (deviceId newName : List UInt8) :
    (engine.renameDevice deviceId newName hub).2.registry.All P := by
  unfold ExchangeEngine.renameDevice
  obtain ⟨result, found⟩ := resolveDevice renameDeviceAction deviceId hub
  cases found with
  | none => exact h
  | some dev =>
    dsimp only
    cases encodeDeviceNamePayload newName with
    | error nameError => exact h
    | ok encoded =>
      obtain ⟨payload, name⟩ := encoded
      dsimp only
      cases createSetName engine.nodeId dev.nodeId payload.toList with
      | none => exact h
      | some request =>
        dsimp only
        rw [ExchangeEngine.sendAuthenticatedRequest_eq]
        cases hub.reply request with
        | none => exact h
        | some response =>
          dsimp only
          split_ifs
          · unfold applyErrorResponse
            split_ifs <;> exact h
          · exact h
          · rw [ExchangeEngine.snd_verifyRename]
            have hafter : (engine.afterExchange request hub).registry.All P := h
            exact hP.execute hafter (.requestDeviceName result.deviceId)

theorem add (h : hub.registry.All P) (deviceId : DeviceId) (type : DeviceType) (subtype : UInt8)
    (inverted optimisticState : Bool) :
    (hub.registry.add deviceId type subtype inverted optimisticState).All P := by
  unfold DeviceRegistry.add
  split_ifs
  · exact h
  · cases hexToBytes deviceId with
    | none => exact h
    | some nodeId => exact h.put deviceId (hP.added nodeId type subtype inverted optimisticState)

/-- One step keeps the property of all records. -/
theorem step (h : hub.registry.All P) {event : ComponentEvent} (hevent : event.Allowed IsTarget) :
    (engine.componentStep hub event).registry.All P := by
  cases event with
  | renameDevice deviceId newName => exact hP.renameDevice h deviceId newName
  | identifyDevice deviceId =>
    show (engine.identifyDevice deviceId hub).2.registry.All P
    rw [ExchangeEngine.registry_identifyDevice]
    exact h
  | hub event =>
    cases event with
    | packetReceived packet rssi =>
      have hreceived : (hub.receive packet rssi).registry.All P := h
      exact hP.processReceivedPacket hreceived packet
    | pendingOperation => exact hP.processPendingOperation h
    | hop due =>
      show (hub.maybeHop due).registry.All P
      rw [hub.registry_maybeHop]
      exact h
    | dueDevice =>
      show hub.pollDueDevice.registry.All P
      rw [hub.registry_pollDueDevice]
      exact h
    | queued call =>
      show (hub.queue call).registry.All P
      rw [hub.registry_queue]
      exact h
    | remotePoll id =>
      show (hub.fireRemotePoll id).registry.All P
      rw [hub.registry_fireRemotePoll]
      exact h
    | pollInterval id intervalMs =>
      show (hub.setDeviceStatusPollInterval id intervalMs).registry.All P
      rw [hub.registry_setDeviceStatusPollInterval]
      exact h
    | deviceAdded id type subtype inverted optimisticState =>
      exact hP.add h id type subtype inverted optimisticState
    | optimisticTarget id target =>
      exact h.updateOptimistic id fun dev hdev => hP.optimisticTarget dev target hevent hdev
    | optimisticTargetCleared id =>
      exact h.updateOptimistic id fun dev hdev => hP.optimisticTargetCleared dev hdev
    | timePasses | remoteLinked | remoteClassLinked | connection => exact h

/-- So it holds of all records in every state of a run. -/
theorem always (h : hub.registry.All P) {events : List ComponentEvent}
    (hevents : ∀ event ∈ events, event.Allowed IsTarget) :
    Always engine.componentStep (fun hub => hub.registry.All P) hub events :=
  always_of_kept (fun _ _ hhub hevent => hP.step hhub hevent) h hevents

end RecordInvariant
end HomeIoControl
