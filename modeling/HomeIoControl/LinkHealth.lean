import HomeIoControl.RenameReadback
import HomeIoControl.StopConfirmation

namespace HomeIoControl
open ManagementActions

/-- The ways on which a frame of a device comes in. -/
inductive FrameRoute
  | passive (packet : RadioRxPacket)
  /-- The reply to a status, command or name request. -/
  | request (call : HubCall)
  /-- The reply to the new name. Its readback is a name request of its own. -/
  | rename (deviceId newName : List UInt8)
  | identify (deviceId : List UInt8)

namespace Hub

/-- The sender of the frame is registered and was last seen at the given time. -/
def StampIs (hub : Hub) (frame : IoFrame) (lastSeenMs : Millis) : Prop :=
  ∃ dev, hub.getDevice (nodeIdToString frame.src) = some dev ∧ dev.lastSeenMs = lastSeenMs

theorem StampIs.iff_eq {hub : Hub} {frame : IoFrame} {lastSeenMs : Millis}
    (h : hub.StampIs frame lastSeenMs) (now : Millis) :
    hub.StampIs frame now ↔ lastSeenMs = now := by
  obtain ⟨dev, hdev, hstamp⟩ := h
  constructor
  · rintro ⟨dev', hdev', rfl⟩
    rw [← hstamp, Option.some.inj (hdev.symm.trans hdev')]
  · rintro rfl
    exact ⟨dev, hdev, hstamp⟩

end Hub

namespace ExchangeEngine

variable (engine : ExchangeEngine)

structure Identifies (deviceId : List UInt8) (hub : Hub) (dev : IoDevice) (request : IoFrame) :
    Prop where
  resolved : (resolveDevice identifyDeviceAction deviceId hub).2 = some dev
  built : createIdentify engine.nodeId dev.nodeId = some request

/-- The frame comes in on the route, and the hub has handled it. -/
def Handles (hub : Hub) (frame : IoFrame) (after : Hub) : FrameRoute → Prop
  | .passive packet =>
    parse packet.data = some frame ∧ after = engine.processReceivedPacket packet hub
  | .request call =>
    ∃ request, engine.sentRequest call hub = some request ∧ hub.reply request = some frame ∧
      after = (engine.execute call hub).2
  | .rename deviceId newName =>
    ∃ dev name request, engine.Renames deviceId newName hub dev name request ∧
      hub.reply request = some frame ∧
      after = (engine.sendAuthenticatedRequest request "rename" (pendingRename deviceId name)
        hub).2.2
  | .identify deviceId =>
    ∃ dev request, engine.Identifies deviceId hub dev request ∧ hub.reply request = some frame ∧
      after = (engine.identifyDevice deviceId hub).2

/-- A registered sender of a handled frame was last seen now. -/
def StampsLinkHealth (route : FrameRoute) (hub : Hub) : Prop :=
  ∀ frame after dev, engine.Handles hub frame after route →
    hub.getDevice (nodeIdToString frame.src) = some dev → after.StampIs frame after.now

/-- The routes that lead to a stamp: a report, and the reply to a request. A refusal is stamped in
the record that the request was for. -/
def Stamps (hub : Hub) (frame : IoFrame) : FrameRoute → Prop
  | .passive packet => engine.Reports packet.freqHz hub frame
  | .request call => frame.cmd = cmdErrorResp → call.device = some (nodeIdToString frame.src)
  | .rename _ _ | .identify _ => False

/-- A status update to this controller, whose sender is asked for a proof. -/
def AsksForProof (frame : IoFrame) : Prop :=
  frame.is1W = false ∧ frame.cmd = cmdStatusUpdate ∧ frame.dst = engine.nodeId

instance (frame : IoFrame) : Decidable (engine.AsksForProof frame) :=
  inferInstanceAs (Decidable (_ ∧ _ ∧ _))

/-- The clock when a frame that is not stamped has been handled. Only a proof and an exchange take
time. -/
def unstampedAt (hub : Hub) (frame : IoFrame) : FrameRoute → Millis
  | .passive _ => if engine.AsksForProof frame then hub.nowAfterBlocking else hub.now
  | .request _ | .rename _ _ | .identify _ => hub.nowAfterBlocking

/-- Every frame is stamped by its route, or its sender's record has that stamp before. -/
def StampsOrCurrent (route : FrameRoute) (hub : Hub) : Prop :=
  ∀ frame after dev, engine.Handles hub frame after route →
    hub.getDevice (nodeIdToString frame.src) = some dev →
      engine.Stamps hub frame route ∨ dev.lastSeenMs = engine.unstampedAt hub frame route

/-! ## How long each route takes -/

theorem elapsedMs_process1wFrame (hub : Hub) (frame : IoFrame) :
    (hub.process1wFrame frame).elapsedMs = hub.elapsedMs := by
  rw [Hub.process1wFrame_eq]
  split_ifs
  · rfl
  · exact congrArg Prod.snd (hub.dedupState_handle1wFrame frame)

variable {engine} {hub after : Hub} {frame : IoFrame} {dev : IoDevice}

theorem now_processReceivedPacket_of_not_reports {packet : RadioRxPacket}
    (hparse : parse packet.data = some frame) (h : ¬engine.Reports packet.freqHz hub frame) :
    (engine.processReceivedPacket packet hub).now =
      if engine.AsksForProof frame then hub.nowAfterBlocking else hub.now := by
  by_cases hasks : engine.AsksForProof frame
  · rw [if_pos hasks]
    obtain ⟨h2w, hcmd, hdst⟩ := hasks
    obtain ⟨s, hresult⟩ := processReceivedPacket_of_not_authenticated hparse h2w hcmd hdst
      (refused_of_not_reports h h2w hcmd)
    rw [hresult]
    rfl
  · rw [if_neg hasks]
    apply congrArg UInt32.ofNat
    unfold processReceivedPacket
    rw [hparse]
    dsimp only
    split_ifs with hinternal his1w haddressed
    · rfl
    · exact elapsedMs_process1wFrame hub frame
    · exact absurd ⟨by simpa using his1w, haddressed⟩ hasks
    · exact hub.elapsedMs_updateDeviceStatus frame true
    · rfl
    · exact congrArg Prod.snd (hub.dedupState_scheduleDevicePolls [nodeIdToString frame.dst]
        remoteActivityStatusPollDelayMs)
    · exact congrArg Prod.snd (hub.dedupState_scheduleDevicePolls _ remoteActivityStatusPollDelayMs)

theorem snd_sendAuthenticatedRequest (request : IoFrame) (actionVerb : String)
    (result : ManagementActionResult) (hub : Hub) :
    (engine.sendAuthenticatedRequest request actionVerb result hub).2.2 =
      engine.afterExchange request hub := by
  rw [sendAuthenticatedRequest_eq]
  cases hub.reply request with
  | none => rfl
  | some f => rfl

theorem snd_identifyDevice {deviceId : List UInt8} {request : IoFrame}
    (h : engine.Identifies deviceId hub dev request) :
    (engine.identifyDevice deviceId hub).2 = engine.afterExchange request hub := by
  obtain ⟨hresolve, -, -⟩ := resolveDevice_eq h.resolved
  unfold identifyDevice
  rw [hresolve]
  dsimp only
  rw [h.built]
  dsimp only
  rw [sendAuthenticatedRequest_eq]
  cases hub.reply request with
  | none => rfl
  | some response =>
    dsimp only
    split_ifs
    · unfold applyErrorResponse
      split_ifs <;> rfl
    · rfl

theorem registry_identifyDevice (deviceId : List UInt8) (hub : Hub) :
    (engine.identifyDevice deviceId hub).2.registry = hub.registry := by
  by_cases h : ∃ dev request, engine.Identifies deviceId hub dev request
  · obtain ⟨dev, request, h⟩ := h
    rw [snd_identifyDevice h]
    rfl
  · unfold identifyDevice
    cases hresolve : resolveDevice identifyDeviceAction deviceId hub with
    | mk result found =>
      cases found with
      | none => rfl
      | some dev =>
        cases hbuilt : createIdentify engine.nodeId dev.nodeId with
        | none => simp only [hbuilt]
        | some request => exact absurd ⟨dev, request, by rw [hresolve], hbuilt⟩ h

theorem now_of_not_stamps {route : FrameRoute} (h : engine.Handles hub frame after route)
    (hnot : ¬engine.Stamps hub frame route) : after.now = engine.unstampedAt hub frame route := by
  cases route with
  | passive packet =>
    obtain ⟨hparse, rfl⟩ := h
    exact now_processReceivedPacket_of_not_reports hparse hnot
  | request call =>
    obtain ⟨request, hsent, -, rfl⟩ := h
    obtain ⟨deviceId, -, -, helapsed⟩ := execute_writes hsent
    exact congrArg UInt32.ofNat helapsed
  | rename deviceId newName =>
    obtain ⟨target, name, request, -, -, rfl⟩ := h
    rw [snd_sendAuthenticatedRequest]
    rfl
  | identify deviceId =>
    obtain ⟨target, request, hidentifies, -, rfl⟩ := h
    rw [snd_identifyDevice hidentifies]
    rfl

/-! ## What each route does to the stamp -/

theorem stampIs_passive_of_reports {packet : RadioRxPacket}
    (hparse : parse packet.data = some frame)
    (hdev : hub.getDevice (nodeIdToString frame.src) = some dev)
    (h : engine.Reports packet.freqHz hub frame) :
    (engine.processReceivedPacket packet hub).StampIs frame
      (engine.processReceivedPacket packet hub).now := by
  obtain ⟨hub', hregistry, hresult⟩ := processReceivedPacket_of_reports hparse h
  have hnow : (hub'.updateDeviceStatus frame true).now = hub'.now :=
    congrArg UInt32.ofNat (hub'.elapsedMs_updateDeviceStatus frame true)
  rw [hresult, hnow, Hub.StampIs, Hub.getDevice, Hub.registry_updateDeviceStatus,
    DeviceRegistry.get_update, if_pos rfl, hregistry,
    show hub.registry.get (nodeIdToString frame.src) = some dev from hdev]
  exact ⟨_, rfl, IoDevice.lastSeenMs_mergeFrame _ frame true _⟩

/-- Any other frame leaves the stamp, also one of a 1W sender. -/
theorem stampIs_passive_of_not_reports {packet : RadioRxPacket}
    (hparse : parse packet.data = some frame)
    (hdev : hub.getDevice (nodeIdToString frame.src) = some dev)
    (h : ¬engine.Reports packet.freqHz hub frame) :
    (engine.processReceivedPacket packet hub).StampIs frame dev.lastSeenMs := by
  unfold Hub.StampIs Hub.getDevice
  unfold Hub.getDevice at hdev
  by_cases h1w : isExchangeInternalCommand frame.cmd = false ∧ frame.is1W = true
  · rw [processReceivedPacket_of_1w engine hparse h1w.1 h1w.2, Hub.get_process1wFrame, hdev]
    split_ifs
    · exact ⟨_, rfl, IoDevice.lastSeenMs_applyIntent dev _⟩
    · exact ⟨dev, rfl, rfl⟩
  · rw [registry_processReceivedPacket_of_not_reports hparse h h1w, hdev]
    exact ⟨dev, rfl, rfl⟩

theorem stampIs_request_of_stamps {call : HubCall} {request : IoFrame}
    (hsent : engine.sentRequest call hub = some request) (hreply : hub.reply request = some frame)
    (hdev : hub.getDevice (nodeIdToString frame.src) = some dev)
    (h : engine.Stamps hub frame (.request call)) :
    (engine.execute call hub).2.StampIs frame (engine.execute call hub).2.now := by
  obtain ⟨deviceId, hdevice, hregistry, helapsed⟩ := execute_writes hsent
  have hnow : (engine.execute call hub).2.now = (engine.afterExchange request hub).now :=
    congrArg UInt32.ofNat helapsed
  unfold Hub.getDevice at hdev
  unfold Hub.StampIs Hub.getDevice
  rw [hnow, hregistry, replyRegistry, hreply]
  dsimp only
  by_cases hcmd : frame.cmd = cmdErrorResp
  · obtain rfl := Option.some.inj (hdevice.symm.trans (h hcmd))
    rw [if_pos hcmd, DeviceRegistry.get_update, if_pos rfl, hdev]
    exact ⟨_, rfl, lastSeenMs_recordRefusal _ frame dev⟩
  · rw [if_neg hcmd, DeviceRegistry.get_update, if_pos rfl, hdev]
    exact ⟨_, rfl, IoDevice.lastSeenMs_mergeFrame _ frame _ _⟩

theorem stampIs_request_of_not_stamps {call : HubCall} {request : IoFrame}
    (hsent : engine.sentRequest call hub = some request) (hreply : hub.reply request = some frame)
    (hdev : hub.getDevice (nodeIdToString frame.src) = some dev)
    (h : ¬engine.Stamps hub frame (.request call)) :
    (engine.execute call hub).2.StampIs frame dev.lastSeenMs := by
  obtain ⟨deviceId, hdevice, hregistry, -⟩ := execute_writes hsent
  obtain ⟨hcmd, hother⟩ := Classical.not_imp.1 h
  have hne : ¬deviceId = nodeIdToString frame.src := by
    rintro rfl
    exact hother hdevice
  unfold Hub.getDevice at hdev
  unfold Hub.StampIs Hub.getDevice
  rw [hregistry, replyRegistry, hreply]
  dsimp only
  rw [if_pos hcmd, DeviceRegistry.get_update, if_neg hne]
  exact ⟨dev, hdev, rfl⟩

theorem stampIs_of_stamps {route : FrameRoute} (h : engine.Handles hub frame after route)
    (hdev : hub.getDevice (nodeIdToString frame.src) = some dev)
    (hstamps : engine.Stamps hub frame route) : after.StampIs frame after.now := by
  cases route with
  | passive packet =>
    obtain ⟨hparse, rfl⟩ := h
    exact stampIs_passive_of_reports hparse hdev hstamps
  | request call =>
    obtain ⟨request, hsent, hreply, rfl⟩ := h
    exact stampIs_request_of_stamps hsent hreply hdev hstamps
  | rename deviceId newName => exact hstamps.elim
  | identify deviceId => exact hstamps.elim

theorem stampIs_of_not_stamps {route : FrameRoute} (h : engine.Handles hub frame after route)
    (hdev : hub.getDevice (nodeIdToString frame.src) = some dev)
    (hnot : ¬engine.Stamps hub frame route) : after.StampIs frame dev.lastSeenMs := by
  cases route with
  | passive packet =>
    obtain ⟨hparse, rfl⟩ := h
    exact stampIs_passive_of_not_reports hparse hdev hnot
  | request call =>
    obtain ⟨request, hsent, hreply, rfl⟩ := h
    exact stampIs_request_of_not_stamps hsent hreply hdev hnot
  | rename deviceId newName =>
    obtain ⟨target, name, request, -, -, rfl⟩ := h
    rw [snd_sendAuthenticatedRequest]
    exact ⟨dev, hdev, rfl⟩
  | identify deviceId =>
    obtain ⟨target, request, hidentifies, -, rfl⟩ := h
    rw [snd_identifyDevice hidentifies]
    exact ⟨dev, hdev, rfl⟩

/-- The record was stamped just now exactly when the route stamps or the old stamp is current. -/
theorem stampIs_handled_iff {route : FrameRoute} (h : engine.Handles hub frame after route)
    (hdev : hub.getDevice (nodeIdToString frame.src) = some dev) :
    after.StampIs frame after.now ↔
      engine.Stamps hub frame route ∨ dev.lastSeenMs = engine.unstampedAt hub frame route := by
  by_cases hstamps : engine.Stamps hub frame route
  · exact iff_of_true (stampIs_of_stamps h hdev hstamps) (.inl hstamps)
  · rw [(stampIs_of_not_stamps h hdev hstamps).iff_eq, now_of_not_stamps h hstamps]
    exact (or_iff_right hstamps).symm

variable (engine) in
/-- Link health is stamped exactly where the route does it, apart from stamps that are current
already. -/
theorem stampsLinkHealth_iff (route : FrameRoute) (hub : Hub) :
    engine.StampsLinkHealth route hub ↔ engine.StampsOrCurrent route hub := by
  constructor
  · intro h frame after dev hhandled hdev
    exact (stampIs_handled_iff hhandled hdev).1 (h frame after dev hhandled hdev)
  · intro h frame after dev hhandled hdev
    exact (stampIs_handled_iff hhandled hdev).2 (h frame after dev hhandled hdev)

end ExchangeEngine

/-! ## A device that answers to identify -/

def unseenDevice : IoDevice := { nodeId := sampleDevice }

def identifiedHub : Hub where
  exchange :=
    { script :=
        { sends := [true]
          windows := [oneFrame (deviceFrame cmdPrivateResp [])]
          challenges := []
          rssis := [] } }
  registry := DeviceRegistry.put {} sampleDeviceId unseenDevice
  elapsedMs := 10000

def identifyRequest : IoFrame :=
  (createIdentify sampleEngine.nodeId sampleDevice).getD .zero

def identifyAnswer : IoFrame := (parse (deviceFrame cmdPrivateResp [])).getD .zero

/-- The answer succeeds and leaves the device unseen. -/
theorem identify_answer_unseen :
    ¬sampleEngine.StampsLinkHealth (.identify sampleDeviceIdBytes) identifiedHub := by
  intro h
  have hdev : identifiedHub.getDevice (nodeIdToString identifyAnswer.src) = some unseenDevice := by
    decide +kernel
  obtain ⟨dev, hafter, hstamp⟩ := h identifyAnswer _ unseenDevice
    ⟨unseenDevice, identifyRequest, ⟨by decide +kernel, by decide +kernel⟩, by decide +kernel, rfl⟩
    hdev
  rw [Hub.getDevice, ExchangeEngine.registry_identifyDevice] at hafter
  obtain rfl := Option.some.inj (hdev.symm.trans hafter)
  exact absurd hstamp (by decide +kernel)

end HomeIoControl
