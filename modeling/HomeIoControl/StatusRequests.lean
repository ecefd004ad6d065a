import HomeIoControl.PollOperations

namespace HomeIoControl

namespace IoFrame

/-- A frame that the status path decodes. -/
def ReportsStatus (f : IoFrame) : Prop := f.IsPrivateStatus ∨ f.IsStatusUpdate

instance (f : IoFrame) : Decidable f.ReportsStatus := inferInstanceAs (Decidable (_ ∨ _))

end IoFrame

/-- The record once a reported state is in it. -/
def IoDevice.afterReport (dev : IoDevice) (frame : IoFrame) (now : Millis) : IoDevice :=
  (if frame.IsPrivateStatus then dev.applyPrivateResponse frame true now
    else dev.applyStatusUpdate frame now).clearCommandResult

namespace Hub

theorem updateDeviceStatus_of_reportsStatus {hub : Hub} {frame : IoFrame} {dev : IoDevice}
    (hdev : hub.registry.get (nodeIdToString frame.src) = some dev) (h : frame.ReportsStatus) :
    let id := nodeIdToString frame.src
    let result := hub.updateDeviceStatus frame true
    result.decoded = hub.decoded ++ [(id, frame)] ∧
      result.registry.get id = some ((hub.heardFrom dev).afterReport frame hub.now) ∧
      result.exchange = hub.exchange := by
  dsimp only
  unfold IoDevice.afterReport
  by_cases hprivate : frame.IsPrivateStatus
  · rw [updateDeviceStatus_of_isPrivateStatus hdev hprivate, if_pos hprivate]
    exact ⟨rfl, by simp [store], rfl⟩
  · rw [updateDeviceStatus_of_isStatusUpdate hdev (h.resolve_left hprivate), if_neg hprivate]
    exact ⟨rfl, by simp [store], rfl⟩

end Hub

namespace ExchangeEngine

variable (engine : ExchangeEngine)

theorem createStatusRequest_eq {dev : IoDevice} {request : IoFrame}
    (h : engine.createStatusRequest dev = some request) :
    request.dst = dev.nodeId ∧ request.cmd = cmdPrivate := by
  unfold createStatusRequest at h
  split_ifs at h
  · exact ⟨(buildFrame_isCommand h).dst_eq, (buildFrame_isCommand h).cmd_eq⟩
  · exact ⟨(buildFrame_isCommand h).dst_eq, (buildFrame_isCommand h).cmd_eq⟩

/-! ## What the result of a status request says -/

/-- The call received a reply from the device that reports its state, and put it into the record. -/
structure StatusReceived (deviceId : DeviceId) (hub hub' : Hub) (dev : IoDevice)
    (reply : IoFrame) : Prop where
  accepted : ∃ request ∈ engine.createStatusRequest dev, hub.acceptedReply request = some reply
  heard : ∃ p, .rx p ∈ newEvents hub.exchange hub'.exchange ∧ parse p.data = some reply
  sender : reply.src = dev.nodeId
  reports : reply.ReportsStatus
  decoded : hub'.decoded = hub.decoded ++ [(deviceId, reply)]
  recorded : hub'.getDevice deviceId = some ((hub'.heardFrom dev).afterReport reply hub'.now)

/-- A status request says that it succeeded only if the state was received and processed. -/
def StatusTruthful (deviceId : DeviceId) (hub : Hub) : Prop :=
  let result := engine.requestDeviceStatus deviceId hub
  result.1 = true → ∃ dev reply, hub.getDevice deviceId = some dev ∧
    engine.StatusReceived deviceId hub result.2 dev reply

/-- Whatever reply a status request gets reports a state, and its sender's record is the one that
was asked for. -/
def RepliesReport (deviceId : DeviceId) (hub : Hub) : Prop :=
  ∀ dev request reply, hub.Takes deviceId knownDeviceSupportsStatusRequests dev →
    engine.createStatusRequest dev = some request → hub.acceptedReply request = some reply →
    reply.ReportsStatus ∧ nodeIdToString dev.nodeId = deviceId

variable {hub : Hub} {deviceId : DeviceId} {dev : IoDevice} {request reply : IoFrame}

theorem acceptedReply_src (h : engine.createStatusRequest dev = some request)
    (hreply : hub.acceptedReply request = some reply) : reply.src = dev.nodeId := by
  obtain ⟨hanswer, -⟩ := Option.filter_eq_some_iff.1 hreply
  obtain ⟨-, hsrc, -⟩ := engine.outcomes_answer hanswer freqCh2
  exact hsrc.trans (engine.createStatusRequest_eq h).1

theorem requestDeviceStatus_of_some
    (h : hub.Takes deviceId knownDeviceSupportsStatusRequests dev)
    (hrequest : engine.createStatusRequest dev = some request)
    (hreply : hub.acceptedReply request = some reply) :
    ∃ hub' : Hub, hub'.registry = hub.registry ∧ hub'.decoded = hub.decoded ∧
      (∃ p, .rx p ∈ newEvents hub.exchange hub'.exchange ∧ parse p.data = some reply) ∧
      engine.requestDeviceStatus deviceId hub = (true, hub'.updateDeviceStatus reply true) := by
  have htrust : (request.cmd != cmdExecute) = true := by
    rw [(engine.createStatusRequest_eq hrequest).2]
    decide
  rw [engine.requestDeviceStatus_of_takes h hrequest]
  generalize (if hub.pollPolicy.isTrackingActive deviceId hub.now = true then
    statusRetryAfterFailMs else 0) = retryAfterFailMs
  obtain ⟨s, hheard, hresult⟩ :=
    engine.executeRequestAndUpdate_of_some hreply deviceId retryAfterFailMs
  rw [htrust] at hresult
  refine ⟨_, ?_, ?_, ?_, hresult⟩
  · split_ifs <;> rfl
  · split_ifs <;> rfl
  · split_ifs
    · exact hheard
    · exact hheard

/-- The log tells to whose record a reply went. -/
theorem id_of_decoded {hub' : Hub} (hsrc : reply.src = dev.nodeId)
    (hdecoded : hub'.decoded = hub.decoded) (hreports : reply.ReportsStatus)
    (h : (hub'.updateDeviceStatus reply true).decoded = hub.decoded ++ [(deviceId, reply)]) :
    nodeIdToString dev.nodeId = deviceId := by
  cases hdev : hub'.registry.get (nodeIdToString reply.src) with
  | none =>
    rw [Hub.updateDeviceStatus_of_unregistered hdev, hdecoded] at h
    simp at h
  | some sender =>
    rw [(Hub.updateDeviceStatus_of_reportsStatus hdev hreports).1, hdecoded, hsrc] at h
    simpa using h

theorem statusReceived_of_reports {hub' : Hub} (hregistered : hub.getDevice deviceId = some dev)
    (hregistry : hub'.registry = hub.registry) (hdecoded : hub'.decoded = hub.decoded)
    (hheard : ∃ p, .rx p ∈ newEvents hub.exchange hub'.exchange ∧ parse p.data = some reply)
    (hrequest : engine.createStatusRequest dev = some request)
    (hreply : hub.acceptedReply request = some reply) (hreports : reply.ReportsStatus)
    (hid : nodeIdToString dev.nodeId = deviceId) :
    engine.StatusReceived deviceId hub (hub'.updateDeviceStatus reply true) dev reply := by
  have hsrc := engine.acceptedReply_src hrequest hreply
  have hdev : hub'.registry.get (nodeIdToString reply.src) = some dev := by
    rw [hsrc, hid, hregistry]
    exact hregistered
  obtain ⟨hlog, hrecord, hexchange⟩ := Hub.updateDeviceStatus_of_reportsStatus hdev hreports
  obtain ⟨registry, pollPolicy, decoded, hwrites⟩ := hub'.updateDeviceStatus_writes reply true
  rw [hsrc, hid] at hlog hrecord
  exact
    { accepted := ⟨request, hrequest, hreply⟩
      heard := by
        rw [hexchange]
        exact hheard
      sender := hsrc
      reports := hreports
      decoded := by rw [hlog, hdecoded]
      recorded := by
        rw [hwrites] at hrecord ⊢
        exact hrecord }

/-- One device and one request are asked of. -/
theorem repliesReport_iff (h : hub.Takes deviceId knownDeviceSupportsStatusRequests dev)
    (hrequest : engine.createStatusRequest dev = some request) :
    engine.RepliesReport deviceId hub ↔ ∀ reply, hub.acceptedReply request = some reply →
      reply.ReportsStatus ∧ nodeIdToString dev.nodeId = deviceId := by
  constructor
  · exact fun hreport reply hreply => hreport dev request reply h hrequest hreply
  · intro hreport dev' request' reply h' hrequest' hreply
    obtain rfl := Option.some.inj (h.registered.symm.trans h'.registered)
    obtain rfl := Option.some.inj (hrequest.symm.trans hrequest')
    exact hreport reply hreply

/-- The result is true of every reply, so the truth depends on the reply. -/
theorem statusTruthful_iff (deviceId : DeviceId) (hub : Hub) :
    engine.StatusTruthful deviceId hub ↔ engine.RepliesReport deviceId hub := by
  by_cases htakes : ∃ dev, hub.Takes deviceId knownDeviceSupportsStatusRequests dev
  · obtain ⟨dev, htakes⟩ := htakes
    obtain ⟨request, hrequest⟩ := engine.exists_createStatusRequest dev
    rw [engine.repliesReport_iff htakes hrequest]
    unfold StatusTruthful
    cases hreply : hub.acceptedReply request with
    | none =>
      obtain ⟨s, f, hresult⟩ := engine.executeRequestAndUpdate_of_none hreply deviceId
        (if hub.pollPolicy.isTrackingActive deviceId hub.now then statusRetryAfterFailMs else 0)
      rw [engine.requestDeviceStatus_of_takes htakes hrequest, hresult]
      exact iff_of_true (fun h => absurd h Bool.false_ne_true) (by simp)
    | some reply =>
      obtain ⟨hub', hregistry, hdecoded, hheard, hresult⟩ :=
        engine.requestDeviceStatus_of_some htakes hrequest hreply
      rw [hresult]
      dsimp only
      constructor
      · intro htruthful reply' hreply'
        obtain rfl := Option.some.inj hreply'
        obtain ⟨dev', reply', hregistered, hreceived⟩ := htruthful rfl
        obtain rfl := Option.some.inj (htakes.registered.symm.trans hregistered)
        obtain ⟨request', hrequest', haccepted⟩ := hreceived.accepted
        obtain rfl := Option.some.inj (hrequest.symm.trans hrequest')
        obtain rfl := Option.some.inj (hreply.symm.trans haccepted)
        exact ⟨hreceived.reports, id_of_decoded hreceived.sender hdecoded hreceived.reports
          hreceived.decoded⟩
      · intro hreport _
        obtain ⟨hreports, hid⟩ := hreport reply rfl
        exact ⟨dev, reply, htakes.registered, engine.statusReceived_of_reports htakes.registered
          hregistry hdecoded hheard hrequest hreply hreports hid⟩
  · unfold StatusTruthful RepliesReport
    rw [engine.requestDeviceStatus_of_not_takes fun dev hdev => htakes ⟨dev, hdev⟩]
    exact iff_of_true (fun h => absurd h Bool.false_ne_true)
      fun dev _ _ hdev => absurd ⟨dev, hdev⟩ htakes

def shortReply : List UInt8 := deviceFrame cmdPrivateResp [0x01, 0x00, 0x00, 0x00, 0x00]

def shortReplyHub : Hub where
  exchange :=
    { script :=
        { sends := [true], windows := [oneFrame shortReply], challenges := [], rssis := [] } }
  registry := DeviceRegistry.put {} (nodeIdToString sampleDevice) { nodeId := sampleDevice }

theorem short_reply_taken_for_status :
    ¬ ∀ (engine : ExchangeEngine) (deviceId : DeviceId) (hub : Hub),
      (hub.getDevice deviceId).isSome → engine.StatusTruthful deviceId hub := by
  intro h
  have hregistered : shortReplyHub.getDevice (nodeIdToString sampleDevice) =
      some { nodeId := sampleDevice } := by
    simp [shortReplyHub, Hub.getDevice]
  have htakes : shortReplyHub.Takes (nodeIdToString sampleDevice)
      knownDeviceSupportsStatusRequests { nodeId := sampleDevice } :=
    ⟨hregistered, rfl, rfl⟩
  have hrequest : sampleEngine.createStatusRequest { nodeId := sampleDevice } =
      some statusRequest := by decide +kernel
  have hreply : shortReplyHub.acceptedReply statusRequest = some (readFrame shortReply) := by
    decide +kernel
  obtain ⟨hub', -, -, -, hresult⟩ :=
    sampleEngine.requestDeviceStatus_of_some htakes hrequest hreply
  obtain ⟨dev, reply, hdev, hreceived⟩ := h sampleEngine (nodeIdToString sampleDevice)
    shortReplyHub (by rw [hregistered]; rfl) (by rw [hresult])
  obtain rfl := Option.some.inj (hregistered.symm.trans hdev)
  obtain ⟨request, hsent, haccepted⟩ := hreceived.accepted
  obtain rfl := Option.some.inj (hrequest.symm.trans hsent)
  have hreports := hreceived.reports
  rw [← Option.some.inj (hreply.symm.trans haccepted)] at hreports
  revert hreports
  decide +kernel

end ExchangeEngine
end HomeIoControl
