import HomeIoControl.ManagementActions
import HomeIoControl.RecordWrites

namespace HomeIoControl
open ManagementActions

/-! ## The frame that an exchange ends with -/

namespace ExchangeEngine

variable (engine : ExchangeEngine)

def lastFrame (events : List RadioEvent) : Option IoFrame :=
  (lastPacket events).bind fun p => parse p.data

theorem lastPacket_append (events later : List RadioEvent) :
    lastPacket (events ++ later) = (lastPacket later).or (lastPacket events) := by
  simp only [lastPacket, List.reverse_append, List.findSome?_append]

theorem lastFrame_append {events later : List RadioEvent} {f : IoFrame}
    (h : lastFrame later = some f) : lastFrame (events ++ later) = some f := by
  obtain ⟨p, hp, hparse⟩ := Option.bind_eq_some_iff.1 h
  rw [lastFrame, lastPacket_append, hp, Option.some_or, Option.bind_some, hparse]

theorem lastFrame_heard {request f : IoFrame} {w : Window} (h : firstAnswer request w = some f) :
    lastFrame (tryEvents.heard request w) = some f := by
  obtain ⟨earlier, p, hheard, hparse⟩ := heard_of_firstAnswer h
  rw [hheard, lastFrame, lastPacket_concat_rx, Option.bind_some, hparse]

theorem lastFrame_tryEvents {request answer : IoFrame} {sends : List Bool} {windows : List Window}
    (h : (TryOutcome.of request sends windows).answer? = some answer) (freqHz preambleLen : ℕ) :
    lastFrame (engine.tryEvents request freqHz preambleLen windows
      (TryOutcome.of request sends windows)) = some answer := by
  have hfollows := TryOutcome.follows_of request sends windows
  generalize TryOutcome.of request sends windows = outcome at h hfollows
  cases hfollows with
  | refused | silent | proofRefused | unanswered => exact absurd h (by simp [TryOutcome.answer?])
  | direct first =>
    obtain rfl := Option.some.inj h
    rw [tryEvents, tryEvents.asked, ← List.singleton_append]
    exact lastFrame_append (lastFrame_heard first)
  | proved _ _ final =>
    obtain rfl := Option.some.inj h
    rw [tryEvents, ← List.singleton_append, ← List.append_assoc]
    exact lastFrame_append (lastFrame_heard final)

theorem lastFrame_runEvents {request answer : IoFrame} {tries : ℕ} {sends : List Bool}
    {windows : List Window}
    (h : (reachedOutcomes request tries sends windows).findSome? TryOutcome.answer? = some answer)
    (freqHz preambleLen : ℕ) :
    lastFrame (engine.runEvents request freqHz preambleLen tries sends windows) = some answer := by
  induction tries generalizing sends windows with
  | zero => simp [reachedOutcomes] at h
  | succ tries ih =>
    unfold reachedOutcomes at h
    unfold runEvents
    dsimp only at h ⊢
    cases hanswer : (TryOutcome.of request sends windows).answer? with
    | some a =>
      obtain rfl : a = answer := by simpa [hanswer] using h
      simp only [Option.isSome_some, if_true, List.append_nil]
      exact engine.lastFrame_tryEvents hanswer freqHz preambleLen
    | none =>
      simp only [hanswer, Option.isSome_none, Bool.false_eq_true, if_false] at h ⊢
      rw [List.findSome?_cons, hanswer] at h
      exact lastFrame_append (ih h)

theorem reply_received {hub : Hub} {request f : IoFrame} (h : hub.reply request = some f) :
    lastFrame (newEvents hub.exchange (engine.exchanged request hub)) = some f ∧
      f.src = request.dst := by
  obtain ⟨-, -, htrace, -⟩ := engine.sendAndReceive_eq request .zero freqCh2 hub.exchange
  have hevents : newEvents hub.exchange (engine.exchanged request hub) =
      engine.exchangeEvents request freqCh2 hub.exchange := newEvents_of_trace htrace
  rw [hevents]
  refine ⟨?_, (engine.outcomes_answer h freqCh2).2.1⟩
  unfold Hub.reply outcomes at h
  unfold exchangeEvents
  split at h
  · rename_i hserial
    rw [if_pos hserial]
    exact engine.lastFrame_runEvents h freqCh2 (engine.requestPreamble request)
  · simp at h

/-! ## What a verified rename promises -/

/-- The request that a rename sends to its device, with the normalized name. -/
structure Renames (deviceId newName : List UInt8) (hub : Hub) (dev : IoDevice)
    (name : List UInt8) (request : IoFrame) : Prop where
  resolved : (resolveDevice renameDeviceAction deviceId hub).2 = some dev
  encoded : ∃ payload, encodeDeviceNamePayload newName = .ok (payload, name) ∧
    createSetName engine.nodeId dev.nodeId payload.toList = some request

/-- When a rename is reported as verified, the device acknowledged the name, and the readback then
ended with the name from the device. -/
def VerifiedByReadback (deviceId newName : List UInt8) (hub : Hub) : Prop :=
  let result := engine.renameDevice deviceId newName hub
  result.1.verified = true →
    ∃ dev name request, engine.Renames deviceId newName hub dev name request ∧
      let acknowledged := engine.exchanged request hub
      (∃ ack, lastFrame (newEvents hub.exchange acknowledged) = some ack ∧
        ack.cmd = cmdSetNameResp) ∧
      ∃ f, lastFrame (newEvents acknowledged result.2.exchange) = some f ∧
        f.cmd = cmdGetNameResp ∧ f.src = dev.nodeId ∧
        decodeDeviceNamePayload f.payload = name

/-- The device acknowledges the rename, and the readback gets a reply. -/
structure ReadsBack (deviceId newName : List UInt8) (hub : Hub) (dev : IoDevice)
    (name : List UInt8) (request read f : IoFrame) : Prop where
  renames : engine.Renames deviceId newName hub dev name request
  acknowledged : ∃ ack, hub.reply request = some ack ∧ ack.cmd = cmdSetNameResp
  reads : createGetName engine.nodeId dev.nodeId true = some read
  answered : (engine.afterExchange request hub).acceptedReply read = some f

def NamesDevice (deviceId : DeviceId) (f : IoFrame) : Prop :=
  nodeIdToString f.src = deviceId ∧ f.cmd = cmdGetNameResp ∧
    getNameResponseMinDataLen ≤ f.dataLen

instance (deviceId : DeviceId) (f : IoFrame) : Decidable (NamesDevice deviceId f) :=
  inferInstanceAs (Decidable (_ ∧ _ ∧ _))

/-- What the readback's reply has to be like. An answer that starts as the requested name has no
null in it, and with any other reply the name cached before is not the requested one. -/
def ReplyTells (deviceId : DeviceId) (dev : IoDevice) (name : List UInt8) (f : IoFrame) : Prop :=
  let decoded := decodeDeviceNamePayload f.payload
  if NamesDevice deviceId f then decoded.takeWhile (· != 0) = name → 0 ∉ decoded
  -- a record under another ID than its address is not reached by the answer
  else cString dev.name = name → f.cmd = cmdGetNameResp ∧ decoded = name

def ReadbackTells (deviceId newName : List UInt8) (hub : Hub) : Prop :=
  ∀ dev name request read f, engine.ReadsBack deviceId newName hub dev name request read f →
    ReplyTells (normalizeDeviceIdArgument deviceId) dev name f

/-! ## The steps of a rename -/

variable {deviceId newName name : List UInt8} {hub : Hub} {dev : IoDevice}
  {request read f : IoFrame}

theorem resolveDevice_eq {action : String} (h : (resolveDevice action deviceId hub).2 = some dev) :
    resolveDevice action deviceId hub =
        ({ action, deviceId := normalizeDeviceIdArgument deviceId }, some dev) ∧
      hub.initialized = true ∧
      hub.getDevice (normalizeDeviceIdArgument deviceId) = some dev := by
  unfold resolveDevice at h ⊢
  dsimp only at h ⊢
  cases hinitialized : hub.initialized with
  | false => simp [hinitialized] at h
  | true =>
    cases hbytes : hexToBytes (normalizeDeviceIdArgument deviceId) with
    | none => simp [hinitialized, hbytes] at h
    | some nodeId =>
      cases hget : hub.getDevice (normalizeDeviceIdArgument deviceId) with
      | none => simp [hinitialized, hbytes, hget] at h
      | some device =>
        simp only [hinitialized, hbytes, hget, Bool.not_true, Bool.false_eq_true, if_false,
          Option.some.injEq] at h ⊢
        exact ⟨by rw [h], trivial, h⟩

theorem verified_resolveDevice (action : String) (deviceId : List UInt8) (hub : Hub) :
    (resolveDevice action deviceId hub).1.verified = false := by
  unfold resolveDevice
  dsimp only
  split_ifs
  · rfl
  · cases hexToBytes (normalizeDeviceIdArgument deviceId) with
    | none => rfl
    | some nodeId => cases hub.getDevice (normalizeDeviceIdArgument deviceId) <;> rfl

theorem sendAuthenticatedRequest_eq (request : IoFrame) (actionVerb : String)
    (result : ManagementActionResult) (hub : Hub) :
    engine.sendAuthenticatedRequest request actionVerb result hub =
      match hub.reply request with
      | some f => (some f, result, engine.afterExchange request hub)
      | none =>
        (none, { result with message := "no valid response to " ++ actionVerb ++ " request" },
          engine.afterExchange request hub) := by
  unfold sendAuthenticatedRequest
  rw [sendAndReceive_eq_exchanged]
  cases hub.reply request with
  | none => rfl
  | some f => rfl

/-- The name in the record when the readback is over. -/
def keptName (deviceId : DeviceId) (dev : IoDevice) (f : IoFrame) : Vector UInt8 32 :=
  if nodeIdToString f.src = deviceId then dev.nameAfter f else dev.name

theorem name_readback {deviceId : DeviceId} (hdev : hub.getDevice deviceId = some dev)
    (hreply : hub.acceptedReply read = some f) :
    ∃ dev', (engine.executeRequestAndUpdate deviceId read 0 hub).2.getDevice deviceId = some dev' ∧
      dev'.name = keptName deviceId dev f := by
  obtain ⟨hanswer, hcmd⟩ := Option.filter_eq_some_iff.1 hreply
  obtain ⟨hregistry, -, -⟩ := engine.executeRequestAndUpdate_writes deviceId read 0 hub
  rw [bne_iff_ne] at hcmd
  rw [Hub.getDevice, hregistry, replyRegistry, hanswer]
  dsimp only
  rw [if_neg hcmd, DeviceRegistry.get_update, show hub.registry.get deviceId = some dev from hdev,
    keptName]
  by_cases hsender : nodeIdToString f.src = deviceId
  · rw [if_pos hsender, if_pos hsender]
    exact ⟨_, rfl, IoDevice.name_mergeFrame _ f _ _⟩
  · rw [if_neg hsender, if_neg hsender]
    exact ⟨dev, rfl, rfl⟩

theorem verifyRename_of_reply {result : ManagementActionResult} (hresult : result.verified = false)
    (hdev : hub.getDevice result.deviceId = some dev) (hinitialized : hub.initialized = true)
    (hread : createGetName engine.nodeId dev.nodeId true = some read)
    (hreply : hub.acceptedReply read = some f) :
    ((engine.verifyRename name result hub).1.verified = true ↔
        cString (keptName result.deviceId dev f) = name) ∧
      (engine.verifyRename name result hub).2.exchange = engine.exchanged read hub := by
  obtain ⟨dev', hdev', hname⟩ := engine.name_readback hdev hreply
  obtain ⟨-, hexchange, -⟩ := engine.executeRequestAndUpdate_writes result.deviceId read 0 hub
  obtain ⟨s, -, hsucceeds⟩ := engine.executeRequestAndUpdate_of_some hreply result.deviceId 0
  have hok : (engine.executeRequestAndUpdate result.deviceId read 0 hub).1 = true := by
    rw [hsucceeds]
  unfold verifyRename requestDeviceName
  simp only [hdev, hinitialized, hread, Bool.not_true, Bool.false_eq_true, if_false]
  generalize engine.executeRequestAndUpdate result.deviceId read 0 hub = executed
    at hdev' hexchange hok
  obtain ⟨ok, after⟩ := executed
  obtain rfl : ok = true := hok
  dsimp only at hdev' hexchange ⊢
  rw [hdev', ← hname]
  dsimp only
  refine ⟨?_, hexchange⟩
  split_ifs with hmatch
  · exact iff_of_true rfl hmatch
  · exact iff_of_false (by simp [hresult]) hmatch

theorem snd_verifyRename (name : List UInt8) (result : ManagementActionResult) (hub : Hub) :
    (engine.verifyRename name result hub).2 = (engine.requestDeviceName result.deviceId hub).2 := by
  unfold verifyRename
  dsimp only
  obtain ⟨ok, after⟩ := engine.requestDeviceName result.deviceId hub
  cases ok <;> rfl

theorem verifyRename_of_no_reply {result : ManagementActionResult}
    (hresult : result.verified = false) (hdev : hub.getDevice result.deviceId = some dev)
    (hnot : ∀ read f, createGetName engine.nodeId dev.nodeId true = some read →
      hub.acceptedReply read ≠ some f) :
    (engine.verifyRename name result hub).1.verified = false := by
  have hfails : (engine.requestDeviceName result.deviceId hub).1 = false := by
    unfold requestDeviceName
    rw [hdev]
    dsimp only
    split_ifs
    · rfl
    · cases hread : createGetName engine.nodeId dev.nodeId true with
      | none => rfl
      | some read =>
        have hreply : hub.acceptedReply read = none :=
          Option.eq_none_iff_forall_ne_some.2 fun f => hnot read f hread
        obtain ⟨s, g, hresult⟩ := engine.executeRequestAndUpdate_of_none hreply result.deviceId 0
        exact congrArg Prod.fst hresult
  unfold verifyRename
  dsimp only
  generalize engine.requestDeviceName result.deviceId hub = read at hfails ⊢
  obtain ⟨ok, after⟩ := read
  obtain rfl : ok = false := hfails
  exact hresult

def pendingRename (deviceId name : List UInt8) : ManagementActionResult where
  action := renameDeviceAction
  deviceId := normalizeDeviceIdArgument deviceId
  requestedName := name

theorem renameDevice_of_acknowledged (h : engine.Renames deviceId newName hub dev name request)
    {ack : IoFrame} (hreply : hub.reply request = some ack) (hcmd : ack.cmd = cmdSetNameResp) :
    engine.renameDevice deviceId newName hub =
      engine.verifyRename name (pendingRename deviceId name)
        (engine.afterExchange request hub) := by
  obtain ⟨hresolve, -, -⟩ := resolveDevice_eq h.resolved
  obtain ⟨payload, hencode, hbuild⟩ := h.encoded
  have herror : ¬ack.cmd = cmdErrorResp := by
    rw [hcmd]
    decide
  unfold renameDevice
  rw [hresolve]
  dsimp only
  rw [hencode]
  dsimp only
  rw [hbuild]
  dsimp only
  rw [sendAuthenticatedRequest_eq, hreply]
  dsimp only
  rw [if_neg herror, if_neg (not_not.2 hcmd)]
  rfl

theorem renameDevice_of_not_acknowledged
    (hnot : ∀ dev name request ack, engine.Renames deviceId newName hub dev name request →
      hub.reply request = some ack → ack.cmd ≠ cmdSetNameResp) :
    (engine.renameDevice deviceId newName hub).1.verified = false := by
  have hverified := verified_resolveDevice renameDeviceAction deviceId hub
  unfold renameDevice
  cases hresolve : resolveDevice renameDeviceAction deviceId hub with
  | mk result found =>
    rw [hresolve] at hverified
    cases found with
    | none => exact hverified
    | some dev =>
      dsimp only
      cases hencode : encodeDeviceNamePayload newName with
      | error nameError => exact hverified
      | ok encoded =>
        obtain ⟨payload, name⟩ := encoded
        dsimp only
        cases hbuild : createSetName engine.nodeId dev.nodeId payload.toList with
        | none => exact hverified
        | some request =>
          have hrenames : engine.Renames deviceId newName hub dev name request :=
            ⟨by rw [hresolve], payload, hencode, hbuild⟩
          dsimp only
          rw [sendAuthenticatedRequest_eq]
          cases hreply : hub.reply request with
          | none => exact hverified
          | some ack =>
            dsimp only
            rw [if_pos (hnot dev name request ack hrenames hreply)]
            split_ifs
            · unfold applyErrorResponse
              split_ifs <;> exact hverified
            · exact hverified

/-! ## When the promise is kept -/

/-- The reply tells the name exactly when what it leaves in the record can be trusted. -/
theorem replyTells_iff {deviceId : DeviceId} (hsrc : f.src = dev.nodeId) :
    ReplyTells deviceId dev name f ↔
      (cString (keptName deviceId dev f) = name →
        f.cmd = cmdGetNameResp ∧ f.src = dev.nodeId ∧
          decodeDeviceNamePayload f.payload = name) := by
  unfold ReplyTells keptName
  dsimp only
  by_cases hnames : NamesDevice deviceId f
  · rw [if_pos hnames, if_pos hnames.1, IoDevice.nameAfter, if_pos hnames.2,
      cString_nameBuffer (decodeDeviceNamePayload_length_lt _), ← takeWhile_ne_zero_iff]
    simp only [hnames.2.1, hsrc, true_and]
    constructor
    · intro htells hread
      rw [← htells hread, hread]
    · intro htells hread
      rw [hread, htells hread]
  · have hkept : (if nodeIdToString f.src = deviceId then dev.nameAfter f else dev.name) =
        dev.name := by
      rw [IoDevice.nameAfter]
      split_ifs with hsender hname
      · exact absurd ⟨hsender, hname⟩ hnames
      · rfl
      · rfl
    rw [if_neg hnames, hkept]
    simp only [hsrc, true_and]

section

variable {engine}

theorem Renames.unique {dev' : IoDevice} {name' : List UInt8} {request' : IoFrame}
    (h : engine.Renames deviceId newName hub dev name request)
    (h' : engine.Renames deviceId newName hub dev' name' request') :
    dev' = dev ∧ name' = name ∧ request' = request := by
  obtain rfl := Option.some.inj (h.resolved.symm.trans h'.resolved)
  obtain ⟨payload, hencode, hbuild⟩ := h.encoded
  obtain ⟨payload', hencode', hbuild'⟩ := h'.encoded
  obtain ⟨rfl, rfl⟩ := Prod.mk.inj (Except.ok.inj (hencode.symm.trans hencode'))
  exact ⟨rfl, rfl, Option.some.inj (hbuild'.symm.trans hbuild)⟩

theorem ReadsBack.unique {dev' : IoDevice} {name' : List UInt8} {request' read' f' : IoFrame}
    (h : engine.ReadsBack deviceId newName hub dev name request read f)
    (h' : engine.ReadsBack deviceId newName hub dev' name' request' read' f') :
    dev' = dev ∧ name' = name ∧ f' = f := by
  obtain ⟨rfl, rfl, rfl⟩ := h.renames.unique h'.renames
  obtain rfl := Option.some.inj (h.reads.symm.trans h'.reads)
  exact ⟨rfl, rfl, Option.some.inj (h'.answered.symm.trans h.answered)⟩

/-- What the outside sees of a rename that is read back. -/
theorem ReadsBack.observed (h : engine.ReadsBack deviceId newName hub dev name request read f) :
    ((engine.renameDevice deviceId newName hub).1.verified = true ↔
        cString (keptName (normalizeDeviceIdArgument deviceId) dev f) = name) ∧
      f.src = dev.nodeId ∧
      (∃ ack, lastFrame (newEvents hub.exchange (engine.exchanged request hub)) = some ack ∧
        ack.cmd = cmdSetNameResp) ∧
      lastFrame (newEvents (engine.exchanged request hub)
        (engine.renameDevice deviceId newName hub).2.exchange) = some f := by
  obtain ⟨ack, hack, hcmd⟩ := h.acknowledged
  obtain ⟨-, hinitialized, hdev⟩ := resolveDevice_eq h.renames.resolved
  obtain ⟨hanswer, -⟩ := Option.filter_eq_some_iff.1 h.answered
  obtain ⟨hlast, hsrc⟩ := engine.reply_received hanswer
  have haddressed : read.dst = dev.nodeId := (buildFrame_isCommand h.reads).dst_eq
  have hverify : ((engine.verifyRename name (pendingRename deviceId name)
        (engine.afterExchange request hub)).1.verified = true ↔
        cString (keptName (normalizeDeviceIdArgument deviceId) dev f) = name) ∧
      (engine.verifyRename name (pendingRename deviceId name)
        (engine.afterExchange request hub)).2.exchange =
        engine.exchanged read (engine.afterExchange request hub) :=
    engine.verifyRename_of_reply rfl hdev hinitialized h.reads h.answered
  rw [engine.renameDevice_of_acknowledged h.renames hack hcmd, hverify.2]
  exact ⟨hverify.1, hsrc.trans haddressed, ⟨ack, (engine.reply_received hack).1, hcmd⟩, hlast⟩

end

theorem renameDevice_of_not_readsBack
    (hnot : ∀ dev name request read f,
      ¬engine.ReadsBack deviceId newName hub dev name request read f) :
    (engine.renameDevice deviceId newName hub).1.verified = false := by
  by_cases hack : ∃ dev name request ack, engine.Renames deviceId newName hub dev name request ∧
      hub.reply request = some ack ∧ ack.cmd = cmdSetNameResp
  · obtain ⟨dev, name, request, ack, hrenames, hreply, hcmd⟩ := hack
    obtain ⟨-, -, hdev⟩ := resolveDevice_eq hrenames.resolved
    rw [engine.renameDevice_of_acknowledged hrenames hreply hcmd]
    refine engine.verifyRename_of_no_reply rfl hdev fun read f hread hanswered => ?_
    exact hnot dev name request read f ⟨hrenames, ⟨ack, hreply, hcmd⟩, hread, hanswered⟩
  · apply engine.renameDevice_of_not_acknowledged
    intro dev name request ack hrenames hreply hcmd
    exact hack ⟨dev, name, request, ack, hrenames, hreply, hcmd⟩

/-- A rename keeps its promise exactly when every readback of it tells the name. -/
theorem verifiedByReadback_iff (deviceId newName : List UInt8) (hub : Hub) :
    engine.VerifiedByReadback deviceId newName hub ↔
      engine.ReadbackTells deviceId newName hub := by
  by_cases hreads : ∃ dev name request read f,
      engine.ReadsBack deviceId newName hub dev name request read f
  · obtain ⟨dev, name, request, read, f, hreads⟩ := hreads
    obtain ⟨hverified, hsrc, hacknowledged, hlast⟩ := hreads.observed
    have htells : engine.ReadbackTells deviceId newName hub ↔
        ReplyTells (normalizeDeviceIdArgument deviceId) dev name f := by
      constructor
      · intro h
        exact h dev name request read f hreads
      · intro h dev' name' request' read' f' hreads'
        obtain ⟨rfl, rfl, rfl⟩ := hreads.unique hreads'
        exact h
    rw [htells, replyTells_iff hsrc, VerifiedByReadback, ← hverified]
    constructor
    · intro h hok
      obtain ⟨dev', name', request', hrenames, -, f', hlast', hname⟩ := h hok
      obtain ⟨rfl, rfl, rfl⟩ := hreads.renames.unique hrenames
      obtain rfl := Option.some.inj (hlast.symm.trans hlast')
      exact hname
    · intro h hok
      exact ⟨dev, name, request, hreads.renames, hacknowledged, f, hlast, h hok⟩
  -- nothing is promised without a readback
  · have hnot : ∀ dev name request read f,
        ¬engine.ReadsBack deviceId newName hub dev name request read f :=
      fun dev name request read f h => hreads ⟨dev, name, request, read, f, h⟩
    apply iff_of_true
    · intro hok
      rw [engine.renameDevice_of_not_readsBack hnot] at hok
      exact absurd hok Bool.false_ne_true
    · intro dev name request read f h
      exact absurd h (hnot dev name request read f)

end ExchangeEngine

/-! ## A name that is written again -/

def kitName : List UInt8 := [0x4B, 0x69, 0x74]

/-- The device is known under its name and sends its acknowledgement twice. -/
def acknowledgedTwice : Hub where
  exchange :=
    { script :=
        { sends := [true, true]
          windows :=
            [oneFrame (deviceFrame cmdSetNameResp []), oneFrame (deviceFrame cmdSetNameResp [])]
          challenges := []
          rssis := [] } }
  registry := DeviceRegistry.put {} sampleDeviceId
    { nodeId := sampleDevice, type := .rollerShutter, name := nameBuffer kitName }

def sampleDeviceIdBytes : List UInt8 := [0x36, 0x35, 0x34, 0x33, 0x32, 0x31]

/-- The second acknowledgement is taken for the readback, and the cached name is the requested
one. -/
theorem acknowledgedTwice_verified :
    ¬sampleEngine.VerifiedByReadback sampleDeviceIdBytes kitName acknowledgedTwice := by
  intro h
  obtain ⟨dev, name, request, -, -, f, hlast, hcmd, -⟩ := h (by decide +kernel)
  generalize hresult : (sampleEngine.renameDevice sampleDeviceIdBytes kitName
    acknowledgedTwice).2.exchange = after at hlast
  have hreceived : ExchangeEngine.lastFrame after.trace = some f := by
    rw [← List.take_append_drop (sampleEngine.exchanged request acknowledgedTwice).trace.length
      after.trace]
    exact ExchangeEngine.lastFrame_append hlast
  have hack : (ExchangeEngine.lastFrame after.trace).map IoFrame.cmd = some cmdSetNameResp := by
    rw [← hresult]
    decide +kernel
  rw [hreceived, Option.map_some, hcmd] at hack
  exact absurd hack (by decide)

end HomeIoControl
