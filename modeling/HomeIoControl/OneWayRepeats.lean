import HomeIoControl.GuardedRun
import HomeIoControl.RecordWrites
import HomeIoControl.RepeatFilter

namespace HomeIoControl
open GuardedRun

/-! ## What a 1W frame brings about -/

namespace Hub

def pollDelay1w (info : OneWayFrameInfo) : Millis :=
  if info.hasIntent = true ∧ info.main0 = posStop then 0 else remoteActivityStatusPollDelayMs

/-- The event of the sender, when the frame has an intent and Home Assistant asked for it. -/
def sentEvents (hub : Hub) (frame : IoFrame) : List SenderEvent :=
  if (decode1wFrame frame).hasIntent = true ∧ hub.connected = true ∧
      nodeIdToString frame.src ∈ hub.exposedSenders then
    [{ info := decode1wFrame frame
       linked := !(hub.registry.linkedDevices (nodeIdToString frame.src)).isEmpty }]
  else []

/-- The hub logs the frame, tells Home Assistant its intent, expects its devices to follow it, and
polls them. -/
structure Processes (hub : Hub) (frame : IoFrame) (after : Hub) : Prop where
  logged : after.oneWayLog = hub.oneWayLog ++
    [{ info := decode1wFrame frame
       linkedDevices := hub.registry.linkedDevices (nodeIdToString frame.src) }]
  evented : after.senderEvents = hub.senderEvents ++ hub.sentEvents frame
  applied : ∀ deviceId, after.registry.get deviceId =
    if (decode1wFrame frame).hasIntent = true ∧ deviceId ∈ hub.targets1w frame then
      (hub.registry.get deviceId).map fun dev => dev.applyIntent (decode1wFrame frame)
    else hub.registry.get deviceId
  scheduled : ∀ deviceId ∈ hub.targets1w frame, after.remotePolls[deviceId]? =
    some (hub.elapsedMs + (pollDelay1w (decode1wFrame frame)).toNat)
  tracked : ∀ deviceId ∈ hub.targets1w frame, (hub.registry.get deviceId).isSome →
    (after.pollPolicy.entry deviceId).pollDeadline = hub.now + maxTrackedStatusPollWindowMs

variable {hub : Hub}

theorem scheduleDevicePoll_effects (hub : Hub) (delayMs : Millis) (id deviceId : DeviceId) :
    let after := hub.scheduleDevicePoll delayMs id
    after.registry = hub.registry ∧ after.elapsedMs = hub.elapsedMs ∧
      (after.remotePolls[deviceId]? =
        if id = deviceId then some (hub.elapsedMs + delayMs.toNat)
        else hub.remotePolls[deviceId]?) ∧
      (after.pollPolicy.entry deviceId).pollDeadline =
        if id = deviceId ∧ (hub.registry.get deviceId).isSome then
          hub.now + maxTrackedStatusPollWindowMs
        else (hub.pollPolicy.entry deviceId).pollDeadline := by
  have hinsert (m : Std.TreeMap DeviceId ℕ) (time : ℕ) :
      (m.insert id time)[deviceId]? = if id = deviceId then some time else m[deviceId]? := by
    rw [Std.TreeMap.getElem?_insert]
    simp only [Std.LawfulEqCmp.compare_eq_iff_eq]
  unfold scheduleDevicePoll beginStatusPollTracking scheduleStatusPoll getDevice
  dsimp only
  rw [hinsert]
  cases hdev : hub.registry.get id with
  | none =>
    have hnot : ¬(id = deviceId ∧ (hub.registry.get deviceId).isSome = true) := by
      rintro ⟨rfl, hsome⟩
      rw [hdev] at hsome
      cases hsome
    rw [if_neg hnot]
    exact ⟨rfl, rfl, rfl, rfl⟩
  | some dev =>
    refine ⟨rfl, rfl, rfl, ?_⟩
    simp only [Option.isNone_some, Bool.false_eq_true, if_false, mapPolicy,
      StatusPollPolicy.entry_beginTracking]
    by_cases hid : id = deviceId
    · subst hid
      simp [hdev]
    · rw [if_neg hid]
      exact (if_neg fun h => hid h.1).symm

theorem scheduleDevicePolls_effects (hub : Hub) (deviceIds : List DeviceId) (delayMs : Millis)
    (deviceId : DeviceId) :
    let after := hub.scheduleDevicePolls deviceIds delayMs
    (after.remotePolls[deviceId]? =
        if deviceId ∈ deviceIds then some (hub.elapsedMs + delayMs.toNat)
        else hub.remotePolls[deviceId]?) ∧
      (after.pollPolicy.entry deviceId).pollDeadline =
        if deviceId ∈ deviceIds ∧ (hub.registry.get deviceId).isSome then
          hub.now + maxTrackedStatusPollWindowMs
        else (hub.pollPolicy.entry deviceId).pollDeadline := by
  dsimp only
  unfold scheduleDevicePolls
  induction deviceIds generalizing hub with
  | nil => simp
  | cons id rest ih =>
    obtain ⟨hregistry, htime, hremote, hdeadline⟩ :=
      hub.scheduleDevicePoll_effects delayMs id deviceId
    obtain ⟨ihremote, ihdeadline⟩ := ih (scheduleDevicePoll delayMs hub id)
    have hnow : (scheduleDevicePoll delayMs hub id).now = hub.now := congrArg UInt32.ofNat htime
    rw [List.foldl_cons, ihremote, ihdeadline, hregistry, htime, hnow, hremote, hdeadline]
    by_cases hid : id = deviceId
    · -- a device that is listed again gets the same timeout once more
      subst hid
      by_cases hrest : id ∈ rest <;> by_cases hsome : (hub.registry.get id).isSome = true <;>
        simp only [hrest, hsome, List.mem_cons, or_true, true_or, and_self, and_true, and_false,
          if_true, if_false, Bool.false_eq_true]
    · simp only [List.mem_cons, hid, Ne.symm hid, false_or, false_and, if_false, and_self]

theorem oneWayEffects_scheduleDevicePolls (hub : Hub) (deviceIds : List DeviceId)
    (delayMs : Millis) :
    (hub.scheduleDevicePolls deviceIds delayMs).oneWayLog = hub.oneWayLog ∧
      (hub.scheduleDevicePolls deviceIds delayMs).senderEvents = hub.senderEvents := by
  unfold scheduleDevicePolls
  induction deviceIds generalizing hub with
  | nil => exact ⟨rfl, rfl⟩
  | cons id rest ih =>
    rw [List.foldl_cons, (ih _).1, (ih _).2]
    unfold scheduleDevicePoll beginStatusPollTracking
    split_ifs <;> exact ⟨rfl, rfl⟩

theorem maybeFireSenderEvent_eq (hub : Hub) (info : OneWayFrameInfo) (linked : Bool)
    (srcId : DeviceId) :
    hub.maybeFireSenderEvent info linked srcId =
      { hub with
        senderEvents := hub.senderEvents ++
          if info.hasIntent = true ∧ hub.connected = true ∧ srcId ∈ hub.exposedSenders then
            [{ info, linked }]
          else [] } := by
  unfold maybeFireSenderEvent
  split_ifs
  · rfl
  · rw [List.append_nil]

theorem applyOptimisticLinkedState_eq (hub : Hub) (info : OneWayFrameInfo)
    (deviceIds : List DeviceId) :
    ∃ registry, hub.applyOptimisticLinkedState info deviceIds =
      (info.hasIntent && info.main0 == posStop, { hub with registry }) ∧
        ∀ id, (registry.get id).isSome = (hub.registry.get id).isSome := by
  unfold applyOptimisticLinkedState
  cases info.hasIntent with
  | false => exact ⟨hub.registry, rfl, fun _ => rfl⟩
  | true =>
    refine ⟨_, rfl, fun id => ?_⟩
    rw [get_foldl_applyOptimisticLinkedDevice]
    split_ifs
    · exact Option.isSome_map
    · rfl

theorem handle1wFrame_eq (hub : Hub) (frame : IoFrame) :
    ∃ registry, (∀ id, (registry.get id).isSome = (hub.registry.get id).isSome) ∧
      hub.handle1wFrame frame =
        scheduleDevicePolls
          { hub with
            registry
            last1wLogged :=
              { srcId := nodeIdToString frame.src, cmd := frame.cmd, timestamp := hub.now }
            oneWayLog := hub.oneWayLog ++
              [{ info := decode1wFrame frame
                 linkedDevices := hub.registry.linkedDevices (nodeIdToString frame.src) }]
            senderEvents := hub.senderEvents ++ hub.sentEvents frame }
          (hub.targets1w frame) (pollDelay1w (decode1wFrame frame)) := by
  unfold handle1wFrame log1wRemoteFrame
  dsimp only
  rw [maybeFireSenderEvent_eq]
  obtain ⟨registry, happlied, hsome⟩ := applyOptimisticLinkedState_eq
    { hub with
      last1wLogged := { srcId := nodeIdToString frame.src, cmd := frame.cmd, timestamp := hub.now }
      oneWayLog := hub.oneWayLog ++
        [{ info := decode1wFrame frame
           linkedDevices := hub.registry.linkedDevices (nodeIdToString frame.src) }]
      senderEvents := hub.senderEvents ++ hub.sentEvents frame }
    (decode1wFrame frame) (hub.targets1w frame)
  refine ⟨registry, hsome, ?_⟩
  unfold sentEvents targets1w at happlied
  unfold resolve1wTargetDevices at happlied ⊢
  dsimp only at happlied ⊢
  rw [happlied]
  simp only [Bool.and_eq_true, beq_iff_eq]
  rfl

theorem processes_handle1wFrame (hub : Hub) (frame : IoFrame) (h : ¬hub.Suppresses frame) :
    hub.Processes frame (hub.handle1wFrame frame) := by
  obtain ⟨registry, hsome, hhandled⟩ := hub.handle1wFrame_eq frame
  have happlied := hub.get_process1wFrame frame
  rw [process1wFrame_eq, if_neg h] at happlied
  have hmoves : hub.Moves1w frame ↔ (decode1wFrame frame).hasIntent = true := and_iff_right h
  simp only [hmoves] at happlied
  refine { logged := ?_, evented := ?_, applied := happlied, scheduled := ?_, tracked := ?_ }
  · rw [hhandled, (oneWayEffects_scheduleDevicePolls _ _ _).1]
  · rw [hhandled, (oneWayEffects_scheduleDevicePolls _ _ _).2]
  · intro deviceId htarget
    rw [hhandled, (scheduleDevicePolls_effects _ _ _ deviceId).1, if_pos htarget]
  · intro deviceId htarget hregistered
    rw [hhandled, (scheduleDevicePolls_effects _ _ _ deviceId).2,
      if_pos ⟨htarget, (hsome deviceId).trans hregistered⟩]
    rfl

theorem processes_process1wFrame_iff (hub : Hub) (frame : IoFrame) :
    hub.Processes frame (hub.process1wFrame frame) ↔ ¬hub.Suppresses frame := by
  rw [process1wFrame_eq]
  constructor
  · -- the log of a suppressed frame would have to be longer than itself
    intro h hsuppressed
    have hlogged := h.logged
    rw [if_pos hsuppressed] at hlogged
    exact List.cons_ne_nil _ _ (List.append_right_eq_self.1 hlogged.symm)
  · intro h
    rw [if_neg h]
    exact hub.processes_handle1wFrame frame h

theorem process1wFrame_eq_self_iff (hub : Hub) (frame : IoFrame) :
    hub.process1wFrame frame = hub ↔ hub.Suppresses frame := by
  constructor
  · intro h
    by_contra hpasses
    have hlogged := ((processes_process1wFrame_iff hub frame).2 hpasses).logged
    rw [h] at hlogged
    exact List.cons_ne_nil _ _ (List.append_right_eq_self.1 hlogged.symm)
  · intro h
    rw [process1wFrame_eq, if_pos h]

end Hub

/-! ## Which packets reach the filter -/

def oneWayFrame (packet : RadioRxPacket) : Option IoFrame :=
  (parse packet.data).filter IoFrame.is1W

/-- The filter's memory is left and no time is given back. -/
def Hub.KeepsMemory (hub after : Hub) : Prop :=
  after.last1wLogged = hub.last1wLogged ∧ hub.elapsedMs ≤ after.elapsedMs

namespace Hub.KeepsMemory

variable {hub after : Hub}

theorem trans {later : Hub} (h : hub.KeepsMemory after) (h' : after.KeepsMemory later) :
    hub.KeepsMemory later := ⟨h'.1.trans h.1, h.2.trans h'.2⟩

theorem of_dedupState (h : after.dedupState = hub.dedupState) : hub.KeepsMemory after :=
  ⟨congrArg Prod.fst h, (congrArg Prod.snd h).ge⟩

theorem block (hub : Hub) (s : EngineState) : hub.KeepsMemory (hub.block s) :=
  ⟨rfl, Nat.le_add_right _ _⟩

theorem updateDeviceStatus (hub : Hub) (frame : IoFrame) (trustPosition : Bool) :
    hub.KeepsMemory (hub.updateDeviceStatus frame trustPosition) := by
  obtain ⟨registry, pollPolicy, decoded, hresult⟩ :=
    hub.updateDeviceStatus_writes frame trustPosition
  rw [hresult]
  exact ⟨rfl, le_rfl⟩

end Hub.KeepsMemory

namespace ExchangeEngine

variable (engine : ExchangeEngine)

theorem keepsMemory_acceptStatusUpdate (frame : IoFrame) (freqHz : ℕ) (hub : Hub) :
    hub.KeepsMemory (engine.acceptStatusUpdate frame freqHz hub) := by
  unfold acceptStatusUpdate
  cases engine.authenticateRequest frame freqHz hub.exchange with
  | mk proved s =>
    cases proved with
    | false => exact .block hub s
    | true =>
      dsimp only
      cases createStatusUpdateResp engine.nodeId frame.src with
      | none => exact .block hub s
      | some resp =>
        exact ((((Hub.KeepsMemory.block hub s).trans (.block _ _)).trans (.block _ _)).trans
          (.block _ _)).trans (.updateDeviceStatus _ frame true)

theorem keepsMemory_processReceivedPacket {packet : RadioRxPacket}
    (h : ∀ frame, oneWayFrame packet = some frame → isExchangeInternalCommand frame.cmd = true)
    (hub : Hub) : hub.KeepsMemory (engine.processReceivedPacket packet hub) := by
  unfold processReceivedPacket
  cases hparse : parse packet.data with
  | none => exact ⟨rfl, le_rfl⟩
  | some frame =>
    dsimp only
    split_ifs with hinternal h1w
    · exact ⟨rfl, le_rfl⟩
    · exact absurd (h frame (Option.filter_eq_some_iff.2 ⟨hparse, h1w⟩)) hinternal
    · exact engine.keepsMemory_acceptStatusUpdate frame packet.freqHz hub
    · exact .updateDeviceStatus hub frame true
    · exact ⟨rfl, le_rfl⟩
    · exact .of_dedupState (hub.dedupState_scheduleDevicePolls [nodeIdToString frame.dst] _)
    · exact .of_dedupState (hub.dedupState_scheduleDevicePolls _ _)

variable {packet : RadioRxPacket} {frame : IoFrame}

theorem processReceivedPacket_of_oneWayFrame (h : oneWayFrame packet = some frame)
    (hinternal : isExchangeInternalCommand frame.cmd = false) (hub : Hub) :
    engine.processReceivedPacket packet hub = hub.process1wFrame frame := by
  obtain ⟨hparse, h1w⟩ := Option.filter_eq_some_iff.1 h
  exact engine.processReceivedPacket_of_1w hparse hinternal h1w hub

theorem processReceivedPacket_of_internal (h : oneWayFrame packet = some frame)
    (hinternal : isExchangeInternalCommand frame.cmd = true) (hub : Hub) :
    engine.processReceivedPacket packet hub = hub := by
  unfold processReceivedPacket
  rw [Option.eq_some_of_filter_eq_some h]
  exact if_pos hinternal

end ExchangeEngine

theorem hasIntent_of_internal {frame : IoFrame}
    (h : ExchangeEngine.isExchangeInternalCommand frame.cmd = true) :
    (decode1wFrame frame).hasIntent = false := by
  unfold decode1wFrame
  have hcommand : (frame.cmd == cmdExecute || frame.cmd == cmdActivateMode) = false := by
    rw [Bool.or_eq_false_iff, beq_eq_false_iff_ne, beq_eq_false_iff_ne]
    constructor
    · intro hcmd
      rw [hcmd] at h
      exact absurd h (by decide)
    · intro hcmd
      rw [hcmd] at h
      exact absurd h (by decide)
  rw [hcommand]
  rfl

/-! ## Runs of packets -/

abbrev OneWayEvent := ℕ × RadioRxPacket

/-- The hub and the 1W frames that it processed with their times, the newest first. -/
structure OneWayHistory where
  hub : Hub
  processed : List (ℕ × IoFrame) := []

namespace OneWayHistory

def arrival (s : OneWayHistory) (e : OneWayEvent) : Hub := s.hub.advance e.1

def start (hub : Hub) : OneWayHistory where
  hub := { hub with last1wLogged := {} }

variable (engine : ExchangeEngine)

def departure (s : OneWayHistory) (e : OneWayEvent) : Hub :=
  engine.processReceivedPacket e.2 (s.arrival e)

/-- A 1W frame was processed when the log has a line more. -/
def step (s : OneWayHistory) (e : OneWayEvent) : OneWayHistory where
  hub := s.departure engine e
  processed :=
    match oneWayFrame e.2 with
    | none => s.processed
    | some frame =>
      if (s.arrival e).oneWayLog.length < (s.departure engine e).oneWayLog.length then
        ((s.arrival e).elapsedMs, frame) :: s.processed
      else s.processed

def pair (frame : IoFrame) : NodeId × UInt8 := (frame.src, frame.cmd)

/-- Within the window on the wrapping clock. -/
def Recent (t now : ℕ) : Prop := (.ofNat now - .ofNat t : Millis) < onewayDedupWindowMs

def Within (t now : ℕ) : Prop := now < t + onewayDedupWindowMs.toNat

instance (t now : ℕ) : Decidable (Recent t now) := inferInstanceAs (Decidable (_ < _))

instance (t now : ℕ) : Decidable (Within t now) := inferInstanceAs (Decidable (_ < _))

/-- The hub remembers the frame that it processed last, nothing was processed in the future, and
nothing of an exchange was. -/
structure Remembers (s : OneWayHistory) : Prop where
  memory : s.hub.last1wLogged =
    match s.processed.head? with
    | none => {}
    | some (t, frame) =>
      { srcId := nodeIdToString frame.src, cmd := frame.cmd, timestamp := .ofNat t }
  past : ∀ e ∈ s.processed, e.1 ≤ s.hub.elapsedMs
  commands : ∀ e ∈ s.processed, ExchangeEngine.isExchangeInternalCommand e.2.cmd = false

variable {engine} {s : OneWayHistory} {e : OneWayEvent} {frame : IoFrame}

theorem departure_of_command (h : oneWayFrame e.2 = some frame)
    (hinternal : ExchangeEngine.isExchangeInternalCommand frame.cmd = false) :
    s.departure engine e = (s.arrival e).process1wFrame frame :=
  engine.processReceivedPacket_of_oneWayFrame h hinternal _

theorem step_of_suppresses (h : oneWayFrame e.2 = some frame)
    (hinternal : ExchangeEngine.isExchangeInternalCommand frame.cmd = false)
    (hsuppresses : (s.arrival e).Suppresses frame) :
    s.step engine e = { hub := s.arrival e, processed := s.processed } := by
  have hdeparture : s.departure engine e = s.arrival e := by
    rw [departure_of_command h hinternal, (Hub.process1wFrame_eq_self_iff _ _).2 hsuppresses]
  unfold step
  rw [hdeparture, h]
  dsimp only
  rw [if_neg (Nat.lt_irrefl _)]

theorem step_of_passes (h : oneWayFrame e.2 = some frame)
    (hinternal : ExchangeEngine.isExchangeInternalCommand frame.cmd = false)
    (hpasses : ¬(s.arrival e).Suppresses frame) :
    s.step engine e =
      { hub := (s.arrival e).handle1wFrame frame
        processed := ((s.arrival e).elapsedMs, frame) :: s.processed } := by
  have hdeparture : s.departure engine e = (s.arrival e).handle1wFrame frame := by
    rw [departure_of_command h hinternal, Hub.process1wFrame_eq, if_neg hpasses]
  have hlogged := ((s.arrival e).processes_handle1wFrame frame hpasses).logged
  unfold step
  rw [hdeparture, h, hlogged]
  dsimp only
  rw [List.length_append, List.length_singleton, if_pos (Nat.lt_succ_self _)]

theorem processed_step_of_other
    (h : ∀ frame, oneWayFrame e.2 = some frame →
      ExchangeEngine.isExchangeInternalCommand frame.cmd = true) :
    (s.step engine e).processed = s.processed := by
  unfold step
  dsimp only
  cases hframe : oneWayFrame e.2 with
  | none => rfl
  | some frame =>
    have hdeparture : s.departure engine e = s.arrival e :=
      engine.processReceivedPacket_of_internal hframe (h frame hframe) _
    rw [hdeparture]
    exact if_neg (Nat.lt_irrefl _)

theorem remembers_start (hub : Hub) : (start hub).Remembers :=
  ⟨rfl, by simp [start], by simp [start]⟩

theorem Remembers.step_of_other (h : s.Remembers)
    (hother : ∀ frame, oneWayFrame e.2 = some frame →
      ExchangeEngine.isExchangeInternalCommand frame.cmd = true) :
    (s.step engine e).Remembers := by
  obtain ⟨hmemory, htime⟩ := engine.keepsMemory_processReceivedPacket hother (s.arrival e)
  constructor
  · rw [processed_step_of_other hother]
    exact hmemory.trans h.memory
  · rw [processed_step_of_other hother]
    intro d hd
    exact ((h.past d hd).trans (Nat.le_add_right _ _)).trans htime
  · rw [processed_step_of_other hother]
    exact h.commands

theorem Remembers.step (h : s.Remembers) (e : OneWayEvent) : (s.step engine e).Remembers := by
  by_cases hother : ∀ frame, oneWayFrame e.2 = some frame →
      ExchangeEngine.isExchangeInternalCommand frame.cmd = true
  · exact h.step_of_other hother
  · push Not at hother
    obtain ⟨frame, hframe, hinternal⟩ := hother
    rw [ne_eq, Bool.not_eq_true] at hinternal
    have hpast : ∀ d ∈ s.processed, d.1 ≤ (s.arrival e).elapsedMs :=
      fun d hd => (h.past d hd).trans (Nat.le_add_right _ _)
    by_cases hsuppresses : (s.arrival e).Suppresses frame
    · rw [step_of_suppresses hframe hinternal hsuppresses]
      exact ⟨h.memory, hpast, h.commands⟩
    · have hhandled := (s.arrival e).dedupState_handle1wFrame frame
      have htime : ((s.arrival e).handle1wFrame frame).elapsedMs = (s.arrival e).elapsedMs :=
        congrArg Prod.snd hhandled
      rw [step_of_passes hframe hinternal hsuppresses]
      refine ⟨congrArg Prod.fst hhandled, ?_, ?_⟩
      · rw [htime]
        exact List.forall_mem_cons.2 ⟨le_rfl, hpast⟩
      · exact List.forall_mem_cons.2 ⟨hinternal, h.commands⟩

/-- The code's test is a filter that remembers the remote and command processed last. -/
theorem Remembers.suppresses_iff (h : s.Remembers) (e : OneWayEvent) (frame : IoFrame) :
    (s.arrival e).Suppresses frame ↔
      RepeatFilter.Repeats pair Recent s.processed (s.arrival e).elapsedMs (pair frame) := by
  have hmemory : (s.arrival e).last1wLogged = s.hub.last1wLogged := rfl
  unfold Hub.Suppresses RepeatFilter.Repeats
  rw [hmemory, h.memory]
  cases s.processed.head? with
  | none =>
    -- the memory starts with an empty text, which is no node's
    refine iff_of_false ?_ (by simp)
    rintro ⟨hsrc, -⟩
    exact nodeIdToString_ne_empty _ hsrc
  | some d =>
    obtain ⟨t, last⟩ := d
    simp only [Option.some.injEq, exists_eq_left', pair, Prod.mk.injEq,
      nodeIdToString_injective.eq_iff, Recent, and_assoc]
    rw [eq_comm (a := last.src), eq_comm (a := last.cmd)]
    rfl

/-! ## What is lost -/

variable (engine) in
/-- A 1W frame whose command and payload are not those of its sender's frame that was processed
last is processed. A frame of an exchange has no intent to lose. -/
def LosesNothing (s : OneWayHistory) (e : OneWayEvent) : Prop :=
  ∀ frame, oneWayFrame e.2 = some frame →
    (∀ d, RepeatFilter.latest IoFrame.src s.processed frame.src = some d →
      (d.2.cmd, d.2.payload) ≠ (frame.cmd, frame.payload)) →
    (ExchangeEngine.isExchangeInternalCommand frame.cmd = true ∧
        (decode1wFrame frame).hasIntent = false) ∨
      (s.arrival e).Processes frame (s.departure engine e)

/-- The frame processed last, less than the window ago, has the same sender and command byte and
another payload. -/
def ChangesPayload (s : OneWayHistory) (e : OneWayEvent) : Prop :=
  ∃ frame d, oneWayFrame e.2 = some frame ∧ s.processed.head? = some d ∧ d.2.src = frame.src ∧
    d.2.cmd = frame.cmd ∧ Recent d.1 (s.arrival e).elapsedMs ∧ d.2.payload ≠ frame.payload

theorem losesNothing_iff (h : s.Remembers) (e : OneWayEvent) :
    s.LosesNothing engine e ↔ ¬s.ChangesPayload e := by
  unfold LosesNothing ChangesPayload
  cases hframe : oneWayFrame e.2 with
  | none => simp
  | some frame =>
    simp only [Option.some.injEq, forall_eq', exists_and_left, exists_eq_left']
    by_cases hinternal : ExchangeEngine.isExchangeInternalCommand frame.cmd = true
    · -- it has nothing to lose, and no frame of its command was ever processed
      refine iff_of_true (fun _ => .inl ⟨hinternal, hasIntent_of_internal hinternal⟩) ?_
      rintro ⟨d, hhead, -, hcmd, -⟩
      have hcommand := h.commands d (List.mem_of_mem_head? hhead)
      rw [hcmd, hinternal] at hcommand
      cases hcommand
    · rw [Bool.not_eq_true] at hinternal
      have hsender : ∀ last, pair last = pair frame → last.src = frame.src :=
        fun last hpair => congrArg Prod.fst hpair
      have hlatest : (∀ d, RepeatFilter.latest IoFrame.src s.processed frame.src = some d →
          (d.2.cmd, d.2.payload) ≠ (frame.cmd, frame.payload)) ↔
          ¬∃ d, RepeatFilter.latest IoFrame.src s.processed frame.src = some d ∧
            (d.2.cmd, d.2.payload) = (frame.cmd, frame.payload) := by
        simp only [not_exists, not_and, ne_eq]
      have hnotInternal : ¬(ExchangeEngine.isExchangeInternalCommand frame.cmd = true ∧
          (decode1wFrame frame).hasIntent = false) :=
        fun h => absurd (h.1.symm.trans hinternal) (by decide)
      rw [departure_of_command hframe hinternal, Hub.processes_process1wFrame_iff,
        h.suppresses_iff, or_iff_right hnotInternal, hlatest, not_imp_not,
        RepeatFilter.repeats_content_iff IoFrame.src (fun last => (last.cmd, last.payload)) hsender]
      apply not_congr
      apply exists_congr
      intro d
      simp only [pair, Prod.mk.injEq, ne_eq]
      tauto

/-- In a run of packets no command is lost exactly when no frame follows one of the same remote
and command byte with another payload within the window. -/
theorem guarded_losesNothing_iff (engine : ExchangeEngine) (hub : Hub)
    (events : List OneWayEvent) :
    Guarded (step engine) (LosesNothing engine) (start hub) events ↔
      Guarded (step engine) (fun s e => ¬s.ChangesPayload e) (start hub) events :=
  guarded_congr (fun _ e h => h.step e) (fun _ e h => losesNothing_iff h e) (remembers_start hub)

def remoteCommand (remote : NodeId) (main0 : UInt8) : RadioRxPacket where
  data := wireFrame 0x2E #v[0x00, 0x00, 0x80] remote cmdExecute [0x01, 0x60, main0, 0, 0, 0]

def remoteFrame (remote : NodeId) (main0 : UInt8) : IoFrame :=
  (oneWayFrame (remoteCommand remote main0)).getD .zero

def sampleRemote : NodeId := #v[0x11, 0x22, 0x33]

def linkedShutter : Hub where
  exchange := { script := { sends := [], windows := [], challenges := [], rssis := [] } }
  registry := (DeviceRegistry.add {} "654321" .rollerShutter 0 false true).addLinkedRemote
    (nodeIdToString sampleRemote) "654321"

def openThenStop : List OneWayEvent :=
  [(0, remoteCommand sampleRemote 0), (500, remoteCommand sampleRemote posStop)]

theorem stop_suppressed :
    ¬Guarded (step sampleEngine) (LosesNothing sampleEngine) (start linkedShutter)
      openThenStop := by
  intro h
  have hremembers : ((start linkedShutter).step sampleEngine
      (0, remoteCommand sampleRemote 0)).Remembers :=
    (remembers_start linkedShutter).step _
  have hstop := (guarded_cons.1 (guarded_cons.1 h).2).1
  apply (losesNothing_iff hremembers _).1 hstop
  exact ⟨remoteFrame sampleRemote posStop, (0, remoteFrame sampleRemote 0), by decide +kernel⟩

/-! ## What is repeated -/

variable (engine) in
/-- A 1W frame whose remote and command were processed within the window does nothing. -/
def SuppressesRepeat (s : OneWayHistory) (e : OneWayEvent) : Prop :=
  ∀ frame, oneWayFrame e.2 = some frame →
    (∃ d, RepeatFilter.latest pair s.processed (pair frame) = some d ∧
      Within d.1 (s.arrival e).elapsedMs) →
    s.departure engine e = s.arrival e

/-- The remote and command were processed within the window, and since then a frame of another
remote or command. -/
def Interleaved (s : OneWayHistory) (e : OneWayEvent) : Prop :=
  ∃ frame last d, oneWayFrame e.2 = some frame ∧ s.processed.head? = some last ∧
    pair last.2 ≠ pair frame ∧ RepeatFilter.latest pair s.processed (pair frame) = some d ∧
    Within d.1 (s.arrival e).elapsedMs

/-- The wrapping clock does not hide that a frame is recent. -/
theorem recent_of_within {t now : ℕ} (hpast : t ≤ now) (h : Within t now) : Recent t now := by
  have hwindow : onewayDedupWindowMs.toNat = 2000 := rfl
  unfold Recent
  unfold Within at h
  rw [hwindow] at h
  rw [UInt32.lt_iff_toNat_lt, hwindow, UInt32.toNat_sub, UInt32.toNat_ofNat', UInt32.toNat_ofNat']
  omega

theorem suppressesRepeat_iff (h : s.Remembers) (e : OneWayEvent) :
    s.SuppressesRepeat engine e ↔ ¬s.Interleaved e := by
  have hrecent : ∀ d ∈ s.processed,
      Within d.1 (s.arrival e).elapsedMs → Recent d.1 (s.arrival e).elapsedMs :=
    fun d hd => recent_of_within ((h.past d hd).trans (Nat.le_add_right _ _))
  unfold SuppressesRepeat Interleaved
  cases hframe : oneWayFrame e.2 with
  | none => simp
  | some frame =>
    simp only [Option.some.injEq, forall_eq', exists_and_left, exists_eq_left']
    by_cases hinternal : ExchangeEngine.isExchangeInternalCommand frame.cmd = true
    · -- it never reaches the filter
      refine iff_of_true ?_ ?_
      · intro _
        exact engine.processReceivedPacket_of_internal hframe hinternal _
      · rintro ⟨last, -, -, d, hlatest, -⟩
        have hpair : pair d.2 = pair frame := by simpa using List.find?_some hlatest
        have hcommand := h.commands d (RepeatFilter.mem_of_latest hlatest)
        rw [show d.2.cmd = frame.cmd from congrArg Prod.snd hpair, hinternal] at hcommand
        cases hcommand
    · rw [Bool.not_eq_true] at hinternal
      rw [departure_of_command hframe hinternal, Hub.process1wFrame_eq_self_iff, h.suppresses_iff,
        RepeatFilter.latest_repeats_iff hrecent]
      simp only [exists_and_left]

/-- In a run of packets every repeat is suppressed exactly when no repeat comes behind a frame of
another remote or command. -/
theorem guarded_suppressesRepeat_iff (engine : ExchangeEngine) (hub : Hub)
    (events : List OneWayEvent) :
    Guarded (step engine) (SuppressesRepeat engine) (start hub) events ↔
      Guarded (step engine) (fun s e => ¬s.Interleaved e) (start hub) events :=
  guarded_congr (fun _ e h => h.step e) (fun _ e h => suppressesRepeat_iff h e)
    (remembers_start hub)

def twoRemotes : List OneWayEvent :=
  [(0, remoteCommand sampleRemote 0), (20, remoteCommand (.replicate 3 0x44) 0),
    (20, remoteCommand sampleRemote 0)]

theorem repeat_handled_again :
    ¬Guarded (step sampleEngine) (SuppressesRepeat sampleEngine) (start linkedShutter)
      twoRemotes := by
  intro h
  have hremembers : (((start linkedShutter).step sampleEngine
      (0, remoteCommand sampleRemote 0)).step sampleEngine
      (20, remoteCommand (.replicate 3 0x44) 0)).Remembers :=
    ((remembers_start linkedShutter).step _).step _
  have hrepeat := (guarded_cons.1 (guarded_cons.1 (guarded_cons.1 h).2).2).1
  apply (suppressesRepeat_iff hremembers _).1 hrepeat
  exact ⟨remoteFrame sampleRemote 0, (20, remoteFrame (.replicate 3 0x44) 0),
    (0, remoteFrame sampleRemote 0), by decide +kernel⟩

end OneWayHistory
end HomeIoControl
