import HomeIoControl.PairingAdvisor

namespace HomeIoControl

/-! ## Calls on the recorder -/

/-- What the engines and the hub ask of the recorder during an attempt. -/
inductive TelemetryCall
  | tx (cmd : UInt8)
  | rx (frame : IoFrame) (rssi : ℤ)
  | rxReject (frame : IoFrame) (rssi : ℤ)
  | lbtDefer (rssi : ℤ)
  | hop
  | setPhase (phase : PairingState)
  | setOutcome (outcome : PairingOutcome)
  | setPairedDevice (nodeId : NodeId) (type : DeviceType)
  | incrementDiscoveryAttempt
  | setAdviceCodes (codes : String)

namespace TelemetryCall

def apply (t : PairingTelemetry) : TelemetryCall → PairingTelemetry
  | tx cmd => t.recordTx cmd
  | rx frame rssi => t.recordRx frame rssi
  | rxReject frame rssi => t.recordRxReject frame rssi
  | lbtDefer rssi => t.recordLbtDefer rssi
  | hop => t.recordHop
  | setPhase phase => t.setPhase phase
  | setOutcome outcome => t.setOutcome outcome
  | setPairedDevice nodeId type => t.setPairedDevice nodeId type
  | incrementDiscoveryAttempt => t.incrementDiscoveryAttempt
  | setAdviceCodes codes => t.setAdviceCodes codes

/-- The calls that ask for a place in the event array. -/
def records : TelemetryCall → Bool
  | tx _ | rx _ _ | rxReject _ _ | lbtDefer _ | hop | setPhase _ => true
  | setOutcome _ | setPairedDevice _ _ | incrementDiscoveryAttempt | setAdviceCodes _ => false

/-- The calls that report a frame. -/
def hears : TelemetryCall → Bool
  | rx _ _ | rxReject _ _ => true
  | _ => false

/-- The event a call offers. A deferral carries the number of the retry it reached. -/
def event (t : PairingTelemetry) : TelemetryCall → Option PairingTelemetryEvent
  | tx cmd => some { kind := .tx, cmd }
  | rx frame rssi => some (PairingTelemetry.receivedEvent .rx frame rssi)
  | rxReject frame rssi => some (PairingTelemetry.receivedEvent .rxReject frame rssi)
  | lbtDefer rssi => some { kind := .lbtDefer, rssi, aux := (t.recordLbtDefer rssi).lbtRetries }
  | hop => some { kind := .hop }
  | setPhase phase => some { kind := .phase, aux := phase.toByte }
  | setOutcome _ | setPairedDevice _ _ | incrementDiscoveryAttempt | setAdviceCodes _ => none

/-- The call reports a frame of a 1W remote that is pairing. -/
def HearsOnewayPairing (call : TelemetryCall) : Prop :=
  ∃ frame rssi, (call = rx frame rssi ∨ call = rxReject frame rssi) ∧ frame.is1W = true ∧
    frame.dst = broadcastDiscoverAlt ∧
      (frame.cmd = cmdWritePrivate ∨ frame.cmd = cmdOnewayRemove ∨ frame.cmd = cmdDiscoverAltReq)

end TelemetryCall

/-- The record of an attempt that made these calls. -/
def telemetryOf (calls : List TelemetryCall) : PairingTelemetry :=
  calls.foldl TelemetryCall.apply .begin

/-! ## The first events -/

namespace PairingTelemetry

theorem record_lbtRetries (t : PairingTelemetry) (e : PairingTelemetryEvent) :
    (t.record e).lbtRetries = t.lbtRetries := by
  have hcount : (t.countHeard e.kind).lbtRetries = t.lbtRetries := by
    unfold countHeard
    split_ifs <;> rfl
  unfold record
  dsimp only
  split_ifs
  · exact hcount
  · exact hcount

theorem countHeard_events (t : PairingTelemetry) (kind : PairingTelemetryEventKind) :
    (t.countHeard kind).events = t.events := by
  unfold countHeard
  split_ifs <;> rfl

/-- An event is kept while there is a place for it. -/
theorem record_events (t : PairingTelemetry) (e : PairingTelemetryEvent) :
    (t.record e).events.val = (t.events.val ++ [e]).take pairingTelemetryMaxEvents := by
  have hlength := t.events.property
  rw [← t.countHeard_events e.kind] at hlength ⊢
  unfold record
  dsimp only
  split_ifs with h
  · rw [List.take_of_length_le]
    rw [List.length_append]
    exact h
  · rw [List.take_append_of_le_length (by omega), List.take_of_length_le hlength]

end PairingTelemetry

namespace TelemetryCall

theorem apply_events (call : TelemetryCall) (t : PairingTelemetry) :
    (call.apply t).events.val =
      (t.events.val ++ (call.event t).toList).take pairingTelemetryMaxEvents := by
  have hnone : (t.events.val ++ []).take pairingTelemetryMaxEvents = t.events.val := by
    rw [List.append_nil, List.take_of_length_le t.events.property]
  cases call with
  | tx cmd => exact t.record_events _
  | rx frame rssi => exact t.record_events _
  | rxReject frame rssi => exact t.record_events _
  | lbtDefer rssi =>
    simp only [apply, event, Option.toList_some]
    unfold PairingTelemetry.recordLbtDefer
    rw [PairingTelemetry.record_lbtRetries]
    exact PairingTelemetry.record_events _ _
  | hop => exact t.record_events _
  | setPhase phase => exact PairingTelemetry.record_events _ _
  | setOutcome outcome => exact hnone.symm
  | setPairedDevice nodeId type => exact hnone.symm
  | incrementDiscoveryAttempt =>
    simp only [apply, event, Option.toList_none, hnone]
    unfold PairingTelemetry.incrementDiscoveryAttempt
    split_ifs <;> rfl
  | setAdviceCodes codes => exact hnone.symm

/-- The events that calls offer, kept or not. -/
def offered (t : PairingTelemetry) : List TelemetryCall → List PairingTelemetryEvent
  | [] => []
  | call :: calls => (call.event t).toList ++ offered (call.apply t) calls

theorem foldl_apply_events (calls : List TelemetryCall) (t : PairingTelemetry) :
    (calls.foldl apply t).events.val =
      (t.events.val ++ offered t calls).take pairingTelemetryMaxEvents := by
  induction calls generalizing t with
  | nil =>
    simp only [List.foldl_nil, offered, List.append_nil]
    exact (List.take_of_length_le t.events.property).symm
  | cons call calls ih =>
    rw [List.foldl_cons, ih, apply_events, offered, ← List.append_assoc]
    generalize t.events.val ++ (call.event t).toList = kept
    -- what finds no place is followed by nothing that finds one
    rw [List.take_append, List.take_append, List.take_take, min_self, List.length_take]
    have hplaces : pairingTelemetryMaxEvents - min pairingTelemetryMaxEvents kept.length =
        pairingTelemetryMaxEvents - kept.length := by omega
    rw [hplaces]

end TelemetryCall

/-- The array holds the first 32 events that were offered. -/
theorem telemetryOf_events (calls : List TelemetryCall) :
    (telemetryOf calls).events.val =
      (TelemetryCall.offered .begin calls).take pairingTelemetryMaxEvents :=
  TelemetryCall.foldl_apply_events calls .begin

/-! ## 1W pairing traffic -/

/-- The events that the advice about 1W traffic looks for. -/
def isPairingTraffic (event : PairingTelemetryEvent) : Bool :=
  isRxKind event.kind && isOnewayPairingFrame event

theorem isPairingTraffic_received {kind : PairingTelemetryEventKind}
    (hkind : isRxKind kind = true) (frame : IoFrame) (rssi : ℤ) :
    isPairingTraffic (PairingTelemetry.receivedEvent kind frame rssi) = true ↔
      frame.is1W = true ∧ frame.dst = broadcastDiscoverAlt ∧
        (frame.cmd = cmdWritePrivate ∨ frame.cmd = cmdOnewayRemove ∨
          frame.cmd = cmdDiscoverAltReq) := by
  unfold isPairingTraffic isOnewayPairingFrame PairingTelemetry.receivedEvent
  simp only [hkind, Bool.true_and, Bool.and_eq_true, Bool.or_eq_true, beq_iff_eq]
  rw [and_assoc, or_assoc]

theorem TelemetryCall.hearsOnewayPairing_iff {call : TelemetryCall} {t : PairingTelemetry}
    {event : PairingTelemetryEvent} (h : call.event t = some event) :
    isPairingTraffic event = true ↔ call.HearsOnewayPairing := by
  have hother (hkind : isRxKind event.kind = false)
      (hcall : ∀ frame rssi, call ≠ rx frame rssi ∧ call ≠ rxReject frame rssi) :
      isPairingTraffic event = true ↔ call.HearsOnewayPairing := by
    constructor
    · intro htraffic
      rw [isPairingTraffic, hkind, Bool.false_and] at htraffic
      exact absurd htraffic Bool.false_ne_true
    · rintro ⟨frame, rssi, hhears, -⟩
      exact absurd hhears (not_or.2 (hcall frame rssi))
  cases call with
  | rx frame rssi =>
    cases Option.some.inj h
    rw [isPairingTraffic_received rfl]
    simp [HearsOnewayPairing]
  | rxReject frame rssi =>
    cases Option.some.inj h
    rw [isPairingTraffic_received rfl]
    simp [HearsOnewayPairing]
  | tx | lbtDefer | hop | setPhase =>
    cases Option.some.inj h
    exact hother rfl fun frame rssi => ⟨nofun, nofun⟩
  | setOutcome | setPairedDevice | incrementDiscoveryAttempt | setAdviceCodes => cases h

/-- The places of the array go to the recording calls in their order. -/
theorem TelemetryCall.exists_mem_take_offered (calls : List TelemetryCall)
    (t : PairingTelemetry) (places : ℕ) :
    (∃ event ∈ (offered t calls).take places, isPairingTraffic event = true) ↔
      ∃ call ∈ (calls.filter records).take places, call.HearsOnewayPairing := by
  induction calls generalizing t places with
  | nil => simp [offered]
  | cons call calls ih =>
    rcases hevent : call.event t with _ | event
    · have hrecords : call.records = false := by cases call <;> first | rfl | cases hevent
      rw [offered, hevent, List.filter_cons, hrecords]
      exact ih _ _
    · have hrecords : call.records = true := by cases call <;> first | rfl | cases hevent
      rw [offered, hevent, List.filter_cons, hrecords]
      cases places with
      | zero => simp
      | succ places =>
        simp only [Option.toList_some, List.cons_append, List.nil_append, if_true,
          List.take_succ_cons, List.exists_mem_cons_iff]
        rw [hearsOnewayPairing_iff hevent, ih]

theorem mem_code_adviceAbout {code asked : PairingAdviceCode} {p : PairingTelemetryEvent → Bool}
    {events : List PairingTelemetryEvent} :
    asked ∈ (adviceAbout code p events).toList.map (·.code) ↔
      asked = code ∧ ∃ event ∈ events, p event = true := by
  rw [← List.find?_isSome]
  unfold adviceAbout
  rcases events.find? p with _ | event
  · simp
  · simp

/-- The advice on the events themselves. -/
def eventAdvice (telemetry : PairingTelemetry) (ownNodeId : NodeId) : List PairingAdvice :=
  (oneWayPairingAdvice telemetry.events.val).toList ++
    (channelBusyAdvice telemetry telemetry.events.val).toList ++
      (foreignControllerAdvice ownNodeId telemetry.events.val).toList

theorem analyzePairingTelemetry_eq (telemetry : PairingTelemetry) (ownNodeId : NodeId) :
    analyzePairingTelemetry telemetry ownNodeId =
      if eventAdvice telemetry ownNodeId = [] ∧ telemetry.heardCount = 0 then
        [{ code := .rfSilent }]
      else eventAdvice telemetry ownNodeId := by
  unfold analyzePairingTelemetry
  simp only [Bool.and_eq_true, List.isEmpty_iff, beq_iff_eq]
  rfl

theorem mem_code_channelBusyAdvice {telemetry : PairingTelemetry}
    {events : List PairingTelemetryEvent} {code : PairingAdviceCode}
    (h : code ∈ (channelBusyAdvice telemetry events).toList.map (·.code)) :
    code = .channelBusyLbtDelayed ∧ ∃ event ∈ events, isRxKind event.kind = true := by
  unfold channelBusyAdvice at h
  split_ifs at h
  · cases h
  · obtain ⟨hcode, event, hmem, hevent⟩ := mem_code_adviceAbout.1 h
    exact ⟨hcode, event, hmem, (Bool.and_eq_true_iff.1 hevent).1⟩

theorem mem_code_foreignControllerAdvice {ownNodeId : NodeId}
    {events : List PairingTelemetryEvent} {code : PairingAdviceCode}
    (h : code ∈ (foreignControllerAdvice ownNodeId events).toList.map (·.code)) :
    code = .foreignControllerPairing ∧ ∃ event ∈ events, isRxKind event.kind = true := by
  unfold foreignControllerAdvice at h
  split_ifs at h
  · cases h
  · obtain ⟨hcode, event, hmem, hevent⟩ := mem_code_adviceAbout.1 h
    exact ⟨hcode, event, hmem, (Bool.and_eq_true_iff.1 (Bool.and_eq_true_iff.1 hevent).1).1⟩

/-- The codes of this advice, each about a frame that was received. -/
theorem mem_code_eventAdvice {telemetry : PairingTelemetry} {ownNodeId : NodeId}
    {code : PairingAdviceCode} (h : code ∈ (eventAdvice telemetry ownNodeId).map (·.code)) :
    code ≠ .rfSilent ∧ ∃ event ∈ telemetry.events.val, isRxKind event.kind = true := by
  unfold eventAdvice at h
  rw [List.map_append, List.map_append, List.mem_append, List.mem_append] at h
  rcases h with (h | h) | h
  · obtain ⟨rfl, event, hmem, hevent⟩ := mem_code_adviceAbout.1 h
    exact ⟨nofun, event, hmem, (Bool.and_eq_true_iff.1 hevent).1⟩
  · obtain ⟨rfl, hheard⟩ := mem_code_channelBusyAdvice h
    exact ⟨nofun, hheard⟩
  · obtain ⟨rfl, hheard⟩ := mem_code_foreignControllerAdvice h
    exact ⟨nofun, hheard⟩

theorem oneWayPairingTraffic_mem_iff (telemetry : PairingTelemetry) (ownNodeId : NodeId) :
    .oneWayPairingTraffic ∈ (analyzePairingTelemetry telemetry ownNodeId).map (·.code) ↔
      ∃ event ∈ telemetry.events.val, isPairingTraffic event = true := by
  have hadvice : .oneWayPairingTraffic ∈ (eventAdvice telemetry ownNodeId).map (·.code) ↔
      ∃ event ∈ telemetry.events.val, isPairingTraffic event = true := by
    unfold eventAdvice
    rw [List.map_append, List.map_append, List.mem_append, List.mem_append]
    constructor
    · rintro ((h | h) | h)
      · exact (mem_code_adviceAbout.1 h).2
      · cases (mem_code_channelBusyAdvice h).1
      · cases (mem_code_foreignControllerAdvice h).1
    · exact fun h => .inl (.inl (mem_code_adviceAbout.2 ⟨rfl, h⟩))
  rw [← hadvice, analyzePairingTelemetry_eq]
  split_ifs with hsilent
  · -- advice on a silent channel replaces no other advice
    rw [hsilent.1]
    simp
  · exact Iff.rfl

/-- 1W pairing traffic is reported if one of the first 32 recorded events shows it. -/
theorem oneWayPairingTraffic_iff (ownNodeId : NodeId) (calls : List TelemetryCall) :
    .oneWayPairingTraffic ∈
        (analyzePairingTelemetry (telemetryOf calls) ownNodeId).map (·.code) ↔
      ∃ call ∈ (calls.filter TelemetryCall.records).take pairingTelemetryMaxEvents,
        call.HearsOnewayPairing := by
  rw [oneWayPairingTraffic_mem_iff, telemetryOf_events, TelemetryCall.exists_mem_take_offered]

/-- Thirty-two hops leave no place for the frame that would have told. -/
theorem oneWayPairingTraffic_missed :
    ¬ ∀ (ownNodeId : NodeId) (calls : List TelemetryCall),
      (∃ call ∈ calls, call.HearsOnewayPairing) →
        .oneWayPairingTraffic ∈
          (analyzePairingTelemetry (telemetryOf calls) ownNodeId).map (·.code) := by
  intro h
  let frame : IoFrame :=
    { IoFrame.zero with ctrl0 := 0x20, dst := broadcastDiscoverAlt, cmd := cmdWritePrivate }
  let calls : List TelemetryCall := .replicate 32 .hop ++ [.rxReject frame (-60)]
  have hhears : (TelemetryCall.rxReject frame (-60)).HearsOnewayPairing :=
    ⟨frame, -60, .inr rfl, by decide, rfl, .inl rfl⟩
  have hadvice := h (.replicate 3 0) calls ⟨_, List.mem_append_right _ (.head _), hhears⟩
  rw [oneWayPairingTraffic_mem_iff, telemetryOf_events,
    TelemetryCall.exists_mem_take_offered] at hadvice
  obtain ⟨call, hfirst, heard, rssi, hcall, -⟩ := hadvice
  have hplaces : (calls.filter TelemetryCall.records).take pairingTelemetryMaxEvents =
      .replicate 32 .hop := rfl
  rw [hplaces] at hfirst
  rw [List.eq_of_mem_replicate hfirst] at hcall
  rcases hcall with hcall | hcall
  · cases hcall
  · cases hcall

/-! ## Silence -/

namespace TelemetryCall

theorem hears_of_event {call : TelemetryCall} {t : PairingTelemetry}
    {event : PairingTelemetryEvent} (h : call.event t = some event) :
    isRxKind event.kind = call.hears := by
  cases call <;> first | (cases Option.some.inj h; rfl) | cases h

theorem hears_of_mem_offered {calls : List TelemetryCall} {t : PairingTelemetry}
    {event : PairingTelemetryEvent} (h : event ∈ offered t calls)
    (hkind : isRxKind event.kind = true) : calls.any hears = true := by
  induction calls generalizing t with
  | nil => cases h
  | cons call calls ih =>
    rw [offered, List.mem_append, Option.mem_toList] at h
    rw [List.any_cons, Bool.or_eq_true]
    rcases h with h | h
    · exact .inl ((hears_of_event h).symm.trans hkind)
    · exact .inr (ih h)

end TelemetryCall

namespace PairingTelemetry

/-- The counter stops at its bound, far from zero. -/
theorem record_heardCount_eq_zero (t : PairingTelemetry) (e : PairingTelemetryEvent) :
    (t.record e).heardCount = 0 ↔ t.heardCount = 0 ∧ isRxKind e.kind = false := by
  have hcount : (t.record e).heardCount = (t.countHeard e.kind).heardCount := by
    unfold record
    dsimp only
    split_ifs <;> rfl
  have hkind : isRxKind e.kind = true ↔ e.kind = .rx ∨ e.kind = .rxReject := by
    simp [isRxKind]
  rw [hcount, ← Bool.not_eq_true, hkind]
  unfold countHeard
  split_ifs with h
  · simp [h.1]
  · constructor
    · intro hzero
      exact ⟨hzero, fun hrx => h ⟨hrx, by omega⟩⟩
    · exact And.left

end PairingTelemetry

theorem TelemetryCall.apply_heardCount_eq_zero (call : TelemetryCall) (t : PairingTelemetry) :
    (call.apply t).heardCount = 0 ↔ t.heardCount = 0 ∧ call.hears = false := by
  cases call with
  | setOutcome | setPairedDevice | setAdviceCodes => exact (and_iff_left rfl).symm
  | incrementDiscoveryAttempt =>
    have hcount : t.incrementDiscoveryAttempt.heardCount = t.heardCount := by
      unfold PairingTelemetry.incrementDiscoveryAttempt
      split_ifs <;> rfl
    simp only [apply, hcount, hears, and_true]
  | _ => exact PairingTelemetry.record_heardCount_eq_zero _ _

theorem telemetryOf_heardCount_eq_zero (calls : List TelemetryCall) :
    (telemetryOf calls).heardCount = 0 ↔ calls.any TelemetryCall.hears = false := by
  have hfoldl : ∀ t : PairingTelemetry,
      (calls.foldl TelemetryCall.apply t).heardCount = 0 ↔
        t.heardCount = 0 ∧ calls.any TelemetryCall.hears = false := by
    induction calls with
    | nil => simp
    | cons call calls ih =>
      intro t
      rw [List.foldl_cons, ih, TelemetryCall.apply_heardCount_eq_zero, List.any_cons,
        Bool.or_eq_false_iff, and_assoc]
  exact (hfoldl .begin).trans (and_iff_right rfl)

/-- Silence is reported when no call reported a frame. -/
theorem rfSilent_iff (calls : List TelemetryCall) (ownNodeId : NodeId) :
    .rfSilent ∈ (analyzePairingTelemetry (telemetryOf calls) ownNodeId).map (·.code) ↔
      calls.any TelemetryCall.hears = false := by
  rw [← telemetryOf_heardCount_eq_zero, analyzePairingTelemetry_eq]
  split_ifs with hsilent
  · simp [hsilent.2]
  · constructor
    · exact fun h => absurd rfl (mem_code_eventAdvice h).1
    · intro hzero
      -- what other advice is about would have been counted
      have hadvice : eventAdvice (telemetryOf calls) ownNodeId ≠ [] := fun h => hsilent ⟨h, hzero⟩
      obtain ⟨advice, hmem⟩ := List.exists_mem_of_ne_nil _ hadvice
      obtain ⟨-, event, hevent, hkind⟩ := mem_code_eventAdvice (List.mem_map_of_mem hmem)
      rw [telemetryOf_events] at hevent
      have hheard := TelemetryCall.hears_of_mem_offered (List.mem_of_mem_take hevent) hkind
      rw [(telemetryOf_heardCount_eq_zero calls).1 hzero] at hheard
      exact absurd hheard Bool.false_ne_true

end HomeIoControl
