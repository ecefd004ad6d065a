import HomeIoControl.OperationBands

namespace HomeIoControl
open GuardedRun

/-- The device a control call is for. -/
def HubCall.controlDevice : HubCall → Option DeviceId
  | setDevicePosition deviceId _ | setDeviceTilt deviceId _
  | setDevicePositionAndTilt deviceId _ _ | executeDeviceCommand deviceId _
  | setLightState deviceId _ | setLockState deviceId _ | setSwitchState deviceId _ => some deviceId
  | requestDeviceStatus _ | requestDeviceName _ | discoverAndPair => none

namespace OperationQueue

variable {q q' : OperationQueue} {op : PendingOperation} {deviceId : DeviceId}

/-- An operation of the type is queued for the device. -/
def Pending (q : OperationQueue) (type : PendingOperationType) (deviceId : DeviceId) : Prop :=
  ∃ op ∈ q, isPending type deviceId op = true

theorem isPending_requestStatus (deviceId : DeviceId) (op : PendingOperation) :
    isPending .requestStatus deviceId op = isPendingStatus deviceId op := rfl

theorem not_pending_pushControl (hop : (op.type == .requestStatus) = false)
    (hid : op.deviceId = deviceId) : ¬ (q.pushControl op).Pending .requestStatus deviceId := by
  subst hid
  rintro ⟨o, ho, hpending⟩
  rcases mem_pushControl.1 ho with rfl | ⟨-, hkept⟩
  · simp [isPending, hop] at hpending
  · rw [isPending_requestStatus, hkept] at hpending
    cases hpending

theorem rewriteFirst_eq_none_iff {type : PendingOperationType}
    {f : PendingOperation → PendingOperation} :
    rewriteFirst type deviceId f q = none ↔ ¬ q.Pending type deviceId := by
  induction q with
  | nil => simp [rewriteFirst, Pending]
  | cons o q ih =>
    have hcons : Pending (o :: q) type deviceId ↔
        (o.type = type ∧ o.deviceId = deviceId) ∨ Pending q type deviceId := by
      simp [Pending, isPending]
    rw [rewriteFirst, hcons]
    split_ifs with hfirst
    · simp [hfirst]
    · rw [Option.map_eq_none_iff, ih]
      simp [hfirst]

/-- Merging leaves the polls as they are. -/
theorem pending_rewriteFirst {type poll : PendingOperationType}
    {f : PendingOperation → PendingOperation} (h : rewriteFirst type deviceId f q = some q')
    (htype : (type == poll) = false) (hf : ∀ o, ((f o).type == poll) = false) (id : DeviceId) :
    q'.Pending poll id ↔ q.Pending poll id := by
  obtain ⟨p, o, r, rfl, ho, -, rfl⟩ := rewriteFirst_eq_some h
  have hold : isPending poll id o = false := by rw [isPending, ho, htype, Bool.false_and]
  have hnew : isPending poll id (f o) = false := by rw [isPending, hf o, Bool.false_and]
  simp only [Pending, List.mem_append, List.mem_cons, or_and_right, exists_or, exists_eq_left,
    hold, hnew]

/-- After a control call no status poll of its device is queued. -/
def DropsStalePoll (s : History) (e : Event) : Prop :=
  match e with
  | .enqueue call => ∀ deviceId, call.controlDevice = some deviceId →
    ¬ (s.step e).queue.Pending .requestStatus deviceId
  | .pop => True

/-- A position or tilt request finds its other half queued, and a status poll of the device too. -/
def MergesOverPoll (s : History) : Event → Prop
  | .enqueue (.setDevicePosition deviceId _) =>
    s.queue.Pending .setTilt deviceId ∧ s.queue.Pending .requestStatus deviceId
  | .enqueue (.setDeviceTilt deviceId _) =>
    s.queue.Pending .setPosition deviceId ∧ s.queue.Pending .requestStatus deviceId
  | _ => False

/-- A merge means that the other half is queued, and leaves the poll. -/
theorem pending_merged_iff {type : PendingOperationType} {f : PendingOperation → PendingOperation}
    (h : rewriteFirst type deviceId f q = some q') (htype : (type == .requestStatus) = false)
    (hf : ∀ o, ((f o).type == .requestStatus) = false) :
    q'.Pending .requestStatus deviceId ↔
      q.Pending type deviceId ∧ q.Pending .requestStatus deviceId := by
  have hhalf : q.Pending type deviceId := by
    by_contra hnone
    rw [rewriteFirst_eq_none_iff.2 hnone] at h
    cases h
  rw [pending_rewriteFirst h htype hf]
  exact (and_iff_right hhalf).symm

/-- Without the other half the request is pushed, and the poll goes. -/
theorem pending_coalesced_iff {other : PendingOperationType}
    {merge : PendingOperation → PendingOperation} (h : Coalesced q q' other merge op)
    (hother : (other == .requestStatus) = false)
    (hmerge : ∀ o, ((merge o).type == .requestStatus) = false)
    (hop : (op.type == .requestStatus) = false) :
    q'.Pending .requestStatus op.deviceId ↔
      q.Pending other op.deviceId ∧ q.Pending .requestStatus op.deviceId := by
  cases h with
  | merged h => exact pending_merged_iff h hother hmerge
  | pushed h hq =>
    rw [hq]
    exact iff_of_false (not_pending_pushControl hop rfl) fun hboth =>
      rewriteFirst_eq_none_iff.1 h hboth.1

theorem pending_enqueueSetPosition_iff (q : OperationQueue) (deviceId : DeviceId)
    (position : UInt8) :
    (q.enqueueSetPosition deviceId position).1.Pending .requestStatus deviceId ↔
      q.Pending .setTilt deviceId ∧ q.Pending .requestStatus deviceId :=
  pending_coalesced_iff (coalesced_enqueueSetPosition q deviceId position) rfl (fun _ => rfl) rfl

theorem pending_enqueueSetTilt_iff (q : OperationQueue) (deviceId : DeviceId)
    (tiltPercent : UInt8) :
    (q.enqueueSetTilt deviceId tiltPercent).1.Pending .requestStatus deviceId ↔
      q.Pending .setPosition deviceId ∧ q.Pending .requestStatus deviceId :=
  pending_coalesced_iff (coalesced_enqueueSetTilt q deviceId tiltPercent) rfl (fun _ => rfl) rfl

/-- A call that pushes an operation for its device leaves no poll and merges nothing. -/
theorem dropsStalePoll_of_pushControl {s : History} {call : HubCall}
    (hpush : s.queue.enqueue call = s.queue.pushControl op)
    (hop : (op.type == .requestStatus) = false) (hdevice : call.controlDevice = some op.deviceId) :
    DropsStalePoll s (.enqueue call) := by
  intro deviceId hcall
  rw [hdevice] at hcall
  show ¬ (s.queue.enqueue call).Pending .requestStatus deviceId
  rw [hpush]
  exact not_pending_pushControl hop (Option.some.inj hcall)

theorem dropsStalePoll_iff (s : History) (e : Event) :
    DropsStalePoll s e ↔ ¬ MergesOverPoll s e := by
  cases e with
  | pop => exact iff_of_true trivial id
  | enqueue call =>
    cases call with
    | setDevicePosition deviceId position =>
      simp [DropsStalePoll, MergesOverPoll, HubCall.controlDevice, History.step, enqueue,
        pending_enqueueSetPosition_iff]
    | setDeviceTilt deviceId tiltPercent =>
      simp [DropsStalePoll, MergesOverPoll, HubCall.controlDevice, History.step, enqueue,
        pending_enqueueSetTilt_iff]
    | setDevicePositionAndTilt deviceId position tiltPercent =>
      exact iff_of_true (dropsStalePoll_of_pushControl rfl rfl rfl) id
    | executeDeviceCommand deviceId cmd =>
      exact iff_of_true (dropsStalePoll_of_pushControl rfl rfl rfl) id
    | setLightState deviceId on =>
      exact iff_of_true (dropsStalePoll_of_pushControl rfl rfl rfl) id
    | setLockState deviceId locked =>
      exact iff_of_true (dropsStalePoll_of_pushControl rfl rfl rfl) id
    | setSwitchState deviceId on =>
      exact iff_of_true (dropsStalePoll_of_pushControl rfl rfl rfl) id
    | requestDeviceStatus deviceId => exact iff_of_true (fun _ h => by cases h) id
    | requestDeviceName deviceId => exact iff_of_true (fun _ h => by cases h) id
    | discoverAndPair => exact iff_of_true (fun _ h => by cases h) id

/-- In a run from the empty queue every control call drops the stale poll exactly when no call is
merged over one. -/
theorem guarded_dropsStalePoll_iff (events : List Event) :
    Guarded History.step DropsStalePoll {} events ↔
      Guarded History.step (fun s e => ¬ MergesOverPoll s e) {} events :=
  guarded_congr (I := fun _ => True) (fun _ _ _ => trivial) (fun s e _ => dropsStalePoll_iff s e)
    trivial

/-- A tilt waits, then a status poll, and the position is merged into the tilt. -/
def tiltPollPosition : List Event :=
  [.enqueue (.setDeviceTilt "123ABC" 30), .enqueue (.requestDeviceStatus "123ABC"),
    .enqueue (.setDevicePosition "123ABC" 50)]

theorem stale_poll_kept : ¬ Guarded History.step DropsStalePoll {} tiltPollPosition := by
  intro h
  have hlast := (guarded_cons.1 (guarded_cons.1 (guarded_cons.1 h).2).2).1
  apply (dropsStalePoll_iff _ _).1 hlast
  constructor
  · exact ⟨{ type := .setTilt, deviceId := "123ABC", position := 30 }, by decide, rfl⟩
  · exact ⟨{ type := .requestStatus, deviceId := "123ABC" }, by decide, rfl⟩

end OperationQueue

end HomeIoControl
