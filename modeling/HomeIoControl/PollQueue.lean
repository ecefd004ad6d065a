import HomeIoControl.HubRun
import HomeIoControl.PollCoverage

namespace HomeIoControl

/-! ## Polls in the queue -/

namespace OperationQueue

/-- Some queued operation polls the device. -/
def Polls (q : OperationQueue) (deviceId : DeviceId) : Prop := ∃ op ∈ q, Hub.IsPollOf deviceId op

variable {q : OperationQueue} {op : PendingOperation} {id : DeviceId}

/-- The pushed operation polls the device whose status polls it drops. -/
theorem polls_pushControl (hop : Hub.IsPollOf op.deviceId op) (h : q.Polls id) :
    (q.pushControl op).Polls id := by
  obtain ⟨o, hmem, hpolls⟩ := h
  cases hdropped : isPendingStatus op.deviceId o with
  | false => exact ⟨o, mem_pushControl.2 (.inr ⟨hmem, hdropped⟩), hpolls⟩
  | true =>
    have hown : o.deviceId = op.deviceId := by
      simp only [isPendingStatus, Bool.and_eq_true, beq_iff_eq] at hdropped
      exact hdropped.2
    refine ⟨op, mem_pushControl.2 (.inl rfl), ?_⟩
    rw [← hpolls.1, hown]
    exact hop

theorem polls_rewriteFirst {type : PendingOperationType} {deviceId : DeviceId}
    {f : PendingOperation → PendingOperation} {q' : OperationQueue}
    (hq : rewriteFirst type deviceId f q = some q')
    (hf : ∀ o id, Hub.IsPollOf id o → Hub.IsPollOf id (f o)) (h : q.Polls id) : q'.Polls id := by
  obtain ⟨p, o, r, rfl, -, -, rfl⟩ := rewriteFirst_eq_some hq
  obtain ⟨polling, hmem, hpolls⟩ := h
  rcases List.mem_append.1 hmem with hmem | hmem
  · exact ⟨polling, List.mem_append_left _ hmem, hpolls⟩
  · rcases List.mem_cons.1 hmem with rfl | hmem
    · exact ⟨f polling, by simp, hf polling id hpolls⟩
    · exact ⟨polling, by simp [hmem], hpolls⟩

theorem polls_coalesced {other : PendingOperationType}
    {merge : PendingOperation → PendingOperation} {op : PendingOperation} {q' : OperationQueue}
    (hq : Coalesced q q' other merge op)
    (hmerge : ∀ o id, Hub.IsPollOf id o → Hub.IsPollOf id (merge o))
    (hop : Hub.IsPollOf op.deviceId op) (h : q.Polls id) : q'.Polls id := by
  cases hq with
  | merged hq => exact polls_rewriteFirst hq hmerge h
  | pushed _ hq =>
    rw [hq]
    exact polls_pushControl hop h

theorem polls_enqueueSetPosition (deviceId : DeviceId) (position : UInt8) (h : q.Polls id) :
    (q.enqueueSetPosition deviceId position).1.Polls id :=
  polls_coalesced (coalesced_enqueueSetPosition q deviceId position)
    (fun o id ho => ⟨ho.1, by simp, by simp⟩) ⟨rfl, by simp, by simp⟩ h

theorem polls_enqueueSetTilt (deviceId : DeviceId) (tiltPercent : UInt8) (h : q.Polls id) :
    (q.enqueueSetTilt deviceId tiltPercent).1.Polls id :=
  polls_coalesced (coalesced_enqueueSetTilt q deviceId tiltPercent)
    (fun o id ho => ⟨ho.1, by simp, by simp⟩) ⟨rfl, by simp, by simp⟩ h

theorem polls_enqueueBackground (type : PendingOperationType) (deviceId : DeviceId)
    (h : q.Polls id) : (q.enqueueBackground type deviceId).1.Polls id := by
  obtain ⟨o, hmem, hpolls⟩ := h
  unfold enqueueBackground
  split_ifs
  · exact ⟨o, hmem, hpolls⟩
  · exact ⟨o, by simp [hmem], hpolls⟩

/-- A status request is queued afterwards, new or old. -/
theorem polls_enqueueRequestStatus (q : OperationQueue) (deviceId : DeviceId) :
    (q.enqueueRequestStatus deviceId).1.Polls deviceId := by
  unfold enqueueRequestStatus enqueueBackground
  split_ifs with hqueued
  · obtain ⟨op, hmem, hop⟩ := List.any_eq_true.1 hqueued
    simp only [Bool.and_eq_true, beq_iff_eq] at hop
    refine ⟨op, hmem, hop.2, ?_, ?_⟩
    · simp [hop.1]
    · simp [hop.1]
  · exact ⟨{ type := .requestStatus, deviceId }, by simp, rfl, by simp, by simp⟩

/-- Discovery flushes status requests and leaves movement commands queued. -/
theorem polls_enqueueDiscoverAndPair
    (h : (q.any fun op => op.type == .discoverAndPair) = true ∧ q.Polls id ∨
      ∃ op ∈ q, Hub.IsPollOf id op ∧ op.type ≠ .requestStatus) :
    q.enqueueDiscoverAndPair.1.Polls id := by
  unfold enqueueDiscoverAndPair
  split_ifs with hqueued
  · rcases h with h | ⟨op, hmem, hpolls, -⟩
    · exact h.2
    · exact ⟨op, hmem, hpolls⟩
  · rcases h with h | ⟨op, hmem, hpolls, hstatus⟩
    · exact absurd h.1 hqueued
    · refine ⟨op, ?_, hpolls⟩
      simp [hmem, hstatus, hpolls.2.1]

end OperationQueue

/-! ## Queueing -/

namespace Hub

variable {hub : Hub} {id : DeviceId}

/-- A new queue covers a device that the old one covers. -/
theorem coveredAt_of_opQueue {q : OperationQueue} (h : hub.opQueue.Polls id → q.Polls id)
    (hcovered : hub.CoveredAt id) : { hub with opQueue := q }.CoveredAt id := by
  intro hactive
  obtain ⟨hreg, hpolls⟩ := hcovered hactive
  exact ⟨hreg, hpolls.imp_right fun hpending => hpending.imp_left h⟩

theorem coveredAt_queueIf {enqueue : OperationQueue → OperationQueue}
    (h : hub.opQueue.Polls id → (enqueue hub.opQueue).Polls id) (hcovered : hub.CoveredAt id)
    (accepts : IoDevice → Bool) (deviceId : DeviceId) :
    (hub.queueIf accepts deviceId enqueue).CoveredAt id := by
  unfold queueIf
  split
  · exact coveredAt_of_opQueue h hcovered
  · split_ifs
    · exact coveredAt_of_opQueue h hcovered
    · exact hcovered

/-- Where discovery flushes the queue, every open window has a poll besides its status request. -/
def QueuePolls (call : HubCall) (hub : Hub) : Prop :=
  call = .discoverAndPair → (hub.opQueue.any fun op => op.type == .discoverAndPair) = false →
    ∀ id, hub.IsActive id → hub.pollPolicy.getNextUpdate id ≠ 0 ∨ id ∈ hub.remotePolls ∨
      ∃ op ∈ hub.opQueue, IsPollOf id op ∧ op.type ≠ .requestStatus

theorem coveredAt_queueDiscoverAndPair (h : hub.QueuePolls .discoverAndPair)
    (hcovered : hub.CoveredAt id) : hub.queueDiscoverAndPair.CoveredAt id := by
  unfold queueDiscoverAndPair
  cases hqueued : hub.opQueue.any fun op => op.type == .discoverAndPair with
  | true =>
    exact coveredAt_of_opQueue
      (fun hpolls => OperationQueue.polls_enqueueDiscoverAndPair (.inl ⟨hqueued, hpolls⟩)) hcovered
  | false =>
    intro hactive
    obtain ⟨hreg, -⟩ := hcovered hactive
    refine ⟨hreg, ?_⟩
    rcases h rfl hqueued id hactive with hnext | hremote | hcontrol
    · exact .inl hnext
    · exact .inr (.inr hremote)
    · exact .inr (.inl (OperationQueue.polls_enqueueDiscoverAndPair (.inr hcontrol)))

theorem coveredAt_queue {call : HubCall} (h : hub.QueuePolls call) (hcovered : hub.CoveredAt id) :
    (hub.queue call).CoveredAt id := by
  cases call with
  | setDevicePosition deviceId position =>
    exact coveredAt_queueIf (OperationQueue.polls_enqueueSetPosition deviceId position) hcovered _ _
  | setDeviceTilt deviceId tiltPercent =>
    exact coveredAt_queueIf (OperationQueue.polls_enqueueSetTilt deviceId tiltPercent) hcovered _ _
  | setDevicePositionAndTilt deviceId position tiltPercent =>
    exact coveredAt_queueIf (OperationQueue.polls_pushControl ⟨rfl, by simp, by simp⟩) hcovered _ _
  | executeDeviceCommand deviceId cmd =>
    show (hub.queueDeviceCommand deviceId cmd).CoveredAt id
    unfold queueDeviceCommand
    split_ifs
    · exact hcovered
    · exact coveredAt_queueIf (OperationQueue.polls_pushControl ⟨rfl, by simp, by simp⟩) hcovered
        _ _
  | setLightState deviceId on =>
    exact coveredAt_queueIf (OperationQueue.polls_pushControl ⟨rfl, by simp, by simp⟩) hcovered _ _
  | setLockState deviceId locked =>
    exact coveredAt_queueIf (OperationQueue.polls_pushControl ⟨rfl, by simp, by simp⟩) hcovered _ _
  | setSwitchState deviceId on =>
    exact coveredAt_queueIf (OperationQueue.polls_pushControl ⟨rfl, by simp, by simp⟩) hcovered _ _
  | requestDeviceStatus deviceId =>
    exact coveredAt_queueIf (OperationQueue.polls_enqueueBackground _ deviceId) hcovered _ _
  | requestDeviceName deviceId =>
    show (hub.queueRequestDeviceName deviceId).CoveredAt id
    unfold queueRequestDeviceName
    split_ifs
    · exact hcovered
    · exact coveredAt_of_opQueue (OperationQueue.polls_enqueueBackground _ deviceId) hcovered
  | discoverAndPair => exact coveredAt_queueDiscoverAndPair h hcovered

end Hub
end HomeIoControl
