import HomeIoControl.BandedList
import HomeIoControl.OperationConservation

namespace HomeIoControl.OperationQueue
open BandedList

/-! ## Bands -/

def isControlOp (t : PendingOperationType) : Bool := !isBackgroundOp t && t != .discoverAndPair

/-- Discovery first, then control operations, then background polls. -/
def band (op : PendingOperation) : ℕ :=
  if op.type = .discoverAndPair then 0 else if isBackgroundOp op.type then 2 else 1

/-- Two discoveries, or two polls of one type and device, are never queued together. -/
def Duplicates (a b : PendingOperation) : Prop :=
  a.type = b.type ∧
    (a.type = .discoverAndPair ∨ isBackgroundOp a.type = true ∧ a.deviceId = b.deviceId)

abbrev InBands (q : OperationQueue) : Prop := Banded band Duplicates q

/-- A queued operation of the given type for the device. -/
def isPending (type : PendingOperationType) (deviceId : DeviceId) (op : PendingOperation) : Bool :=
  op.type == type && op.deviceId == deviceId

variable {q q' : OperationQueue} {op : PendingOperation}

theorem band_of_isControlOp (h : isControlOp op.type = true) : band op = 1 := by
  simp only [isControlOp, Bool.and_eq_true, Bool.not_eq_true', bne_iff_ne, ne_eq] at h
  rw [band, if_neg h.2, if_neg (by simp [h.1])]

theorem band_of_isBackgroundOp (h : isBackgroundOp op.type = true) : band op = 2 := by
  have hne : op.type ≠ .discoverAndPair := by
    intro heq
    rw [heq] at h
    cases h
  rw [band, if_neg hne, if_pos h]

theorem band_le_two (op : PendingOperation) : band op ≤ 2 := by
  unfold band
  split_ifs <;> omega

theorem isBackgroundOp_iff (op : PendingOperation) :
    isBackgroundOp op.type = true ↔ 1 < band op := by
  constructor
  · intro h
    rw [band_of_isBackgroundOp h]
    omega
  · intro h
    unfold band at h
    split_ifs at h with _ hbg
    · omega
    · exact hbg
    · omega

theorem discoverAndPair_iff (op : PendingOperation) :
    op.type = .discoverAndPair ↔ ¬ 0 < band op := by
  unfold band
  split_ifs with hdiscover <;> simp [hdiscover]

theorem not_duplicates_of_isControlOp (h : isControlOp op.type = true) (b : PendingOperation) :
    ¬ Duplicates op b ∧ ¬ Duplicates b op := by
  simp only [isControlOp, Bool.and_eq_true, Bool.not_eq_true', bne_iff_ne, ne_eq] at h
  constructor
  · rintro ⟨-, hdiscover | ⟨hbg, -⟩⟩
    · exact h.2 hdiscover
    · simp [h.1] at hbg
  · rintro ⟨htype, hb⟩
    rw [htype] at hb
    rcases hb with hdiscover | ⟨hbg, -⟩
    · exact h.2 hdiscover
    · simp [h.1] at hbg

/-! ## Every call keeps the bands -/

theorem InBands.pushControl (h : q.InBands) (hop : isControlOp op.type = true) :
    InBands (q.pushControl op) := by
  have hearly : (fun o : PendingOperation => !isBackgroundOp o.type) =
      fun o => !decide (band op < band o) := by
    funext o
    rw [band_of_isControlOp hop]
    have := isBackgroundOp_iff o
    by_cases hbg : isBackgroundOp o.type = true <;> simp_all
  have hkept : InBands (q.filter fun existing => !isPendingStatus op.deviceId existing) :=
    h.sublist List.filter_sublist
  unfold OperationQueue.pushControl
  dsimp only
  rw [hearly]
  exact hkept.insert (not_duplicates_of_isControlOp hop)

theorem InBands.rewriteFirst {type : PendingOperationType} {deviceId : DeviceId}
    {f : PendingOperation → PendingOperation} (h : q.InBands)
    (hq : rewriteFirst type deviceId f q = some q') (htype : isControlOp type = true)
    (hf : ∀ o, isControlOp (f o).type = true) : q'.InBands := by
  obtain ⟨p, o, r, rfl, ho, -, rfl⟩ := rewriteFirst_eq_some hq
  have hband : band (f o) = band o := by
    rw [band_of_isControlOp (hf o), band_of_isControlOp (by rw [ho, htype])]
  exact h.replace hband (not_duplicates_of_isControlOp (hf o))

theorem InBands.coalesced {other : PendingOperationType}
    {merge : PendingOperation → PendingOperation} {op : PendingOperation} (h : q.InBands)
    (hq : Coalesced q q' other merge op) (hother : isControlOp other = true)
    (hmerge : ∀ o, isControlOp (merge o).type = true) (hop : isControlOp op.type = true) :
    q'.InBands := by
  cases hq with
  | merged hq => exact h.rewriteFirst hq hother hmerge
  | pushed _ hq =>
    rw [hq]
    exact h.pushControl hop

theorem InBands.enqueueSetPosition (h : q.InBands) (deviceId : DeviceId) (position : UInt8) :
    InBands (q.enqueueSetPosition deviceId position).1 :=
  h.coalesced (coalesced_enqueueSetPosition q deviceId position) rfl (fun _ => rfl) rfl

theorem InBands.enqueueSetTilt (h : q.InBands) (deviceId : DeviceId) (tiltPercent : UInt8) :
    InBands (q.enqueueSetTilt deviceId tiltPercent).1 :=
  h.coalesced (coalesced_enqueueSetTilt q deviceId tiltPercent) rfl (fun _ => rfl) rfl

theorem InBands.enqueueBackground {type : PendingOperationType} (h : q.InBands)
    (deviceId : DeviceId) (htype : isBackgroundOp type = true) :
    InBands (q.enqueueBackground type deviceId).1 := by
  unfold OperationQueue.enqueueBackground
  split_ifs with hpending
  · exact h
  · refine h.concat fun b hb => ⟨?_, ?_⟩
    · have hband : band { type, deviceId } = 2 := band_of_isBackgroundOp htype
      rw [hband]
      exact band_le_two b
    · -- the suppressed case is the one in which the poll would be a duplicate
      rintro ⟨hsame, hdiscover | ⟨-, hid⟩⟩
      · have hnew : type = .discoverAndPair := hsame.symm.trans hdiscover
        rw [hnew] at htype
        cases htype
      · apply hpending
        exact List.any_eq_true.2 ⟨b, hb, by simpa using ⟨hsame, hid⟩⟩

theorem InBands.enqueueDiscoverAndPair (h : q.InBands) :
    InBands q.enqueueDiscoverAndPair.1 := by
  unfold OperationQueue.enqueueDiscoverAndPair
  split_ifs with hpending
  · exact h
  · refine (h.sublist List.filter_sublist).cons fun b hb => ⟨Nat.zero_le _, ?_⟩
    rintro ⟨hsame, -⟩
    apply hpending
    exact List.any_eq_true.2 ⟨b, (List.mem_filter.1 hb).1, by simp [← hsame]⟩

theorem InBands.enqueue (h : q.InBands) (call : HubCall) : InBands (q.enqueue call) := by
  cases call with
  | setDevicePosition deviceId position => exact h.enqueueSetPosition deviceId position
  | setDeviceTilt deviceId tiltPercent => exact h.enqueueSetTilt deviceId tiltPercent
  | setDevicePositionAndTilt deviceId position tiltPercent => exact h.pushControl rfl
  | executeDeviceCommand deviceId cmd => exact h.pushControl rfl
  | setLightState deviceId on => exact h.pushControl rfl
  | setLockState deviceId locked => exact h.pushControl rfl
  | setSwitchState deviceId on => exact h.pushControl rfl
  | requestDeviceStatus deviceId => exact h.enqueueBackground deviceId rfl
  | requestDeviceName deviceId => exact h.enqueueBackground deviceId rfl
  | discoverAndPair => exact h.enqueueDiscoverAndPair

theorem inBands_step {s : History} (h : s.queue.InBands) (e : Event) :
    (s.step e).queue.InBands := by
  cases e with
  | enqueue call => exact h.enqueue call
  | pop =>
    obtain ⟨queue, popped⟩ := s
    cases queue with
    | nil => exact h
    | cons op rest => exact h.sublist (List.sublist_cons_self op rest)

theorem inBands_history (events : List Event) : (history events).queue.InBands := by
  induction events using List.reverseRecOn with
  | nil => exact .nil
  | append_singleton events e ih =>
    rw [history_concat]
    exact inBands_step ih e

theorem isControlOp_of_band (hlate : 0 < band op) (hearly : ¬ 1 < band op) :
    isControlOp op.type = true := by
  have hbg := (isBackgroundOp_iff op).not.2 hearly
  have hne : op.type ≠ .discoverAndPair := by
    rw [ne_eq, discoverAndPair_iff, not_not]
    exact hlate
  simp [isControlOp, hbg, hne]

theorem InBands.length_le_one (h : q.InBands) (hq : ∀ op ∈ q, op.type = .discoverAndPair) :
    q.length ≤ 1 := by
  have hall : q.countP (fun op => op.type == .discoverAndPair) = q.length := by
    apply List.countP_eq_length.2
    intro op hop
    rw [hq op hop]
    rfl
  rw [← hall]
  apply h.countP_le_one
  intro a b ha hb
  rw [beq_iff_eq] at ha hb
  exact ⟨ha.trans hb.symm, .inl ha⟩

theorem InBands.countP_isPending_le_one {type : PendingOperationType} (h : q.InBands)
    (htype : isBackgroundOp type = true) (deviceId : DeviceId) :
    q.countP (isPending type deviceId) ≤ 1 := by
  apply h.countP_le_one
  intro a b ha hb
  simp only [isPending, Bool.and_eq_true, beq_iff_eq] at ha hb
  refine ⟨ha.1.trans hb.1.symm, .inr ⟨?_, ha.2.trans hb.2.symm⟩⟩
  rw [ha.1]
  exact htype

/-- One discovery at most, then control operations, then polls, one of each type per device. -/
theorem InBands.split (h : q.InBands) :
    ∃ discover controls polls : List PendingOperation, q = discover ++ controls ++ polls ∧
      discover.length ≤ 1 ∧ (∀ op ∈ discover, op.type = .discoverAndPair) ∧
      (∀ op ∈ controls, isControlOp op.type = true) ∧
      (∀ op ∈ polls, isBackgroundOp op.type = true) ∧
      ∀ deviceId, polls.countP (isPending .requestStatus deviceId) ≤ 1 ∧
        polls.countP (isPending .requestName deviceId) ≤ 1 := by
  have hlate : InBands (q.filter fun op => decide (0 < band op)) := h.sublist List.filter_sublist
  have hdiscover : InBands (q.filter fun op => !decide (0 < band op)) :=
    h.sublist List.filter_sublist
  have hpolls : InBands ((q.filter fun op => decide (0 < band op)).filter
      fun op => decide (1 < band op)) := hlate.sublist List.filter_sublist
  have hfirst : ∀ op ∈ q.filter fun op => !decide (0 < band op), op.type = .discoverAndPair := by
    intro op hop
    have hband := (List.mem_filter.1 hop).2
    exact (discoverAndPair_iff op).2 (by simpa using hband)
  refine ⟨q.filter fun op => !decide (0 < band op),
    (q.filter fun op => decide (0 < band op)).filter fun op => !decide (1 < band op),
    (q.filter fun op => decide (0 < band op)).filter fun op => decide (1 < band op),
    ?_, hdiscover.length_le_one hfirst, hfirst, ?_, ?_, fun deviceId => ⟨?_, ?_⟩⟩
  · rw [List.append_assoc, ← hlate.eq_append 1]
    exact h.eq_append 0
  · intro op hop
    obtain ⟨hop, hband⟩ := List.mem_filter.1 hop
    have hpos := (List.mem_filter.1 hop).2
    exact isControlOp_of_band (of_decide_eq_true hpos) (by simpa using hband)
  · intro op hop
    have hband := (List.mem_filter.1 hop).2
    exact (isBackgroundOp_iff op).2 (of_decide_eq_true hband)
  · exact hpolls.countP_isPending_le_one rfl deviceId
  · exact hpolls.countP_isPending_le_one rfl deviceId

/-- In every run from the empty queue the bands stay in order, without duplicates. -/
theorem queue_in_bands (events : List Event) :
    ∃ discover controls polls : List PendingOperation,
      (history events).queue = discover ++ controls ++ polls ∧
      discover.length ≤ 1 ∧ (∀ op ∈ discover, op.type = .discoverAndPair) ∧
      (∀ op ∈ controls, isControlOp op.type = true) ∧
      (∀ op ∈ polls, isBackgroundOp op.type = true) ∧
      ∀ deviceId, polls.countP (isPending .requestStatus deviceId) ≤ 1 ∧
        polls.countP (isPending .requestName deviceId) ≤ 1 :=
  (inBands_history events).split

end HomeIoControl.OperationQueue
