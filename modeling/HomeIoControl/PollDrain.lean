import HomeIoControl.Draining
import HomeIoControl.PollSteps
import Mathlib.Data.List.Sort

namespace HomeIoControl

/-- The state of a device after every poll that was due at `now` has been popped. -/
def PollTracking.drained (now : Millis) (t : PollTracking) : PollTracking :=
  if t.nextUpdate ≠ 0 ∧ t.nextUpdate < now then
    if t.isActive now then { t with nextUpdate := 0 } else t.cleared
  else t

namespace PollTracking

variable {t : PollTracking} {now : Millis}

theorem drained_of_idle (h : t.nextUpdate = 0 ∨ now ≤ t.nextUpdate) : t.drained now = t := by
  apply if_neg
  rw [not_and_or, not_ne_iff, UInt32.not_lt]
  exact h

theorem drained_of_due (hnext : t.nextUpdate ≠ 0 ∧ t.nextUpdate < now)
    (hactive : t.isActive now = true) : t.drained now = { t with nextUpdate := 0 } := by
  rw [drained, if_pos hnext, if_pos hactive]

theorem drained_of_expired (hnext : t.nextUpdate ≠ 0 ∧ t.nextUpdate < now)
    (hexpired : t.isActive now = false) : t.drained now = t.cleared := by
  rw [drained, if_pos hnext, if_neg (by simp [hexpired])]

theorem drained_drained : (t.drained now).drained now = t.drained now := by
  unfold drained
  split_ifs <;> simp_all [cleared]

theorem intervalMs_drained : (t.drained now).intervalMs = t.intervalMs := by
  unfold drained cleared
  split_ifs <;> rfl

end PollTracking

namespace StatusPollPolicy

variable {p : StatusPollPolicy} {now : Millis} {deviceId other : DeviceId}

theorem getElem?_update (p : StatusPollPolicy) (deviceId other : DeviceId)
    (f : PollTracking → PollTracking) :
    (p.update deviceId f).tracking[other]? =
      if deviceId = other then p.tracking[other]?.map f else p.tracking[other]? := by
  unfold update
  cases hentry : p.tracking[deviceId]? with
  | none =>
    split_ifs with heq
    · rw [← heq, hentry, Option.map_none]
    · rfl
  | some t =>
    by_cases heq : deviceId = other
    · subst heq
      simp [hentry]
    · simp [Std.TreeMap.getElem?_insert, heq]

theorem map_drained_of_idle (h : p.getNextUpdate deviceId = 0 ∨ now ≤ p.getNextUpdate deviceId) :
    p.tracking[deviceId]?.map (·.drained now) = p.tracking[deviceId]? := by
  cases hentry : p.tracking[deviceId]? with
  | none => rfl
  | some t =>
    have ht : p.getNextUpdate deviceId = t.nextUpdate := by simp [getNextUpdate, entry, hentry]
    rw [ht] at h
    rw [Option.map_some, PollTracking.drained_of_idle h]

theorem map_drained {f : PollTracking → PollTracking}
    (hf : (p.entry deviceId).drained now = f (p.entry deviceId)) :
    p.tracking[deviceId]?.map (·.drained now) = p.tracking[deviceId]?.map f := by
  cases hentry : p.tracking[deviceId]? with
  | none => rfl
  | some t =>
    have ht : p.entry deviceId = t := by simp [entry, hentry]
    rw [ht] at hf
    rw [Option.map_some, Option.map_some, hf]

/-- The entries of some devices are drained, the others are as they were. -/
def DrainsIn (p : StatusPollPolicy) (now : Millis) (drained : DeviceId → Prop)
    (q : StatusPollPolicy) : Prop :=
  ∀ other, (drained other → q.tracking[other]? = p.tracking[other]?.map (·.drained now)) ∧
    (¬drained other → q.tracking[other]? = p.tracking[other]?)

theorem drainsIn_of_idle (h : p.getNextUpdate deviceId = 0 ∨ now ≤ p.getNextUpdate deviceId) :
    p.DrainsIn now (· = deviceId) p := by
  intro other
  refine ⟨?_, fun _ => rfl⟩
  rintro rfl
  exact (map_drained_of_idle h).symm

theorem drainsIn_update {f : PollTracking → PollTracking}
    (hf : (p.entry deviceId).drained now = f (p.entry deviceId)) :
    p.DrainsIn now (· = deviceId) (p.update deviceId f) := by
  intro other
  rw [getElem?_update]
  constructor
  · rintro rfl
    rw [if_pos rfl, map_drained hf]
  · intro hne
    rw [if_neg (Ne.symm hne)]

theorem DrainsIn.trans {q r : StatusPollPolicy} {first second : DeviceId → Prop}
    (h : p.DrainsIn now first q) (h' : q.DrainsIn now second r) :
    p.DrainsIn now (fun other => first other ∨ second other) r := by
  intro other
  obtain ⟨hin, hout⟩ := h other
  obtain ⟨hin', hout'⟩ := h' other
  by_cases hfirst : first other <;> by_cases hsecond : second other
  · simp [hfirst, hin' hsecond, hin hfirst, Function.comp_def, PollTracking.drained_drained]
  · simp [hfirst, hout' hsecond, hin hfirst]
  · simp [hsecond, hin' hsecond, hout hfirst]
  · simp [hfirst, hsecond, hout' hsecond, hout hfirst]

/-- A scan drains what it passes, up to the device that it returns. -/
theorem popDue_drainsIn (now : Millis) (ids : List DeviceId) (p : StatusPollPolicy) :
    ∃ passed, p.DrainsIn now (· ∈ passed) (popDue now ids p).2 ∧
      ((popDue now ids p).1 = none → passed = ids) := by
  induction ids generalizing p with
  | nil => exact ⟨[], fun _ => ⟨by simp, by simp [popDue]⟩, fun _ => rfl⟩
  | cons deviceId rest ih =>
    have hcons {q : StatusPollPolicy} (hq : p.DrainsIn now (· = deviceId) q) :
        ∃ passed, p.DrainsIn now (· ∈ passed) (popDue now rest q).2 ∧
          ((popDue now rest q).1 = none → passed = deviceId :: rest) := by
      obtain ⟨passed, hdrains, hnone⟩ := ih q
      refine ⟨deviceId :: passed, ?_, fun h => congrArg _ (hnone h)⟩
      simpa only [List.mem_cons] using hq.trans hdrains
    rw [popDue]
    split_ifs with hidle hexpired
    · exact hcons (drainsIn_of_idle hidle)
    · rw [not_or, UInt32.not_le] at hidle
      apply hcons
      apply drainsIn_update
      exact PollTracking.drained_of_expired hidle (by simpa [isTrackingActive] using hexpired)
    · rw [not_or, UInt32.not_le] at hidle
      refine ⟨[deviceId], ?_, fun h => by cases h⟩
      simp only [List.mem_singleton]
      apply drainsIn_update
      exact PollTracking.drained_of_due hidle (by simpa [isTrackingActive] using hexpired)

/-! ## Draining -/

/-- The devices whose poll is overdue in an open window, in the order of their keys. -/
def dueDevices (p : StatusPollPolicy) (now : Millis) : List DeviceId :=
  p.tracking.keys.filter (p.isDue now)

theorem mem_dueDevices : deviceId ∈ p.dueDevices now ↔ p.isDue now deviceId = true := by
  rw [dueDevices, List.mem_filter, and_iff_right_iff_imp]
  intro hdue
  rw [Std.TreeMap.mem_keys]
  by_contra hnot
  have hentry : p.entry deviceId = {} :=
    entry_eq_default (Std.TreeMap.getElem?_eq_none hnot)
  simp [isDue, getNextUpdate, hentry] at hdue

theorem dueDevices_ordered (p : StatusPollPolicy) (now : Millis) :
    (p.dueDevices now).Pairwise fun a b => compare a b = .lt :=
  p.tracking.ordered_keys.filter _

theorem popDueDevice_fst (p : StatusPollPolicy) (now : Millis) :
    (p.popDueDevice now).1 = (p.dueDevices now).head? := by
  rw [popDueDevice, popDue_fst, dueDevices, List.head?_filter]

/-- The device that comes out is not due any more, the others still are. -/
theorem isDue_popDueDevice (h : (p.popDueDevice now).1 = some deviceId) :
    (p.popDueDevice now).2.isDue now other = true ↔
      other ≠ deviceId ∧ p.isDue now other = true := by
  unfold popDueDevice isDue getNextUpdate isTrackingActive at *
  rcases popDue_cases now p.tracking.keys p other with
    ⟨hne, hsame | ⟨hclosed, hcleared⟩⟩ | ⟨heq, -, -, -, hpopped⟩
  · have hother : other ≠ deviceId := fun heq => hne (heq ▸ h)
    rw [hsame, and_iff_right hother]
  · rw [hcleared, hclosed]
    simp [PollTracking.cleared]
  · rw [h] at heq
    obtain rfl := Option.some.inj heq
    rw [hpopped]
    simp

theorem dueDevices_popDueDevice (h : (p.popDueDevice now).1 = some deviceId) :
    (p.popDueDevice now).2.dueDevices now = (p.dueDevices now).tail := by
  have hordered := p.dueDevices_ordered now
  have hhead := p.popDueDevice_fst now
  have hmem (other : DeviceId) : other ∈ (p.popDueDevice now).2.dueDevices now ↔
      other ≠ deviceId ∧ other ∈ p.dueDevices now := by
    rw [mem_dueDevices, mem_dueDevices, isDue_popDueDevice h]
  rw [h] at hhead
  cases hdue : p.dueDevices now with
  | nil => simp [hdue] at hhead
  | cons first rest =>
    rw [hdue, List.head?_cons] at hhead
    obtain rfl := Option.some.inj hhead
    rw [List.tail_cons]
    rw [hdue, List.pairwise_cons] at hordered
    have hfirst : deviceId ∉ rest := fun hin => by
      simpa using hordered.1 deviceId hin
    have : Std.Irrefl fun a b : DeviceId => compare a b = .lt := ⟨fun a => by simp⟩
    have : Std.Antisymm fun a b : DeviceId => compare a b = .lt :=
      ⟨fun a b hab hba => by
        rw [Std.OrientedOrd.eq_swap, hab] at hba
        cases hba⟩
    -- both lists are in the order of the keys
    apply (dueDevices_ordered _ now).eq_of_mem_iff hordered.2
    intro other
    rw [hmem, hdue, List.mem_cons]
    constructor
    · rintro ⟨hne, hin⟩
      exact hin.resolve_left hne
    · exact fun hin => ⟨fun heq => hfirst (heq ▸ hin), .inr hin⟩

/-! ## The whole schedule -/

/-- A call drains some of the entries, and the last call all of them. -/
theorem tracking_of_drains {q : StatusPollPolicy} {ids : List DeviceId}
    (h : Draining.Drains (fun p : StatusPollPolicy => p.popDueDevice now) p ids q)
    (other : DeviceId) :
    q.tracking[other]? = p.tracking[other]?.map (PollTracking.drained now) := by
  apply h.settles (fun p => p.tracking[other]?.map (PollTracking.drained now))
    (fun p => p.tracking[other]?)
  · intro s a t hpop
    obtain ⟨passed, hdrains, -⟩ := popDue_drainsIn now s.tracking.keys s
    obtain ⟨hin, hout⟩ := hdrains other
    obtain rfl : (s.popDueDevice now).2 = t := by rw [hpop]
    unfold popDueDevice
    by_cases hpassed : other ∈ passed
    · rw [hin hpassed, Option.map_map]
      congr 1
      funext t
      exact PollTracking.drained_drained
    · rw [hout hpassed]
  · intro s t hpop
    obtain ⟨passed, hdrains, hall⟩ := popDue_drainsIn now s.tracking.keys s
    obtain ⟨hin, hout⟩ := hdrains other
    obtain rfl : (s.popDueDevice now).2 = t := by rw [hpop]
    have hnone : (popDue now s.tracking.keys s).1 = none := congrArg Prod.fst hpop
    unfold popDueDevice
    by_cases htracked : other ∈ s.tracking
    · exact hin (hall hnone ▸ Std.TreeMap.mem_keys.2 htracked)
    · rw [hout fun hpassed => htracked (Std.TreeMap.mem_keys.1 (hall hnone ▸ hpassed)),
        Std.TreeMap.getElem?_eq_none htracked, Option.map_none]

/-- Popping what is due comes to an end. It puts out the devices whose poll is overdue in an open
window, in the order of their keys, and closes the windows that an overdue poll outlived. -/
theorem drain_exact (p : StatusPollPolicy) (now : Millis) :
    ∃ ids q, Draining.Drains (fun p : StatusPollPolicy => p.popDueDevice now) p ids q ∧
      (∀ ids' q', Draining.Drains (fun p : StatusPollPolicy => p.popDueDevice now) p ids' q' →
        ids' = ids ∧ q' = q) ∧
      ids.Pairwise (fun a b => compare a b = .lt) ∧
      (∀ id, id ∈ ids ↔ p.getNextUpdate id ≠ 0 ∧ p.getNextUpdate id < now ∧
        p.isTrackingActive id now = true) ∧
      (∀ id : DeviceId, q.tracking[id]? = p.tracking[id]?.map (PollTracking.drained now)) ∧
      ∀ id, q.getInterval id = p.getInterval id := by
  obtain ⟨q, hdrains⟩ := Draining.exists_drains (fun p => p.dueDevices now)
    (fun p => p.popDueDevice_fst now) (fun _ _ => dueDevices_popDueDevice) p
  have htracking := tracking_of_drains hdrains
  refine ⟨p.dueDevices now, q, hdrains, fun _ _ => hdrains.unique, p.dueDevices_ordered now,
    ?_, htracking, ?_⟩
  · intro id
    rw [mem_dueDevices, isDue, Bool.and_eq_true, Bool.and_eq_true, bne_iff_ne, decide_eq_true_eq,
      and_assoc]
  · intro id
    unfold getInterval entry
    rw [htracking]
    cases p.tracking[id]? with
    | none => rfl
    | some t => exact PollTracking.intervalMs_drained

end StatusPollPolicy
end HomeIoControl
