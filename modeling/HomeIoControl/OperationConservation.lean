import HomeIoControl.GuardedRun
import HomeIoControl.OperationQueue
import HomeIoControl.RequestLedger
import Mathlib.Data.List.TakeWhile

namespace HomeIoControl
open RequestLedger

/-! ## What a call writes -/

/-- A field of a device and the value requested for it. -/
inductive FieldWrite
  | position (position : UInt8)
  | tilt (tiltPercent : UInt8)
  | command (cmd : CoverCommand)
  | light (on : Bool)
  | lock (locked : Bool)
  | switch (on : Bool)
  deriving DecidableEq, Repr

namespace HubCall

def isControl : HubCall → Bool
  | requestDeviceStatus _ | requestDeviceName _ | discoverAndPair => false
  | _ => true

def writes : HubCall → List (DeviceId × FieldWrite)
  | setDevicePosition deviceId position => [(deviceId, .position position)]
  | setDeviceTilt deviceId tiltPercent => [(deviceId, .tilt tiltPercent)]
  | setDevicePositionAndTilt deviceId position tiltPercent =>
    [(deviceId, .position position), (deviceId, .tilt tiltPercent)]
  | executeDeviceCommand deviceId cmd => [(deviceId, .command cmd)]
  | setLightState deviceId on => [(deviceId, .light on)]
  | setLockState deviceId locked => [(deviceId, .lock locked)]
  | setSwitchState deviceId on => [(deviceId, .switch on)]
  | requestDeviceStatus _ | requestDeviceName _ | discoverAndPair => []

/-- The pending call, the request that is joined to it, and the call that serves both. -/
inductive Joins : HubCall → HubCall → HubCall → Prop
  | tilt (deviceId : DeviceId) (position tiltPercent : UInt8) :
    Joins (setDevicePosition deviceId position) (setDeviceTilt deviceId tiltPercent)
      (setDevicePositionAndTilt deviceId position tiltPercent)
  | position (deviceId : DeviceId) (position tiltPercent : UInt8) :
    Joins (setDeviceTilt deviceId tiltPercent) (setDevicePosition deviceId position)
      (setDevicePositionAndTilt deviceId position tiltPercent)

/-- The requests behind a delivered call: itself, or one position and one tilt request. -/
inductive Carries : List HubCall → HubCall → Prop
  | alone (call : HubCall) : Carries [call] call
  | positionThenTilt (deviceId : DeviceId) (position tiltPercent : UInt8) :
    Carries [setDevicePosition deviceId position, setDeviceTilt deviceId tiltPercent]
      (setDevicePositionAndTilt deviceId position tiltPercent)
  | tiltThenPosition (deviceId : DeviceId) (position tiltPercent : UInt8) :
    Carries [setDeviceTilt deviceId tiltPercent, setDevicePosition deviceId position]
      (setDevicePositionAndTilt deviceId position tiltPercent)

theorem perm_writes_of_joins {c r c' : HubCall} (h : Joins c r c') :
    (writes c').Perm (writes c ++ writes r) := by
  cases h with
  | tilt deviceId position tiltPercent => exact .refl _
  | position deviceId position tiltPercent => exact .swap _ _ []

/-- A joined call is not joined again. -/
theorem carries_of_serves {served : List HubCall} {c : HubCall} (h : Serves Joins served c) :
    Carries served c := by
  induction h with
  | alone c => exact .alone c
  | join hserved hjoin ih =>
    cases hjoin with
    | tilt deviceId position tiltPercent =>
      cases ih
      exact .positionThenTilt deviceId position tiltPercent
    | position deviceId position tiltPercent =>
      cases ih
      exact .tiltThenPosition deviceId position tiltPercent

end HubCall

/-! ## The queue under its calls -/

namespace OperationQueue

/-- The queue's own entry point for each request. -/
def enqueue (q : OperationQueue) : HubCall → OperationQueue
  | .setDevicePosition deviceId position => (q.enqueueSetPosition deviceId position).1
  | .setDeviceTilt deviceId tiltPercent => (q.enqueueSetTilt deviceId tiltPercent).1
  | .setDevicePositionAndTilt deviceId position tiltPercent =>
    q.enqueueSetPositionAndTilt deviceId position tiltPercent
  | .executeDeviceCommand deviceId cmd => q.enqueueDeviceCommand deviceId cmd
  | .setLightState deviceId on => q.enqueueSetLightState deviceId on
  | .setLockState deviceId locked => q.enqueueSetLockState deviceId locked
  | .setSwitchState deviceId on => q.enqueueSetSwitchState deviceId on
  | .requestDeviceStatus deviceId => (q.enqueueRequestStatus deviceId).1
  | .requestDeviceName deviceId => (q.enqueueRequestName deviceId).1
  | .discoverAndPair => q.enqueueDiscoverAndPair.1

/-- The control calls that the operations are dispatched to. -/
def controls (ops : List PendingOperation) : List HubCall :=
  (ops.map PendingOperation.dispatch).filter HubCall.isControl

/-- Nothing follows a background entry but background entries. -/
def BandOrdered (q : OperationQueue) : Prop :=
  q.Pairwise fun a b => isBackgroundOp a.type = true → isBackgroundOp b.type = true

variable {q q' : OperationQueue} {op : PendingOperation}

@[simp] theorem controls_nil : controls [] = [] := rfl

@[simp] theorem controls_append (p q : List PendingOperation) :
    controls (p ++ q) = controls p ++ controls q := by
  simp [controls]

@[simp] theorem controls_cons (op : PendingOperation) (q : List PendingOperation) :
    controls (op :: q) =
      if op.dispatch.isControl then op.dispatch :: controls q else controls q := by
  simp [controls, List.filter_cons]

theorem isControl_dispatch_of_background (h : isBackgroundOp op.type = true) :
    op.dispatch.isControl = false := by
  obtain ⟨type, deviceId, position, tilt, command⟩ := op
  cases type <;> first | rfl | simp [isBackgroundOp] at h

theorem controls_of_background (h : ∀ o ∈ q, isBackgroundOp o.type = true) :
    controls q = [] := by
  induction q with
  | nil => rfl
  | cons o q ih =>
    have ho := isControl_dispatch_of_background (h o (by simp))
    rw [controls_cons, if_neg (by simp [ho])]
    exact ih fun d hd => h d (by simp [hd])

/-- Dropping background entries leaves the control calls. -/
theorem controls_filter {keep : PendingOperation → Bool}
    (h : ∀ o ∈ q, keep o = false → isBackgroundOp o.type = true) :
    controls (q.filter keep) = controls q := by
  induction q with
  | nil => rfl
  | cons o q ih =>
    have ih' := ih fun d hd => h d (by simp [hd])
    cases hkeep : keep o with
    | true => rw [List.filter_cons_of_pos hkeep, controls_cons, controls_cons, ih']
    | false =>
      have ho := isControl_dispatch_of_background (h o (by simp) hkeep)
      rw [List.filter_cons_of_neg (by simp [hkeep]), controls_cons, if_neg (by simp [ho]), ih']

theorem BandOrdered.filter (h : q.BandOrdered) (keep : PendingOperation → Bool) :
    BandOrdered (q.filter keep) := List.Pairwise.filter keep h

theorem background_of_mem_dropWhile (h : q.BandOrdered) :
    ∀ o ∈ q.dropWhile fun o => !isBackgroundOp o.type, isBackgroundOp o.type = true := by
  induction q with
  | nil => simp
  | cons d q ih =>
    obtain ⟨hd, hq⟩ := List.pairwise_cons.1 h
    cases hbg : isBackgroundOp d.type with
    | false =>
      rw [List.dropWhile_cons_of_pos (by simp [hbg])]
      exact ih hq
    | true =>
      rw [List.dropWhile_cons_of_neg (by simp [hbg])]
      intro o ho
      rcases List.mem_cons.1 ho with rfl | ho
      · exact hbg
      · exact hd o ho hbg

theorem isBackgroundOp_of_isPendingStatus {deviceId : DeviceId}
    (h : isPendingStatus deviceId op = true) : isBackgroundOp op.type = true := by
  simp only [isPendingStatus, Bool.and_eq_true, beq_iff_eq] at h
  simp [isBackgroundOp, h.1]

/-- A control operation goes behind the control operations that wait. -/
theorem controls_pushControl (h : q.BandOrdered) (hop : op.dispatch.isControl = true) :
    controls (q.pushControl op) = controls q ++ [op.dispatch] := by
  have hkept : controls (q.filter fun o => !isPendingStatus op.deviceId o) = controls q :=
    controls_filter fun o _ ho => isBackgroundOp_of_isPendingStatus (by simpa using ho)
  have hlast := controls_of_background
    (background_of_mem_dropWhile (h.filter fun o => !isPendingStatus op.deviceId o))
  unfold pushControl
  dsimp only
  rw [controls_append, controls_cons, if_pos hop, hlast]
  rw [← hkept]
  conv_rhs => rw [← List.takeWhile_append_dropWhile (p := fun o => !isBackgroundOp o.type)
    (l := q.filter fun o => !isPendingStatus op.deviceId o), controls_append, hlast]
  simp

theorem BandOrdered.pushControl (h : q.BandOrdered) (hop : isBackgroundOp op.type = false) :
    BandOrdered (q.pushControl op) := by
  have hkept := h.filter fun o => !isPendingStatus op.deviceId o
  unfold OperationQueue.pushControl
  dsimp only
  generalize q.filter (fun o => !isPendingStatus op.deviceId o) = kept at hkept
  refine List.pairwise_append.2 ⟨?_, ?_, ?_⟩
  · exact List.Pairwise.sublist (List.takeWhile_sublist _) hkept
  · refine List.pairwise_cons.2 ⟨fun b _ hbg => ?_, ?_⟩
    · rw [hop] at hbg
      cases hbg
    · exact List.Pairwise.sublist (List.dropWhile_sublist _) hkept
  · intro a ha b _ hbg
    have := List.mem_takeWhile_imp ha
    simp [hbg] at this

theorem BandOrdered.rewrite {p r : List PendingOperation} {o o' : PendingOperation}
    (h : BandOrdered (p ++ o :: r)) (hsame : isBackgroundOp o'.type = isBackgroundOp o.type) :
    BandOrdered (p ++ o' :: r) := by
  simpa [BandOrdered, List.pairwise_append, hsame] using h

/-- A queue of one call: the bands stay in order, and the control calls absorb the request. -/
structure Accepts (q q' : OperationQueue) (call : HubCall) : Prop where
  ordered : q'.BandOrdered
  absorbs : call.isControl = true → Absorbs HubCall.Joins (controls q) call (controls q')
  skips : call.isControl = false → controls q' = controls q

theorem accepts_pushControl {call : HubCall} (h : q.BandOrdered)
    (hop : isBackgroundOp op.type = false) (hcall : op.dispatch = call)
    (hcontrol : call.isControl = true) : Accepts q (q.pushControl op) call where
  ordered := h.pushControl hop
  absorbs _ := by
    rw [controls_pushControl h (by rw [hcall, hcontrol]), hcall]
    exact .push (controls q) call
  skips hskip := by
    rw [hcontrol] at hskip
    cases hskip

theorem accepts_rewriteFirst {type : PendingOperationType} {deviceId : DeviceId}
    {f : PendingOperation → PendingOperation} {call : HubCall} (h : q.BandOrdered)
    (hq : rewriteFirst type deviceId f q = some q') (hcontrol : call.isControl = true)
    (hf : ∀ o : PendingOperation, o.type = type → o.deviceId = deviceId →
      isBackgroundOp (f o).type = isBackgroundOp o.type ∧ o.dispatch.isControl = true ∧
        (f o).dispatch.isControl = true ∧ HubCall.Joins o.dispatch call (f o).dispatch) :
    Accepts q q' call := by
  obtain ⟨p, o, r, rfl, htype, hid, rfl⟩ := rewriteFirst_eq_some hq
  obtain ⟨hsame, hwaiting, hmerged, hjoin⟩ := hf o htype hid
  refine ⟨h.rewrite hsame, fun _ => ?_, fun hskip => ?_⟩
  · simp only [controls_append, controls_cons, hwaiting, hmerged, if_true]
    exact .join (controls p) (controls r) hjoin
  · rw [hcontrol] at hskip
    cases hskip

theorem accepts_enqueueSetPosition (h : q.BandOrdered) (deviceId : DeviceId) (position : UInt8) :
    Accepts q (q.enqueueSetPosition deviceId position).1
      (.setDevicePosition deviceId position) := by
  cases coalesced_enqueueSetPosition q deviceId position with
  | merged hq =>
    refine accepts_rewriteFirst h hq rfl fun o htype hid => ⟨?_, ?_, rfl, ?_⟩
    · rw [htype]
      rfl
    · simp [PendingOperation.dispatch, htype, HubCall.isControl]
    · simp only [PendingOperation.dispatch, htype, hid]
      exact .position deviceId position o.position
  | pushed _ hq =>
    rw [hq]
    exact accepts_pushControl h rfl rfl rfl

theorem accepts_enqueueSetTilt (h : q.BandOrdered) (deviceId : DeviceId) (tiltPercent : UInt8) :
    Accepts q (q.enqueueSetTilt deviceId tiltPercent).1 (.setDeviceTilt deviceId tiltPercent) := by
  cases coalesced_enqueueSetTilt q deviceId tiltPercent with
  | merged hq =>
    refine accepts_rewriteFirst h hq rfl fun o htype hid => ⟨?_, ?_, rfl, ?_⟩
    · rw [htype]
      rfl
    · simp [PendingOperation.dispatch, htype, HubCall.isControl]
    · simp only [PendingOperation.dispatch, htype, hid]
      exact .tilt deviceId o.position tiltPercent
  | pushed _ hq =>
    rw [hq]
    exact accepts_pushControl h rfl rfl rfl

theorem accepts_enqueueBackground {type : PendingOperationType} {call : HubCall}
    (h : q.BandOrdered) (deviceId : DeviceId) (htype : isBackgroundOp type = true)
    (hcall : call.isControl = false) : Accepts q (q.enqueueBackground type deviceId).1 call := by
  have hskip : controls (q.enqueueBackground type deviceId).1 = controls q := by
    unfold enqueueBackground
    split_ifs
    · rfl
    · have hnone : ({ type, deviceId } : PendingOperation).dispatch.isControl = false :=
        isControl_dispatch_of_background htype
      simp [hnone]
  refine ⟨?_, fun hcontrol => ?_, fun _ => hskip⟩
  · unfold enqueueBackground
    split_ifs
    · exact h
    · exact List.pairwise_append.2 ⟨h, List.pairwise_singleton _ _, by simp [htype]⟩
  · rw [hcall] at hcontrol
    cases hcontrol

/-- The flush takes background entries only, and the front is no background entry. -/
theorem accepts_enqueueDiscoverAndPair (h : q.BandOrdered) :
    Accepts q q.enqueueDiscoverAndPair.1 .discoverAndPair := by
  refine ⟨?_, fun hcontrol => ?_, fun _ => ?_⟩
  · unfold enqueueDiscoverAndPair
    split_ifs
    · exact h
    · exact List.pairwise_cons.2 ⟨fun b _ hbg => (Bool.false_ne_true hbg).elim, h.filter _⟩
  · cases hcontrol
  · unfold enqueueDiscoverAndPair
    split_ifs
    · rfl
    · dsimp only
      rw [controls_cons, if_neg (by simp [PendingOperation.dispatch, HubCall.isControl])]
      exact controls_filter fun o _ ho => (Bool.not_eq_false' _).mp ho

theorem accepts_enqueue (h : q.BandOrdered) (call : HubCall) : Accepts q (q.enqueue call) call := by
  cases call with
  | setDevicePosition deviceId position => exact accepts_enqueueSetPosition h deviceId position
  | setDeviceTilt deviceId tiltPercent => exact accepts_enqueueSetTilt h deviceId tiltPercent
  | setDevicePositionAndTilt deviceId position tiltPercent =>
    exact accepts_pushControl h rfl rfl rfl
  | executeDeviceCommand deviceId cmd => exact accepts_pushControl h rfl rfl rfl
  | setLightState deviceId on => cases on <;> exact accepts_pushControl h rfl rfl rfl
  | setLockState deviceId locked => cases locked <;> exact accepts_pushControl h rfl rfl rfl
  | setSwitchState deviceId on => cases on <;> exact accepts_pushControl h rfl rfl rfl
  | requestDeviceStatus deviceId => exact accepts_enqueueBackground h deviceId rfl rfl
  | requestDeviceName deviceId => exact accepts_enqueueBackground h deviceId rfl rfl
  | discoverAndPair => exact accepts_enqueueDiscoverAndPair h

/-! ## Runs -/

inductive Event
  | enqueue (call : HubCall)
  | pop
  deriving DecidableEq, Repr

/-- The queue, and what was popped from it. -/
structure History where
  queue : OperationQueue := []
  popped : List PendingOperation := []

namespace History

def step (s : History) : Event → History
  | .enqueue call => { s with queue := s.queue.enqueue call }
  | .pop =>
    match s.queue.pop with
    | none => s
    | some (op, rest) => { queue := rest, popped := s.popped ++ [op] }

/-- The control calls of the operations popped during the run and while draining. -/
def delivered (s : History) : List HubCall := controls (s.popped ++ s.queue.popAll)

end History

def Event.control? : Event → Option HubCall
  | .enqueue call => if call.isControl then some call else none
  | .pop => none

/-- The control requests of a run, in order. -/
def requested (events : List Event) : List HubCall := events.filterMap Event.control?

def history (events : List Event) : History := GuardedRun.run History.step {} events

theorem history_concat (events : List Event) (e : Event) :
    history (events ++ [e]) = (history events).step e := by
  simp [history, GuardedRun.run]

theorem delivered_eq (s : History) : s.delivered = controls s.popped ++ controls s.queue := by
  rw [History.delivered, popAll_eq, controls_append]

/-- The bands stay in order, and popped and queued operations together serve the requests. -/
theorem history_delivers (events : List Event) :
    (history events).queue.BandOrdered ∧
      Delivers HubCall.Joins (requested events) (history events).delivered := by
  induction events using List.reverseRecOn with
  | nil =>
    have hnone : (history []).delivered = [] := by rw [delivered_eq]; rfl
    refine ⟨.nil, ?_⟩
    rw [hnone]
    exact delivers_nil
  | append_singleton events e ih =>
    obtain ⟨hordered, hdelivers⟩ := ih
    rw [history_concat]
    cases e with
    | enqueue call =>
      have haccepts := accepts_enqueue hordered call
      refine ⟨haccepts.ordered, ?_⟩
      rw [delivered_eq] at hdelivers
      -- a control request is absorbed by the queue, anything else moves no control request
      cases hcontrol : call.isControl with
      | true =>
        have hrequested : requested (events ++ [.enqueue call]) = requested events ++ [call] := by
          simp [requested, Event.control?, hcontrol]
        rw [hrequested, delivered_eq]
        exact hdelivers.absorb ((haccepts.absorbs hcontrol).append_left _)
      | false =>
        have hrequested : requested (events ++ [.enqueue call]) = requested events := by
          simp [requested, Event.control?, hcontrol]
        rw [hrequested, delivered_eq]
        simpa only [History.step, haccepts.skips hcontrol] using hdelivers
    | pop =>
      have hrequested : requested (events ++ [.pop]) = requested events := by
        simp [requested, Event.control?]
      rw [hrequested]
      generalize history events = s at hordered hdelivers
      obtain ⟨queue, popped⟩ := s
      cases queue with
      | nil => exact ⟨hordered, hdelivers⟩
      | cons op rest =>
        -- the popped operation moves from the queue's front to the end of those popped
        refine ⟨(List.pairwise_cons.1 hordered).2, ?_⟩
        simpa [History.step, pop, History.delivered, popAll_eq] using hdelivers

/-- Every control request is delivered once: alone, in the order of the requests, or as one half
of a position and tilt call. -/
theorem control_requests_delivered_once (events : List Event) :
    ∃ served : List (List HubCall),
      List.Forall₂ HubCall.Carries served (history events).delivered ∧
      served.flatten.Perm (requested events) ∧
      ((history events).delivered.flatMap HubCall.writes).Perm
        ((requested events).flatMap HubCall.writes) ∧
      (served.filter fun rs => rs.length = 1).flatten.Sublist (requested events) := by
  have hdelivers := (history_delivers events).2
  have hwrites := hdelivers.perm_flatMap fun h => HubCall.perm_writes_of_joins h
  obtain ⟨served, hserves, hperm, halone⟩ := hdelivers
  exact ⟨served, hserves.imp fun _ _ => HubCall.carries_of_serves, hperm, hwrites, halone⟩

end OperationQueue

end HomeIoControl
