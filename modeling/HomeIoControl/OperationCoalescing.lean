import HomeIoControl.OperationQueue
import Mathlib.Data.List.TakeWhile

namespace HomeIoControl
open CoalescingQueue

/-! ## What a sequence of calls leaves in force -/

/-- The last position target, the last tilt target, and whether a named command came after the
last position write. -/
structure CommandsInForce where
  position : Option UInt8 := none
  tilt : Option UInt8 := none
  commandAfterPosition : Bool := false
  deriving DecidableEq, Repr

namespace CommandsInForce

def writePosition (s : CommandsInForce) (position : UInt8) : CommandsInForce :=
  { s with position := some position, commandAfterPosition := false }

def writeTilt (s : CommandsInForce) (tiltPercent : UInt8) : CommandsInForce :=
  { s with tilt := some tiltPercent }

/-- The effect on one device. Binary entities are driven through position writes. -/
def step (deviceId : DeviceId) (s : CommandsInForce) : HubCall → CommandsInForce
  | .setDevicePosition id position => if id = deviceId then s.writePosition position else s
  | .setDeviceTilt id tiltPercent => if id = deviceId then s.writeTilt tiltPercent else s
  | .setDevicePositionAndTilt id position tiltPercent =>
    if id = deviceId then (s.writePosition position).writeTilt tiltPercent else s
  | .executeDeviceCommand id _ =>
    if id = deviceId then { s with commandAfterPosition := true } else s
  | .setLightState id on | .setSwitchState id on =>
    if id = deviceId then
      s.writePosition (if on then binaryEntityOnPosition else binaryEntityOffPosition)
    else s
  | .setLockState id locked =>
    if id = deviceId then
      s.writePosition (if locked then binaryEntityOffPosition else binaryEntityOnPosition)
    else s
  | .requestDeviceStatus _ | .requestDeviceName _ | .discoverAndPair => s

end CommandsInForce

def commandsInForce (deviceId : DeviceId) (calls : List HubCall) : CommandsInForce :=
  calls.foldl (CommandsInForce.step deviceId) {}

/-! ## Requests for one cover -/

/-- A position, tilt or named-command request for one device. -/
inductive ControlRequest
  | setPosition (position : UInt8)
  | setTilt (tiltPercent : UInt8)
  | setPositionAndTilt (position tiltPercent : UInt8)
  | deviceCommand (cmd : CoverCommand)
  deriving DecidableEq, Repr

namespace ControlRequest

def enqueue (deviceId : DeviceId) (q : OperationQueue) : ControlRequest → OperationQueue
  | setPosition position => (q.enqueueSetPosition deviceId position).1
  | setTilt tiltPercent => (q.enqueueSetTilt deviceId tiltPercent).1
  | setPositionAndTilt position tiltPercent =>
    q.enqueueSetPositionAndTilt deviceId position tiltPercent
  | deviceCommand cmd => q.enqueueDeviceCommand deviceId cmd

/-- The call that serves a request on its own. -/
def call (deviceId : DeviceId) : ControlRequest → HubCall
  | setPosition position => .setDevicePosition deviceId position
  | setTilt tiltPercent => .setDeviceTilt deviceId tiltPercent
  | setPositionAndTilt position tiltPercent =>
    .setDevicePositionAndTilt deviceId position tiltPercent
  | deviceCommand cmd => .executeDeviceCommand deviceId cmd

def entry : ControlRequest → Entry UInt8 UInt8 CoverCommand
  | setPosition position => .left position
  | setTilt tiltPercent => .right tiltPercent
  | setPositionAndTilt position tiltPercent => .both position tiltPercent
  | deviceCommand cmd => .other cmd

end ControlRequest

/-- The queue after a sequence of requests for one device. -/
def enqueueAll (deviceId : DeviceId) (rs : List ControlRequest) : OperationQueue :=
  rs.foldl (ControlRequest.enqueue deviceId) []

/-- The calls that draining the queue makes. -/
def queuedCalls (deviceId : DeviceId) (rs : List ControlRequest) : List HubCall :=
  (enqueueAll deviceId rs).popAll.map PendingOperation.dispatch

/-- The calls that serving every request at once makes. -/
def directCalls (deviceId : DeviceId) (rs : List ControlRequest) : List HubCall :=
  rs.map (ControlRequest.call deviceId)

/-! ## The queue of one device is a coalescing queue -/

/-- The queued operation an abstract entry stands for. -/
def operation (deviceId : DeviceId) : Entry UInt8 UInt8 CoverCommand → PendingOperation
  | .left position => { type := .setPosition, deviceId, position }
  | .right tiltPercent => { type := .setTilt, deviceId, position := tiltPercent }
  | .both position tiltPercent =>
    { type := .setPositionAndTilt, deviceId, position, tilt := tiltPercent }
  | .other cmd => { type := .deviceCommand, deviceId, command := cmd }

@[simp] theorem isBackgroundOp_operation (deviceId : DeviceId)
    (e : Entry UInt8 UInt8 CoverCommand) :
    OperationQueue.isBackgroundOp (operation deviceId e).type = false := by
  cases e <;> rfl

@[simp] theorem isPendingStatus_operation (deviceId id : DeviceId)
    (e : Entry UInt8 UInt8 CoverCommand) :
    OperationQueue.isPendingStatus id (operation deviceId e) = false := by
  cases e <;> rfl

theorem pushControl_operation (deviceId : DeviceId) (q : List (Entry UInt8 UInt8 CoverCommand))
    (op : PendingOperation) :
    OperationQueue.pushControl (q.map (operation deviceId)) op =
      q.map (operation deviceId) ++ [op] := by
  have hkept : (q.map (operation deviceId)).filter
      (fun existing => !OperationQueue.isPendingStatus op.deviceId existing) =
      q.map (operation deviceId) := by
    simp [List.filter_eq_self]
  have htake : (q.map (operation deviceId)).takeWhile
      (fun o => !OperationQueue.isBackgroundOp o.type) = q.map (operation deviceId) := by
    simp [List.takeWhile_eq_self_iff]
  have hdrop : (q.map (operation deviceId)).dropWhile
      (fun o => !OperationQueue.isBackgroundOp o.type) = [] := by
    simp [List.dropWhile_eq_nil_iff]
  rw [OperationQueue.pushControl]
  simp only [hkept, htake, hdrop]

theorem rewriteFirst_setTilt (deviceId : DeviceId) (position : UInt8)
    (q : List (Entry UInt8 UInt8 CoverCommand)) :
    OperationQueue.rewriteFirst .setTilt deviceId
      (fun op => { op with type := .setPositionAndTilt, position := position, tilt := op.position })
      (q.map (operation deviceId)) =
      (joinRight position q).map (List.map (operation deviceId)) := by
  induction q with
  | nil => rfl
  | cons e q ih =>
    cases e <;> simp [OperationQueue.rewriteFirst, operation, joinRight, Function.comp_def, ih]

theorem rewriteFirst_setPosition (deviceId : DeviceId) (tiltPercent : UInt8)
    (q : List (Entry UInt8 UInt8 CoverCommand)) :
    OperationQueue.rewriteFirst .setPosition deviceId
      (fun op => { op with type := .setPositionAndTilt, tilt := tiltPercent })
      (q.map (operation deviceId)) =
      (joinLeft tiltPercent q).map (List.map (operation deviceId)) := by
  induction q with
  | nil => rfl
  | cons e q ih =>
    cases e <;> simp [OperationQueue.rewriteFirst, operation, joinLeft, Function.comp_def, ih]

theorem enqueue_operation (deviceId : DeviceId) (q : List (Entry UInt8 UInt8 CoverCommand))
    (r : ControlRequest) :
    r.enqueue deviceId (q.map (operation deviceId)) =
      (CoalescingQueue.enqueue q r.entry).map (operation deviceId) := by
  cases r with
  | setPosition position =>
    simp only [ControlRequest.enqueue, ControlRequest.entry, OperationQueue.enqueueSetPosition,
      rewriteFirst_setTilt, CoalescingQueue.enqueue]
    cases joinRight position q <;> simp [pushControl_operation, operation]
  | setTilt tiltPercent =>
    simp only [ControlRequest.enqueue, ControlRequest.entry, OperationQueue.enqueueSetTilt,
      rewriteFirst_setPosition, CoalescingQueue.enqueue]
    cases joinLeft tiltPercent q <;> simp [pushControl_operation, operation]
  | setPositionAndTilt position tiltPercent =>
    simp [ControlRequest.enqueue, ControlRequest.entry,
      OperationQueue.enqueueSetPositionAndTilt, pushControl_operation, operation]
  | deviceCommand cmd =>
    simp [ControlRequest.enqueue, ControlRequest.entry, OperationQueue.enqueueDeviceCommand,
      pushControl_operation, operation]

theorem enqueueAll_eq (deviceId : DeviceId) (rs : List ControlRequest) :
    enqueueAll deviceId rs =
      (run (rs.map ControlRequest.entry)).map (operation deviceId) := by
  induction rs using List.reverseRecOn with
  | nil => rfl
  | append_singleton rs r ih =>
    rw [List.map_append, List.map_singleton, run_concat, ← enqueue_operation, ← ih]
    simp [enqueueAll]

theorem commandsInForce_append (deviceId : DeviceId) (cs : List HubCall) (c : HubCall) :
    commandsInForce deviceId (cs ++ [c]) =
      (commandsInForce deviceId cs).step deviceId c := by
  simp [commandsInForce]

/-- The commands in force are the last values that the entries write. -/
theorem commandsInForce_operation (deviceId : DeviceId)
    (es : List (Entry UInt8 UInt8 CoverCommand)) :
    commandsInForce deviceId (es.map fun e => (operation deviceId e).dispatch) =
      { position := lastLeft es, tilt := lastRight es,
        commandAfterPosition := otherAfterLeft es } := by
  induction es using List.reverseRecOn with
  | nil => rfl
  | append_singleton es e ih =>
    rw [List.map_append, List.map_singleton, commandsInForce_append, ih, lastLeft_append,
      lastRight_append, otherAfterLeft_append]
    cases e <;>
      simp [operation, PendingOperation.dispatch, CommandsInForce.step,
        CommandsInForce.writePosition, CommandsInForce.writeTilt, lastLeft, lastRight,
        otherAfterLeft, Entry.left?, Entry.swap]

theorem dispatch_operation_entry (deviceId : DeviceId) (r : ControlRequest) :
    (operation deviceId r.entry).dispatch = r.call deviceId := by
  cases r <;> rfl

/-- Merging a request into an earlier entry overtakes no request that was to win over it: no
position+tilt request with another value lies in between, and named commands that lie in between
are followed by one that does not. -/
def CoalescingKept (rs : List ControlRequest) : Prop :=
  LastLeftKept (rs.map ControlRequest.entry) ∧ LastRightKept (rs.map ControlRequest.entry) ∧
    OtherAfterKept (rs.map ControlRequest.entry)

theorem coalescing_preserves_last_writer_iff (deviceId : DeviceId) (rs : List ControlRequest) :
    commandsInForce deviceId (queuedCalls deviceId rs) =
      commandsInForce deviceId (directCalls deviceId rs) ↔ CoalescingKept rs := by
  have hqueued : queuedCalls deviceId rs =
      (run (rs.map ControlRequest.entry)).map fun e => (operation deviceId e).dispatch := by
    simp [queuedCalls, OperationQueue.popAll_eq, enqueueAll_eq]
  have hdirect : directCalls deviceId rs =
      (rs.map ControlRequest.entry).map fun e => (operation deviceId e).dispatch := by
    simp [directCalls, dispatch_operation_entry]
  rw [hqueued, hdirect, commandsInForce_operation, commandsInForce_operation,
    CommandsInForce.mk.injEq, lastLeft_run_iff, lastRight_run_iff, otherAfterLeft_run_iff]
  rfl

/-- A STOP between a tilt and the position that joins it is overtaken. -/
theorem stop_overtaken_by_coalesced_position :
    commandsInForce "123ABC"
        (queuedCalls "123ABC" [.setTilt 30, .deviceCommand .stop, .setPosition 50]) ≠
      commandsInForce "123ABC"
        (directCalls "123ABC" [.setTilt 30, .deviceCommand .stop, .setPosition 50]) := by
  simp only [queuedCalls, OperationQueue.popAll_eq]
  decide

end HomeIoControl
