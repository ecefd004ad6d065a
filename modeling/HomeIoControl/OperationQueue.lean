import HomeIoControl.CoalescingQueue
import HomeIoControl.DeviceModel

namespace HomeIoControl

/-- Device IDs are the uppercase hex strings of node IDs. -/
abbrev DeviceId := String

inductive PendingOperationType
  | setPosition
  | setTilt
  | setPositionAndTilt
  | deviceCommand
  | setLightState
  | setLockState
  | setSwitchState
  | requestStatus
  | requestName
  | discoverAndPair
  deriving DecidableEq, Repr

/-- A queued operation. A standalone tilt keeps its value in `position`. -/
structure PendingOperation where
  type : PendingOperationType
  deviceId : DeviceId
  position : UInt8 := 0
  tilt : UInt8 := 0
  command : CoverCommand := .stop
  deriving DecidableEq, Repr

abbrev OperationQueue := List PendingOperation

def binaryEntityOnPosition : UInt8 := 0
def binaryEntityOffPosition : UInt8 := 100

namespace OperationQueue

def isBackgroundOp (t : PendingOperationType) : Bool := t == .requestStatus || t == .requestName

def isPendingStatus (deviceId : DeviceId) (op : PendingOperation) : Bool :=
  op.type == .requestStatus && op.deviceId == deviceId

/-- Drops the device's stale status polls and inserts before the first background entry. -/
def pushControl (q : OperationQueue) (op : PendingOperation) : OperationQueue :=
  let kept := q.filter fun existing => !isPendingStatus op.deviceId existing
  kept.takeWhile (fun o => !isBackgroundOp o.type) ++
    op :: kept.dropWhile (fun o => !isBackgroundOp o.type)

/-- Rewrites the first entry of the given type and device in place. -/
def rewriteFirst (type : PendingOperationType) (deviceId : DeviceId)
    (f : PendingOperation → PendingOperation) : OperationQueue → Option OperationQueue
  | [] => none
  | op :: q =>
    -- whatever was queued after it
    if op.type = type ∧ op.deviceId = deviceId then some (f op :: q)
    else (rewriteFirst type deviceId f q).map (op :: ·)

/-- Returns whether the request was merged with a pending tilt. -/
def enqueueSetPosition (q : OperationQueue) (deviceId : DeviceId) (position : UInt8) :
    OperationQueue × Bool :=
  let merge op : PendingOperation :=
    { op with type := .setPositionAndTilt, position := position, tilt := op.position }
  match rewriteFirst .setTilt deviceId merge q with
  | some q' => (q', true)
  | none => (pushControl q { type := .setPosition, deviceId, position }, false)

/-- Returns whether the request was merged with a pending position. -/
def enqueueSetTilt (q : OperationQueue) (deviceId : DeviceId) (tiltPercent : UInt8) :
    OperationQueue × Bool :=
  let merge op : PendingOperation := { op with type := .setPositionAndTilt, tilt := tiltPercent }
  match rewriteFirst .setPosition deviceId merge q with
  | some q' => (q', true)
  | none => (pushControl q { type := .setTilt, deviceId, position := tiltPercent }, false)

def enqueueSetPositionAndTilt (q : OperationQueue) (deviceId : DeviceId)
    (position tiltPercent : UInt8) : OperationQueue :=
  pushControl q { type := .setPositionAndTilt, deviceId, position, tilt := tiltPercent }

def enqueueDeviceCommand (q : OperationQueue) (deviceId : DeviceId) (cmd : CoverCommand) :
    OperationQueue :=
  pushControl q { type := .deviceCommand, deviceId, command := cmd }

/-- Light, lock and switch requests are one binary position write each. -/
def enqueueBinary (type : PendingOperationType) (q : OperationQueue) (deviceId : DeviceId)
    (toOn : Bool) : OperationQueue :=
  let position := if toOn then binaryEntityOnPosition else binaryEntityOffPosition
  pushControl q { type, deviceId, position }

def enqueueSetLightState (q : OperationQueue) (deviceId : DeviceId) (on : Bool) : OperationQueue :=
  enqueueBinary .setLightState q deviceId on

/-- Locking writes the off position. -/
def enqueueSetLockState (q : OperationQueue) (deviceId : DeviceId) (locked : Bool) :
    OperationQueue :=
  enqueueBinary .setLockState q deviceId !locked

def enqueueSetSwitchState (q : OperationQueue) (deviceId : DeviceId) (on : Bool) :
    OperationQueue :=
  enqueueBinary .setSwitchState q deviceId on

/-- Background polls go to the end, once per type and device. -/
def enqueueBackground (type : PendingOperationType) (q : OperationQueue) (deviceId : DeviceId) :
    OperationQueue × Bool :=
  if q.any fun op => op.type == type && op.deviceId == deviceId then (q, false)
  else (q ++ [{ type := type, deviceId }], true)

def enqueueRequestStatus (q : OperationQueue) (deviceId : DeviceId) : OperationQueue × Bool :=
  enqueueBackground .requestStatus q deviceId

def enqueueRequestName (q : OperationQueue) (deviceId : DeviceId) : OperationQueue × Bool :=
  enqueueBackground .requestName q deviceId

/-- Discovery flushes the background polls and goes first. -/
def enqueueDiscoverAndPair (q : OperationQueue) : OperationQueue × Bool :=
  if q.any fun op => op.type == .discoverAndPair then (q, false)
  else
    let kept := q.filter fun op => !(op.type == .requestStatus || op.type == .requestName)
    ({ type := .discoverAndPair, deviceId := "" } :: kept, true)

def pop : OperationQueue → Option (PendingOperation × OperationQueue)
  | [] => none
  | op :: q => some (op, q)

/-- The operations in the order in which repeated pops return them. -/
def popAll (q : OperationQueue) : List PendingOperation :=
  match h : pop q with
  | none => []
  | some (op, q') =>
    have : q'.length < q.length := by
      cases q with
      | nil => simp [pop] at h
      | cons d q =>
        obtain ⟨-, rfl⟩ : d = op ∧ q = q' := by simpa [pop] using h
        simp
    op :: popAll q'
termination_by q.length

theorem popAll_eq (q : OperationQueue) : popAll q = q := by
  induction q with
  | nil => rw [popAll]; rfl
  | cons op q ih => rw [popAll]; simp [pop, ih]

/-- A rewrite touches one entry of its type and device. -/
theorem rewriteFirst_eq_some {q q' : OperationQueue} {type : PendingOperationType}
    {deviceId : DeviceId} {f : PendingOperation → PendingOperation}
    (h : rewriteFirst type deviceId f q = some q') :
    ∃ p o r, q = p ++ o :: r ∧ o.type = type ∧ o.deviceId = deviceId ∧ q' = p ++ f o :: r := by
  induction q generalizing q' with
  | nil => cases h
  | cons d q ih =>
    rw [rewriteFirst] at h
    split_ifs at h with hfirst
    · exact ⟨[], d, q, rfl, hfirst.1, hfirst.2, (Option.some.inj h).symm⟩
    · obtain ⟨rest, hrest, rfl⟩ := Option.map_eq_some_iff.1 h
      obtain ⟨p, o, r, rfl, htype, hid, rfl⟩ := ih hrest
      exact ⟨d :: p, o, r, rfl, htype, hid, rfl⟩

/-- A movement of one axis is merged with the pending one of the other axis, or queued. -/
inductive Coalesced (q q' : OperationQueue) (other : PendingOperationType)
    (merge : PendingOperation → PendingOperation) (op : PendingOperation) : Prop
  | merged (h : rewriteFirst other op.deviceId merge q = some q')
  | pushed (h : rewriteFirst other op.deviceId merge q = none) (hq : q' = pushControl q op)

theorem coalesced_enqueueSetPosition (q : OperationQueue) (deviceId : DeviceId)
    (position : UInt8) :
    Coalesced q (q.enqueueSetPosition deviceId position).1 .setTilt
      (fun op => { op with type := .setPositionAndTilt, position := position, tilt := op.position })
      { type := .setPosition, deviceId, position } := by
  unfold enqueueSetPosition
  dsimp only
  split
  · rename_i hmerged
    exact .merged hmerged
  · rename_i hpushed
    exact .pushed hpushed rfl

theorem coalesced_enqueueSetTilt (q : OperationQueue) (deviceId : DeviceId)
    (tiltPercent : UInt8) :
    Coalesced q (q.enqueueSetTilt deviceId tiltPercent).1 .setPosition
      (fun op => { op with type := .setPositionAndTilt, tilt := tiltPercent })
      { type := .setTilt, deviceId, position := tiltPercent } := by
  unfold enqueueSetTilt
  dsimp only
  split
  · rename_i hmerged
    exact .merged hmerged
  · rename_i hpushed
    exact .pushed hpushed rfl

theorem mem_pushControl {q : OperationQueue} {op o : PendingOperation} :
    o ∈ q.pushControl op ↔ o = op ∨ o ∈ q ∧ isPendingStatus op.deviceId o = false := by
  unfold pushControl
  dsimp only
  generalize hkept : q.filter (fun existing => !isPendingStatus op.deviceId existing) = kept
  have hmem : o ∈ kept ↔ o ∈ q ∧ isPendingStatus op.deviceId o = false := by
    simp [← hkept]
  rw [List.mem_append, List.mem_cons, ← hmem]
  conv_rhs => rw [← List.takeWhile_append_dropWhile (p := fun o => !isBackgroundOp o.type)
    (l := kept), List.mem_append]
  tauto

end OperationQueue

/-! ## Dispatch -/

/-- The handler a queued operation is dispatched to. -/
inductive HubCall
  | setDevicePosition (deviceId : DeviceId) (position : UInt8)
  | setDeviceTilt (deviceId : DeviceId) (tiltPercent : UInt8)
  | setDevicePositionAndTilt (deviceId : DeviceId) (position tiltPercent : UInt8)
  | executeDeviceCommand (deviceId : DeviceId) (cmd : CoverCommand)
  | setLightState (deviceId : DeviceId) (on : Bool)
  | setLockState (deviceId : DeviceId) (locked : Bool)
  | setSwitchState (deviceId : DeviceId) (on : Bool)
  | requestDeviceStatus (deviceId : DeviceId)
  | requestDeviceName (deviceId : DeviceId)
  | discoverAndPair
  deriving DecidableEq, Repr

/-- The switch of the pending-operation handler. -/
def PendingOperation.dispatch (operation : PendingOperation) : HubCall :=
  match operation.type with
  | .setPosition => .setDevicePosition operation.deviceId operation.position
  | .setTilt => .setDeviceTilt operation.deviceId operation.position
  | .setPositionAndTilt =>
    .setDevicePositionAndTilt operation.deviceId operation.position operation.tilt
  | .deviceCommand => .executeDeviceCommand operation.deviceId operation.command
  | .setLightState =>
    .setLightState operation.deviceId (operation.position == binaryEntityOnPosition)
  | .setLockState =>
    .setLockState operation.deviceId (operation.position == binaryEntityOffPosition)
  | .setSwitchState =>
    .setSwitchState operation.deviceId (operation.position == binaryEntityOnPosition)
  | .requestStatus => .requestDeviceStatus operation.deviceId
  | .requestName => .requestDeviceName operation.deviceId
  | .discoverAndPair => .discoverAndPair

end HomeIoControl
