import HomeIoControl.DeviceRegistry
import HomeIoControl.GuardedRun

namespace HomeIoControl
open GuardedRun

def binaryEntityOnPositionThreshold : ℚ := 50

/-- A settled status with a known position, of the entity's own device. -/
def passesBinaryUpdateFilter (deviceId id : DeviceId) (dev : IoDevice) : Bool :=
  id == deviceId && dev.position != unknownPosition && dev.isStopped

/-! ## The entity -/

/-- What the entity uses of the light that the framework keeps for it. -/
structure LightState where
  currentOn : Bool
  remoteOn : Bool
  pending : Bool
  deriving DecidableEq, Repr

/-- A call is written out in the next iteration of the main loop. -/
def LightState.call (on : Bool) (_ : LightState) : LightState :=
  { currentOn := on, remoteOn := on, pending := true }

/-- The entity with the calls of `queue_set_light_state` that it has made. -/
structure IoHomeLight where
  deviceId : DeviceId
  state : Option LightState
  suppressWrite : Bool := false
  queued : List (DeviceId × Bool) := []
  deriving DecidableEq, Repr

namespace IoHomeLight

def writeState (light : IoHomeLight) (state : LightState) : IoHomeLight :=
  if light.suppressWrite then { light with suppressWrite := false }
  else { light with queued := light.queued ++ [(light.deviceId, state.currentOn)] }

/-- The state that a device reports. Binary endpoints use the position for it. -/
def reportedOn (dev : IoDevice) : Bool := decide (dev.position < binaryEntityOnPositionThreshold)

def onDeviceUpdate (light : IoHomeLight) (id : DeviceId) (dev : IoDevice) : IoHomeLight :=
  match light.state with
  | none => light
  | some state =>
    if !passesBinaryUpdateFilter light.deviceId id dev then light
    else
      let on := reportedOn dev
      if state.currentOn == on && state.remoteOn == on then light
      else { light with suppressWrite := true, state := some (state.call on) }

/-- A call by the user. -/
def call (light : IoHomeLight) (on : Bool) : IoHomeLight :=
  { light with state := light.state.map (LightState.call on) }

/-- An iteration of the main loop writes once if a call is pending. -/
def loop (light : IoHomeLight) : IoHomeLight :=
  match light.state with
  | none => light
  | some state =>
    if state.pending then
      let state := { state with pending := false }
      { light with state := some state }.writeState state
    else light

end IoHomeLight

/-! ## Runs -/

inductive LightEvent
  | update (id : DeviceId) (dev : IoDevice)
  | call (on : Bool)
  | loop

/-- A user's call with the state that the device had last reported. -/
structure LightRequest where
  on : Bool
  reported : Option Bool
  deriving DecidableEq

/-- The entity in a run, with what the device last reported, the last call since the last iteration
and whether an update since then changed what the light shows. -/
structure LightRun where
  light : IoHomeLight
  reported : Option Bool := none
  asked : Option LightRequest := none
  changed : Bool := false

namespace LightRun

/-- The device reports a state that the light does not show. -/
def Changes (light : IoHomeLight) (id : DeviceId) (dev : IoDevice) : Prop :=
  passesBinaryUpdateFilter light.deviceId id dev = true ∧
    ∃ state ∈ light.state, ¬ (state.currentOn = IoHomeLight.reportedOn dev ∧
      state.remoteOn = IoHomeLight.reportedOn dev)

instance (light : IoHomeLight) (id : DeviceId) (dev : IoDevice) :
    Decidable (Changes light id dev) :=
  inferInstanceAs (Decidable (_ ∧ ∃ state ∈ light.state, _))

def step (s : LightRun) : LightEvent → LightRun
  | .update id dev =>
    { s with
      light := s.light.onDeviceUpdate id dev
      reported :=
        if passesBinaryUpdateFilter s.light.deviceId id dev then
          some (IoHomeLight.reportedOn dev)
        else s.reported
      changed := s.changed || decide (Changes s.light id dev) }
  | .call on =>
    { s with
      light := s.light.call on
      asked := if s.light.state.isSome then some { on, reported := s.reported } else s.asked }
  | .loop => { s with light := s.light.loop, asked := none, changed := false }

/-- An entity that has no call to write. -/
def start (deviceId : DeviceId) (state : Option LightState) : LightRun where
  light :=
    { deviceId, state := state.map fun state => { state with pending := false } }

end LightRun

/-- The report that a request is compared with: the one at the call or the one at its iteration. -/
inductive LightComparison
  | whenCalled
  | whenWritten

def LightRequest.Differs (request : LightRequest) (reported : Option Bool) :
    LightComparison → Prop
  | .whenCalled => request.reported ≠ some request.on
  | .whenWritten => reported ≠ some request.on

/-! ## Echoes and requests -/

namespace LightRun

variable (comparison : LightComparison)

/-- An iteration queues the request it is due if that differs from the report, and nothing without
a request. Updates and calls queue nothing by themselves. -/
def WritesRequests (s : LightRun) : LightEvent → Prop
  | .loop =>
    (∀ request, s.asked = some request → request.Differs s.reported comparison →
        s.light.loop.queued = s.light.queued ++ [(s.light.deviceId, request.on)]) ∧
      (s.asked = none → s.light.loop.queued = s.light.queued)
  | .update id dev => (s.light.onDeviceUpdate id dev).queued = s.light.queued
  | .call on => (s.light.call on).queued = s.light.queued

/-- No update changed what the light shows while the request was due. -/
def Undisturbed (s : LightRun) : LightEvent → Prop
  | .loop => ∀ request, s.asked = some request → request.Differs s.reported comparison →
      s.changed = false
  | .update _ _ | .call _ => True

/-- The flag stands for a change by an update, and only calls and changes are pending. -/
structure Inv (s : LightRun) : Prop where
  suppress_eq : s.light.suppressWrite = s.changed
  pending_iff : ∀ state ∈ s.light.state,
    state.pending = true ↔ s.asked.isSome = true ∨ s.changed = true
  detached : s.light.state = none → s.asked = none ∧ s.changed = false
  shown : ∀ request state, s.asked = some request → state ∈ s.light.state → s.changed = false →
    state.currentOn = request.on

theorem inv_start (deviceId : DeviceId) (state : Option LightState) :
    (start deviceId state).Inv where
  suppress_eq := rfl
  pending_iff := by
    intro state' hstate
    obtain ⟨-, -, rfl⟩ := Option.map_eq_some_iff.1 hstate
    simp [start]
  detached _ := ⟨rfl, rfl⟩
  shown _ _ h := by cases h

theorem onDeviceUpdate_of_changes {light : IoHomeLight} {id : DeviceId} {dev : IoDevice}
    (h : Changes light id dev) :
    ∃ state ∈ light.state, light.onDeviceUpdate id dev =
      { light with
        suppressWrite := true
        state := some (state.call (IoHomeLight.reportedOn dev)) } := by
  obtain ⟨hfilter, state, hstate, hshown⟩ := h
  refine ⟨state, hstate, ?_⟩
  have hlight : light.state = some state := hstate
  unfold IoHomeLight.onDeviceUpdate
  rw [hlight]
  simp only [hfilter, Bool.not_true, Bool.false_eq_true, if_false, Bool.and_eq_true, beq_iff_eq]
  rw [if_neg hshown]

theorem onDeviceUpdate_of_not_changes {light : IoHomeLight} {id : DeviceId} {dev : IoDevice}
    (h : ¬ Changes light id dev) : light.onDeviceUpdate id dev = light := by
  unfold IoHomeLight.onDeviceUpdate
  cases hstate : light.state with
  | none => rfl
  | some state =>
    dsimp only
    split_ifs with hfilter hshown
    · rfl
    · rfl
    · refine absurd ⟨by simpa using hfilter, state, hstate, ?_⟩ h
      simpa using hshown

/-- What a pending call leads to. -/
theorem loop_of_pending {light : IoHomeLight} {state : LightState} (h : light.state = some state)
    (hpending : state.pending = true) :
    light.loop =
      { light with
        state := some { state with pending := false }
        suppressWrite := false
        queued := light.queued ++
          if light.suppressWrite then [] else [(light.deviceId, state.currentOn)] } := by
  unfold IoHomeLight.loop IoHomeLight.writeState
  rw [h]
  dsimp only
  rw [if_pos hpending]
  cases hsuppress : light.suppressWrite with
  | true => simp
  | false => simp

theorem loop_of_not_pending {light : IoHomeLight}
    (h : ∀ state ∈ light.state, state.pending = false) : light.loop = light := by
  unfold IoHomeLight.loop
  split
  · rfl
  · rename_i state hstate
    rw [h state hstate]
    rfl

theorem inv_call {s : LightRun} (h : s.Inv) (on : Bool) : (s.step (.call on)).Inv := by
  unfold step IoHomeLight.call
  cases hstate : s.light.state with
  | none =>
    exact
      { suppress_eq := h.suppress_eq
        pending_iff := fun state hmem => nomatch hmem
        detached := fun _ => h.detached hstate
        shown := fun request state _ hmem => nomatch hmem }
  | some state =>
    exact
      { suppress_eq := h.suppress_eq
        pending_iff := by
          rintro state' ⟨⟩
          exact iff_of_true rfl (.inl rfl)
        detached := fun hnone => nomatch hnone
        shown := by
          rintro request state' ⟨⟩ ⟨⟩ -
          rfl }

theorem inv_update {s : LightRun} (h : s.Inv) (id : DeviceId) (dev : IoDevice) :
    (s.step (.update id dev)).Inv := by
  unfold step
  by_cases hchanges : Changes s.light id dev
  · obtain ⟨state, hstate, hupdate⟩ := onDeviceUpdate_of_changes hchanges
    dsimp only
    rw [hupdate, decide_eq_true hchanges, Bool.or_true]
    exact
      { suppress_eq := rfl
        pending_iff := by
          rintro state' ⟨⟩
          exact iff_of_true rfl (.inr rfl)
        detached := fun hnone => nomatch hnone
        shown := fun _ _ _ _ hchanged => nomatch hchanged }
  · dsimp only
    rw [onDeviceUpdate_of_not_changes hchanges, decide_eq_false hchanges, Bool.or_false]
    exact
      { suppress_eq := h.suppress_eq
        pending_iff := h.pending_iff
        detached := h.detached
        shown := h.shown }

/-- An iteration leaves nothing to write. -/
theorem loop_settled {s : LightRun} (h : s.Inv) :
    s.light.loop.suppressWrite = false ∧ ∀ state ∈ s.light.loop.state, state.pending = false := by
  by_cases hpending : ∃ state ∈ s.light.state, state.pending = true
  · obtain ⟨state, hstate, hpending⟩ := hpending
    rw [loop_of_pending hstate hpending]
    refine ⟨rfl, ?_⟩
    rintro state' ⟨⟩
    rfl
  · have hquiet : ∀ state ∈ s.light.state, state.pending = false := by
      intro state hstate
      exact Bool.eq_false_of_not_eq_true fun hset => hpending ⟨state, hstate, hset⟩
    rw [loop_of_not_pending hquiet]
    refine ⟨?_, hquiet⟩
    rw [h.suppress_eq]
    cases hstate : s.light.state with
    | none => exact (h.detached hstate).2
    | some state =>
      have hdue := (h.pending_iff state hstate).not.1 (by rw [hquiet state hstate]; simp)
      exact Bool.eq_false_of_not_eq_true fun hchanged => hdue (.inr hchanged)

theorem inv_loop {s : LightRun} (h : s.Inv) : (s.step .loop).Inv := by
  obtain ⟨hsuppress, hpending⟩ := loop_settled h
  exact
    { suppress_eq := hsuppress
      pending_iff := by
        intro state hstate
        have hquiet := hpending state hstate
        simp [step, hquiet]
      detached := fun _ => ⟨rfl, rfl⟩
      shown := fun _ _ hasked => nomatch hasked }

theorem step_inv (s : LightRun) (e : LightEvent) (h : s.Inv) : (s.step e).Inv := by
  cases e with
  | call on => exact inv_call h on
  | update id dev => exact inv_update h id dev
  | loop => exact inv_loop h

theorem onDeviceUpdate_queued (light : IoHomeLight) (id : DeviceId) (dev : IoDevice) :
    (light.onDeviceUpdate id dev).queued = light.queued := by
  by_cases hchanges : Changes light id dev
  · obtain ⟨state, -, hupdate⟩ := onDeviceUpdate_of_changes hchanges
    rw [hupdate]
  · rw [onDeviceUpdate_of_not_changes hchanges]

/-- What an iteration queues. -/
theorem loop_queued {s : LightRun} (h : s.Inv) :
    s.light.loop.queued = s.light.queued ++
      if s.changed then []
      else (s.asked.map fun request => (s.light.deviceId, request.on)).toList := by
  cases hstate : s.light.state with
  | none =>
    obtain ⟨hasked, hchanged⟩ := h.detached hstate
    have hquiet : ∀ state ∈ s.light.state, state.pending = false := by simp [hstate]
    rw [loop_of_not_pending hquiet, hasked]
    simp
  | some state =>
    have hiff := h.pending_iff state hstate
    cases hpending : state.pending with
    | false =>
      rw [hpending] at hiff
      have hquiet : ∀ state ∈ s.light.state, state.pending = false := by
        rw [hstate]
        rintro state' ⟨⟩
        exact hpending
      have hasked : s.asked = none := by
        rw [← Option.not_isSome_iff_eq_none]
        exact fun hsome => Bool.false_ne_true (hiff.2 (.inl hsome))
      rw [loop_of_not_pending hquiet, hasked]
      simp
    | true =>
      rw [loop_of_pending hstate hpending, h.suppress_eq]
      dsimp only
      congr 1
      split_ifs with hchanged
      · rfl
      · obtain ⟨request, hasked⟩ :=
          Option.isSome_iff_exists.1 ((hiff.1 hpending).resolve_right hchanged)
        rw [hasked, h.shown request state hasked hstate (Bool.eq_false_of_not_eq_true hchanged)]
        rfl

theorem writesRequests_iff (s : LightRun) (e : LightEvent) (h : s.Inv) :
    WritesRequests comparison s e ↔ Undisturbed comparison s e := by
  cases e with
  | call on => exact iff_of_true rfl trivial
  | update id dev => exact iff_of_true (onDeviceUpdate_queued s.light id dev) trivial
  | loop =>
    unfold WritesRequests Undisturbed
    rw [loop_queued h]
    constructor
    · rintro ⟨hwrites, -⟩ request hasked hdiffers
      have hqueued := hwrites request hasked hdiffers
      cases hchanged : s.changed with
      | false => rfl
      | true =>
        -- after a change nothing is queued at all
        rw [hchanged, if_pos rfl, List.append_nil] at hqueued
        simp at hqueued
    · intro hundisturbed
      constructor
      · intro request hasked hdiffers
        rw [hundisturbed request hasked hdiffers, hasked]
        rfl
      · intro hasked
        rw [hasked]
        simp

/-- Requests are written in a run whose updates leave the light alone while a request is due. -/
theorem guarded_writesRequests_iff (deviceId : DeviceId) (state : Option LightState)
    (events : List LightEvent) :
    Guarded step (WritesRequests comparison) (start deviceId state) events ↔
      Guarded step (Undisturbed comparison) (start deviceId state) events :=
  guarded_congr step_inv (writesRequests_iff comparison) (inv_start deviceId state)

/-- The device reports on, the user switches off, and the entity takes that for the echo. -/
theorem request_taken_for_echo :
    ¬ ∀ (comparison : LightComparison) (deviceId : DeviceId) (state : Option LightState)
      (events : List LightEvent),
      Guarded step (WritesRequests comparison) (start deviceId state) events := by
  intro h
  let dark : LightState := { currentOn := false, remoteOn := false, pending := false }
  let lit : IoDevice := { position := 0 }
  have hrun := h .whenCalled "123ABC" (some dark) [.update "123ABC" lit, .call false, .loop]
  rw [guarded_cons, guarded_cons, guarded_cons] at hrun
  have hdiffers : some true ≠ some false := by decide
  have hqueued := hrun.2.2.1.1 { on := false, reported := some true } (by decide +kernel) hdiffers
  revert hqueued
  decide +kernel

end LightRun
end HomeIoControl
