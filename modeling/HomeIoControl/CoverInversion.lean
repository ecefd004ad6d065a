import HomeIoControl.BinaryRounding
import HomeIoControl.MetadataSteps

namespace HomeIoControl
open GuardedRun

/-! ## The cover entity -/

/-- The configuration of a cover. Only `invertExplicit` says whether `invert` was given. -/
structure IOHomeCover where
  deviceId : DeviceId
  deviceType : DeviceType := .unknown
  subtype : UInt8 := 0
  statusPollIntervalMs : Millis := 0
  optimisticState : Bool := true
  invert : Bool := false
  invertExplicit : Bool := false

/-- A request from Home Assistant. Fully open is one. -/
structure CoverCall where
  stop : Bool := false
  position : Option ℚ := none
  tilt : Option ℚ := none

/-- The single-precision number that a result is rounded to. -/
def toFloat : ℚ → ℚ := BinaryRounding.roundBinary 24 (-149)

/-- A fraction as a percentage. The cast cuts the rounded product down to a whole number. -/
def truncatedPercent (fraction : ℚ) : UInt8 := .ofNat (toFloat (fraction * 100)).floor.toNat

/-- The product of the float next to 0.29 is rounded up to a whole number. -/
example : truncatedPercent (toFloat (29 / 100)) = 29 := by decide +kernel

namespace IOHomeCover

variable (cover : IOHomeCover)

def initialInvert : Bool :=
  if cover.invertExplicit then cover.invert else defaultInvertedForType cover.deviceType

/-- Registers the device. The first status request is a timer of its own. -/
def setup (hub : Hub) : Hub :=
  { hub with
    registry := hub.registry.add cover.deviceId cover.deviceType cover.subtype
      cover.initialInvert cover.optimisticState }.setDeviceStatusPollInterval
    cover.deviceId cover.statusPollIntervalMs

def supportsTilt : Bool := cover.deviceType != .unknown && deviceSupportsTilt cover.deviceType

def effectiveInvert (hub : Hub) : Bool :=
  if cover.invertExplicit then cover.invert
  else (hub.getDevice cover.deviceId).any fun dev => dev.inverted

def ioPosition (hub : Hub) (haPosition : ℚ) : UInt8 :=
  if cover.effectiveInvert hub then truncatedPercent haPosition
  else truncatedPercent (toFloat (1 - haPosition))

def aimAt (ioPosition : UInt8) (hub : Hub) : Hub :=
  { hub with
    registry := (hub.registry.applyOptimisticTarget cover.deviceId ioPosition.toNat).2 }

/-- A stop comes first. A tilt without a position, or of a cover that does not tilt, leaves the
position alone. -/
def control (call : CoverCall) (hub : Hub) : Hub :=
  if call.stop then
    { hub with
      registry := (hub.registry.clearOptimisticTarget cover.deviceId).2 }.queueDeviceCommand
      cover.deviceId .stop
  else
    match call.position, call.tilt with
    | some position, some tilt =>
      if cover.supportsTilt then
        (cover.aimAt (cover.ioPosition hub position) hub).queueSetDevicePositionAndTilt
          cover.deviceId (cover.ioPosition hub position) (truncatedPercent tilt)
      else hub.queueSetDeviceTilt cover.deviceId (truncatedPercent tilt)
    | none, some tilt => hub.queueSetDeviceTilt cover.deviceId (truncatedPercent tilt)
    | some position, none =>
      (cover.aimAt (cover.ioPosition hub position) hub).queueSetDevicePosition cover.deviceId
        (cover.ioPosition hub position)
    | none, none => hub

/-- The setup and the calls of a cover are among the events of its hub. -/
theorem setup_eq_run (engine : ExchangeEngine) (hub : Hub) :
    cover.setup hub =
      run engine.step hub
        [.deviceAdded cover.deviceId cover.deviceType cover.subtype cover.initialInvert
            cover.optimisticState,
          .pollInterval cover.deviceId cover.statusPollIntervalMs] := rfl

/-- The targets it announces are the positions asked for. -/
theorem control_eq_run (engine : ExchangeEngine) (call : CoverCall) (hub : Hub) :
    ∃ events, cover.control call hub = run engine.step hub events ∧
      ∀ deviceId (target : ℚ), .optimisticTarget deviceId target ∈ events →
        ∃ position, call.position = some position ∧
          target = (cover.ioPosition hub position).toNat := by
  obtain ⟨stop, position, tilt⟩ := call
  unfold control
  cases stop with
  | true =>
    exact ⟨[.optimisticTargetCleared cover.deviceId,
      .queued (.executeDeviceCommand cover.deviceId .stop)], rfl, by simp⟩
  | false =>
    cases tilt with
    | none =>
      cases position with
      | none => exact ⟨[], rfl, by simp⟩
      | some position =>
        let aim := cover.ioPosition hub position
        exact ⟨[.optimisticTarget cover.deviceId aim.toNat,
          .queued (.setDevicePosition cover.deviceId aim)], rfl, by simp [aim]⟩
    | some tilt =>
      let tiltPercent := truncatedPercent tilt
      cases position with
      | none => exact ⟨[.queued (.setDeviceTilt cover.deviceId tiltPercent)], rfl, by simp⟩
      | some position =>
        rw [if_neg Bool.false_ne_true]
        dsimp only
        split_ifs
        · let aim := cover.ioPosition hub position
          exact ⟨[.optimisticTarget cover.deviceId aim.toNat,
            .queued (.setDevicePositionAndTilt cover.deviceId aim tiltPercent)], rfl,
            by simp [aim]⟩
        · exact ⟨[.queued (.setDeviceTilt cover.deviceId tiltPercent)], rfl, by simp⟩

end IOHomeCover

/-! ## Opening and forcing open -/

theorem position_createForceOpen (own dst : NodeId) (lowPower : Bool) (position : UInt8) :
    (createForceOpen own dst lowPower position).map (fun frame => frame.byte 2) =
      some (2 * position) := by
  simp [createForceOpen, buildFrame, setCmd, makePositionPayload, frameMaxDataSize, IoFrame.byte]

theorem createForceOpen_eq_iff (own dst : NodeId) (lowPower b b' : Bool) :
    createForceOpen own dst lowPower (if b then 100 else 0) =
        createForceOpen own dst lowPower (if b' then 100 else 0) ↔ b = b' := by
  constructor
  · intro h
    have hposition := congrArg (Option.map fun frame => frame.byte 2) h
    rw [position_createForceOpen, position_createForceOpen] at hposition
    revert hposition
    cases b <;> cases b' <;> decide
  · rintro rfl
    rfl

namespace IOHomeCover

variable (engine : ExchangeEngine) (cover : IOHomeCover)

/-- A force-open of the device goes where opening the cover goes. -/
def OpensAlike (hub : Hub) : Prop :=
  ∀ dev, hub.getDevice cover.deviceId = some dev →
    (engine.namedCommand cover.deviceId .forceOpen).build dev =
      createForceOpen engine.nodeId dev.nodeId true (cover.ioPosition hub 1)

def Aligned (hub : Hub) : Prop :=
  cover.invertExplicit = true →
    ∀ m, hub.registry.metadata cover.deviceId = some m → m.inverted = cover.invert

theorem ioPosition_one (hub : Hub) :
    cover.ioPosition hub 1 = if cover.effectiveInvert hub then 100 else 0 := by
  have hopen : truncatedPercent 1 = 100 := by decide +kernel
  have hclosed : truncatedPercent (toFloat (1 - 1)) = 0 := by decide +kernel
  unfold ioPosition
  rw [hopen, hclosed]

theorem opensAlike_iff (hub : Hub) : cover.OpensAlike engine hub ↔ cover.Aligned hub := by
  have hbuild (dev : IoDevice) : (engine.namedCommand cover.deviceId .forceOpen).build dev =
      createForceOpen engine.nodeId dev.nodeId true (if dev.inverted then 100 else 0) := rfl
  unfold OpensAlike Aligned DeviceRegistry.metadata
  simp only [ioPosition_one, hbuild, createForceOpen_eq_iff]
  change (∀ dev, hub.registry.get cover.deviceId = some dev → _) ↔ _
  cases hdev : hub.registry.get cover.deviceId with
  | none => simp
  | some dev =>
    have hrecord : (hub.getDevice cover.deviceId).any (fun dev => dev.inverted) = dev.inverted := by
      show (hub.registry.get cover.deviceId).any _ = _
      rw [hdev]
      rfl
    unfold effectiveInvert
    cases hexplicit : cover.invertExplicit with
    | false => simp [hrecord]
    | true =>
      simp only [if_true, forall_const, Option.map_some, Option.some.injEq, forall_eq']
      rfl

/-- The override is what a record from before the setup says. -/
def StartsAligned (hub : Hub) : Prop :=
  cover.invertExplicit = true →
    ∀ dev, hub.getDevice cover.deviceId = some dev → dev.inverted = cover.invert

/-- The device is in the registry, or its ID keeps it out. -/
def Settled (hub : Hub) : Prop :=
  (hub.registry.metadata cover.deviceId).isSome ∨ hexToBytes cover.deviceId = none

theorem metadata_setup (hub : Hub) :
    (cover.setup hub).registry.metadata cover.deviceId =
      if (hexToBytes cover.deviceId).isSome then
        (hub.registry.metadata cover.deviceId).or
          (some
            { type := cover.deviceType
              subtype := cover.subtype
              inverted := cover.initialInvert
              optimisticState := cover.optimisticState })
      else hub.registry.metadata cover.deviceId := by
  have hadded := hub.registry.metadata_add cover.deviceId cover.deviceId
    { type := cover.deviceType
      subtype := cover.subtype
      inverted := cover.initialInvert
      optimisticState := cover.optimisticState }
  simp only [true_and] at hadded
  rw [← hadded]
  unfold setup
  rw [Hub.registry_setDeviceStatusPollInterval]

theorem settled_setup (hub : Hub) : cover.Settled (cover.setup hub) := by
  unfold Settled
  rw [metadata_setup]
  cases hexToBytes cover.deviceId with
  | none => exact .inr rfl
  | some nodeId => exact .inl (by cases hub.registry.metadata cover.deviceId <;> rfl)

theorem aligned_setup_iff (hub : Hub) :
    cover.Aligned (cover.setup hub) ↔ cover.StartsAligned hub := by
  have hstart : cover.StartsAligned hub ↔ cover.Aligned hub := by
    unfold StartsAligned Aligned DeviceRegistry.metadata
    apply imp_congr_right
    intro _
    constructor
    · intro h m hm
      obtain ⟨dev, hdev, rfl⟩ := Option.map_eq_some_iff.1 hm
      exact h dev hdev
    · intro h dev hdev
      exact h _ (congrArg (Option.map IoDevice.metadata) hdev)
  rw [hstart]
  unfold Aligned
  rw [metadata_setup]
  apply imp_congr_right
  intro hexplicit
  have hinitial : cover.initialInvert = cover.invert := if_pos hexplicit
  cases hub.registry.metadata cover.deviceId with
  | some m => simp
  | none => split_ifs <;> simp [hinitial]

end IOHomeCover

namespace ExchangeEngine

variable (engine : ExchangeEngine)

/-- An override survives what the device reports: a horizontal awning is learned only where the
override is an inversion, and a pairing finds the inversion that was given. -/
def KeepsInversion (cover : IOHomeCover) (hub : Hub) : HubEvent → Prop
  | .pendingOperation =>
    cover.invertExplicit = true →
      (∀ f m, engine.Learns hub cover.deviceId f →
        hub.registry.metadata cover.deviceId = some m → m.type = .unknown →
        f.info2Type = .horizontalAwning → cover.invert = true) ∧
      ∀ d, engine.Adopts hub cover.deviceId d → (discoveredDevice d).inverted = cover.invert
  | _ => True

variable {engine} {cover : IOHomeCover} {hub : Hub}

theorem settled_step (h : cover.Settled hub) (e : HubEvent) :
    cover.Settled (engine.step hub e) := by
  unfold IOHomeCover.Settled at h ⊢
  rcases h with hsome | hinvalid
  · left
    -- no event removes a device
    by_cases hbrings : ∃ c, engine.Brings hub cover.deviceId e c
    · obtain ⟨c, hc⟩ := hbrings
      rw [metadata_step_of_brings hc]
      obtain ⟨m, hm⟩ := Option.isSome_iff_exists.1 hsome
      rw [hm]
      cases c <;> rfl
    · rwa [metadata_step_of_not_brings fun c hc => hbrings ⟨c, hc⟩]
  · exact .inr hinvalid

theorem inverted_learn_iff {m : DeviceMetadata} {f : IoFrame} {invert : Bool}
    (h : m.inverted = invert) :
    (m.learn f).inverted = invert ↔
      (m.type = .unknown → f.info2Type = .horizontalAwning → invert = true) := by
  subst h
  unfold DeviceMetadata.learn
  split_ifs with htype
  · exact iff_of_true rfl fun h => absurd h htype
  · rw [ne_eq, not_not] at htype
    simp only [htype, forall_const]
    unfold defaultInvertedForType
    cases m.inverted with
    | true => simp
    | false => simp

/-- A declaration finds the record of a settled device in place. -/
theorem apply_of_brings_declared (hsettled : cover.Settled hub) {e : HubEvent}
    {m : DeviceMetadata} (h : engine.Brings hub cover.deviceId e (.declared m)) :
    (hub.registry.metadata cover.deviceId).or (some m) =
      hub.registry.metadata cover.deviceId := by
  rcases hsettled with hsome | hinvalid
  · exact Option.or_of_isSome hsome
  · cases e with
    | deviceAdded id =>
      obtain ⟨rfl, hvalid, -⟩ := h
      rw [hinvalid] at hvalid
      exact absurd hvalid Bool.false_ne_true
    | _ => exact h.elim

theorem aligned_step_of_keeps (hsettled : cover.Settled hub) (h : cover.Aligned hub) {e : HubEvent}
    (hguard : engine.KeepsInversion cover hub e) : cover.Aligned (engine.step hub e) := by
  intro hexplicit m hm
  -- only a type answer or a pairing can turn the record around
  by_cases hbrings : ∃ c, engine.Brings hub cover.deviceId e c
  · obtain ⟨c, hc⟩ := hbrings
    rw [metadata_step_of_brings hc] at hm
    cases c with
    | declared m' =>
      rw [MetadataChange.apply, apply_of_brings_declared hsettled hc] at hm
      exact h hexplicit m hm
    | learned f =>
      obtain ⟨before, hbefore, rfl⟩ := Option.map_eq_some_iff.1 hm
      cases e with
      | pendingOperation =>
        exact (inverted_learn_iff (h hexplicit before hbefore)).2
          ((hguard hexplicit).1 f before hc hbefore)
      | _ => exact hc.elim
    | paired d =>
      obtain rfl := Option.some.inj hm
      cases e with
      | pendingOperation => exact (hguard hexplicit).2 d hc
      | _ => exact hc.elim
  · rw [metadata_step_of_not_brings fun c hc => hbrings ⟨c, hc⟩] at hm
    exact h hexplicit m hm

theorem keeps_of_aligned_step (h : cover.Aligned hub) {e : HubEvent}
    (hafter : cover.Aligned (engine.step hub e)) : engine.KeepsInversion cover hub e := by
  cases e with
  | pendingOperation =>
    intro hexplicit
    constructor
    · intro f m hlearns hm
      have hbrings : engine.Brings hub cover.deviceId .pendingOperation (.learned f) := hlearns
      have hlearned := metadata_step_of_brings hbrings
      rw [hm] at hlearned
      exact (inverted_learn_iff (h hexplicit m hm)).1 (hafter hexplicit _ hlearned)
    · intro d hadopts
      have hbrings : engine.Brings hub cover.deviceId .pendingOperation (.paired d) := hadopts
      exact hafter hexplicit _ (metadata_step_of_brings hbrings)
  | _ => trivial

/-- Forcing a cover open and opening it agree in every run, unless a record from before the setup, a
learned type or a pairing goes against an override. -/
theorem force_open_agrees_iff (hub : Hub) (events : List HubEvent) :
    Always engine.step (cover.OpensAlike engine) (cover.setup hub) events ↔
      cover.StartsAligned hub ∧
        Guarded engine.step (engine.KeepsInversion cover) (cover.setup hub) events := by
  have hiff (hstart : cover.StartsAligned hub) :
      Always engine.step (cover.OpensAlike engine) (cover.setup hub) events ↔
        Guarded engine.step (engine.KeepsInversion cover) (cover.setup hub) events := by
    refine always_iff_guarded (I := fun hub => cover.Settled hub ∧ cover.Aligned hub)
      (P := fun _ => True) ?_ ?_ ?_
      ⟨cover.settled_setup hub, (cover.aligned_setup_iff hub).2 hstart⟩ fun _ _ => trivial
    · rintro s ⟨-, haligned⟩
      exact (cover.opensAlike_iff engine s).2 haligned
    · rintro s e ⟨hsettled, haligned⟩ _ _ hguard
      exact ⟨settled_step hsettled e, aligned_step_of_keeps hsettled haligned hguard⟩
    · rintro s e ⟨-, haligned⟩ _ _ hopens
      exact keeps_of_aligned_step haligned ((cover.opensAlike_iff engine _).1 hopens)
  constructor
  · intro halways
    have hstart := (cover.aligned_setup_iff hub).1 ((cover.opensAlike_iff engine _).1 halways.head)
    exact ⟨hstart, (hiff hstart).1 halways⟩
  · rintro ⟨hstart, hguarded⟩
    exact (hiff hstart).2 hguarded

def invertedShutter : IOHomeCover where
  deviceId := sampleDeviceId
  deviceType := .rollerShutter
  invert := true
  invertExplicit := true

/-- Paired again, the shutter is forced to zero and opened to a hundred. -/
theorem repaired_shutter_opens_apart :
    ¬Always sampleEngine.step (invertedShutter.OpensAlike sampleEngine)
      (invertedShutter.setup repairedHub) repairEvents := by
  intro h
  have hopens := h repairEvents List.prefix_rfl
  have haligned := (invertedShutter.opensAlike_iff sampleEngine _).1 hopens rfl
  have hrecord : (run sampleEngine.step (invertedShutter.setup repairedHub)
      repairEvents).registry.metadata sampleDeviceId =
      some
        { type := .rollerShutter, subtype := 0, inverted := false, optimisticState := true } := by
    decide +kernel
  exact absurd (haligned _ hrecord) Bool.false_ne_true

end ExchangeEngine
end HomeIoControl
