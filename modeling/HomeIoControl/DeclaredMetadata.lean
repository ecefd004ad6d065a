import HomeIoControl.MetadataSteps

namespace HomeIoControl
open GuardedRun

/-- The device is registered as it was declared. -/
def Hub.Declares (hub : Hub) (deviceId : DeviceId) (declared : DeviceMetadata) : Prop :=
  hub.registry.metadata deviceId = some declared

instance (hub : Hub) (deviceId : DeviceId) (declared : DeviceMetadata) :
    Decidable (hub.Declares deviceId declared) := inferInstanceAs (Decidable (_ = _))

namespace ExchangeEngine

variable (engine : ExchangeEngine)

/-- A pairing of the device finds what was declared. -/
def KeepsDeclared (deviceId : DeviceId) (declared : DeviceMetadata) (hub : Hub) : HubEvent → Prop
  | .pendingOperation =>
    ∀ d, engine.Adopts hub deviceId d → (discoveredDevice d).metadata = declared
  | _ => True

variable {engine} {hub : Hub} {deviceId : DeviceId} {declared : DeviceMetadata}

theorem apply_declared (hdeclared : declared.type ≠ .unknown) {e : HubEvent} {c : MetadataChange}
    (hc : engine.Brings hub deviceId e c) :
    c.apply (some declared) = some declared ∨
      ∃ d, e = .pendingOperation ∧ engine.Adopts hub deviceId d ∧
        c.apply (some declared) = some (discoveredDevice d).metadata := by
  cases c with
  | declared m => exact .inl rfl
  | learned f => exact .inl (congrArg some (DeviceMetadata.learn_of_known hdeclared f))
  | paired d =>
    cases e with
    | pendingOperation => exact .inr ⟨d, rfl, hc, rfl⟩
    | _ => exact hc.elim

theorem step_declared_iff (hdeclared : declared.type ≠ .unknown)
    (h : hub.Declares deviceId declared) (e : HubEvent) :
    (engine.step hub e).Declares deviceId declared ↔
      engine.KeepsDeclared deviceId declared hub e := by
  unfold Hub.Declares at h ⊢
  constructor
  · intro hkept
    cases e with
    | pendingOperation =>
      intro d hadopts
      have hbrings : engine.Brings hub deviceId .pendingOperation (.paired d) := hadopts
      rw [metadata_step_of_brings hbrings] at hkept
      exact Option.some.inj hkept
    | _ => trivial
  · intro hguard
    by_cases hbrings : ∃ c, engine.Brings hub deviceId e c
    · obtain ⟨c, hc⟩ := hbrings
      rw [metadata_step_of_brings hc, h]
      rcases apply_declared hdeclared hc with hsame | ⟨d, rfl, hadopts, hpaired⟩
      · exact hsame
      · rw [hpaired, hguard d hadopts]
    · rw [metadata_step_of_not_brings fun c hc => hbrings ⟨c, hc⟩, h]

/-- What is declared about a new device of a known type is kept in every run, unless a pairing of
that device finds something else. -/
theorem declared_metadata_kept_iff (hub : Hub) (hnew : hub.getDevice deviceId = none)
    (hvalid : (hexToBytes deviceId).isSome) (hdeclared : declared.type ≠ .unknown)
    (events : List HubEvent) :
    let added := engine.step hub (.deviceAdded deviceId declared.type declared.subtype
      declared.inverted declared.optimisticState)
    Always engine.step (fun hub => hub.Declares deviceId declared) added events ↔
      Guarded engine.step (engine.KeepsDeclared deviceId declared) added events := by
  intro added
  have hadded : added.Declares deviceId declared := by
    have hbrings : engine.Brings hub deviceId (.deviceAdded deviceId declared.type
        declared.subtype declared.inverted declared.optimisticState) (.declared declared) :=
      ⟨rfl, hvalid, rfl⟩
    have hnone : hub.registry.metadata deviceId = none :=
      congrArg (Option.map IoDevice.metadata) hnew
    have hstep := metadata_step_of_brings hbrings
    rw [hnone] at hstep
    exact hstep
  refine always_iff_guarded (I := fun hub : Hub => hub.Declares deviceId declared)
    (P := fun _ => True) ?_ ?_ ?_ hadded fun _ _ => trivial
  · exact fun _ hs => hs
  · intro s e hs _ _ hguard
    exact (step_declared_iff hdeclared hs e).2 hguard
  · intro s e hs _ _ hkept
    exact (step_declared_iff hdeclared hs e).1 hkept

/-! ## An awning that is paired again -/

def declaredAwning : DeviceMetadata where
  type := .horizontalAwning
  subtype := 0
  inverted := true
  optimisticState := false

def addedAwning : Hub :=
  sampleEngine.step repairedHub (.deviceAdded sampleDeviceId declaredAwning.type
    declaredAwning.subtype declaredAwning.inverted declaredAwning.optimisticState)

theorem declared_awning_kept_iff :
    Always sampleEngine.step (fun hub => hub.Declares sampleDeviceId declaredAwning) addedAwning
        repairEvents ↔
      Guarded sampleEngine.step (sampleEngine.KeepsDeclared sampleDeviceId declaredAwning)
        addedAwning repairEvents :=
  declared_metadata_kept_iff repairedHub rfl (by decide +kernel) (by decide) repairEvents

/-- After the pairing the awning is a roller shutter with an optimistic state. -/
theorem repaired_awning_not_kept :
    ¬Always sampleEngine.step (fun hub => hub.Declares sampleDeviceId declaredAwning) addedAwning
      repairEvents := by
  intro h
  have hkept := h repairEvents List.prefix_rfl
  exact absurd hkept (by decide +kernel)

end ExchangeEngine
end HomeIoControl
