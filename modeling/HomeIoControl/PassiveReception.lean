import HomeIoControl.RecordWrites

namespace HomeIoControl

/-- The devices whose record a frame may change: its sender, and with the 1W bit the devices linked
to the sender or to the class of a typed broadcast. -/
def DeviceRegistry.MayChange (r : DeviceRegistry) (frame : IoFrame) (deviceId : DeviceId) : Prop :=
  nodeIdToString frame.src = deviceId ∨
    frame.is1W = true ∧
      (deviceId ∈ r.linkedDevices (nodeIdToString frame.src) ∨
        (decode1wFrame frame).addressClass = .broadcastType ∧
          deviceId ∈ r.linkedDevicesForClass (decode1wFrame frame).targetType)

namespace ExchangeEngine

variable (engine : ExchangeEngine)

/-- What a received packet leaves alone. -/
structure Isolates (packet : RadioRxPacket) (hub : Hub) : Prop where
  records : ∀ deviceId,
    (engine.processReceivedPacket packet hub).registry.get deviceId ≠ hub.registry.get deviceId →
      ∃ frame, parse packet.data = some frame ∧ hub.registry.MayChange frame deviceId
  unauthenticated : ∀ frame, parse packet.data = some frame → frame.is1W = false →
    frame.cmd = cmdStatusUpdate → frame.dst = engine.nodeId →
      (engine.authenticateRequest frame packet.freqHz hub.exchange).1 = false →
        (engine.processReceivedPacket packet hub).registry = hub.registry ∧
          (engine.processReceivedPacket packet hub).pollPolicy = hub.pollPolicy

variable {engine} {packet : RadioRxPacket} {frame : IoFrame} {hub : Hub} {deviceId : DeviceId}

theorem get_processReceivedPacket_of_not_parsed (hparse : parse packet.data = none) :
    engine.processReceivedPacket packet hub = hub := by
  unfold processReceivedPacket
  rw [hparse]

/-- A device that the frame may not change keeps its record. -/
theorem get_processReceivedPacket_of_not_mayChange (hparse : parse packet.data = some frame)
    (h : ¬hub.registry.MayChange frame deviceId) :
    (engine.processReceivedPacket packet hub).registry.get deviceId =
      hub.registry.get deviceId := by
  unfold DeviceRegistry.MayChange at h
  obtain ⟨hsender, hlinked⟩ := not_or.1 h
  by_cases h1w : isExchangeInternalCommand frame.cmd = false ∧ frame.is1W = true
  · have hmem : deviceId ∉ hub.targets1w frame := by
      rw [Hub.mem_targets1w_iff]
      rintro (hmem | ⟨⟨htyped, -⟩, hmem⟩)
      · exact hlinked ⟨h1w.2, .inl hmem⟩
      · exact hlinked ⟨h1w.2, .inr ⟨htyped, hmem⟩⟩
    rw [processReceivedPacket_of_1w engine hparse h1w.1 h1w.2, Hub.get_process1wFrame,
      if_neg fun hmoves => hmem hmoves.2]
  by_cases hreports : engine.Reports packet.freqHz hub frame
  · obtain ⟨hub', hregistry, hresult⟩ := processReceivedPacket_of_reports hparse hreports
    rw [hresult, Hub.registry_updateDeviceStatus, DeviceRegistry.get_update, if_neg hsender,
      hregistry]
  · rw [registry_processReceivedPacket_of_not_reports hparse hreports h1w]

variable (engine) in
/-- Passive reception is isolated. -/
theorem processReceivedPacket_isolates (packet : RadioRxPacket) (hub : Hub) :
    engine.Isolates packet hub where
  records := by
    intro deviceId hchanged
    cases hparse : parse packet.data with
    | none =>
      rw [get_processReceivedPacket_of_not_parsed hparse] at hchanged
      exact absurd rfl hchanged
    | some frame =>
      refine ⟨frame, rfl, ?_⟩
      by_contra hnot
      exact hchanged (get_processReceivedPacket_of_not_mayChange hparse hnot)
  unauthenticated := by
    intro frame hparse h2w hcmd hdst hrefused
    obtain ⟨s, hresult⟩ := processReceivedPacket_of_not_authenticated hparse h2w hcmd hdst hrefused
    rw [hresult]
    exact ⟨rfl, rfl⟩

end ExchangeEngine
end HomeIoControl
