import HomeIoControl.PairingPhases
import HomeIoControl.TraceFollowing

namespace HomeIoControl
open EventTrace

/-! ## A device that follows the protocol -/

/-- How far a device in pairing mode has come. -/
inductive DeviceStage
  | ready
  | challenging (challenge : Challenge)
  | keyed (key : AesKey)
  deriving DecidableEq

/-- What the device sends from a stage on: it challenges with its own bytes, and it confirms no key
before it has one. -/
def DeviceStage.Says : DeviceStage → IoFrame → Prop
  | .ready, f => f.cmd ≠ cmdChallengeReq ∧ f.cmd ≠ cmdKeyConfirm
  | .challenging challenge, f =>
    (f.cmd = cmdChallengeReq → hmacField f = challenge) ∧ f.cmd ≠ cmdKeyConfirm
  | .keyed _, _ => True

/-- What the device makes of a frame of the controller. Any frame can be lost, and every challenge
is a new one. -/
inductive DeviceStage.Takes (own node : NodeId) (f : IoFrame) : DeviceStage → DeviceStage → Prop
  | lost (stage : DeviceStage) : Takes own node f stage stage
  | keyInit {stage : DeviceStage} (challenge : Challenge) (hunkeyed : ∀ key, stage ≠ .keyed key)
      (hinit : IsKeyInit own node f) : Takes own node f stage (.challenging challenge)
  | keyTransfer (challenge : Challenge) (wrapped : AesKey) (hcmd : f.cmd = cmdKeyTransfer)
      (hdst : f.dst = node) (hpayload : f.payload = wrapped.toList) :
      Takes own node f (.challenging challenge)
        (.keyed (cryptKey [cmdKeyInit] challenge wrapped))

/-- The device's part in a trace of the controller: of the controller's frames it takes some, and
what the controller hears in its name is its own. -/
def DeviceStage.step (own node : NodeId) (stage : DeviceStage) : RadioEvent → DeviceStage → Prop
  | .tx frame _ _ _, stage' => DeviceStage.Takes own node frame stage stage'
  | .rx packet, stage' =>
    stage' = stage ∧
      ∀ f, parse packet.data = some f → f.src = node → f.dst = own → stage.Says f

variable {own node : NodeId} {stage stage' : DeviceStage} {events : List RadioEvent}
  {key : AesKey}

theorem DeviceStage.Takes.of_keyed {f : IoFrame}
    (h : DeviceStage.Takes own node f (.keyed key) stage') : stage' = .keyed key := by
  cases h with
  | lost => rfl
  | keyInit challenge hunkeyed hinit => exact absurd rfl (hunkeyed key)

theorem follows_of_keyed (h : Follows (DeviceStage.step own node) (.keyed key) events stage') :
    stage' = .keyed key := by
  refine h.kept (I := (· = .keyed key)) ?_ rfl
  intro stage stage' e _ hstage hstep
  subst hstage
  cases e with
  | tx frame => exact DeviceStage.Takes.of_keyed hstep
  | rx packet => exact hstep.1

theorem follows_rx {packets : List RadioRxPacket}
    (h : Follows (DeviceStage.step own node) stage (packets.map .rx) stage') :
    stage' = stage ∧ ∀ packet ∈ packets, ∀ f, parse packet.data = some f → f.src = node →
      f.dst = own → stage.Says f := by
  obtain ⟨hstage, hsaid⟩ := h.still (P := fun stage e => ∀ packet, e = .rx packet →
    ∀ f, parse packet.data = some f → f.src = node → f.dst = own → stage.Says f) <| by
      intro stage stage' e he hstep
      obtain ⟨packet, -, rfl⟩ := List.mem_map.1 he
      refine ⟨hstep.1, ?_⟩
      rintro _ ⟨⟩
      exact hstep.2
  exact ⟨hstage, fun packet hpacket => hsaid _ (List.mem_map_of_mem hpacket) packet rfl⟩

theorem keyed_of_heard (h : Follows (DeviceStage.step own node) stage events stage')
    {e : RadioEvent} (he : e ∈ events) (hheard : e.IsHeard (IsKeyConfirm own node)) :
    ∃ key, stage' = .keyed key := by
  obtain ⟨_, _, t, t', _, _, hstep, hrest⟩ := h.at_mem he
  cases e with
  | tx frame freqHz preambleLen sent => exact hheard.elim
  | rx packet =>
    obtain ⟨f, hparse, hcmd, hsrc, hdst⟩ := hheard
    obtain ⟨rfl, hsaid⟩ := hstep
    have hf := hsaid f hparse hsrc hdst
    cases t' with
    | ready => exact absurd hcmd hf.2
    | challenging challenge => exact absurd hcmd hf.2
    | keyed key => exact ⟨key, follows_of_keyed hrest⟩

/-! ## Which key the device gets -/

namespace ExchangeEngine

variable (engine : ExchangeEngine)

/-- If the device has a key it is the controller's. -/
def Sound (stage : DeviceStage) : Prop := ∀ key, stage = .keyed key → key = engine.systemKey

/-- Whatever a device does in these events, it comes to no other key. -/
def KeepsSound (node : NodeId) (events : List RadioEvent) : Prop :=
  ∀ stage stage', Follows (DeviceStage.step engine.nodeId node) stage events stage' →
    engine.Sound stage → engine.Sound stage'

variable {engine}

theorem KeepsSound.append {later : List RadioEvent} (h : engine.KeepsSound node events)
    (h' : engine.KeepsSound node later) : engine.KeepsSound node (events ++ later) := by
  intro stage stage' hfollows hsound
  obtain ⟨t, hevents, hlater⟩ := follows_append.1 hfollows
  exact h' t stage' hlater (h stage t hevents hsound)

theorem keepsSound_of_ne (h : ∀ e ∈ events, e.TxSatisfies fun f =>
    f.cmd ≠ cmdKeyTransfer ∨ f.dst ≠ node) : engine.KeepsSound node events := by
  intro stage stage' hfollows hsound
  refine hfollows.kept ?_ hsound
  intro s t e he hs hstep
  cases e with
  | rx packet =>
    obtain ⟨rfl, -⟩ := hstep
    exact hs
  | tx frame freqHz preambleLen sent =>
    cases hstep with
    | lost => exact hs
    | keyInit challenge hunkeyed hinit => exact fun key hkey => by cases hkey
    | keyTransfer challenge wrapped hcmd hdst hpayload =>
      rcases h _ he with hne | hne
      · exact absurd hcmd hne
      · exact absurd hdst hne

theorem keepsSound_of_keyless (h : Keyless events) : engine.KeepsSound node events :=
  keepsSound_of_ne fun e he => (h e he).mono fun _ hf => .inl hf.1

def Awaits (engine : ExchangeEngine) (challenge : Challenge) (stage : DeviceStage) : Prop :=
  stage = .challenging challenge ∨ stage = .keyed engine.systemKey

theorem Awaits.sound {challenge : Challenge} (h : engine.Awaits challenge stage) :
    engine.Sound stage := by
  rintro key rfl
  rcases h with h | h
  · cases h
  · exact DeviceStage.keyed.inj h

theorem Awaits.follows {f : IoFrame} (h : engine.Awaits (hmacField f) stage)
    (hfollows : Follows (DeviceStage.step engine.nodeId node) stage events stage')
    (hevents : ∀ e ∈ events, e.TxSatisfies fun g =>
      g.cmd = cmdKeyTransfer ∧ engine.CarriesKey node f g ∨ g.cmd = cmdChallengeResp) :
    engine.Awaits (hmacField f) stage' := by
  refine hfollows.kept ?_ h
  intro s t e he hs hstep
  cases e with
  | rx packet =>
    obtain ⟨rfl, -⟩ := hstep
    exact hs
  | tx frame freqHz preambleLen sent =>
    have hframe := hevents _ he
    cases hstep with
    | lost => exact hs
    | keyInit challenge hunkeyed hinit =>
      have hcmd := hinit.1
      rcases hframe with ⟨htransfer, -⟩ | hproof
      · rw [htransfer] at hcmd
        exact absurd hcmd (by decide)
      · rw [hproof] at hcmd
        exact absurd hcmd (by decide)
    | keyTransfer challenge wrapped hcmd hdst hpayload =>
      rcases hs with hs | hs
      · obtain rfl := DeviceStage.challenging.inj hs
        rcases hframe with ⟨-, -, wrapped', hpayload', hkey⟩ | hproof
        · have hsame : wrapped = wrapped' := Vector.toList_inj.1 (hpayload.symm.trans hpayload')
          rw [hsame, hkey]
          exact .inr rfl
        · rw [hproof] at hcmd
          exact absurd hcmd (by decide)
      · cases hs

/-! ## The phases of a pairing -/

theorem keepsSound_of_transfer {f : IoFrame} {earlier : List RadioRxPacket} {packet : RadioRxPacket}
    {transfers inits : List RadioEvent} (hparse : parse packet.data = some f)
    (hchallenge : IsKeyChallenge engine.nodeId node f)
    (htransfers : ∀ e ∈ transfers, e.TxSatisfies fun g =>
      g.cmd = cmdKeyTransfer ∧ engine.CarriesKey node f g ∨ g.cmd = cmdChallengeResp)
    (hinits : Keyless inits) :
    engine.KeepsSound node ((earlier ++ [packet]).map .rx ++ (transfers ++ inits)) := by
  intro stage stage' hfollows hsound
  obtain ⟨t, hheard, hlater⟩ := follows_append.1 hfollows
  obtain ⟨u, htransferred, hinited⟩ := follows_append.1 hlater
  obtain ⟨rfl, hsaid⟩ := follows_rx hheard
  have hf := hsaid packet (by simp) f hparse hchallenge.2.2.1 hchallenge.2.2.2
  -- the challenge is the device's latest, unless it has the key already
  have hawaits : engine.Awaits (hmacField f) t := by
    cases t with
    | ready => exact absurd hchallenge.1 hf.1
    | challenging challenge =>
      rw [hf.1 hchallenge.1]
      exact .inl rfl
    | keyed key => exact .inr (by rw [hsound key rfl])
  exact keepsSound_of_keyless hinits u stage' hinited (hawaits.follows htransferred htransfers).sound

theorem keepsSound_of_other {other : NodeId} {f : IoFrame} {transfers inits : List RadioEvent}
    (hne : other ≠ node)
    (htransfers : ∀ e ∈ transfers, e.TxSatisfies fun g =>
      g.cmd = cmdKeyTransfer ∧ engine.CarriesKey other f g ∨ g.cmd = cmdChallengeResp)
    (hinits : Keyless inits) : engine.KeepsSound node (transfers ++ inits) := by
  refine KeepsSound.append (keepsSound_of_ne fun e he => ?_) (keepsSound_of_keyless hinits)
  refine (htransfers e he).mono fun g hg => ?_
  rcases hg with ⟨-, hdst, -⟩ | hg
  · exact .inr (by rwa [hdst])
  · refine .inl ?_
    rw [hg]
    decide

theorem PhaseEvents.keepsSound {other : NodeId} (h : engine.PhaseEvents other events) :
    engine.KeepsSound node events := by
  cases h with
  | unchallenged inits => exact keepsSound_of_keyless (keyless_of_keyInit inits)
  | @challenged opening transfers inits earlier packet challenge req opens parses challenges src cmd
      carries serializes begins transferred ends =>
    have hopening : engine.KeepsSound node opening :=
      keepsSound_of_keyless (keyless_of_keyInit opens)
    have htransfers : ∀ e ∈ transfers, e.TxSatisfies fun g =>
        g.cmd = cmdKeyTransfer ∧ engine.CarriesKey other challenge g ∨ g.cmd = cmdChallengeResp := by
      intro e he
      refine (transferred e he).mono fun g hg => hg.imp_left fun heq => ?_
      rw [heq]
      exact ⟨cmd, carries⟩
    have hinits := keyless_of_keyInit ends
    rw [List.append_assoc]
    by_cases hnode : other = node
    · subst hnode
      exact hopening.append (keepsSound_of_transfer parses challenges htransfers hinits)
    · exact hopening.append ((keepsSound_of_ne (txSatisfies_of_heard _)).append
        (keepsSound_of_other hnode htransfers hinits))

/-! ## A whole attempt -/

variable (engine)

/-- A device that follows the protocol never ends up with another key than the controller's. If the
controller has registered it, it has that key, whatever frames were lost and whatever else was on
the air. -/
theorem pairing_agrees (w : PairingWorld) (node : NodeId) (stage : DeviceStage)
    (hdevice : Follows (DeviceStage.step engine.nodeId node) .ready
      (newEvents w.engine (engine.discoverAndPair w).2.engine) stage) :
    (∀ key, stage = .keyed key → key = engine.systemKey) ∧
      ∀ deviceId device, (engine.discoverAndPair w).2.puts = w.puts ++ [(deviceId, device)] →
        device.nodeId = node → stage = .keyed engine.systemKey := by
  obtain ⟨events, htrace, hkeeps⟩ := engine.discoverAndPair_composed
    (Q := fun events => ∀ node, engine.KeepsSound node events)
    (fun h h' node => (h node).append (h' node)) (fun h _ => keepsSound_of_keyless h)
    (fun h _ => h.keepsSound) w
  have hready : engine.Sound .ready := fun key hkey => by cases hkey
  rw [newEvents_of_trace htrace] at hdevice
  have hsound := hkeeps node .ready stage hdevice hready
  refine ⟨hsound, fun deviceId device hputs hnode => ?_⟩
  have hunpaired : ∀ {events' : List RadioEvent}, ¬Unpaired w events' (engine.discoverAndPair w) := by
    intro events' h
    have hsame := h.puts_eq.symm.trans hputs
    simp at hsame
  cases engine.discoverAndPair_course w with
  | undiscovered answer heard ends => exact absurd ends hunpaired
  | alternate answer heard cmd ends => exact absurd ends hunpaired
  | keyExchangeFailed answer heard cmd node' exchanged opens ends => exact absurd ends hunpaired
  | @paired d _ _ discovery exchange configuration context _ _ _ _ _ _ exchanged _ ok _ ends =>
    obtain ⟨-, rfl⟩ : nodeIdToString d.src = deviceId ∧ context.device = device := by
      have hsame := ends.puts_eq.symm.trans hputs
      simpa using hsame
    have hevents := List.append_cancel_left (ends.trace_eq.symm.trans htrace)
    -- the confirmation that ended the exchange is the device's own
    obtain ⟨_, e, hsub, -, hheard⟩ := exchanged.confirmed ok
    have he : e ∈ exchange := hsub.subset (by simp)
    rw [hnode] at hheard
    have hmem : e ∈ events := by
      rw [← hevents]
      exact List.mem_append_right _ (List.mem_append_left _ he)
    obtain ⟨key, hkey⟩ := keyed_of_heard hdevice hmem hheard
    rw [hkey, hsound key hkey]

end ExchangeEngine
end HomeIoControl
