import HomeIoControl.PairingAgreement
import HomeIoControl.PairingConfirmation

namespace HomeIoControl
open EventTrace

/-! ## A device that answers -/

/-- The frame is the first of its kind in the window that the radio hears next. -/
def HeardNext (accept : IoFrame → Bool) (f : IoFrame) (windows : List Window) : Prop :=
  (windows.head?.getD []).firstAccepted accept = some f

namespace ExchangeEngine

variable (engine : ExchangeEngine)

/-- A key exchange in which the device challenges and then confirms. -/
structure KeyExchangeAnswered (node : NodeId) (sends : List Bool) (windows : List Window)
    (f g : IoFrame) : Prop where
  initSent : sends.head?.getD false = true
  transferSent : sends.tail.head?.getD false = true
  challenges : HeardNext (keyChallengeLoop engine.nodeId node).accept f windows
  challenge_cmd : f.cmd = cmdChallengeReq
  confirms : HeardNext (fun g => frameMatchesNodes g node engine.nodeId) g windows.tail
  confirm_cmd : g.cmd = cmdKeyConfirm

variable {engine}

/-- The script has a confirmation for such a key exchange, whichever way the radio waits. -/
theorem KeyExchangeAnswered.keyInitAnswer_eq {node : NodeId} {sends : List Bool}
    {windows : List Window} {f g : IoFrame}
    (h : engine.KeyExchangeAnswered node sends windows f g) :
    (engine.keyInitAnswer node ⟨sends, windows⟩).1 = some g := by
  have hchallenge : RadioRest.ask (keyChallengeLoop engine.nodeId node).accept ⟨sends, windows⟩ =
      (some f, ⟨sends.tail, windows.tail⟩) := by
    rw [RadioRest.ask, if_pos h.initSent, h.challenges]
  have hanswer : RadioRest.ask (fun g => frameMatchesNodes g node engine.nodeId)
      ⟨sends.tail, windows.tail⟩ = (some g, ⟨sends.tail.tail, windows.tail.tail⟩) := by
    rw [RadioRest.ask, if_pos h.transferSent, h.confirms]
  have hdirect : ¬g.cmd = cmdChallengeReq := by
    rw [h.confirm_cmd]
    decide
  have hproved : RadioRest.askProved (fun g => frameMatchesNodes g node engine.nodeId)
      ⟨sends.tail, windows.tail⟩ = (some g, ⟨sends.tail.tail, windows.tail.tail⟩) := by
    rw [RadioRest.askProved, hanswer]
    exact if_neg hdirect
  have hother : ¬frameIsKeyConfirm f = true := by
    rw [frameIsKeyConfirm, h.challenge_cmd]
    decide
  have hconfirm : frameIsKeyConfirm g = true := by
    rw [frameIsKeyConfirm, h.confirm_cmd]
    rfl
  unfold keyInitAnswer keyTransferAnswer exchangeRetryCount
  rw [hchallenge]
  dsimp only
  rw [if_neg hother]
  split_ifs
  · simp only [RadioRest.tries, hproved, RadioRest.confirming, Option.filter_some, hconfirm,
      if_true]
  · simp only [RadioRest.tries, hanswer, RadioRest.confirming, Option.filter_some, hconfirm,
      if_true]

variable (engine)

/-- A device that is found, challenges the key-init and confirms the key is registered with what its
answer announced, on radios of either kind and whatever else is on the air. -/
theorem pairing_completes (w : PairingWorld) {d f g : IoFrame} {sends : List Bool}
    {windows : List Window} (hfound : engine.attemptAnswer w = some (d, sends, windows))
    (hcmd : d.cmd = cmdDiscoverResp)
    (hretries : 0 < engine.tuning.pairingKeyExchangeRetries.toNat)
    (hanswered : engine.KeyExchangeAnswered d.src sends windows f g) :
    (engine.discoverAndPair w).1 = true ∧
      (engine.discoverAndPair w).2.registry =
        w.registry.put (nodeIdToString d.src) (parseDeviceFromDiscovery d {}).1 := by
  have hconfirmation : (engine.attemptConfirmation w).isSome := by
    obtain ⟨retries, hretry⟩ := Nat.exists_eq_succ_of_ne_zero (Nat.ne_of_gt hretries)
    have hphase := hanswered.keyInitAnswer_eq
    rw [attemptConfirmation, hfound, Option.bind_some, hretry]
    dsimp only [RadioRest.tries]
    generalize engine.keyInitAnswer d.src ⟨sends, windows⟩ = answer at hphase
    obtain ⟨confirmation, r⟩ := answer
    obtain rfl : confirmation = some g := hphase
    rfl
  obtain ⟨hok, hregistry⟩ := engine.discoverAndPair_answered
    (by rw [hfound]; rfl : (engine.attemptAnswer w).map Prod.fst = some d) hcmd
  have hpaired := hok.trans hconfirmation
  rw [if_pos hpaired] at hregistry
  exact ⟨hpaired, hregistry⟩

/-! ## A roller shutter is paired -/

def shutterAnswer : List UInt8 :=
  wireFrame 0x0A sampleEngine.nodeId sampleDevice cmdDiscoverResp [0x00, 0x80]

def shutterChallenge : List UInt8 :=
  wireFrame 0x0E sampleEngine.nodeId sampleDevice cmdChallengeReq (List.replicate 6 0x05)

def shutterConfirm : List UInt8 :=
  wireFrame 0x08 sampleEngine.nodeId sampleDevice cmdKeyConfirm []

/-- The radio refuses the frames of the configuration. -/
def shutterWorld : PairingWorld where
  engine :=
    { script :=
        { sends := [true, true, true]
          windows := [oneFrame shutterAnswer, oneFrame shutterChallenge, oneFrame shutterConfirm]
          challenges := []
          rssis := [] } }

theorem pairing_completes_shutter :
    (sampleEngine.discoverAndPair shutterWorld).1 = true ∧
      (sampleEngine.discoverAndPair shutterWorld).2.registry =
        shutterWorld.registry.put (nodeIdToString (readFrame shutterAnswer).src)
          (parseDeviceFromDiscovery (readFrame shutterAnswer) {}).1 := by
  have hfound : sampleEngine.attemptAnswer shutterWorld =
      some (readFrame shutterAnswer, [true, true],
        [oneFrame shutterChallenge, oneFrame shutterConfirm]) := by decide +kernel
  refine sampleEngine.pairing_completes shutterWorld hfound (by decide) (by decide)
    (f := readFrame shutterChallenge) (g := readFrame shutterConfirm)
    ⟨rfl, rfl, ?_, by decide, ?_, by decide⟩
  · unfold HeardNext
    decide +kernel
  · unfold HeardNext
    decide +kernel

def shutterDiscovery : IoFrame :=
  (sampleEngine.discoveryRequest .discover shutterWorld.engine).getD .zero

def shutterKeyInit : IoFrame := (createKeyInit sampleEngine.nodeId sampleDevice).getD .zero

def shutterTransfer : IoFrame :=
  (createKeyTransfer shutterKeyInit sampleDevice sampleEngine.nodeId sampleEngine.systemKey
    (.replicate 6 0x05)).getD .zero

def shutterConfig : IoFrame := (createSetConfig1 sampleEngine.nodeId sampleDevice).getD .zero

theorem shutter_events :
    newEvents shutterWorld.engine (sampleEngine.discoverAndPair shutterWorld).2.engine =
      [.tx shutterDiscovery freqCh2 longPreamble true, .rx { data := shutterAnswer },
        .tx shutterKeyInit freqCh2 longPreamble true, .rx { data := shutterChallenge },
        .tx shutterTransfer freqCh2 12 true, .rx { data := shutterConfirm },
        .tx shutterConfig freqCh2 longPreamble false,
        .tx shutterConfig freqCh2 longPreamble false,
        .tx shutterConfig freqCh2 longPreamble false] := by
  decide +kernel

/-- The key the shutter unwraps. -/
theorem shutter_keyed :
    DeviceStage.Takes sampleEngine.nodeId sampleDevice shutterTransfer
      (.challenging (.replicate 6 0x05)) (.keyed sampleEngine.systemKey) := by
  have htakes : DeviceStage.Takes sampleEngine.nodeId sampleDevice shutterTransfer _ _ :=
    .keyTransfer (.replicate 6 0x05)
      (cryptKey [cmdKeyInit] (.replicate 6 0x05) sampleEngine.systemKey)
      (by decide +kernel) (by decide +kernel) (by decide +kernel)
  rwa [cryptKey_cryptKey] at htakes

/-- The shutter's side of the same run. -/
theorem shutter_follows :
    Follows (DeviceStage.step sampleEngine.nodeId sampleDevice) .ready
      (newEvents shutterWorld.engine (sampleEngine.discoverAndPair shutterWorld).2.engine)
      (.keyed sampleEngine.systemKey) := by
  have hanswer : ∀ f, parse shutterAnswer = some f → DeviceStage.ready.Says f := by
    intro f hparse
    rw [show parse shutterAnswer = some (readFrame shutterAnswer) by decide +kernel] at hparse
    obtain rfl := Option.some_inj.1 hparse
    exact ⟨by decide, by decide⟩
  have hchallenge : ∀ f, parse shutterChallenge = some f →
      (DeviceStage.challenging (.replicate 6 0x05)).Says f := by
    intro f hparse
    rw [show parse shutterChallenge = some (readFrame shutterChallenge) by decide +kernel] at hparse
    obtain rfl := Option.some_inj.1 hparse
    exact ⟨fun _ => by decide, by decide⟩
  have hinit : DeviceStage.Takes sampleEngine.nodeId sampleDevice shutterKeyInit .ready
      (.challenging (.replicate 6 0x05)) :=
    .keyInit _ (fun key h => by cases h) ⟨by decide, by decide, by decide⟩
  rw [shutter_events]
  refine .cons (.lost _) (.cons ⟨rfl, fun f hf _ _ => hanswer f hf⟩ ?_)
  refine .cons hinit (.cons ⟨rfl, fun f hf _ _ => hchallenge f hf⟩ ?_)
  refine .cons shutter_keyed (.cons ⟨rfl, fun f _ _ _ => trivial⟩ ?_)
  exact .cons (.lost _) (.cons (.lost _) (.cons (.lost _) (.nil _)))

theorem pairing_agrees_shutter :
    ∃ stage, Follows (DeviceStage.step sampleEngine.nodeId sampleDevice) .ready
        (newEvents shutterWorld.engine (sampleEngine.discoverAndPair shutterWorld).2.engine) stage ∧
      stage = .keyed sampleEngine.systemKey := by
  have hputs : (sampleEngine.discoverAndPair shutterWorld).2.puts = shutterWorld.puts ++
      [(nodeIdToString sampleDevice, (parseDeviceFromDiscovery (readFrame shutterAnswer) {}).1)] := by
    decide +kernel
  exact ⟨_, shutter_follows,
    (sampleEngine.pairing_agrees shutterWorld sampleDevice _ shutter_follows).2 _ _ hputs
      (by decide)⟩

end ExchangeEngine
end HomeIoControl
