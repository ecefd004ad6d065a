import HomeIoControl.ExchangeShape
import HomeIoControl.InboundAuthentication

namespace HomeIoControl
open EventTrace

/-! ## Frames on their way from one node to another -/

def Carries (packet : RadioRxPacket) (frame : IoFrame) : Prop :=
  serialize frame frameMaxSize = some packet.data

def packetOf (frame : IoFrame) : RadioRxPacket where
  data := (serialize frame frameMaxSize).getD []

theorem carries_packetOf {frame : IoFrame} (h : (serialize frame frameMaxSize).isSome) :
    Carries (packetOf frame) frame := by
  obtain ⟨bytes, hbytes⟩ := Option.isSome_iff_exists.1 h
  rw [Carries, packetOf, hbytes, Option.getD_some]

theorem Carries.parse {packet : RadioRxPacket} {frame : IoFrame} (h : Carries packet frame) :
    parse packet.data = some { frame with data := zeroFilled frame.payload } :=
  parse_of_serialize h

theorem payload_zeroFilled {f : IoFrame} (h : f.dataLen ≤ frameMaxDataSize) :
    ({ f with data := zeroFilled f.payload } : IoFrame).payload = f.payload := by
  have hlength := payload_length h
  have hfits : f.payload.length ≤ frameMaxDataSize := by rwa [hlength]
  have htake := zeroFilled_take hfits
  rw [hlength] at htake
  exact htake

theorem dataLen_le_of_serialize {f : IoFrame} {bytes : List UInt8}
    (h : serialize f frameMaxSize = some bytes) : f.dataLen ≤ frameMaxDataSize := by
  unfold serialize at h
  dsimp only at h
  split_ifs at h with hlen hdata hagree
  exact Nat.le_of_not_gt hdata

theorem Carries.transcript_eq {packet : RadioRxPacket} {frame received : IoFrame}
    (h : Carries packet frame) (hparse : HomeIoControl.parse packet.data = some received) :
    transcript received = transcript frame := by
  rw [h.parse] at hparse
  obtain rfl := Option.some.inj hparse
  exact congrArg (frame.cmd :: ·) (payload_zeroFilled (dataLen_le_of_serialize h))

theorem Carries.hmacField_eq {packet : RadioRxPacket} {frame received : IoFrame}
    {src dst : NodeId} {cmd : UInt8} {field : Challenge}
    (h : Carries packet frame) (hframe : IsCommand frame src dst cmd field.toList)
    (hparse : HomeIoControl.parse packet.data = some received) : hmacField received = field := by
  rw [h.parse] at hparse
  obtain rfl := Option.some.inj hparse
  apply hmacField_of_payload
  dsimp only
  rw [hframe.payload_eq]

namespace ExchangeEngine

variable (engine : ExchangeEngine)

/-! ## What follows a challenge -/

/-- A frame transmitted right after a challenge for the request is the proof for it. -/
def ProvesNext (request : IoFrame) (before : List RadioEvent) (e : RadioEvent) : Prop :=
  ∀ packet challenge, before.getLast? = some (.rx packet) → Challenges request packet challenge →
    ∀ {frame freqHz preambleLen sent}, e = .tx frame freqHz preambleLen sent →
      frame = engine.proofOf request challenge

/-- The events do not end with a challenge for the request. -/
def Unchallenged (request : IoFrame) (events : List RadioEvent) : Prop :=
  ∀ packet challenge, events.getLast? = some (.rx packet) → ¬Challenges request packet challenge

theorem Unchallenged.provesNext {request : IoFrame} {before : List RadioEvent}
    (h : Unchallenged request before) (e : RadioEvent) : engine.ProvesNext request before e :=
  fun packet challenge hlast hchallenge => absurd hchallenge (h packet challenge hlast)

theorem unchallenged_concat_tx (request : IoFrame) (events : List RadioEvent) (frame : IoFrame)
    (freqHz preambleLen : ℕ) (sent : Bool) :
    Unchallenged request (events ++ [.tx frame freqHz preambleLen sent]) := by
  intro packet challenge hlast
  simp at hlast

theorem provesNext_rx (request : IoFrame) (before : List RadioEvent) (packet : RadioRxPacket) :
    engine.ProvesNext request before (.rx packet) :=
  fun _ _ _ _ {_ _ _ _} h => by cases h

theorem justified_heard (request : IoFrame) (earlier : List RadioEvent) (w : Window) :
    Justified (fun before => engine.ProvesNext request (earlier ++ before))
      (tryEvents.heard request w) :=
  justified_map fun packet before => engine.provesNext_rx request (earlier ++ before) packet

/-- A wait that ends without an answer has heard no challenge. -/
theorem unchallenged_heard {request : IoFrame} {w : Window} {earlier : List RadioEvent}
    (hearlier : Unchallenged request earlier) (h : firstAnswer request w = none) :
    Unchallenged request (earlier ++ tryEvents.heard request w) := by
  intro packet challenge hlast hchallenge
  rw [List.getLast?_append] at hlast
  cases hheard : (tryEvents.heard request w).getLast? with
  | none =>
    rw [hheard] at hlast
    exact hearlier packet challenge hlast hchallenge
  | some e =>
    rw [hheard] at hlast
    obtain rfl : e = .rx packet := Option.some.inj hlast
    have hsome := firstAnswer_of_challenges (List.mem_of_getLast? hheard) hchallenge
    rw [h] at hsome
    cases hsome

theorem firstAnswer_of_silent {request : IoFrame} {sends : List Bool} {windows : List Window}
    (h : TryOutcome.of request sends windows = .silent) :
    firstAnswer request (windows.head?.getD []) = none := by
  cases hfirst : firstAnswer request (windows.head?.getD []) with
  | none => rfl
  | some first =>
    simp only [TryOutcome.of, hfirst] at h
    split_ifs at h
    split at h <;> cases h

theorem firstAnswer_of_unanswered {request challenge : IoFrame} {sends : List Bool}
    {windows : List Window} (h : TryOutcome.of request sends windows = .unanswered challenge) :
    firstAnswer request (windows.tail.head?.getD []) = none := by
  cases hfinal : firstAnswer request (windows.tail.head?.getD []) with
  | none => rfl
  | some answer =>
    simp only [TryOutcome.of, hfinal] at h
    split_ifs at h
    all_goals
      split at h
      · cases h
      · split_ifs at h

theorem justified_asked_proves (request : IoFrame) (freqHz preambleLen : ℕ)
    (windows : List Window) {earlier : List RadioEvent} (hearlier : Unchallenged request earlier) :
    Justified (fun before => engine.ProvesNext request (earlier ++ before))
      (tryEvents.asked request freqHz preambleLen windows) := by
  unfold tryEvents.asked
  rw [justified_cons, List.append_nil]
  refine ⟨hearlier.provesNext engine _, ?_⟩
  have hheard := engine.justified_heard request
    (earlier ++ [.tx request freqHz preambleLen true]) (windows.head?.getD [])
  simpa only [List.append_assoc, List.singleton_append] using hheard

theorem provesNext_proof {request challenge : IoFrame} {windows : List Window}
    (hfirst : firstAnswer request (windows.head?.getD []) = some challenge)
    (freqHz preambleLen : ℕ) (sent : Bool) (earlier : List RadioEvent) :
    engine.ProvesNext request
      (earlier ++ tryEvents.asked request freqHz preambleLen windows)
      (tryEvents.proof engine request freqHz challenge sent) := by
  obtain ⟨heard, p, hheard, hparse⟩ := heard_of_firstAnswer hfirst
  intro packet challenge' hlast hchallenge frame _ _ _ heq
  obtain rfl : engine.proofOf request challenge = frame := (RadioEvent.tx.inj heq).1
  rw [tryEvents.asked, hheard, ← List.cons_append, ← List.append_assoc,
    List.getLast?_concat] at hlast
  obtain rfl : p = packet := RadioEvent.rx.inj (Option.some.inj hlast)
  have hsame := hparse.symm.trans hchallenge.parses
  rw [Option.some.inj hsame]

/-- In a try every frame behind a challenge is its proof. A try without an answer does not end with
a challenge, so the next one starts afresh. -/
theorem justified_tryEvents_proves (request : IoFrame) (freqHz preambleLen : ℕ)
    (sends : List Bool) (windows : List Window) {earlier : List RadioEvent}
    (hearlier : Unchallenged request earlier) :
    let outcome := TryOutcome.of request sends windows
    let events := engine.tryEvents request freqHz preambleLen windows outcome
    Justified (fun before => engine.ProvesNext request (earlier ++ before)) events ∧
      (outcome.answer? = none → Unchallenged request (earlier ++ events)) := by
  have hasked := engine.justified_asked_proves request freqHz preambleLen windows hearlier
  have hfirst : ∀ challenge, (TryOutcome.of request sends windows).challenge? = some challenge →
      firstAnswer request (windows.head?.getD []) = some challenge := by
    intro challenge h
    rw [TryOutcome.challenge?_of] at h
    split at h
    · exact (Option.filter_eq_some_iff.1 h).1
    · cases h
  have hsilent := fun h => firstAnswer_of_silent (h : TryOutcome.of request sends windows = .silent)
  have hunanswered := fun challenge h =>
    firstAnswer_of_unanswered (h : TryOutcome.of request sends windows = .unanswered challenge)
  have hproof : ∀ {challenge sent}, firstAnswer request (windows.head?.getD []) = some challenge →
      ∀ w, Justified (fun before => engine.ProvesNext request (earlier ++ before))
        (tryEvents.asked request freqHz preambleLen windows ++
          tryEvents.proof engine request freqHz challenge sent :: tryEvents.heard request w) := by
    intro challenge sent hanswer w
    rw [justified_append, justified_cons, List.append_nil]
    refine ⟨hasked, engine.provesNext_proof hanswer freqHz preambleLen sent earlier, ?_⟩
    exact justified_map fun packet _ => engine.provesNext_rx request _ packet
  -- a try that fails leaves no challenge open for the next one
  generalize TryOutcome.of request sends windows = outcome at hfirst hsilent hunanswered
  dsimp only
  cases outcome with
  | refused =>
    refine ⟨?_, fun _ => unchallenged_concat_tx request earlier request freqHz preambleLen false⟩
    rw [tryEvents, justified_singleton, List.append_nil]
    exact hearlier.provesNext engine _
  | silent =>
    refine ⟨hasked, fun _ => ?_⟩
    have hstart := unchallenged_concat_tx request earlier request freqHz preambleLen true
    simpa [tryEvents, tryEvents.asked] using unchallenged_heard hstart (hsilent rfl)
  | direct answer => exact ⟨hasked, fun h => by cases h⟩
  | proofRefused challenge =>
    refine ⟨hproof (hfirst challenge rfl) [], fun _ => ?_⟩
    rw [tryEvents, ← List.append_assoc]
    exact unchallenged_concat_tx _ _ _ _ _ _
  | unanswered challenge =>
    refine ⟨hproof (hfirst challenge rfl) _, fun _ => ?_⟩
    have hstart := unchallenged_concat_tx request
      (earlier ++ tryEvents.asked request freqHz preambleLen windows)
      (engine.proofOf request challenge) freqHz engine.responsePreamble true
    simpa [tryEvents, tryEvents.proof] using unchallenged_heard hstart (hunanswered challenge rfl)
  | proved challenge answer => exact ⟨hproof (hfirst challenge rfl) _, fun h => by cases h⟩

theorem justified_runEvents_proves (request : IoFrame) (freqHz preambleLen tries : ℕ)
    (sends : List Bool) (windows : List Window) {earlier : List RadioEvent}
    (hearlier : Unchallenged request earlier) :
    Justified (fun before => engine.ProvesNext request (earlier ++ before))
      (engine.runEvents request freqHz preambleLen tries sends windows) := by
  induction tries generalizing sends windows earlier with
  | zero => exact justified_nil _
  | succ tries ih =>
    obtain ⟨htry, hnext⟩ := engine.justified_tryEvents_proves request freqHz preambleLen sends
      windows hearlier
    unfold runEvents
    dsimp only
    rw [justified_append]
    refine ⟨htry, ?_⟩
    split
    · exact justified_nil _
    · rename_i hanswer
      have hrest := ih (sends.drop (TryOutcome.of request sends windows).sendsUsed)
        (windows.drop (TryOutcome.of request sends windows).windowsUsed)
        (hnext (by simpa using hanswer))
      simpa only [List.append_assoc] using hrest

theorem sendAndReceive_proves {request response : IoFrame} {freqHz : ℕ} {s : EngineState}
    {before after : List RadioEvent} {packet : RadioRxPacket} {challenge frame : IoFrame}
    {freqHz' preambleLen : ℕ} {sent : Bool}
    (htrace : newEvents s (engine.sendAndReceive request response freqHz s).2.2 =
      before ++ .rx packet :: .tx frame freqHz' preambleLen sent :: after)
    (hchallenge : Challenges request packet challenge) :
    frame = engine.proofOf request challenge := by
  obtain ⟨-, -, hevents, -⟩ := engine.sendAndReceive_eq request response freqHz s
  have hjustified : Justified (engine.ProvesNext request)
      (engine.exchangeEvents request freqHz s) := by
    unfold exchangeEvents
    split
    · have hnil : Unchallenged request [] := fun _ _ h => by cases h
      exact engine.justified_runEvents_proves request freqHz _ _ _ _ hnil
    · exact justified_nil _
  rw [newEvents_of_trace hevents] at htrace
  have hnext := hjustified (before ++ [.rx packet]) (.tx frame freqHz' preambleLen sent) after
    (by rw [htrace]; simp)
  exact hnext packet challenge (by simp) hchallenge rfl

/-! ## The verifier's side -/

/-- A verifier transmits its challenge and then only listens. -/
theorem authenticateRequest_trace (request : IoFrame) (freqHz : ℕ) (s : EngineState) :
    ∃ challenge, createChallengeReq request.src engine.nodeId s.nextChallenge = some challenge ∧
      ∃ heard : List RadioRxPacket,
        (engine.authenticateRequest request freqHz s).2.trace =
          s.trace ++ .tx challenge freqHz shortPreamble (s.script.sends.head?.getD false) ::
            heard.map .rx := by
  obtain ⟨challenge, hchallenge, -, htrace⟩ := engine.authenticateRequest_course request freqHz s
  exact ⟨challenge, hchallenge, _, htrace⟩

theorem challenge_of_transmitted {request challenge : IoFrame} {freqHz : ℕ} {s : EngineState}
    (h : .tx challenge freqHz shortPreamble true ∈
      newEvents s (engine.authenticateRequest request freqHz s).2) :
    s.script.sends.head?.getD false = true ∧
      createChallengeReq request.src engine.nodeId s.nextChallenge = some challenge := by
  obtain ⟨challenge', hchallenge, heard, htrace⟩ :=
    engine.authenticateRequest_trace request freqHz s
  rw [newEvents_of_trace htrace, List.mem_cons] at h
  rcases h with h | h
  · obtain ⟨rfl, -, -, hsent⟩ := RadioEvent.tx.inj h
    exact ⟨hsent.symm, hchallenge⟩
  · obtain ⟨packet, -, hpacket⟩ := List.mem_map.1 h
    cases hpacket

/-! ## Two nodes with one key -/

/-- The verifier received the serialized request and transmits a challenge; the requester accepts
the serialized challenge and transmits the proof next. -/
structure Handshake (requester verifier : ExchangeEngine) (request received proof : IoFrame)
    (freqHz : ℕ) (t : EngineState) : Prop where
  sameKey : requester.systemKey = verifier.systemKey
  asked : ∃ packet, Carries packet request ∧ parse packet.data = some received
  answered : ∃ challenge packet heard,
    .tx challenge freqHz shortPreamble true ∈
      newEvents t (verifier.authenticateRequest received freqHz t).2 ∧
    Carries packet challenge ∧ Challenges request packet heard ∧
    ∃ s response freqHz' before proofFreqHz preambleLen sent after,
      newEvents s (requester.sendAndReceive request response freqHz' s).2.2 =
        before ++ .rx packet :: .tx proof proofFreqHz preambleLen sent :: after

/-- The proof that the requester transmits is the one that the verifier looks for. -/
theorem Handshake.proof_isCommand {requester verifier : ExchangeEngine}
    {request received proof : IoFrame} {freqHz : ℕ} {t : EngineState}
    (h : Handshake requester verifier request received proof freqHz t) :
    IsCommand proof requester.nodeId request.dst cmdChallengeResp
      (createHmac (transcript received) t.nextChallenge verifier.systemKey).toList := by
  obtain ⟨asked, hasked, hreceived⟩ := h.asked
  obtain ⟨challenge, packet, heard, hsent, hcarried, haccepted, s, response, freqHz', before,
    proofFreqHz, preambleLen, sent, after, htrace⟩ := h.answered
  have hchallenge := (verifier.challenge_of_transmitted hsent).2
  have hfield : hmacField heard = t.nextChallenge :=
    hcarried.hmacField_eq (buildFrame_isCommand hchallenge) haccepted.parses
  have hproof := requester.proofOf_isCommand request heard
  rw [← requester.sendAndReceive_proves htrace haccepted, hfield, h.sameKey,
    ← hasked.transcript_eq hreceived] at hproof
  exact hproof

/-- The verifier accepts the requester's proof and no other six bytes. -/
theorem verifier_agrees_with_requester {requester verifier : ExchangeEngine}
    {request received proof : IoFrame} {freqHz : ℕ} {t : EngineState} {answer : RadioRxPacket}
    (h : Handshake requester verifier request received proof freqHz t)
    (hanswer : t.window.head?.bind Slice.packet = some answer) :
    (Carries answer proof → (verifier.authenticateRequest received freqHz t).1 = true) ∧
      ∀ frame, parse answer.data = some frame → frame.cmd = cmdChallengeResp →
        hmacField frame ≠ hmacField proof →
          (verifier.authenticateRequest received freqHz t).1 = false := by
  have hproof := h.proof_isCommand
  obtain ⟨_, _, _, hsent, -⟩ := h.answered
  have haccepts := (verifier.authenticateRequest_iff received freqHz t).1
  have htransmitted := (verifier.challenge_of_transmitted hsent).1
  constructor
  · intro hcarries
    rw [haccepts]
    refine ⟨htransmitted, answer, hanswer, _, hcarries.parse, hproof.cmd_eq, ?_⟩
    exact hcarries.hmacField_eq hproof hcarries.parse
  · intro frame hparse hcmd hdiffers
    rw [← Bool.not_eq_true, haccepts]
    rintro ⟨-, answer', hanswer', rx, hparse', -, hcode⟩
    obtain rfl : answer = answer' := Option.some.inj (hanswer.symm.trans hanswer')
    obtain rfl : frame = rx := Option.some.inj (hparse.symm.trans hparse')
    apply hdiffers
    rw [hcode, hmacField_of_payload hproof.data_eq]

def sampleVerifier : ExchangeEngine := { sampleEngine with nodeId := sampleDevice }

def sampleChallenge : IoFrame :=
  (createChallengeReq sampleEngine.nodeId sampleVerifier.nodeId (.replicate 6 0x05)).getD .zero

/-- The controller asks and hears the challenge. -/
def askingState : EngineState where
  script :=
    { sends := [true, true]
      windows := [oneFrame (packetOf sampleChallenge).data]
      challenges := []
      rssis := [] }

/-- The device challenges and hears the proof. -/
def verifyingState : EngineState where
  script :=
    { sends := [true]
      windows := [oneFrame
        (packetOf (sampleEngine.proofOf statusRequest sampleChallenge)).data]
      challenges := [.replicate 6 0x05]
      rssis := [] }

theorem verifier_agrees_on_statusRequest :
    (sampleVerifier.authenticateRequest statusRequest freqCh2 verifyingState).1 = true := by
  have hchallenged : .tx sampleChallenge freqCh2 shortPreamble true ∈ newEvents verifyingState
      (sampleVerifier.authenticateRequest statusRequest freqCh2 verifyingState).2 := by
    obtain ⟨challenge, hchallenge, heard, htrace⟩ :=
      sampleVerifier.authenticateRequest_trace statusRequest freqCh2 verifyingState
    obtain rfl : sampleChallenge = challenge := Option.some.inj hchallenge
    rw [newEvents_of_trace htrace]
    exact List.mem_cons_self
  have hproved : newEvents askingState (sampleEngine.sendAndReceive statusRequest .zero freqCh2
      askingState).2.2 =
      [.tx statusRequest freqCh2 longPreamble true] ++ .rx (packetOf sampleChallenge) ::
        .tx (sampleEngine.proofOf statusRequest sampleChallenge) freqCh2 12 true ::
          [.tx statusRequest freqCh2 longPreamble false,
            .tx statusRequest freqCh2 longPreamble false] := by
    obtain ⟨-, -, htrace, -⟩ := sampleEngine.sendAndReceive_eq statusRequest .zero freqCh2
      askingState
    rw [newEvents_of_trace htrace]
    rfl
  have h : Handshake sampleEngine sampleVerifier statusRequest statusRequest
      (sampleEngine.proofOf statusRequest sampleChallenge) freqCh2 verifyingState :=
    ⟨rfl, ⟨packetOf statusRequest, carries_packetOf rfl, by decide +kernel⟩,
      sampleChallenge, packetOf sampleChallenge, sampleChallenge, hchallenged,
      carries_packetOf rfl, ⟨by decide +kernel, rfl, rfl, rfl⟩, askingState, .zero, freqCh2,
      _, freqCh2, 12, true, _, hproved⟩
  have hproof := sampleEngine.proofOf_isCommand statusRequest sampleChallenge
  exact (verifier_agrees_with_requester h rfl).1 (carries_packetOf hproof.serialize_isSome)

end ExchangeEngine
end HomeIoControl
