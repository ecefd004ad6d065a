import HomeIoControl.ExchangeSoundness

namespace HomeIoControl

/-- The packets arrive one after another during the wait for the answer to our challenge. -/
def EngineState.hearing (s : EngineState) (packets : List RadioRxPacket) : EngineState :=
  { s with
    script := { s.script with
      windows := packets.map (fun packet => { packet := some packet }) :: s.script.windows.tail } }

namespace ExchangeEngine

variable (engine : ExchangeEngine)

/-- A 0x3D from the requester to this controller with the right code. -/
def ProvesRequest (request : IoFrame) (challenge : Challenge) (packet : RadioRxPacket) : Prop :=
  ∃ rx, parse packet.data = some rx ∧ rx.cmd = cmdChallengeResp ∧ rx.src = request.src ∧
    rx.dst = engine.nodeId ∧
    rx.payload = (createHmac (transcript request) challenge engine.systemKey).toList

/-- A proof among the packets that follow the challenge authenticates the request, whatever comes
before it. -/
def AuthenticatesAmong (request : IoFrame) (freqHz : ℕ) (s : EngineState)
    (packets : List RadioRxPacket) : Prop :=
  s.script.sends.head?.getD false = true →
    (∃ packet ∈ packets, engine.ProvesRequest request s.nextChallenge packet) →
      (engine.authenticateRequest request freqHz (s.hearing packets)).1 = true

/-- The challenge goes out, a packet that the code does not accept arrives first and the proof is
behind it. -/
def ProofOvertaken (request : IoFrame) (s : EngineState) (packets : List RadioRxPacket) : Prop :=
  s.script.sends.head?.getD false = true ∧
    ∃ first rest, packets = first :: rest ∧
      ¬engine.AcceptsProof request s.nextChallenge first ∧
      ∃ packet ∈ rest, engine.ProvesRequest request s.nextChallenge packet

theorem dataLen_of_payload {f : IoFrame} {challenge : Challenge}
    (h : f.payload = challenge.toList) : f.dataLen = hmacSize := by
  have hlength := congrArg List.length h
  rw [IoFrame.payload, List.length_take, Vector.length_toList, Vector.length_toList] at hlength
  simp only [hmacSize]
  omega

theorem ProvesRequest.accepts {request : IoFrame} {challenge : Challenge}
    {packet : RadioRxPacket} (h : engine.ProvesRequest request challenge packet) :
    engine.AcceptsProof request challenge packet := by
  obtain ⟨rx, hparse, hcmd, -, -, hpayload⟩ := h
  refine ⟨rx, hparse, hcmd, ?_⟩
  rw [payload_of_dataLen (dataLen_of_payload hpayload)] at hpayload
  exact Vector.toList_inj.1 hpayload

/-- Only the first packet decides. -/
theorem authenticateRequest_hearing_iff (request : IoFrame) (freqHz : ℕ) (s : EngineState)
    (packets : List RadioRxPacket) :
    (engine.authenticateRequest request freqHz (s.hearing packets)).1 = true ↔
      s.script.sends.head?.getD false = true ∧
        ∃ first rest, packets = first :: rest ∧
          engine.AcceptsProof request s.nextChallenge first := by
  rw [(engine.authenticateRequest_iff request freqHz (s.hearing packets)).1]
  have hchallenge : (s.hearing packets).nextChallenge = s.nextChallenge := rfl
  have hwindow : (s.hearing packets).window.head?.bind Slice.packet = packets.head? := by
    cases packets <;> rfl
  rw [hchallenge, hwindow]
  apply and_congr_right
  intro _
  cases packets with
  | nil => simp
  | cons first rest => simp

/-- Foreign traffic defeats the authentication exactly when a packet that the code does not accept
overtakes the proof. -/
theorem authenticatesAmong_iff (request : IoFrame) (freqHz : ℕ) (s : EngineState)
    (packets : List RadioRxPacket) :
    engine.AuthenticatesAmong request freqHz s packets ↔
      ¬engine.ProofOvertaken request s packets := by
  unfold AuthenticatesAmong ProofOvertaken
  rw [authenticateRequest_hearing_iff]
  constructor
  · rintro h ⟨hsent, first, rest, rfl, hfirst, packet, hmem, hproves⟩
    obtain ⟨-, first', rest', heq, haccepts⟩ :=
      h hsent ⟨packet, List.mem_cons_of_mem first hmem, hproves⟩
    obtain ⟨rfl, rfl⟩ := List.cons.inj heq
    exact hfirst haccepts
  · rintro hnot hsent ⟨packet, hmem, hproves⟩
    refine ⟨hsent, ?_⟩
    cases packets with
    | nil => cases hmem
    | cons first rest =>
      refine ⟨first, rest, rfl, ?_⟩
      by_contra hfirst
      rcases List.mem_cons.1 hmem with rfl | hmem
      · exact hfirst hproves.accepts
      · exact hnot ⟨hsent, first, rest, rfl, hfirst, packet, hmem, hproves⟩

def challengedUpdate : EngineState where
  script :=
    { sends := [true], windows := [], challenges := [.replicate 6 0x05], rssis := [] }

def noiseThenProof : List RadioRxPacket :=
  [{ data := [0xFF] },
    { data := deviceFrame cmdChallengeResp [0xFD, 0x44, 0x07, 0x9F, 0xDD, 0x18] }]

/-- The damaged packet ends the wait. -/
theorem noise_defeats_authentication :
    ¬sampleEngine.AuthenticatesAmong statusUpdate freqCh2 challengedUpdate noiseThenProof := by
  intro h
  have hproof : sampleEngine.ProvesRequest statusUpdate challengedUpdate.nextChallenge
      { data := deviceFrame cmdChallengeResp [0xFD, 0x44, 0x07, 0x9F, 0xDD, 0x18] } := by
    refine ⟨(parse (deviceFrame cmdChallengeResp [0xFD, 0x44, 0x07, 0x9F, 0xDD, 0x18])).getD .zero,
      rfl, rfl, rfl, rfl, ?_⟩
    have hcode : createHmac (transcript statusUpdate) challengedUpdate.nextChallenge
        sampleEngine.systemKey = #v[0xFD, 0x44, 0x07, 0x9F, 0xDD, 0x18] := createHmac_statusUpdate
    rw [hcode]
    decide
  have htrue := h rfl ⟨_, List.mem_cons_of_mem _ List.mem_cons_self, hproof⟩
  exact absurd htrue (by decide +kernel)

end ExchangeEngine
end HomeIoControl
