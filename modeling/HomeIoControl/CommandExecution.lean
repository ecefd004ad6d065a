import HomeIoControl.ExchangeShape
import HomeIoControl.PairingTrace
import HomeIoControl.TraceFollowing

namespace HomeIoControl
open EventTrace

/-! ## A device that executes commands -/

/-- What a paired device is at: it waits, it has challenged for a request, or it has carried one out
and reports on it. -/
inductive ActuatorStage
  | waiting
  | challenging (request : IoFrame) (challenge : Challenge)
  | reporting

structure Actuator where
  stage : ActuatorStage := .waiting
  executed : List IoFrame := []

namespace Actuator

/-- What the device sends: a challenge with its own bytes for a request, and reports only once it
has executed a request. -/
def Says (a : Actuator) (f : IoFrame) : Prop :=
  match a.stage with
  | .waiting => False
  | .challenging _ challenge => f.cmd = cmdChallengeReq ∧ hmacField f = challenge
  | .reporting => f.cmd ≠ cmdChallengeReq

/-- What the device makes of a frame of the controller. Any frame can be lost, any other command is a
request to it, and a proof has to be the one for its request and its challenge. -/
inductive Takes (key : AesKey) (node : NodeId) (f : IoFrame) : Actuator → Actuator → Prop
  | lost (a : Actuator) : Takes key node f a a
  | request (a : Actuator) (challenge : Challenge) (hcmd : f.cmd ≠ cmdChallengeResp)
      (hdst : f.dst = node) : Takes key node f a { a with stage := .challenging f challenge }
  | proof {request : IoFrame} {challenge : Challenge} (executed : List IoFrame)
      (hcmd : f.cmd = cmdChallengeResp) (hdst : f.dst = node)
      (hproof : f.payload = (createHmac (transcript request) challenge key).toList) :
      Takes key node f { stage := .challenging request challenge, executed }
        { stage := .reporting, executed := executed ++ [request] }

/-- The device's part in a trace of the controller: of the controller's frames it takes some, and
what the controller hears in its name is its own. -/
def step (key : AesKey) (own node : NodeId) (a : Actuator) : RadioEvent → Actuator → Prop
  | .tx frame _ _ _, b => Takes key node frame a b
  | .rx packet, b =>
    b = a ∧ ∀ f, parse packet.data = some f → f.src = node → f.dst = own → a.Says f

variable {key : AesKey} {own node : NodeId} {a b : Actuator} {f : IoFrame}

theorem Takes.of_not_proof (h : Takes key node f a b) (hcmd : f.cmd ≠ cmdChallengeResp) :
    b = a ∨ ∃ challenge, b = { a with stage := .challenging f challenge } := by
  cases h with
  | lost => exact .inl rfl
  | request _ challenge => exact .inr ⟨challenge, rfl⟩
  | proof _ hproof => exact absurd hproof hcmd

theorem Takes.of_proof (h : Takes key node f a b) (hcmd : f.cmd = cmdChallengeResp) :
    b = a ∨ ∃ request challenge, a.stage = .challenging request challenge ∧
      f.payload = (createHmac (transcript request) challenge key).toList ∧
      b = { stage := .reporting, executed := a.executed ++ [request] } := by
  cases h with
  | lost => exact .inl rfl
  | request _ _ hne => exact absurd hcmd hne
  | proof executed _ _ hproof => exact .inr ⟨_, _, rfl, hproof, rfl⟩

/-- Packets alone leave the device, and its own among them come from it. -/
theorem follows_rx {packets : List RadioRxPacket}
    (h : Follows (step key own node) a (packets.map .rx) b) :
    b = a ∧ ∀ packet ∈ packets, ∀ f, parse packet.data = some f → f.src = node → f.dst = own →
      a.Says f := by
  obtain ⟨hsame, hsaid⟩ := h.still (P := fun a e => ∀ packet, e = .rx packet →
    ∀ f, parse packet.data = some f → f.src = node → f.dst = own → a.Says f) <| by
      intro a b e he hstep
      obtain ⟨packet, -, rfl⟩ := List.mem_map.1 he
      refine ⟨hstep.1, ?_⟩
      rintro _ ⟨⟩
      exact hstep.2
  exact ⟨hsame, fun packet hpacket => hsaid _ (List.mem_map_of_mem hpacket) packet rfl⟩

/-! ## What an exchange makes the device do -/

/-- What an exchange can make of the device: it executes the request of the exchange, or one that it
had challenged for before and that has the same proof. -/
structure Serves (key : AesKey) (request : IoFrame) (most : ℕ) (a b : Actuator) : Prop where
  executed : ∃ new : List IoFrame, b.executed = a.executed ++ new ∧ new.length ≤ most ∧
    ∀ r ∈ new, r = request ∨ ∃ challenge, a.stage = .challenging r challenge ∧
      createHmac (transcript r) challenge key = createHmac (transcript request) challenge key
  challenging : ∀ r challenge, b.stage = .challenging r challenge →
    r = request ∨ a.stage = .challenging r challenge

variable {request : IoFrame} {most more : ℕ} {c : Actuator}

theorem Serves.refl (key : AesKey) (request : IoFrame) (a : Actuator) :
    Serves key request 0 a a where
  executed := ⟨[], by simp⟩
  challenging r challenge h := .inr h

theorem Serves.trans (h : Serves key request most a b) (h' : Serves key request more b c) :
    Serves key request (most + more) a c where
  executed := by
    obtain ⟨new, hnew, hmost, hright⟩ := h.executed
    obtain ⟨new', hnew', hmore, hright'⟩ := h'.executed
    refine ⟨new ++ new', ?_, ?_, ?_⟩
    · rw [hnew', hnew, List.append_assoc]
    · rw [List.length_append]
      omega
    · intro r hr
      rcases List.mem_append.1 hr with hr | hr
      · exact hright r hr
      · rcases hright' r hr with hsame | ⟨challenge, hstage, hproof⟩
        · exact .inl hsame
        · exact (h.challenging r challenge hstage).imp_right fun hbefore =>
            ⟨challenge, hbefore, hproof⟩
  challenging r challenge hstage := by
    rcases h'.challenging r challenge hstage with hsame | hbefore
    · exact .inl hsame
    · exact h.challenging r challenge hbefore

theorem Serves.mono (h : Serves key request most a b) (hle : most ≤ more) :
    Serves key request more a b where
  executed := by
    obtain ⟨new, hnew, hmost, hright⟩ := h.executed
    exact ⟨new, hnew, hmost.trans hle, hright⟩
  challenging := h.challenging

/-- The request itself executes nothing. -/
theorem Takes.serves (h : Takes key node request a b) (hrequest : request.cmd ≠ cmdChallengeResp) :
    Serves key request 0 a b := by
  rcases h.of_not_proof hrequest with rfl | ⟨challenge, rfl⟩
  · exact .refl key request b
  · refine ⟨⟨[], by simp⟩, ?_⟩
    intro r challenge' hstage
    obtain ⟨rfl, -⟩ := ActuatorStage.challenging.inj hstage
    exact .inl rfl

/-- A proof of the exchange under the challenge that the device waits with. -/
theorem Takes.serves_proof {proof : IoFrame} (h : Takes key node proof a b)
    (hcmd : proof.cmd = cmdChallengeResp) {challenge : Challenge}
    (hproof : proof.payload = (createHmac (transcript request) challenge key).toList)
    (hstage : ∀ r challenge', a.stage = .challenging r challenge' → challenge' = challenge) :
    Serves key request 1 a b := by
  rcases h.of_proof hcmd with rfl | ⟨r, challenge', hchallenging, hexpected, rfl⟩
  · exact (Serves.refl key request b).mono (by omega)
  · obtain rfl := hstage r challenge' hchallenging
    have hsame := Vector.toList_inj.1 (hexpected.symm.trans hproof)
    refine ⟨⟨[r], rfl, le_rfl, ?_⟩, ?_⟩
    · intro r' hr'
      obtain rfl := List.mem_singleton.1 hr'
      exact .inr ⟨challenge', hchallenging, hsame⟩
    · intro r' challenge'' hreporting
      cases hreporting

/-- It has executed so many requests, and more than that if it reports. -/
def Counts (n : ℕ) (a : Actuator) : Prop :=
  n ≤ a.executed.length ∧ (a.stage = .reporting → n < a.executed.length)

theorem Counts.step {n : ℕ} {e : RadioEvent} (h : a.Counts n) (hstep : step key own node a e b) :
    b.Counts n := by
  cases e with
  | rx packet =>
    obtain ⟨rfl, -⟩ := hstep
    exact h
  | tx frame freqHz preambleLen sent =>
    cases hstep with
    | lost => exact h
    | request _ challenge => exact ⟨h.1, fun hstage => by cases hstage⟩
    | proof executed =>
      have hn := h.1
      unfold Counts
      rw [List.length_append, List.length_singleton]
      dsimp only at hn
      omega

theorem length_executed_le {events : List RadioEvent}
    (h : Follows (step key own node) a events b) : a.executed.length ≤ b.executed.length := by
  refine h.kept (I := fun c => a.executed.length ≤ c.executed.length) ?_ le_rfl
  intro s t e _ hs hstep
  cases e with
  | rx packet =>
    obtain ⟨rfl, -⟩ := hstep
    exact hs
  | tx frame freqHz preambleLen sent =>
    cases hstep with
    | lost => exact hs
    | request => exact hs
    | proof executed =>
      rw [List.length_append]
      exact Nat.le_add_right_of_le hs

/-- A report that is heard tells that the device has executed something since. -/
theorem executed_of_heard {events : List RadioEvent} (h : Follows (step key own node) a events b)
    (hstart : a.stage ≠ .reporting) {packet : RadioRxPacket} (hmem : .rx packet ∈ events)
    (hparse : parse packet.data = some f) (hsrc : f.src = node) (hdst : f.dst = own)
    (hcmd : f.cmd ≠ cmdChallengeReq) : a.executed.length < b.executed.length := by
  obtain ⟨before, after, t, t', -, hbefore, ⟨rfl, hsaid⟩, hafter⟩ := h.at_mem hmem
  have hcounts : t'.Counts a.executed.length :=
    hbefore.kept (fun _ _ _ _ hs hstep => hs.step hstep)
      ⟨le_rfl, fun hreporting => absurd hreporting hstart⟩
  have hreporting : t'.stage = .reporting := by
    have hf := hsaid f hparse hsrc hdst
    unfold Says at hf
    cases hstage : t'.stage with
    | waiting =>
      rw [hstage] at hf
      exact hf.elim
    | challenging request challenge =>
      rw [hstage] at hf
      exact absurd hf.1 hcmd
    | reporting => rfl
  exact (hcounts.2 hreporting).trans_le (length_executed_le hafter)

end Actuator

namespace ExchangeEngine

variable {engine : ExchangeEngine} {request : IoFrame} {a b : Actuator} {events : List RadioEvent}

/-- One try makes the device execute at most one request. -/
theorem TryShape.serves {freqHz preambleLen : ℕ}
    (h : engine.TryShape request freqHz preambleLen events)
    (hrequest : request.cmd ≠ cmdChallengeResp)
    (hdevice : Follows (Actuator.step engine.systemKey request.src request.dst) a events b) :
    Actuator.Serves engine.systemKey request 1 a b := by
  cases h with
  | refused =>
    obtain ⟨t, htaken, hrest⟩ := follows_cons.1 hdevice
    obtain rfl := follows_nil.1 hrest
    exact (Actuator.Takes.serves htaken hrequest).mono (by omega)
  | asked heard =>
    obtain ⟨t, htaken, hrest⟩ := follows_cons.1 hdevice
    obtain ⟨rfl, -⟩ := Actuator.follows_rx hrest
    exact (Actuator.Takes.serves htaken hrequest).mono (by omega)
  | @proved earlier later packet challenge proof sent hchallenge hproof hlater =>
    obtain ⟨t, htaken, hrest⟩ := follows_cons.1 hdevice
    obtain ⟨u, hearlier, hheard⟩ := follows_append.1 hrest
    obtain ⟨rfl, -⟩ := Actuator.follows_rx hearlier
    obtain ⟨v, ⟨rfl, hsaid⟩, hproved⟩ := follows_cons.1 hheard
    obtain ⟨w, hproofTaken, hend⟩ := follows_cons.1 hproved
    obtain ⟨rfl, -⟩ := Actuator.follows_rx hend
    -- the challenge that was heard is the device's own
    have hown : ∀ r challenge', v.stage = .challenging r challenge' →
        challenge' = hmacField challenge := by
      intro r challenge' hstage
      have hf := hsaid challenge hchallenge.parses hchallenge.src hchallenge.dst
      rw [Actuator.Says, hstage] at hf
      exact hf.2.symm
    exact (Actuator.Takes.serves htaken hrequest).trans
      (Actuator.Takes.serves_proof hproofTaken hproof.cmd_eq hproof.payload_eq hown)

theorem serves_of_tries {freqHz preambleLen : ℕ} {tries : List (List RadioEvent)}
    (htries : ∀ events ∈ tries, engine.TryShape request freqHz preambleLen events)
    (hrequest : request.cmd ≠ cmdChallengeResp)
    (hdevice : Follows (Actuator.step engine.systemKey request.src request.dst) a tries.flatten b) :
    Actuator.Serves engine.systemKey request tries.length a b := by
  induction tries generalizing a with
  | nil =>
    obtain rfl := follows_nil.1 hdevice
    exact .refl _ request b
  | cons events tries ih =>
    rw [List.flatten_cons] at hdevice
    obtain ⟨t, hevents, hrest⟩ := follows_append.1 hdevice
    obtain ⟨hfirst, hlater⟩ := List.forall_mem_cons.1 htries
    rw [List.length_cons, Nat.add_comm]
    exact (hfirst.serves hrequest hevents).trans (ih hlater hrest)

variable (engine)

/-- Whatever frames get lost, an exchange makes a device that follows the protocol execute the
request at most three times and nothing else, but for a request of before that has the same proof.
If the exchange ends with a report, the device has executed it. -/
theorem commands_execute (request response : IoFrame) (freqHz : ℕ) (s : EngineState)
    (hrequest : request.cmd ≠ cmdChallengeResp) :
    let result := engine.sendAndReceive request response freqHz s
    Follows (Actuator.step engine.systemKey request.src request.dst) a (newEvents s result.2.2) b →
      ∃ new : List IoFrame, b.executed = a.executed ++ new ∧ new.length ≤ exchangeRetryCount ∧
        (∀ r ∈ new, r = request ∨ ∃ challenge, a.stage = .challenging r challenge ∧
          createHmac (transcript r) challenge engine.systemKey =
            createHmac (transcript request) challenge engine.systemKey) ∧
        (a.stage ≠ .reporting → result.1 = true → result.2.1.cmd ≠ cmdChallengeReq → new ≠ []) := by
  intro result hdevice
  obtain ⟨tries, hevents, htries, hshapes, -⟩ :=
    engine.sendAndReceive_shape request response freqHz s
  obtain ⟨hsuccess, hanswer, htrace, -⟩ := engine.sendAndReceive_eq request response freqHz s
  have hfollows := hdevice
  rw [hevents] at hfollows
  obtain ⟨new, hnew, hlength, hright⟩ :=
    ((serves_of_tries hshapes hrequest hfollows).mono htries).executed
  refine ⟨new, hnew, hlength, hright, fun hstart hok hcmd => ?_⟩
  rintro rfl
  cases hfind : (outcomes request s).findSome? TryOutcome.answer? with
  | none =>
    rw [hfind] at hsuccess
    exact absurd (hok.symm.trans hsuccess) (by simp)
  | some answer =>
    rw [hfind, Option.getD_some] at hanswer
    obtain ⟨⟨packet, hmem, hparse⟩, hsrc, hdst, -⟩ := engine.outcomes_answer hfind freqHz
    rw [newEvents_of_trace htrace] at hdevice
    have hless := Actuator.executed_of_heard hdevice hstart hmem hparse hsrc hdst
      (by rwa [← hanswer])
    rw [hnew, List.append_nil] at hless
    exact lt_irrefl _ hless

def openRequest : IoFrame :=
  (createExecutePosition sampleEngine.nodeId sampleDevice true 0).getD .zero

def firstChallenge : List UInt8 := deviceFrame cmdChallengeReq [1, 1, 1, 1, 1, 1]

def secondChallenge : List UInt8 := deviceFrame cmdChallengeReq [2, 2, 2, 2, 2, 2]

def openReport : List UInt8 := deviceFrame cmdPrivateResp [0x00, 0x00]

/-- The first report is lost. -/
def lostReportScript : RadioScript where
  sends := [true, true, true, true]
  windows := [oneFrame firstChallenge, [], oneFrame secondChallenge, oneFrame openReport]
  challenges := []
  rssis := []

def openProof (challenge : List UInt8) : IoFrame :=
  sampleEngine.proofOf openRequest (readFrame challenge)

theorem lostReport_events :
    newEvents { script := lostReportScript }
        (sampleEngine.sendAndReceive openRequest .zero freqCh2 { script := lostReportScript }).2.2 =
      [.tx openRequest freqCh2 longPreamble true, .rx { data := firstChallenge },
        .tx (openProof firstChallenge) freqCh2 12 true,
        .tx openRequest freqCh2 longPreamble true, .rx { data := secondChallenge },
        .tx (openProof secondChallenge) freqCh2 12 true, .rx { data := openReport }] := by
  decide +kernel

/-- The shutter answers each challenge that it gave, so that it opens twice. -/
theorem lostReport_follows :
    Follows (Actuator.step sampleEngine.systemKey openRequest.src openRequest.dst) {}
      (newEvents { script := lostReportScript }
        (sampleEngine.sendAndReceive openRequest .zero freqCh2 { script := lostReportScript }).2.2)
      { stage := .reporting, executed := [openRequest, openRequest] } := by
  have hasks : ∀ a : Actuator, ∀ challenge, Actuator.Takes sampleEngine.systemKey openRequest.dst
      openRequest a { a with stage := .challenging openRequest challenge } :=
    fun a challenge => .request a challenge (by decide) rfl
  have hproves : ∀ bytes executed,
      Actuator.Takes sampleEngine.systemKey openRequest.dst (openProof bytes)
        { stage := .challenging openRequest (hmacField (readFrame bytes)), executed }
        { stage := .reporting, executed := executed ++ [openRequest] } := by
    intro bytes executed
    have hproof := sampleEngine.proofOf_isCommand openRequest (readFrame bytes)
    exact .proof executed hproof.cmd_eq hproof.dst_eq hproof.payload_eq
  have hchallenges : ∀ bytes ∈ [firstChallenge, secondChallenge], ∀ executed f,
      parse bytes = some f → Actuator.Says
        { stage := .challenging openRequest (hmacField (readFrame bytes)), executed } f := by
    intro bytes hbytes executed f hparse
    have hread : parse bytes = some (readFrame bytes) ∧
        (readFrame bytes).cmd = cmdChallengeReq := by
      rcases List.mem_pair.1 hbytes with rfl | rfl <;> decide +kernel
    obtain rfl := Option.some_inj.1 (hread.1.symm.trans hparse)
    exact ⟨hread.2, rfl⟩
  have hreports : ∀ executed f, parse openReport = some f →
      Actuator.Says { stage := .reporting, executed } f := by
    intro executed f hparse
    rw [show parse openReport = some (readFrame openReport) by decide +kernel] at hparse
    obtain rfl := Option.some_inj.1 hparse
    exact show (readFrame openReport).cmd ≠ cmdChallengeReq by decide
  rw [lostReport_events]
  refine .cons (hasks _ _) (.cons ⟨rfl, fun f hf _ _ => hchallenges _ (by simp) _ f hf⟩ ?_)
  refine .cons (hproves _ _) (.cons (hasks _ (hmacField (readFrame secondChallenge))) ?_)
  refine .cons ⟨rfl, fun f hf _ _ => hchallenges secondChallenge (by simp) _ f hf⟩ ?_
  refine .cons (hproves _ _) (.cons ⟨rfl, fun f hf _ _ => hreports _ f hf⟩ (.nil _))

theorem commands_execute_lostReport :
    ∃ new : List IoFrame, [openRequest, openRequest] = [] ++ new ∧ new.length ≤ 3 ∧
      (∀ r ∈ new, r = openRequest) ∧ new ≠ [] := by
  obtain ⟨new, hnew, hlength, hright, hexecuted⟩ := sampleEngine.commands_execute openRequest .zero
    freqCh2 { script := lostReportScript } (by decide) lostReport_follows
  refine ⟨new, hnew, hlength, ?_, ?_⟩
  · intro r hr
    rcases hright r hr with h | ⟨_, hstage, -⟩
    · exact h
    · cases hstage
  · exact hexecuted (fun h => by cases h) (by decide +kernel) (by decide +kernel)

end ExchangeEngine
end HomeIoControl
