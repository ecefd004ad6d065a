import HomeIoControl.AuthenticationAgreement
import HomeIoControl.KeyTrace
import HomeIoControl.PairingCompletion

namespace HomeIoControl
open GuardedRun

/-! ## Another hub in range -/

namespace RadioEvent

/-- The packet that another radio hears. -/
def overheard : RadioEvent → Option RadioRxPacket
  | tx frame freqHz _ true => (serialize frame frameMaxSize).map fun data => { data, freqHz }
  | tx _ _ _ false => none
  | rx packet => some packet

/-- What is heard is not in the name of a node. -/
def NotFrom (own : NodeId) : RadioEvent → Prop
  | tx _ _ _ _ => True
  | rx packet => ∀ f, parse packet.data = some f → f.src ≠ own

end RadioEvent

/-- What is on the air around a hub: its own events, and packets that it does not receive. -/
inductive OnAir (Other : RadioRxPacket → Prop) : List RadioEvent → List RadioEvent → Prop
  | nil : OnAir Other [] []
  | event {events air : List RadioEvent} (e : RadioEvent) (later : OnAir Other events air) :
      OnAir Other (e :: events) (e :: air)
  | other {events air : List RadioEvent} {packet : RadioRxPacket} (hpacket : Other packet)
      (later : OnAir Other events air) : OnAir Other events (.rx packet :: air)

namespace OnAir

variable {Other : RadioRxPacket → Prop} {P : RadioEvent → Prop} {events later air : List RadioEvent}
  {e : RadioEvent}

theorem forall_mem (h : OnAir Other events air) (hevents : ∀ e ∈ events, P e)
    (hother : ∀ packet, Other packet → P (.rx packet)) : ∀ e ∈ air, P e := by
  induction h with
  | nil => exact hevents
  | event e later ih =>
    obtain ⟨he, hevents⟩ := List.forall_mem_cons.1 hevents
    exact List.forall_mem_cons.2 ⟨he, ih hevents⟩
  | other hpacket later ih => exact List.forall_mem_cons.2 ⟨hother _ hpacket, ih hevents⟩

theorem cons_split (h : OnAir Other (e :: events) air) :
    ∃ before rest, air = before ++ e :: rest ∧ OnAir Other [] before ∧ OnAir Other events rest := by
  generalize hlist : e :: events = list at h
  induction h with
  | nil => cases hlist
  | event d later =>
    obtain ⟨rfl, rfl⟩ := List.cons.inj hlist
    exact ⟨[], _, rfl, .nil, later⟩
  | other hpacket later ih =>
    obtain ⟨before, rest, rfl, hbefore, hrest⟩ := ih hlist
    exact ⟨.rx _ :: before, rest, rfl, .other hpacket hbefore, hrest⟩

theorem append {air' : List RadioEvent} (h : OnAir Other events air) (h' : OnAir Other later air') :
    OnAir Other (events ++ later) (air ++ air') := by
  induction h with
  | nil => exact h'
  | event e _ ih => exact .event e ih
  | other hpacket _ ih => exact .other hpacket ih

theorem append_split (h : OnAir Other (events ++ later) air) :
    ∃ before rest, air = before ++ rest ∧ OnAir Other events before ∧ OnAir Other later rest := by
  induction events generalizing air with
  | nil => exact ⟨[], air, rfl, .nil, h⟩
  | cons e events ih =>
    obtain ⟨others, rest, rfl, hothers, hrest⟩ := h.cons_split
    obtain ⟨before, rest, rfl, hbefore, hrest⟩ := ih hrest
    exact ⟨others ++ e :: before, rest, by simp, hothers.append (.event e hbefore), hrest⟩

end OnAir

namespace KeyTrace

def overhear (t : KeyTrace) (e : RadioEvent) : KeyTrace :=
  match e.overheard with
  | none => t
  | some packet => t.processReceivedPacket packet

/-- No challenge of the first node to the second is left open. -/
def Closed (own node : NodeId) (t : KeyTrace) : Prop :=
  t.pendingKeyChallenges (exchangeKey own node) = none

/-- Neither in the name of the first node nor part of a key exchange of the second with it. -/
def Aside (own node : NodeId) (packet : RadioRxPacket) : Prop :=
  ∀ f, parse packet.data = some f → f.src ≠ own ∧
    (f.src = node → f.dst = own →
      isKeyChallenge f = false ∧ isKeyTransfer f = false ∧ f.cmd ≠ cmdKeyConfirm)

variable {own node : NodeId} {t : KeyTrace} {f : IoFrame} {events air : List RadioEvent}

theorem overhear_refused (t : KeyTrace) (f : IoFrame) (freqHz preambleLen : ℕ) :
    t.overhear (.tx f freqHz preambleLen false) = t := rfl

theorem overhear_unserializable (h : serialize f frameMaxSize = none) (t : KeyTrace)
    (freqHz preambleLen : ℕ) : t.overhear (.tx f freqHz preambleLen true) = t := by
  unfold overhear
  rw [RadioEvent.overheard, h]
  rfl

/-- What was sent is heard as it was. -/
theorem overhear_sent {bytes : List UInt8} (h : serialize f frameMaxSize = some bytes)
    (t : KeyTrace) (freqHz preambleLen : ℕ) :
    t.overhear (.tx f freqHz preambleLen true) =
      t.traceFrame freqHz { f with data := zeroFilled f.payload } := by
  unfold overhear
  rw [RadioEvent.overheard, h, Option.map_some]
  dsimp only
  rw [processReceivedPacket, parse_of_serialize h]

/-! ## What the trace keeps -/

theorem prefix_lines_traceFrame (freqHz : ℕ) (f : IoFrame) (t : KeyTrace) :
    t.lines <+: (t.traceFrame freqHz f).lines := by
  have hstore : ∀ t : KeyTrace, t.lines <+: (t.storeChallenge f).lines := by
    intro t
    unfold storeChallenge
    split_ifs
    · exact List.prefix_append _ _
    · exact List.prefix_rfl
  have hrecover : ∀ t : KeyTrace, t.lines <+: (t.recoverKey f).lines := by
    intro t
    unfold recoverKey
    split_ifs
    · dsimp only
      split
      · exact List.prefix_append _ _
      · exact List.prefix_append _ _
    · exact List.prefix_rfl
  have hforget : ∀ t : KeyTrace, t.lines <+: (t.forgetChallenges f).lines := by
    intro t
    unfold forgetChallenges
    split_ifs <;> exact List.prefix_rfl
  unfold traceFrame
  split_ifs
  · have hshow : t.lines <+: (t.showFrame freqHz f).lines := List.prefix_append _ _
    exact hshow.trans (((hstore _).trans (hrecover _)).trans (hforget _))
  · exact List.prefix_rfl

theorem prefix_lines_overhear (t : KeyTrace) (e : RadioEvent) :
    t.lines <+: (t.overhear e).lines := by
  unfold overhear processReceivedPacket
  cases e.overheard with
  | none => exact List.prefix_rfl
  | some packet =>
    dsimp only
    cases parse packet.data with
    | none => exact List.prefix_rfl
    | some f => exact prefix_lines_traceFrame packet.freqHz f t

theorem prefix_lines_run (t : KeyTrace) (events : List RadioEvent) :
    t.lines <+: (run overhear t events).lines := by
  induction events generalizing t with
  | nil => exact List.prefix_rfl
  | cons e events ih => exact (prefix_lines_overhear t e).trans (ih (t.overhear e))

/-- Only a challenge of the node itself opens one. -/
theorem Closed.traceFrame (h : Closed own node t) (hnone : f.cmd = cmdChallengeReq → f.src ≠ own)
    (freqHz : ℕ) : Closed own node (t.traceFrame freqHz f) := by
  unfold Closed
  rw [pending_traceFrame]
  unfold challengesAfter
  have hcleared : ∀ (pending : String → Option Challenge) (key : String),
      pending (exchangeKey own node) = none →
        Function.update pending key none (exchangeKey own node) = none := by
    intro pending key hpending
    rw [Function.update_apply, hpending, ite_self]
  split_ifs with hchallenge
  · have hcmd : f.cmd = cmdChallengeReq := by
      unfold isKeyChallenge at hchallenge
      rw [Bool.and_eq_true, beq_iff_eq] at hchallenge
      exact hchallenge.1
    rw [Function.update_of_ne fun heq => hnone hcmd (exchangeKey_inj.1 heq).1.symm]
    exact h
  · exact hcleared _ _ h
  · exact hcleared _ _ h
  · exact hcleared _ _ (hcleared _ _ h)
  · exact h

theorem Closed.overhear (h : Closed own node t) {e : RadioEvent}
    (htx : e.TxSatisfies fun f => f.cmd ≠ cmdChallengeReq) (hrx : e.NotFrom own) :
    Closed own node (t.overhear e) := by
  cases e with
  | rx packet =>
    show Closed own node (t.processReceivedPacket packet)
    unfold processReceivedPacket
    cases hparse : parse packet.data with
    | none => exact h
    | some f => exact h.traceFrame (fun _ => hrx f hparse) packet.freqHz
  | tx f freqHz preambleLen sent =>
    cases sent with
    | false => exact h
    | true =>
      cases hserial : serialize f frameMaxSize with
      | none =>
        rw [overhear_unserializable hserial]
        exact h
      | some bytes =>
        have hcmd : f.cmd ≠ cmdChallengeReq := htx
        rw [overhear_sent hserial]
        apply h.traceFrame
        exact fun heq => absurd heq hcmd

theorem Closed.run (h : Closed own node t)
    (htx : ∀ e ∈ events, e.TxSatisfies fun f => f.cmd ≠ cmdChallengeReq)
    (hrx : ∀ e ∈ events, e.NotFrom own) : Closed own node (run KeyTrace.overhear t events) := by
  have hkeeps : ∀ (t : KeyTrace) (e : RadioEvent), Closed own node t →
      e.TxSatisfies (fun f => f.cmd ≠ cmdChallengeReq) ∧ e.NotFrom own →
        Closed own node (t.overhear e) :=
    fun t e hclosed he => hclosed.overhear he.1 he.2
  exact always_of_kept hkeeps h (fun e he => ⟨htx e he, hrx e he⟩) events (List.prefix_refl events)

/-! ## A key on its way -/

/-- The node has challenged last, and the other has not. -/
structure Awaiting (own node : NodeId) (challenge : Challenge) (t : KeyTrace) : Prop where
  closed : Closed own node t
  opened : t.pendingKeyChallenges (exchangeKey node own) = some challenge

theorem Closed.awaiting (h : Closed own node t) (hchallenge : IsKeyChallenge own node f)
    (hne : own ≠ node) {packet : RadioRxPacket} (hparse : parse packet.data = some f) :
    Awaiting own node (hmacField f) (t.processReceivedPacket packet) := by
  obtain ⟨hcmd, hlen, hsrc, hdst⟩ := hchallenge
  have hkey : isKeyChallenge f = true := by simp [isKeyChallenge, hcmd, hlen]
  unfold processReceivedPacket
  rw [hparse]
  refine ⟨h.traceFrame (fun _ => ?_) packet.freqHz, ?_⟩
  · rw [hsrc]
    exact hne.symm
  · show (t.traceFrame packet.freqHz f).pendingKeyChallenges (exchangeKey node own) = _
    rw [pending_traceFrame, challengesAfter, if_pos hkey, hsrc, hdst, Function.update_self]

theorem Awaiting.lines_traceFrame {challenge : Challenge} {key : AesKey}
    (h : Awaiting f.src f.dst challenge t) (hne : f.src ≠ f.dst) (hwraps : f.WrapsKey challenge key)
    (freqHz : ℕ) :
    (t.traceFrame freqHz f).lines =
      t.lines ++ [.frame freqHz f, .recoveredSystemKey f.src f.dst key] := by
  have htransfer : isKeyTransfer f = true := by
    simp [isKeyTransfer, hwraps.1, hwraps.dataLen_eq]
  have hagrees : Agrees f.src f.dst t.pendingKeyChallenges ⟨none, some challenge⟩ :=
    ⟨h.closed, fun _ => h.opened, fun heq => absurd heq hne⟩
  rw [traceFrame_of_isKeyTransfer htransfer,
    lines_recoverKey (t := t.showFrame freqHz f) htransfer hagrees, transferLine]
  show (t.lines ++ [.frame freqHz f]) ++ [.recoveredSystemKey f.src f.dst
    (cryptKey [cmdKeyInit] challenge (keyField f))] = _
  rw [hwraps.keyField_eq, cryptKey_cryptKey, List.append_assoc, List.singleton_append]

/-- What else is heard does not take the challenge's place. -/
theorem Awaiting.aside {challenge : Challenge} (h : Awaiting own node challenge t)
    (hne : own ≠ node) {packet : RadioRxPacket} (haside : Aside own node packet) :
    Awaiting own node challenge (t.overhear (.rx packet)) := by
  show Awaiting own node challenge (t.processReceivedPacket packet)
  unfold processReceivedPacket
  cases hparse : parse packet.data with
  | none => exact h
  | some f =>
    obtain ⟨hown, hnode⟩ := haside f hparse
    have hagrees : Agrees own node t.pendingKeyChallenges ⟨none, some challenge⟩ :=
      ⟨h.closed, fun _ => h.opened, fun heq => absurd heq hne⟩
    -- between these two the frame says nothing that opens or closes a challenge
    have hstep : Conversation.step own node ⟨none, some challenge⟩ f = ⟨none, some challenge⟩ := by
      unfold Conversation.step
      rw [if_neg fun h => hown h.1]
      split_ifs with hback
      · obtain ⟨hchallenge, htransfer, hconfirm⟩ := hnode hback.1 hback.2
        unfold Conversation.hear
        rw [hchallenge, htransfer, if_neg Bool.false_ne_true, if_neg Bool.false_ne_true,
          if_neg hconfirm]
        rfl
      · rfl
    have hafter := hagrees.step f
    rw [hstep, ← pending_traceFrame packet.freqHz] at hafter
    exact ⟨hafter.direct, hafter.reverse hne⟩

/-- The first transfer that goes out under the challenge shows the key. -/
theorem Awaiting.recovers {challenge : Challenge} {key : AesKey} {req : IoFrame}
    (h : Awaiting req.src req.dst challenge t) (hne : req.src ≠ req.dst)
    (hwraps : req.WrapsKey challenge key) (hserial : (serialize req frameMaxSize).isSome)
    (hopens : OpensWith req events) (hair : OnAir (Aside req.src req.dst) events air)
    (hsent : ∃ e ∈ events, e.IsSent fun _ => True) :
    .recoveredSystemKey req.src req.dst key ∈ (GuardedRun.run overhear t air).lines := by
  induction hair generalizing t with
  | nil =>
    obtain ⟨e, he, -⟩ := hsent
    cases he
  | other haside later ih => exact ih (h.aside hne haside) hopens hsent
  | @event _ air _ later ih =>
    cases hopens with
    | refused freqHz preambleLen hopens =>
      -- a refused transfer is not on the air, and the next one is the same
      have hrefused := overhear_refused t req freqHz preambleLen
      show _ ∈ (GuardedRun.run overhear (t.overhear _) air).lines
      rw [hrefused]
      apply ih h hopens
      obtain ⟨e, he, hsent⟩ := hsent
      rcases List.mem_cons.1 he with rfl | he
      · exact hsent.elim
      · exact ⟨e, he, hsent⟩
    | sent freqHz preambleLen =>
      obtain ⟨bytes, hbytes⟩ := Option.isSome_iff_exists.1 hserial
      have hpayload := payload_zeroFilled (dataLen_le_of_serialize hbytes)
      have hlines := Awaiting.lines_traceFrame (f := { req with data := zeroFilled req.payload })
        h hne ⟨hwraps.1, hpayload.trans hwraps.2⟩ freqHz
      apply (prefix_lines_run _ air).subset
      rw [overhear_sent hbytes, hlines]
      simp

end KeyTrace
/-! ## A pairing that is overheard -/

theorem RadioEvent.IsSent.exists_frame {P R : IoFrame → Prop} {e : RadioEvent} (h : e.IsSent P)
    (htx : e.TxSatisfies R) : ∃ f, P f ∧ R f := by
  cases e with
  | rx packet => exact h.elim
  | tx frame freqHz preambleLen sent =>
    cases sent with
    | false => exact h.elim
    | true => exact ⟨frame, h, htx⟩

theorem RadioEvent.IsSent.true {P : IoFrame → Prop} {e : RadioEvent} (h : e.IsSent P) :
    e.IsSent fun _ => True := by
  cases e with
  | rx packet => exact h.elim
  | tx frame freqHz preambleLen sent =>
    cases sent with
    | false => exact h.elim
    | true => exact trivial

namespace ExchangeEngine
open KeyTrace

variable (engine : ExchangeEngine)

/-- Who overhears a transfer in these events learns the system key. -/
structure Leaks (events : List RadioEvent) : Prop where
  unchallenging : ∀ e ∈ events, e.TxSatisfies fun f => f.cmd ≠ cmdChallengeReq
  shows : ∀ {node : NodeId} {air : List RadioEvent} {t : KeyTrace},
    OnAir (Aside engine.nodeId node) events air → Closed engine.nodeId node t →
    (∀ e ∈ events, e.NotFrom engine.nodeId) →
    (∃ e ∈ events, e.IsSent fun f => f.cmd = cmdKeyTransfer ∧ f.dst = node) →
    .recoveredSystemKey engine.nodeId node engine.systemKey ∈ (run overhear t air).lines

variable {engine} {events later : List RadioEvent}

/-- With what else is on the air. -/
theorem closed_onAir {own node : NodeId} {air : List RadioEvent} {t : KeyTrace}
    (h : Closed own node t) (hair : OnAir (Aside own node) events air)
    (htx : ∀ e ∈ events, e.TxSatisfies fun f => f.cmd ≠ cmdChallengeReq)
    (hrx : ∀ e ∈ events, e.NotFrom own) : Closed own node (run overhear t air) :=
  h.run (hair.forall_mem htx fun _ _ => trivial)
    (hair.forall_mem hrx fun _ haside f hparse => (haside f hparse).1)

theorem Leaks.append (h : engine.Leaks events) (h' : engine.Leaks later) :
    engine.Leaks (events ++ later) := by
  refine ⟨List.forall_mem_append.2 ⟨h.unchallenging, h'.unchallenging⟩, ?_⟩
  intro node air t hair hclosed hrx ⟨e, he, hsent⟩
  obtain ⟨air, air', rfl, hair, hair'⟩ := hair.append_split
  obtain ⟨hrx, hrx'⟩ := List.forall_mem_append.1 hrx
  rw [run_append]
  -- lines stay, and events without the transfer open no challenge
  rcases List.mem_append.1 he with he | he
  · exact (prefix_lines_run _ air').subset (h.shows hair hclosed hrx ⟨e, he, hsent⟩)
  · exact h'.shows hair' (closed_onAir hclosed hair h.unchallenging hrx) hrx' ⟨e, he, hsent⟩

theorem leaks_of_keyless (h : Keyless events) : engine.Leaks events := by
  refine ⟨fun e he => (h e he).mono fun f hf => hf.2, ?_⟩
  intro node air t _ _ _ ⟨e, he, hsent⟩
  obtain ⟨f, hf, hne⟩ := hsent.exists_frame (h e he)
  exact absurd hf.1 hne.1

/-- The challenge that the transfers answer is the last thing heard before them. -/
theorem leaks_of_transfer {earlier : List RadioRxPacket} {packet : RadioRxPacket}
    {challenge req : IoFrame} (hparse : parse packet.data = some challenge)
    (hchallenge : IsKeyChallenge engine.nodeId req.dst challenge) (hsrc : req.src = engine.nodeId)
    (hcmd : req.cmd = cmdKeyTransfer)
    (hwraps : req.WrapsKey (hmacField challenge) engine.systemKey)
    (hserial : (serialize req frameMaxSize).isSome) (hopens : OpensWith req events)
    (htransfers : ∀ e ∈ events, e.TxSatisfies fun f => f = req ∨ f.cmd = cmdChallengeResp) :
    engine.Leaks ((earlier ++ [packet]).map .rx ++ events) := by
  refine ⟨List.forall_mem_append.2 ⟨txSatisfies_of_heard _, fun e he => ?_⟩, ?_⟩
  · refine (htransfers e he).mono fun f hf => ?_
    rcases hf with rfl | hf
    · rw [hcmd]
      decide
    · rw [hf]
      decide
  · intro node air t hair hclosed hrx ⟨e, he, hsent⟩
    obtain ⟨hrx, -⟩ := List.forall_mem_append.1 hrx
    have hmem : e ∈ events := by
      rcases List.mem_append.1 he with he | he
      · obtain ⟨_, -, rfl⟩ := List.mem_map.1 he
        exact hsent.elim
      · exact he
    obtain rfl : req.dst = node := by
      obtain ⟨f, ⟨htransfer, hdst⟩, hf⟩ := hsent.exists_frame (htransfers e hmem)
      rcases hf with rfl | hf
      · exact hdst
      · rw [hf] at htransfer
        exact absurd htransfer (by decide)
    have hne : engine.nodeId ≠ req.dst := by
      rw [← hchallenge.2.2.1]
      exact (hrx (.rx packet) (by simp) challenge hparse).symm
    rw [List.map_append, List.forall_mem_append] at hrx
    rw [List.map_append, List.append_assoc] at hair
    -- the challenge is still the last one between the two when the transfer goes out
    obtain ⟨before, rest, rfl, hbefore, hrest⟩ := hair.append_split
    obtain ⟨others, after, rfl, hothers, hafter⟩ := hrest.cons_split
    have hopen := closed_onAir hclosed hbefore (txSatisfies_of_heard earlier) hrx.1
    have hawaiting := (closed_onAir hopen hothers (by simp) (by simp)).awaiting hchallenge hne hparse
    rw [run_append, run_append, ← hsrc]
    rw [← hsrc] at hne hawaiting hafter
    exact hawaiting.recovers hne hwraps hserial hopens hafter ⟨e, hmem, hsent.true⟩

theorem PhaseEvents.leaks {other : NodeId} (h : engine.PhaseEvents other events) :
    engine.Leaks events := by
  cases h with
  | unchallenged inits => exact leaks_of_keyless (keyless_of_keyInit inits)
  | @challenged opening transfers inits earlier packet challenge req opens parses challenges src cmd
      carries serializes begins transferred ends =>
    obtain ⟨rfl, wrapped, hpayload, hkey⟩ := carries
    have hwraps : req.WrapsKey (hmacField challenge) engine.systemKey := by
      refine ⟨cmd, ?_⟩
      rw [hpayload, ← hkey, cryptKey_cryptKey]
    have hmiddle : engine.Leaks ((earlier ++ [packet]).map .rx ++ transfers) :=
      leaks_of_transfer parses challenges src cmd hwraps serializes begins transferred
    have hall := ((leaks_of_keyless (keyless_of_keyInit opens)).append hmiddle).append
      (leaks_of_keyless (keyless_of_keyInit ends))
    rwa [← List.append_assoc, List.append_assoc _ _ transfers]

variable (engine)

/-- A hub with a key trace that hears a pairing of ours learns the system key with the first key
transfer that goes out, unless a challenge of ours to the node is still open to it from before,
someone else sends in our name, or the node sends us a frame of a key exchange that we miss. -/
theorem pairing_overheard (w : PairingWorld) (heard : List RadioRxPacket) {node : NodeId}
    {air : List RadioEvent}
    (hair : OnAir (Aside engine.nodeId node)
      (newEvents w.engine (engine.discoverAndPair w).2.engine) air)
    (hclosed : (conversation engine.nodeId node heard).direct = none)
    (hrx : ∀ e ∈ newEvents w.engine (engine.discoverAndPair w).2.engine, e.NotFrom engine.nodeId)
    (hsent : ∃ e ∈ newEvents w.engine (engine.discoverAndPair w).2.engine,
      e.IsSent fun f => f.cmd = cmdKeyTransfer ∧ f.dst = node) :
    .recoveredSystemKey engine.nodeId node engine.systemKey ∈
      (run overhear (run KeyTrace.processReceivedPacket {} heard) air).lines := by
  obtain ⟨events, htrace, hleaks⟩ := engine.discoverAndPair_composed (Q := engine.Leaks)
    (fun h h' => h.append h') (fun h => leaks_of_keyless h) (fun h => h.leaks) w
  rw [newEvents_of_trace htrace] at hair hrx hsent
  exact hleaks.shows hair ((agrees_run engine.nodeId node heard).direct.trans hclosed) hrx hsent

def otherChallenge : List UInt8 :=
  wireFrame 0x0E sampleDevice (.replicate 3 0x44) cmdChallengeReq (.replicate 6 0x07)

/-- Between challenge and transfer another controller challenges the shutter. -/
def shutterAir : List RadioEvent :=
  [.tx shutterDiscovery freqCh2 longPreamble true, .rx { data := shutterAnswer },
    .tx shutterKeyInit freqCh2 longPreamble true, .rx { data := shutterChallenge },
    .rx { data := otherChallenge },
    .tx shutterTransfer freqCh2 12 true, .rx { data := shutterConfirm },
    .tx shutterConfig freqCh2 longPreamble false,
    .tx shutterConfig freqCh2 longPreamble false,
    .tx shutterConfig freqCh2 longPreamble false]

theorem pairing_overheard_shutter :
    .recoveredSystemKey sampleEngine.nodeId sampleDevice sampleEngine.systemKey ∈
      (run overhear (run KeyTrace.processReceivedPacket {} []) shutterAir).lines := by
  have hparsed : ∀ bytes ∈ [shutterAnswer, shutterChallenge, shutterConfirm],
      parse bytes = some (readFrame bytes) ∧ (readFrame bytes).src ≠ sampleEngine.nodeId := by
    decide +kernel
  have hothers : ∀ bytes ∈ [shutterAnswer, shutterChallenge, shutterConfirm],
      (RadioEvent.rx { data := bytes }).NotFrom sampleEngine.nodeId := by
    intro bytes hbytes f hparse
    obtain ⟨hread, hne⟩ := hparsed bytes hbytes
    obtain rfl := Option.some.inj (hread.symm.trans hparse)
    exact hne
  have haside : Aside sampleEngine.nodeId sampleDevice
      { data := otherChallenge } := by
    intro f hparse
    have hsrc : f.src = .replicate 3 0x44 := by
      have hparse := congrArg (Option.map IoFrame.src) hparse
      exact (Option.some.inj hparse).symm
    rw [hsrc]
    exact ⟨by decide, fun h => absurd h (by decide)⟩
  have hair : OnAir (Aside sampleEngine.nodeId sampleDevice)
      (newEvents shutterWorld.engine (sampleEngine.discoverAndPair shutterWorld).2.engine)
      shutterAir := by
    rw [shutter_events]
    refine .event _ (.event _ (.event _ (.event _ (.other haside ?_))))
    exact .event _ (.event _ (.event _ (.event _ (.event _ .nil))))
  refine sampleEngine.pairing_overheard shutterWorld [] hair rfl ?_ ?_
  · rw [shutter_events]
    simp only [List.forall_mem_cons, List.not_mem_nil, false_implies, implies_true, and_true]
    exact ⟨trivial, hothers _ (by simp), trivial, hothers _ (by simp), trivial,
      hothers _ (by simp), trivial, trivial, trivial⟩
  · rw [shutter_events]
    exact ⟨.tx shutterTransfer freqCh2 12 true, by simp, by decide, by decide⟩

end ExchangeEngine
end HomeIoControl
