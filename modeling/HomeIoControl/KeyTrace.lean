import HomeIoControl.AesInverse
import HomeIoControl.AuthenticationAgreement
import HomeIoControl.GuardedRun
import HomeIoControl.PairingCompletion

namespace HomeIoControl
open GuardedRun

/-! ## The key trace -/

def KeyTrace.aesKeySize : ℕ := 16

def isKeyOrPairingFrame (frame : IoFrame) : Bool :=
  frame.cmd ∈ [cmdDiscoverReq, cmdDiscoverResp, cmdDiscoverSpeReq, cmdDiscoverSpeResp,
    cmdDiscoverConfirm, cmdDiscoverConfirmAck, cmdDiscoverAltReq, cmdDiscoverAltResp, cmdKeyInit,
    cmdKeyTransfer, cmdKeyConfirm, cmdAddressReq, cmdAddressResp, cmdLaunchKeyTransfer,
    cmdChallengeReq, cmdChallengeResp]

def exchangeKey (src dst : NodeId) : String := nodeIdToString src ++ ">" ++ nodeIdToString dst

/-- The first sixteen payload bytes. -/
def keyField (f : IoFrame) : AesKey := .ofFn fun i => f.data[i]

/-- What the lines of the trace show. -/
inductive KeyTraceLine
  | frame (freqHz : ℕ) (frame : IoFrame)
  | storedChallenge (exchange : String) (challenge : Challenge)
  | unmatched (src dst : NodeId)
  | recoveredSystemKey (src dst : NodeId) (key : AesKey)
  deriving DecidableEq

structure KeyTrace where
  pendingKeyChallenges : String → Option Challenge := fun _ => none
  lines : List KeyTraceLine := []

namespace KeyTrace

def isKeyChallenge (frame : IoFrame) : Bool :=
  frame.cmd == cmdChallengeReq && frame.dataLen == hmacSize

def isKeyTransfer (frame : IoFrame) : Bool :=
  frame.cmd == cmdKeyTransfer && frame.dataLen == aesKeySize

def showFrame (freqHz : ℕ) (frame : IoFrame) (t : KeyTrace) : KeyTrace :=
  { t with lines := t.lines ++ [.frame freqHz frame] }

def storeChallenge (frame : IoFrame) (t : KeyTrace) : KeyTrace :=
  if isKeyChallenge frame then
    let key := exchangeKey frame.src frame.dst
    { pendingKeyChallenges := Function.update t.pendingKeyChallenges key (some (hmacField frame))
      lines := t.lines ++ [.storedChallenge key (hmacField frame)] }
  else t

/-- Where there is no challenge in the direction of the transfer, one in the other is taken. -/
def recoverKey (frame : IoFrame) (t : KeyTrace) : KeyTrace :=
  if isKeyTransfer frame then
    let directKey := exchangeKey frame.src frame.dst
    let key :=
      if (t.pendingKeyChallenges directKey).isSome then directKey
      else exchangeKey frame.dst frame.src
    match t.pendingKeyChallenges key with
    | none => { t with lines := t.lines ++ [.unmatched frame.src frame.dst] }
    | some challenge =>
      { pendingKeyChallenges := Function.update t.pendingKeyChallenges key none
        lines := t.lines ++ [.recoveredSystemKey frame.src frame.dst
          (cryptKey [cmdKeyInit] challenge (keyField frame))] }
  else t

def forgetChallenges (frame : IoFrame) (t : KeyTrace) : KeyTrace :=
  if frame.cmd = cmdKeyConfirm then
    { t with
      pendingKeyChallenges :=
        Function.update (Function.update t.pendingKeyChallenges
          (exchangeKey frame.src frame.dst) none) (exchangeKey frame.dst frame.src) none }
  else t

def traceFrame (freqHz : ℕ) (frame : IoFrame) (t : KeyTrace) : KeyTrace :=
  if isKeyOrPairingFrame frame then
    forgetChallenges frame (recoverKey frame (storeChallenge frame (t.showFrame freqHz frame)))
  else t

/-- The part of `process_received_packet_` that the key trace adds. -/
def processReceivedPacket (t : KeyTrace) (packet : RadioRxPacket) : KeyTrace :=
  match parse packet.data with
  | none => t
  | some frame => traceFrame packet.freqHz frame t

end KeyTrace

/-! ## What two nodes leave open between them -/

/-- The challenges of two nodes that no confirmation and no transfer of a key has closed. -/
structure Conversation where
  direct : Option Challenge := none
  reverse : Option Challenge := none
  deriving DecidableEq

namespace Conversation

def swap (c : Conversation) : Conversation := ⟨c.reverse, c.direct⟩

/-- A frame of the first node to the second. -/
def hear (c : Conversation) (f : IoFrame) : Conversation :=
  if KeyTrace.isKeyChallenge f then { c with direct := some (hmacField f) }
  else if KeyTrace.isKeyTransfer f then
    if c.direct.isSome then { c with direct := none } else { c with reverse := none }
  else if f.cmd = cmdKeyConfirm then {}
  else c

def step (src dst : NodeId) (c : Conversation) (f : IoFrame) : Conversation :=
  if f.src = src ∧ f.dst = dst then c.hear f
  else if f.src = dst ∧ f.dst = src then (c.swap.hear f).swap
  else c

/-- The challenge that a key of the first node to the second is taken to be under. -/
def challenge (c : Conversation) : Option Challenge := c.direct.or c.reverse

end Conversation

/-- The frames that are heard between two nodes, as a conversation. -/
def conversation (src dst : NodeId) (heard : List RadioRxPacket) : Conversation :=
  (heard.filterMap fun packet => parse packet.data).foldl (Conversation.step src dst) {}

/-! ## The trace and the conversations -/

theorem length_nodeIdToString (id : NodeId) : (nodeIdToString id).toList.length = 6 := by
  obtain ⟨⟨bytes⟩, hsize⟩ := id
  obtain ⟨a, b, c, rfl⟩ := List.length_eq_three.1 hsize
  simp [nodeIdToString, byteHex]

theorem exchangeKey_inj {a b c d : NodeId} :
    exchangeKey a b = exchangeKey c d ↔ a = c ∧ b = d := by
  constructor
  · intro h
    have hlists := congrArg String.toList h
    unfold exchangeKey at hlists
    rw [String.toList_append, String.toList_append, String.toList_append, String.toList_append,
      List.append_assoc, List.append_assoc] at hlists
    obtain ⟨hsrc, hrest⟩ := List.append_inj hlists
      ((length_nodeIdToString a).trans (length_nodeIdToString c).symm)
    have hdst := List.append_cancel_left hrest
    exact ⟨nodeIdToString_injective (String.toList_injective hsrc),
      nodeIdToString_injective (String.toList_injective hdst)⟩
  · rintro ⟨rfl, rfl⟩
    rfl

namespace KeyTrace

/-- The challenges after a frame. -/
def challengesAfter (f : IoFrame) (pending : String → Option Challenge) :
    String → Option Challenge :=
  let direct := exchangeKey f.src f.dst
  let reverse := exchangeKey f.dst f.src
  if isKeyChallenge f then Function.update pending direct (some (hmacField f))
  else if isKeyTransfer f then
    Function.update pending (if (pending direct).isSome then direct else reverse) none
  else if f.cmd = cmdKeyConfirm then Function.update (Function.update pending direct none) reverse none
  else pending

theorem pending_recoverKey (f : IoFrame) (t : KeyTrace) (h : isKeyTransfer f = true) :
    (recoverKey f t).pendingKeyChallenges =
      Function.update t.pendingKeyChallenges
        (if (t.pendingKeyChallenges (exchangeKey f.src f.dst)).isSome then
          exchangeKey f.src f.dst else exchangeKey f.dst f.src) none := by
  unfold recoverKey
  rw [if_pos h]
  dsimp only
  generalize (if (t.pendingKeyChallenges (exchangeKey f.src f.dst)).isSome = true then
    exchangeKey f.src f.dst else exchangeKey f.dst f.src) = key
  cases hkey : t.pendingKeyChallenges key with
  | none => exact (Function.update_eq_self_iff.2 hkey.symm).symm
  | some challenge => rfl

theorem traceFrame_of_isKeyChallenge {f : IoFrame} (h : isKeyChallenge f = true) (freqHz : ℕ)
    (t : KeyTrace) : traceFrame freqHz f t = storeChallenge f (t.showFrame freqHz f) := by
  have hcmd : f.cmd = cmdChallengeReq := by
    unfold isKeyChallenge at h
    rw [Bool.and_eq_true, beq_iff_eq] at h
    exact h.1
  have htransfer : isKeyTransfer f = false := by
    simp [isKeyTransfer, hcmd, cmdChallengeReq, cmdKeyTransfer]
  have hconfirm : f.cmd ≠ cmdKeyConfirm := by rw [hcmd]; decide
  have hshown : isKeyOrPairingFrame f = true := by simp [isKeyOrPairingFrame, hcmd]
  unfold traceFrame recoverKey forgetChallenges
  rw [if_pos hshown, if_neg hconfirm, htransfer, if_neg Bool.false_ne_true]

theorem traceFrame_of_isKeyTransfer {f : IoFrame} (h : isKeyTransfer f = true) (freqHz : ℕ)
    (t : KeyTrace) : traceFrame freqHz f t = recoverKey f (t.showFrame freqHz f) := by
  have hcmd : f.cmd = cmdKeyTransfer := by
    unfold isKeyTransfer at h
    rw [Bool.and_eq_true, beq_iff_eq] at h
    exact h.1
  have hchallenge : isKeyChallenge f = false := by
    simp [isKeyChallenge, hcmd, cmdChallengeReq, cmdKeyTransfer]
  have hconfirm : f.cmd ≠ cmdKeyConfirm := by rw [hcmd]; decide
  have hshown : isKeyOrPairingFrame f = true := by simp [isKeyOrPairingFrame, hcmd]
  unfold traceFrame storeChallenge forgetChallenges
  rw [if_pos hshown, if_neg hconfirm, hchallenge, if_neg Bool.false_ne_true]

theorem traceFrame_of_keyConfirm {f : IoFrame} (h : f.cmd = cmdKeyConfirm) (freqHz : ℕ)
    (t : KeyTrace) : traceFrame freqHz f t = forgetChallenges f (t.showFrame freqHz f) := by
  have hchallenge : isKeyChallenge f = false := by
    simp [isKeyChallenge, h, cmdChallengeReq, cmdKeyConfirm]
  have htransfer : isKeyTransfer f = false := by
    simp [isKeyTransfer, h, cmdKeyTransfer, cmdKeyConfirm]
  have hshown : isKeyOrPairingFrame f = true := by simp [isKeyOrPairingFrame, h]
  unfold traceFrame storeChallenge recoverKey
  rw [if_pos hshown, hchallenge, htransfer, if_neg Bool.false_ne_true, if_neg Bool.false_ne_true]

/-- Other frames are at most shown. -/
theorem pending_traceFrame_of_other {f : IoFrame} (hchallenge : ¬isKeyChallenge f = true)
    (htransfer : ¬isKeyTransfer f = true) (hconfirm : f.cmd ≠ cmdKeyConfirm) (freqHz : ℕ)
    (t : KeyTrace) :
    (traceFrame freqHz f t).pendingKeyChallenges = t.pendingKeyChallenges := by
  unfold traceFrame storeChallenge recoverKey forgetChallenges
  rw [if_neg hchallenge, if_neg htransfer, if_neg hconfirm]
  split_ifs <;> rfl

theorem pending_traceFrame (freqHz : ℕ) (f : IoFrame) (t : KeyTrace) :
    (traceFrame freqHz f t).pendingKeyChallenges = challengesAfter f t.pendingKeyChallenges := by
  unfold challengesAfter
  dsimp only
  split_ifs with hchallenge htransfer hdirect hconfirm
  · rw [traceFrame_of_isKeyChallenge hchallenge, storeChallenge, if_pos hchallenge]
    rfl
  · rw [traceFrame_of_isKeyTransfer htransfer, pending_recoverKey f _ htransfer]
    exact congrArg (Function.update _ · none) (if_pos hdirect)
  · rw [traceFrame_of_isKeyTransfer htransfer, pending_recoverKey f _ htransfer]
    exact congrArg (Function.update _ · none) (if_neg hdirect)
  · rw [traceFrame_of_keyConfirm hconfirm, forgetChallenges, if_pos hconfirm]
    rfl
  · exact pending_traceFrame_of_other hchallenge htransfer hconfirm freqHz t

/-- The trace knows of two nodes what their conversation leaves open. -/
structure Agrees (src dst : NodeId) (pending : String → Option Challenge) (c : Conversation) :
    Prop where
  direct : pending (exchangeKey src dst) = c.direct
  reverse : src ≠ dst → pending (exchangeKey dst src) = c.reverse
  /-- A node that talks to itself has one direction only. -/
  alone : src = dst → c.reverse = none

variable {src dst : NodeId} {pending : String → Option Challenge} {c : Conversation} {f : IoFrame}

theorem Agrees.swap (h : Agrees src dst pending c) (hne : src ≠ dst) :
    Agrees dst src pending c.swap :=
  ⟨h.reverse hne, fun _ => h.direct, fun heq => absurd heq.symm hne⟩

theorem exchangeKey_ne {a b : NodeId} (hne : a ≠ b) : exchangeKey b a ≠ exchangeKey a b :=
  fun heq => hne (exchangeKey_inj.1 heq).2

theorem Agrees.hear (h : Agrees f.src f.dst pending c) :
    Agrees f.src f.dst (challengesAfter f pending) (c.hear f) := by
  unfold challengesAfter Conversation.hear
  dsimp only
  rw [h.direct]
  by_cases hchallenge : isKeyChallenge f = true
  · rw [if_pos hchallenge, if_pos hchallenge]
    refine ⟨Function.update_self .., fun hne => ?_, h.alone⟩
    rw [Function.update_of_ne (exchangeKey_ne hne)]
    exact h.reverse hne
  rw [if_neg hchallenge, if_neg hchallenge]
  by_cases htransfer : isKeyTransfer f = true
  · rw [if_pos htransfer, if_pos htransfer]
    by_cases hdirect : c.direct.isSome = true
    · rw [if_pos hdirect, if_pos hdirect]
      refine ⟨Function.update_self .., fun hne => ?_, h.alone⟩
      rw [Function.update_of_ne (exchangeKey_ne hne)]
      exact h.reverse hne
    · rw [if_neg hdirect, if_neg hdirect]
      refine ⟨?_, fun _ => Function.update_self .., fun _ => rfl⟩
      by_cases heq : f.src = f.dst
      · rw [heq, Function.update_self]
        exact (Option.not_isSome_iff_eq_none.1 hdirect).symm
      · rw [Function.update_of_ne (exchangeKey_ne (Ne.symm heq))]
        exact h.direct
  rw [if_neg htransfer, if_neg htransfer]
  by_cases hconfirm : f.cmd = cmdKeyConfirm
  · rw [if_pos hconfirm, if_pos hconfirm]
    refine ⟨?_, fun _ => Function.update_self .., fun _ => rfl⟩
    by_cases heq : exchangeKey f.src f.dst = exchangeKey f.dst f.src
    · rw [heq, Function.update_self]
    · rw [Function.update_of_ne heq, Function.update_self]
  · rw [if_neg hconfirm, if_neg hconfirm]
    exact h

/-- What others say to each other does not matter. -/
theorem Agrees.ignore (h : Agrees src dst pending c) (hforth : ¬(f.src = src ∧ f.dst = dst))
    (hback : ¬(f.src = dst ∧ f.dst = src)) :
    Agrees src dst (challengesAfter f pending) c := by
  have hkeys : ∀ a b, (a = f.src ∧ b = f.dst ∨ a = f.dst ∧ b = f.src) →
      exchangeKey src dst ≠ exchangeKey a b ∧ exchangeKey dst src ≠ exchangeKey a b := by
    rintro a b (⟨rfl, rfl⟩ | ⟨rfl, rfl⟩)
    · exact ⟨fun h => hforth ((exchangeKey_inj.1 h).imp Eq.symm Eq.symm),
        fun h => hback ((exchangeKey_inj.1 h).imp Eq.symm Eq.symm)⟩
    · exact ⟨fun h => hback ((exchangeKey_inj.1 h).symm.imp Eq.symm Eq.symm),
        fun h => hforth ((exchangeKey_inj.1 h).symm.imp Eq.symm Eq.symm)⟩
  obtain ⟨hdirect, hdirect'⟩ := hkeys f.src f.dst (.inl ⟨rfl, rfl⟩)
  obtain ⟨hreverse, hreverse'⟩ := hkeys f.dst f.src (.inr ⟨rfl, rfl⟩)
  have hsame : challengesAfter f pending (exchangeKey src dst) = pending (exchangeKey src dst) ∧
      challengesAfter f pending (exchangeKey dst src) = pending (exchangeKey dst src) := by
    unfold challengesAfter
    split_ifs <;> simp [hdirect, hdirect', hreverse, hreverse']
  exact ⟨hsame.1.trans h.direct, fun hne => hsame.2.trans (h.reverse hne), h.alone⟩

theorem Agrees.step (h : Agrees src dst pending c) (f : IoFrame) :
    Agrees src dst (challengesAfter f pending) (c.step src dst f) := by
  unfold Conversation.step
  split_ifs with hforth hback
  · obtain ⟨rfl, rfl⟩ := hforth
    exact h.hear
  · obtain ⟨rfl, rfl⟩ := hback
    have hne : f.dst ≠ f.src := fun heq => hforth ⟨heq.symm, heq⟩
    exact ((h.swap hne).hear).swap hne.symm
  · exact h.ignore hforth hback

/-- After whatever was heard, of any nodes. -/
theorem agrees_run (src dst : NodeId) (heard : List RadioRxPacket) :
    Agrees src dst (run processReceivedPacket {} heard).pendingKeyChallenges
      (conversation src dst heard) := by
  have hrun : ∀ (t : KeyTrace) (c : Conversation), Agrees src dst t.pendingKeyChallenges c →
      Agrees src dst (run processReceivedPacket t heard).pendingKeyChallenges
        ((heard.filterMap fun packet => parse packet.data).foldl (Conversation.step src dst) c) := by
    induction heard with
    | nil => exact fun t c h => h
    | cons packet heard ih =>
      intro t c h
      show Agrees src dst
        (run processReceivedPacket (t.processReceivedPacket packet) heard).pendingKeyChallenges _
      unfold processReceivedPacket
      rw [List.filterMap_cons]
      cases hparse : parse packet.data with
      | none => exact ih t c h
      | some f =>
        rw [List.foldl_cons]
        apply ih
        rw [pending_traceFrame]
        exact h.step f
  exact hrun {} {} ⟨rfl, fun _ => rfl, fun _ => rfl⟩

/-- The challenge that is looked up for a transfer. -/
theorem Agrees.challenge (h : Agrees src dst pending c) :
    pending (if (pending (exchangeKey src dst)).isSome then exchangeKey src dst
      else exchangeKey dst src) = c.challenge := by
  unfold Conversation.challenge
  split_ifs with hdirect
  · rw [h.direct] at hdirect ⊢
    rw [Option.or_of_isSome hdirect]
  · rw [h.direct, Option.not_isSome_iff_eq_none] at hdirect
    rw [hdirect, Option.none_or]
    by_cases heq : src = dst
    · rw [h.alone heq, ← hdirect, ← h.direct, heq]
    · exact h.reverse heq

/-- What the trace says of a transfer. -/
def transferLine (c : Conversation) (f : IoFrame) : KeyTraceLine :=
  match c.challenge with
  | none => .unmatched f.src f.dst
  | some challenge =>
    .recoveredSystemKey f.src f.dst (cryptKey [cmdKeyInit] challenge (keyField f))

theorem lines_recoverKey {t : KeyTrace} (h : isKeyTransfer f = true)
    (hagrees : Agrees f.src f.dst t.pendingKeyChallenges c) :
    (recoverKey f t).lines = t.lines ++ [transferLine c f] := by
  unfold recoverKey transferLine
  rw [if_pos h]
  dsimp only
  rw [hagrees.challenge]
  cases c.challenge <;> rfl

end KeyTrace

/-! ## Under which challenge a key is recovered -/

theorem aes128Encrypt_injective (key : AesKey) : Function.Injective (aes128Encrypt · key) := by
  intro block block' h
  dsimp only at h
  rw [aes128Encrypt_eq, aes128Encrypt_eq] at h
  have hdecrypted := congrArg ((aesCipher (aesExpandKey key)).decrypt 0 aesRounds 10) h
  rwa [RoundCipher.decrypt_encrypt, RoundCipher.decrypt_encrypt] at hdecrypted

theorem constructIv_injective (data : List UInt8) : Function.Injective (constructIv data) := by
  intro challenge challenge' h
  apply Vector.ext
  intro i hi
  have hlt : 10 + i < 16 := by omega
  have hbyte : (constructIv data challenge)[10 + i] = (constructIv data challenge')[10 + i] := by
    rw [h]
  have hdata : ¬10 + i < 8 := by omega
  have hchecksum : 10 + i ≠ 8 ∧ 10 + i ≠ 9 := by omega
  simpa [constructIv, hdata, hchecksum.1, hchecksum.2, hi] using hbyte

/-- Only the challenge under which a key was hidden gives it back. -/
theorem cryptKey_cryptKey_iff {data : List UInt8} {challenge challenge' : Challenge}
    {key : AesKey} :
    cryptKey data challenge' (cryptKey data challenge key) = key ↔ challenge' = challenge := by
  constructor
  · intro h
    have hboth := h.trans (cryptKey_cryptKey data challenge key).symm
    generalize cryptKey data challenge key = wrapped at hboth
    apply constructIv_injective data
    apply aes128Encrypt_injective transferKey
    apply Vector.ext
    intro i hi
    have hbyte : (cryptKey data challenge' wrapped)[i] = (cryptKey data challenge wrapped)[i] := by
      rw [hboth]
    simp only [cryptKey, Vector.getElem_ofFn, Fin.getElem_fin] at hbyte
    exact (UInt8.xor_right_inj _).1 hbyte
  · rintro rfl
    exact cryptKey_cryptKey data _ key

/-- A transfer of a key under a challenge. -/
def IoFrame.WrapsKey (f : IoFrame) (challenge : Challenge) (key : AesKey) : Prop :=
  f.cmd = cmdKeyTransfer ∧ f.payload = (cryptKey [cmdKeyInit] challenge key).toList

variable {f : IoFrame} {challenge : Challenge} {key : AesKey}

theorem IoFrame.WrapsKey.dataLen_eq (h : f.WrapsKey challenge key) : f.dataLen = KeyTrace.aesKeySize := by
  have hlength := congrArg List.length h.2
  rw [IoFrame.payload, List.length_take, Vector.length_toList, Vector.length_toList] at hlength
  unfold KeyTrace.aesKeySize
  omega

theorem IoFrame.WrapsKey.keyField_eq (h : f.WrapsKey challenge key) :
    keyField f = cryptKey [cmdKeyInit] challenge key := by
  apply Vector.toList_inj.1
  rw [← h.2, IoFrame.payload, h.dataLen_eq]
  apply List.ext_getElem
  · simp [KeyTrace.aesKeySize]
  · intro i hi _
    simp [keyField]

/-- For a key that is transferred after whatever was heard, the trace shows the key exactly if the
challenge it was hidden under is the one that the two nodes left open. -/
theorem keyTrace_recovers_iff (heard : List RadioRxPacket) {packet : RadioRxPacket}
    (hparse : parse packet.data = some f) (hwraps : f.WrapsKey challenge key) :
    let t := run KeyTrace.processReceivedPacket {} heard
    (t.processReceivedPacket packet).lines =
        t.lines ++ [.frame packet.freqHz f, .recoveredSystemKey f.src f.dst key] ↔
      (conversation f.src f.dst heard).challenge = some challenge := by
  intro t
  have hagrees := KeyTrace.agrees_run f.src f.dst heard
  have htransfer : KeyTrace.isKeyTransfer f = true := by
    simp [KeyTrace.isKeyTransfer, hwraps.1, hwraps.dataLen_eq]
  unfold KeyTrace.processReceivedPacket
  rw [hparse]
  dsimp only
  rw [KeyTrace.traceFrame_of_isKeyTransfer htransfer,
    KeyTrace.lines_recoverKey (t := t.showFrame packet.freqHz f) htransfer hagrees,
    KeyTrace.showFrame, List.append_assoc, List.append_right_inj, List.singleton_append,
    List.cons_inj_right, List.singleton_inj, KeyTrace.transferLine]
  cases (conversation f.src f.dst heard).challenge with
  | none => simp
  | some challenge' =>
    rw [hwraps.keyField_eq, KeyTraceLine.recoveredSystemKey.injEq, cryptKey_cryptKey_iff,
      Option.some_inj]
    exact ⟨fun h => h.2.2, fun h => ⟨rfl, rfl, h⟩⟩

open ExchangeEngine in
theorem keyTrace_recovers_shutter :
    let t := run KeyTrace.processReceivedPacket {} [{ data := shutterChallenge }]
    (t.processReceivedPacket (packetOf shutterTransfer)).lines =
      t.lines ++ [.frame freqCh2 shutterTransfer,
        .recoveredSystemKey shutterTransfer.src shutterTransfer.dst sampleEngine.systemKey] := by
  have hparse : parse (packetOf shutterTransfer).data = some shutterTransfer := by decide +kernel
  have hwraps : shutterTransfer.WrapsKey (hmacField (readFrame shutterChallenge))
      sampleEngine.systemKey := ⟨by decide, by decide +kernel⟩
  exact (keyTrace_recovers_iff _ hparse hwraps).2 (by decide +kernel)

end HomeIoControl
