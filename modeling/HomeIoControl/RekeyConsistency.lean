import HomeIoControl.RekeyPasses

namespace HomeIoControl.Corpus

open ExceptLoops

variable {ecb : AesBlock → AesKey → AesBlock} {frames : List Frame}

/-! ## Self-consistency -/

/-- An exchange of a capture verifies under a key. -/
def HmacVerifies (ecb : AesBlock → AesKey → AesBlock) (frames : List Frame) (key : AesKey)
    (t : Triple) : Prop :=
  ∃ origin challenge response parts, frames[t.origin]? = some origin ∧
    frames[t.challenge]? = some challenge ∧ frames[t.closing]? = some response ∧
    hmacParts origin challenge response = .ok parts ∧
    verifyHmac ecb parts.transcript parts.hmac parts.challenge key.toList = .ok true

/-- A key transfer of a capture decrypts to a key. -/
def KeyDecrypts (ecb : AesBlock → AesKey → AesBlock) (frames : List Frame) (key : AesKey)
    (t : Triple) : Prop :=
  ∃ keyInit challenge transfer, frames[t.origin]? = some keyInit ∧
    frames[t.challenge]? = some challenge ∧ frames[t.closing]? = some transfer ∧
    cryptKey ecb (keyTransferParts keyInit challenge transfer).keyInitCmd
        (keyTransferParts keyInit challenge transfer).challenge
        (keyTransferParts keyInit challenge transfer).encryptedPayload = .ok key.toList

/-- What re-keying may change of a frame. -/
structure OnlyRekeyed (f g : Frame) : Prop where
  direction : g.direction = f.direction
  length : g.raw.length = f.raw.length
  header : g.raw.take frameMinSize = f.raw.take frameMinSize
  other : frameCmd f ≠ some cmdChallengeResp → frameCmd f ≠ some cmdKeyTransfer → g = f

def noRemap : RemapTable where
  entries := []
  size := by simp
  nodup := List.nodup_nil

/-- What a challenged frame that is itself rewritten must happen to satisfy: as a rewritten answer,
the captured code verifies over its new bytes; as a rewritten key transfer, its new bytes have the
code of its old ones. -/
def StaysSigned (ecb : AesBlock → AesKey → AesBlock) (frames : List Frame) (realKey : AesKey)
    (t : Triple) : Prop :=
  ((answerAt frames t.origin).isSome = true → SignedBy ecb frames realKey t) ∧
    ((transferAt frames t.origin).isSome = true →
      hmacOf ecb ((rekeyedRaw ecb frames t.origin).drop 8) (challengeAt frames t)
          corpusSystemKey =
        hmacOf ecb ((rawAt frames t.origin).drop 8) (challengeAt frames t) corpusSystemKey)

section
variable {py : Interpreter} {keyFingerprint : List UInt8 → String} {realKey : AesKey} {t : Triple}

theorem hides_of_keyDecrypts (hwf : ∀ f ∈ frames, WellFormed f)
    (ht : t ∈ findKeyTransferTriples frames) (h : KeyDecrypts ecb frames realKey t) :
    Hides ecb frames realKey t := by
  obtain ⟨-, ⟨e⟩⟩ := exists_exchange (mem_findTriples_iff.1 ht)
  obtain ⟨o, c, r, ho, hc, hr, h⟩ := h
  obtain rfl := Option.some.inj (e.getElem_origin.symm.trans ho)
  obtain rfl := Option.some.inj (e.getElem_challenge.symm.trans hc)
  obtain rfl := Option.some.inj (e.getElem_closing.symm.trans hr)
  have hparts := keyTransferParts_withRaw (sized_of_wellFormed hwf) sameShape_rawAt e
  rw [rawAt_eq ho, rawAt_eq hc, rawAt_eq hr] at hparts
  have hchallenge := challengeAt_length hwf e
  have hpayload := field_length (transfer_length hwf e)
  rw [challengeAt, rawAt_eq hc] at hchallenge
  rw [rawAt_eq hr] at hpayload
  rw [hparts, cryptKey_eq_payloadOf hchallenge hpayload] at h
  rw [Hides, challengeAt, rawAt_eq hc, rawAt_eq hr]
  exact Except.ok.inj h

theorem hmacOf_of_hmacVerifies (hwf : ∀ f ∈ frames, WellFormed f)
    (ht : t ∈ findChallengeResponseTriples frames) (h : HmacVerifies ecb frames realKey t) :
    hmacOf ecb ((rawAt frames t.origin).drop 8) (challengeAt frames t) realKey =
      field (rawAt frames t.closing) hmacSize := by
  obtain ⟨-, ⟨e⟩⟩ := exists_exchange (mem_findTriples_iff.1 ht)
  obtain ⟨o, c, r, parts, ho, hc, hr, hp, h⟩ := h
  obtain rfl := Option.some.inj (e.getElem_origin.symm.trans ho)
  obtain rfl := Option.some.inj (e.getElem_challenge.symm.trans hc)
  obtain rfl := Option.some.inj (e.getElem_closing.symm.trans hr)
  have hparts := hmacParts_withRaw (sized_of_wellFormed hwf) sameShape_rawAt e
  rw [rawAt_eq ho, rawAt_eq hc, rawAt_eq hr] at hparts
  obtain rfl := Except.ok.inj (hparts.symm.trans hp)
  have hchallenge := challengeAt_length hwf e
  rw [challengeAt, rawAt_eq hc] at hchallenge
  rw [verifyHmac, createHmac_eq_hmacOf hchallenge] at h
  rw [challengeAt, rawAt_eq ho, rawAt_eq hc, rawAt_eq hr]
  exact eq_of_beq (Except.ok.inj h)

theorem onlyRekeyed_withRaw (hwf : ∀ f ∈ frames, WellFormed f) :
    List.Forall₂ OnlyRekeyed frames (withRaw (rekeyedRaw ecb frames) frames) := by
  rw [List.forall₂_iff_get]
  refine ⟨withRaw_length.symm, ?_⟩
  intro i hi hi'
  have hf : frames[i]? = some frames[i] := List.getElem?_eq_getElem hi
  obtain ⟨hlen, htake⟩ := sameShape_rekeyedRaw ecb hwf i hi
  rw [rawAt_eq hf] at hlen htake
  have hg : (withRaw (rekeyedRaw ecb frames) frames).get ⟨i, hi'⟩ =
      { frames[i] with raw := rekeyedRaw ecb frames i } := by
    rw [List.get_eq_getElem, ← Option.some_inj, ← List.getElem?_eq_getElem, withRaw_getElem?, hf,
      Option.map_some]
  rw [hg, List.get_eq_getElem]
  refine ⟨rfl, hlen, htake, ?_⟩
  intro hanswer htransfer
  have hraw : rekeyedRaw ecb frames i = frames[i].raw := by
    have hnone : transferAt frames i = none := tripleAt_of_ne hf htransfer
    rw [rekeyedRaw, hnone]
    dsimp only
    rw [resignedRaw_of_none (tripleAt_of_ne hf hanswer), rawAt_eq hf]
  rw [hraw]

theorem rekeyedRaw_of_answer (e : Exchange cmdChallengeResp isChallenged frames t) :
    rekeyedRaw ecb frames t.closing = resignedRaw ecb frames t.closing := by
  have hcmd : frameCmd e.closing = some cmdChallengeResp := (Kind.is_iff.1 e.is_closing).2
  have hnone : transferAt frames t.closing = none :=
    tripleAt_of_is e.getElem_closing hcmd (by decide)
  rw [rekeyedRaw, hnone]

variable (ecb) in
theorem rekeyedRaw_challenge_length (hwf : ∀ f ∈ frames, WellFormed f) {cmd : UInt8}
    {isOrigin : Kind → Bool} (e : Exchange cmd isOrigin frames t) :
    (rekeyedRaw ecb frames t.challenge).length = frameMinSize + hmacSize := by
  rw [rekeyedRaw_challenge e, rawAt_eq e.getElem_challenge]
  exact (hwf _ (List.mem_of_getElem? e.getElem_challenge)).challenge
    (Kind.is_iff.1 e.is_challenge).2

theorem rekeyedRaw_closing_length (hwf : ∀ f ∈ frames, WellFormed f) {cmd : UInt8}
    {isOrigin : Kind → Bool} (e : Exchange cmd isOrigin frames t) :
    (rekeyedRaw ecb frames t.closing).length = (rawAt frames t.closing).length :=
  (sameShape_rekeyedRaw ecb hwf _ (List.getElem?_eq_some_iff.1 e.getElem_closing).1).1

theorem checkKeyTransfer_rekeyed (hwf : ∀ f ∈ frames, WellFormed f)
    (h : transferAt frames t.closing = some t) (captureId : String) :
    checkKeyTransfer ecb (withRaw (rekeyedRaw ecb frames) frames) captureId t = .ok () := by
  obtain ⟨-, ⟨e⟩⟩ := exists_exchange h
  have hshape := sameShape_rekeyedRaw ecb hwf
  have hchallenge := challengeAt_length hwf e
  have hkey : corpusSystemKey.toList.length = aesKeySize := Vector.length_toList
  have hheader := header_length (transfer_length hwf e)
  have hrekeyed : rekeyedRaw ecb frames t.closing = (rawAt frames t.closing).take frameMinSize ++
      payloadOf ecb (challengeAt frames t) corpusSystemKey.toList := by
    rw [rekeyedRaw, h]
  have hlong := rekeyedRaw_challenge_length ecb hwf e
  have hlong' : (rekeyedRaw ecb frames t.closing).length = frameMinSize + aesKeySize := by
    rw [rekeyedRaw_closing_length hwf e, transfer_length hwf e]
  rw [checkKeyTransfer_withRaw (sized_of_wellFormed hwf) hshape e hlong hlong',
    rekeyedRaw_challenge e, hrekeyed, field_append hheader (payloadOf_length ecb hchallenge hkey)]
  exact payloadOf_payloadOf hchallenge hkey

theorem checkHmac_rekeyed_iff (hwf : ∀ f ∈ frames, WellFormed f)
    (h : answerAt frames t.closing = some t) (captureId : String) :
    checkHmac ecb (withRaw (rekeyedRaw ecb frames) frames) captureId t = .ok () ↔
      hmacOf ecb ((rekeyedRaw ecb frames t.origin).drop 8) (challengeAt frames t)
          corpusSystemKey =
        hmacOf ecb ((resignedRaw ecb frames t.origin).drop 8) (challengeAt frames t)
          corpusSystemKey := by
  obtain ⟨-, ⟨e⟩⟩ := exists_exchange h
  have hshape := sameShape_rekeyedRaw ecb hwf
  have hheader := header_length (answer_length hwf e)
  have hlong := rekeyedRaw_challenge_length ecb hwf e
  have hlong' : (rekeyedRaw ecb frames t.closing).length = frameMinSize + hmacSize := by
    rw [rekeyedRaw_closing_length hwf e, answer_length hwf e]
  rw [checkHmac_withRaw (sized_of_wellFormed hwf) hshape e hlong hlong',
    rekeyedRaw_challenge e, rekeyedRaw_of_answer e, resignedRaw_of_some h,
    field_append hheader (hmacOf_length (challengeAt_length hwf e) _ _)]
  rfl

theorem validateCrypto_rekeyed_iff (hwf : ∀ f ∈ frames, WellFormed f) (captureId : String) :
    validateCrypto py ecb (rekeyedCapture (withRaw (rekeyedRaw ecb frames) frames)) captureId =
        .ok () ↔
      ∀ t ∈ findChallengeResponseTriples frames,
        hmacOf ecb ((rekeyedRaw ecb frames t.origin).drop 8) (challengeAt frames t)
            corpusSystemKey =
          hmacOf ecb ((resignedRaw ecb frames t.origin).drop 8) (challengeAt frames t)
            corpusSystemKey := by
  have hshape := sameShape_rekeyedRaw ecb hwf
  have hread : captureFrames py (rekeyedCapture (withRaw (rekeyedRaw ecb frames) frames)) =
      .ok (withRaw (rekeyedRaw ecb frames) frames) :=
    captureFrames_rekeyedCapture py fun f hf =>
      (wellSized_withRaw (sized_of_wellFormed hwf) hshape f hf).crcPresent
  have htransfers : forM (findKeyTransferTriples (withRaw (rekeyedRaw ecb frames) frames))
      (checkKeyTransfer ecb (withRaw (rekeyedRaw ecb frames) frames) captureId) = .ok () := by
    rw [forM_eq_ok_iff, findKeyTransferTriples, findTriples_withRaw hshape]
    exact fun t ht => checkKeyTransfer_rekeyed hwf (mem_findTriples_iff.1 ht) captureId
  have hkey : (rekeyedCapture (withRaw (rekeyedRaw ecb frames) frames)).item "key" =
      .ok (.str "corpus") := rfl
  have hcorpus : isStr (.str "corpus") "corpus" = true := rfl
  unfold validateCrypto
  rw [hread, hkey]
  dsimp only [bind, Except.bind, checkCrypto]
  rw [htransfers]
  dsimp only
  rw [if_pos hcorpus, forM_eq_ok_iff, findChallengeResponseTriples, findTriples_withRaw hshape]
  exact forall₂_congr fun t ht => checkHmac_rekeyed_iff hwf (mem_findTriples_iff.1 ht) captureId

theorem applyNodeRemap_noRemap (frames : List Frame) :
    applyNodeRemap frames noRemap = (frames, []) := if_pos rfl

/-- The pipeline without remapping, when its last scan finds nothing. -/
theorem applyRekey_eq_ok_iff {out : List Frame}
    (hscan : ∀ out, rekeyFrames ecb keyFingerprint frames realKey corpusSystemKey = .ok out →
      assertNoKeyLeakage keyFingerprint out realKey = .ok ()) :
    applyRekey ecb keyFingerprint frames realKey noRemap = .ok (out, []) ↔
      rekeyFrames ecb keyFingerprint frames realKey corpusSystemKey = .ok out := by
  unfold applyRekey
  rw [bind_eq_ok_iff]
  constructor
  · rintro ⟨rekeyed, hrekeyed, h⟩
    rw [applyNodeRemap_noRemap] at h
    dsimp only at h
    rw [hscan rekeyed hrekeyed] at h
    cases h
    exact hrekeyed
  · intro h
    refine ⟨out, h, ?_⟩
    rw [applyNodeRemap_noRemap]
    dsimp only
    rw [hscan out h]
    rfl

/-- An answer that challenges nothing rewritten is signed by the real key as it was captured. -/
theorem signedBy_iff_of_origin (h : answerAt frames t.origin = none) :
    SignedBy ecb frames realKey t ↔
      hmacOf ecb ((rawAt frames t.origin).drop 8) (challengeAt frames t) realKey =
        field (rawAt frames t.closing) hmacSize := by
  rw [SignedBy, resignedRaw_of_none h]

theorem exists_closing_of_tripleAt {cmd : UInt8} {isOrigin : Kind → Bool} {i : ℕ}
    (h : (tripleAt cmd isOrigin (frames.map Frame.kind) i).isSome = true) :
    ∃ f, frames[i]? = some f ∧ frameCmd f = some cmd := by
  obtain ⟨t, ht⟩ := Option.isSome_iff_exists.1 h
  obtain ⟨rfl, ⟨e⟩⟩ := exists_exchange ht
  exact ⟨e.closing, e.getElem_closing, (Kind.is_iff.1 e.is_closing).2⟩

/-- The two coincidences are all that the passes and the check leave open. -/
theorem staysSigned_iff
    (hverify : hmacOf ecb ((rawAt frames t.origin).drop 8) (challengeAt frames t) realKey =
      field (rawAt frames t.closing) hmacSize) :
    StaysSigned ecb frames realKey t ↔
      SignedBy ecb frames realKey t ∧
        hmacOf ecb ((rekeyedRaw ecb frames t.origin).drop 8) (challengeAt frames t)
            corpusSystemKey =
          hmacOf ecb ((resignedRaw ecb frames t.origin).drop 8) (challengeAt frames t)
            corpusSystemKey := by
  unfold StaysSigned
  apply and_congr
  · cases h : answerAt frames t.origin with
    | none => exact iff_of_true (fun hsome => by cases hsome) ((signedBy_iff_of_origin h).2 hverify)
    | some u => exact ⟨fun himp => himp rfl, fun hsigned _ => hsigned⟩
  · cases h : transferAt frames t.origin with
    | none =>
      refine iff_of_true (fun hsome => by cases hsome) ?_
      rw [rekeyedRaw, h]
    | some u =>
      have hanswer : answerAt frames t.origin = none := by
        obtain ⟨f, hf, hcmd⟩ := exists_closing_of_tripleAt (Option.isSome_iff_exists.2 ⟨u, h⟩)
        exact tripleAt_of_is hf hcmd (by decide)
      rw [resignedRaw_of_none hanswer]
      exact ⟨fun himp => himp rfl, fun heq _ => heq⟩

/-- Re-keying gives a consistent capture exactly when no answer is to a frame that was rewritten,
save by coincidence of the codes. -/
theorem applyRekey_consistent_iff (hwf : ∀ f ∈ frames, WellFormed f)
    (hverify : ∀ t ∈ findChallengeResponseTriples frames, HmacVerifies ecb frames realKey t)
    (hdecrypt : ∀ t ∈ findKeyTransferTriples frames, KeyDecrypts ecb frames realKey t)
    (hscan : ∀ out, rekeyFrames ecb keyFingerprint frames realKey corpusSystemKey = .ok out →
      assertNoKeyLeakage keyFingerprint out realKey = .ok ()) :
    (∃ out, applyRekey ecb keyFingerprint frames realKey noRemap = .ok (out, []) ∧
        List.Forall₂ OnlyRekeyed frames out ∧
        ∀ captureId, validateCrypto py ecb (rekeyedCapture out) captureId = .ok ()) ↔
      ∀ t ∈ findChallengeResponseTriples frames, StaysSigned ecb frames realKey t := by
  have hhides : ∀ t ∈ findKeyTransferTriples frames, Hides ecb frames realKey t := fun t ht =>
    hides_of_keyDecrypts hwf ht (hdecrypt t ht)
  have hsplit : (∀ t ∈ findChallengeResponseTriples frames, StaysSigned ecb frames realKey t) ↔
      (∀ t ∈ findChallengeResponseTriples frames, SignedBy ecb frames realKey t) ∧
        ∀ t ∈ findChallengeResponseTriples frames,
          hmacOf ecb ((rekeyedRaw ecb frames t.origin).drop 8) (challengeAt frames t)
              corpusSystemKey =
            hmacOf ecb ((resignedRaw ecb frames t.origin).drop 8) (challengeAt frames t)
              corpusSystemKey := by
    rw [← forall₂_and]
    exact forall₂_congr fun t ht =>
      staysSigned_iff (hmacOf_of_hmacVerifies hwf ht (hverify t ht))
  rw [hsplit]
  constructor
  · rintro ⟨out, hok, -, hvalid⟩
    obtain ⟨hsigned, rfl⟩ :=
      (rekeyFrames_eq_ok_iff hwf hhides).1 ((applyRekey_eq_ok_iff hscan).1 hok)
    exact ⟨hsigned, (validateCrypto_rekeyed_iff hwf "").1 (hvalid "")⟩
  · rintro ⟨hsigned, hcodes⟩
    refine ⟨_, (applyRekey_eq_ok_iff hscan).2 ((rekeyFrames_eq_ok_iff hwf hhides).2
      ⟨hsigned, rfl⟩), onlyRekeyed_withRaw hwf, ?_⟩
    exact fun captureId => (validateCrypto_rekeyed_iff hwf captureId).2 hcodes

end

/-! ## A challenged key transfer -/

/-- A key that the user keeps to himself. -/
def pairedKey : AesKey := .replicate 16 0x5A

/-- AES-128 on the blocks that occur in the pairing below. -/
def pairingCipher (block : AesBlock) (key : AesKey) : AesBlock :=
  if key = transferKey then
    #v[176, 25, 119, 36, 69, 87, 61, 19, 215, 201, 19, 40, 31, 217, 205, 166]
  else if key = pairedKey then
    #v[70, 41, 195, 52, 164, 97, 90, 131, 58, 36, 117, 17, 68, 126, 128, 204]
  else if block.toList.getD 1 0 = 234 then
    #v[176, 63, 36, 8, 82, 114, 175, 184, 43, 52, 57, 253, 155, 48, 229, 173]
  else #v[130, 24, 63, 104, 51, 182, 122, 130, 68, 95, 208, 16, 75, 142, 88, 65]

/-- A pairing in which the device also challenges the key transfer. -/
def pairingCapture : List Frame :=
  [⟨.tx, [8, 0, 0, 0, 2, 0, 0, 1, 0x31]⟩,
    ⟨.rx, [14, 0, 0, 0, 1, 0, 0, 2, 0x3C, 1, 2, 3, 4, 5, 6]⟩,
    ⟨.tx, [24, 0, 0, 0, 2, 0, 0, 1, 0x32, 234, 67, 45, 126, 31, 13, 103, 73, 141, 147, 73, 114, 69,
      131, 151, 252]⟩,
    ⟨.rx, [14, 0, 0, 0, 1, 0, 0, 2, 0x3C, 7, 8, 9, 10, 11, 12]⟩,
    ⟨.tx, [14, 0, 0, 0, 2, 0, 0, 1, 0x3D, 70, 41, 195, 52, 164, 97]⟩]

/-- The pairing as it is rewritten. -/
def pairingRekeyed : List Frame :=
  [⟨.tx, [8, 0, 0, 0, 2, 0, 0, 1, 0x31]⟩,
    ⟨.rx, [14, 0, 0, 0, 1, 0, 0, 2, 0x3C, 1, 2, 3, 4, 5, 6]⟩,
    ⟨.tx, [24, 0, 0, 0, 2, 0, 0, 1, 0x32, 110, 211, 139, 43, 187, 183, 194, 15, 60, 100, 173, 199,
      239, 212, 119, 183]⟩,
    ⟨.rx, [14, 0, 0, 0, 1, 0, 0, 2, 0x3C, 7, 8, 9, 10, 11, 12]⟩,
    ⟨.tx, [14, 0, 0, 0, 2, 0, 0, 1, 0x3D, 176, 63, 36, 8, 82, 114]⟩]

theorem wellFormed_pairingCapture : ∀ f ∈ pairingCapture, WellFormed f := by
  have hall : ∀ f ∈ pairingCapture, f.raw.length = ctrl0ImpliedLength (f.raw.getD 0 0) ∧
      (frameCmd f = some cmdChallengeReq → f.raw.length = frameMinSize + hmacSize) ∧
      (frameCmd f = some cmdChallengeResp → f.raw.length = frameMinSize + hmacSize) ∧
      (frameCmd f = some cmdKeyTransfer → f.raw.length = frameMinSize + aesKeySize) := by decide
  intro f hf
  obtain ⟨hsized, hchallenge, hresponse, htransfer⟩ := hall f hf
  exact ⟨hsized, hchallenge, hresponse, htransfer⟩

theorem hmacVerifies_pairingCapture : ∀ t ∈ findChallengeResponseTriples pairingCapture,
    HmacVerifies pairingCipher pairingCapture pairedKey t := by
  have hfind : findChallengeResponseTriples pairingCapture = [⟨2, 3, 4⟩] := by decide
  rw [hfind, List.forall_mem_singleton]
  exact ⟨_, _, _, _, rfl, rfl, rfl, rfl, by decide +kernel⟩

theorem keyDecrypts_pairingCapture : ∀ t ∈ findKeyTransferTriples pairingCapture,
    KeyDecrypts pairingCipher pairingCapture pairedKey t := by
  have hfind : findKeyTransferTriples pairingCapture = [⟨0, 1, 2⟩] := by decide
  rw [hfind, List.forall_mem_singleton]
  exact ⟨_, _, _, rfl, rfl, rfl, by decide +kernel⟩

theorem rekeyFrames_pairingCapture :
    rekeyFrames pairingCipher (fun _ => "") pairingCapture pairedKey corpusSystemKey =
      .ok pairingRekeyed := by
  decide +kernel

theorem assertNoKeyLeakage_pairingRekeyed :
    assertNoKeyLeakage (fun _ => "") pairingRekeyed pairedKey = .ok () := by
  decide +kernel

theorem noLeakage_pairingCapture : ∀ out,
    rekeyFrames pairingCipher (fun _ => "") pairingCapture pairedKey corpusSystemKey = .ok out →
      assertNoKeyLeakage (fun _ => "") out pairedKey = .ok () := by
  intro out hout
  rw [rekeyFrames_pairingCapture] at hout
  obtain rfl := Except.ok.inj hout
  exact assertNoKeyLeakage_pairingRekeyed

theorem validateCrypto_pairingRekeyed :
    validateCrypto asciiInterpreter pairingCipher (rekeyedCapture pairingRekeyed) "" ≠ .ok () := by
  decide +kernel

/-- The answer was signed over the payload that the second pass then replaced. -/
theorem rekey_inconsistent_pairing :
    (∀ f ∈ pairingCapture, WellFormed f) ∧
      (∀ t ∈ findChallengeResponseTriples pairingCapture,
        HmacVerifies pairingCipher pairingCapture pairedKey t) ∧
      (∀ t ∈ findKeyTransferTriples pairingCapture,
        KeyDecrypts pairingCipher pairingCapture pairedKey t) ∧
      (∀ out, rekeyFrames pairingCipher (fun _ => "") pairingCapture pairedKey corpusSystemKey =
        .ok out → assertNoKeyLeakage (fun _ => "") out pairedKey = .ok ()) ∧
      ¬∃ out, applyRekey pairingCipher (fun _ => "") pairingCapture pairedKey noRemap =
          .ok (out, []) ∧ List.Forall₂ OnlyRekeyed pairingCapture out ∧
        ∀ captureId, validateCrypto asciiInterpreter pairingCipher (rekeyedCapture out) captureId =
          .ok () := by
  refine ⟨wellFormed_pairingCapture, hmacVerifies_pairingCapture, keyDecrypts_pairingCapture,
    noLeakage_pairingCapture, ?_⟩
  rintro ⟨out, hok, -, hvalid⟩
  rw [applyRekey_eq_ok_iff noLeakage_pairingCapture, rekeyFrames_pairingCapture] at hok
  obtain rfl := Except.ok.inj hok
  exact validateCrypto_pairingRekeyed (hvalid "")

theorem applyRekey_consistent_iff_pairing :
    (∃ out, applyRekey pairingCipher (fun _ => "") pairingCapture pairedKey noRemap =
          .ok (out, []) ∧ List.Forall₂ OnlyRekeyed pairingCapture out ∧
        ∀ captureId, validateCrypto asciiInterpreter pairingCipher (rekeyedCapture out) captureId =
          .ok ()) ↔
      ∀ t ∈ findChallengeResponseTriples pairingCapture,
        StaysSigned pairingCipher pairingCapture pairedKey t :=
  applyRekey_consistent_iff wellFormed_pairingCapture hmacVerifies_pairingCapture
    keyDecrypts_pairingCapture noLeakage_pairingCapture

end HomeIoControl.Corpus
