import HomeIoControl.CorpusRekey
import Mathlib.Logic.Function.Basic

namespace HomeIoControl.Corpus

open ExceptLoops

variable {ecb : AesBlock → AesKey → AesBlock}

/-! ## Codes and masks as values -/

/-- The authentication code, where there is one. -/
def hmacOf (ecb : AesBlock → AesKey → AesBlock) (data challenge : List UInt8) (key : AesKey) :
    List UInt8 :=
  match createHmac ecb data challenge key.toList with
  | .ok hmac => hmac
  | .error _ => []

/-- The key transfer payload of a key, where there is one. -/
def payloadOf (ecb : AesBlock → AesKey → AesBlock) (challenge key : List UInt8) : List UInt8 :=
  match cryptKey ecb [cmdKeyInit] challenge key with
  | .ok payload => payload
  | .error _ => []

theorem exists_challenge {challenge : List UInt8} (h : challenge.length = hmacSize) :
    ∃ c : Challenge, c.toList = challenge :=
  ⟨⟨challenge.toArray, by rw [List.size_toArray]; exact h⟩, rfl⟩

theorem exists_aesKey {key : List UInt8} (h : key.length = aesKeySize) :
    ∃ k : AesKey, k.toList = key :=
  ⟨⟨key.toArray, by rw [List.size_toArray]; exact h⟩, rfl⟩

theorem createHmac_toList (data : List UInt8) (challenge : Challenge) (key : AesKey) :
    createHmac ecb data challenge.toList key.toList =
      .ok ((ecb (HomeIoControl.constructIv data challenge) key).toList.take hmacSize) := by
  unfold createHmac
  rw [constructIv_eq]
  dsimp only [bind, Except.bind, pure, Except.pure]
  rw [aes128EcbEncryptBlock_toList]

theorem createHmac_eq_hmacOf {challenge : List UInt8} (h : challenge.length = hmacSize)
    (data : List UInt8) (key : AesKey) :
    createHmac ecb data challenge key.toList = .ok (hmacOf ecb data challenge key) := by
  obtain ⟨c, rfl⟩ := exists_challenge h
  rw [hmacOf, createHmac_toList]

theorem hmacOf_length {challenge : List UInt8} (h : challenge.length = hmacSize)
    (data : List UInt8) (key : AesKey) : (hmacOf ecb data challenge key).length = hmacSize := by
  obtain ⟨c, rfl⟩ := exists_challenge h
  rw [hmacOf, createHmac_toList]
  simp [hmacSize]

theorem cryptKey_toList (data : List UInt8) (challenge : Challenge) (input : AesKey) :
    cryptKey ecb data challenge.toList input.toList =
      .ok (input.toList.zipWith (· ^^^ ·)
        (ecb (HomeIoControl.constructIv data challenge) transferKey).toList) := by
  unfold cryptKey
  rw [if_neg (by rw [Vector.length_toList]; exact fun h => h rfl), constructIv_eq]
  dsimp only [bind, Except.bind, pure, Except.pure]
  rw [aes128EcbEncryptBlock_toList]

theorem cryptKey_eq_payloadOf {challenge key : List UInt8} (h : challenge.length = hmacSize)
    (hkey : key.length = aesKeySize) :
    cryptKey ecb [cmdKeyInit] challenge key = .ok (payloadOf ecb challenge key) := by
  obtain ⟨c, rfl⟩ := exists_challenge h
  obtain ⟨k, rfl⟩ := exists_aesKey hkey
  rw [payloadOf, cryptKey_toList]

variable (ecb) in
/-- One mask for all keys. -/
theorem exists_mask {challenge : List UInt8} (h : challenge.length = hmacSize) :
    ∃ mask : List UInt8, mask.length = aesKeySize ∧ ∀ key : List UInt8, key.length = aesKeySize →
      payloadOf ecb challenge key = key.zipWith (· ^^^ ·) mask := by
  obtain ⟨c, rfl⟩ := exists_challenge h
  refine ⟨(ecb (HomeIoControl.constructIv [cmdKeyInit] c) transferKey).toList,
    Vector.length_toList, ?_⟩
  intro key hkey
  obtain ⟨k, rfl⟩ := exists_aesKey hkey
  rw [payloadOf, cryptKey_toList]

variable (ecb) in
theorem payloadOf_length {challenge key : List UInt8} (h : challenge.length = hmacSize)
    (hkey : key.length = aesKeySize) : (payloadOf ecb challenge key).length = aesKeySize := by
  obtain ⟨mask, hmask, hall⟩ := exists_mask ecb h
  rw [hall key hkey, List.length_zipWith, hkey, hmask, Nat.min_self]

theorem zipWith_xor_zipWith_xor (xs mask : List UInt8) (h : xs.length ≤ mask.length) :
    (xs.zipWith (· ^^^ ·) mask).zipWith (· ^^^ ·) mask = xs := by
  induction xs generalizing mask with
  | nil => rfl
  | cons x xs ih =>
    cases mask with
    | nil => cases h
    | cons m mask =>
      rw [List.zipWith_cons_cons, List.zipWith_cons_cons, ih mask (Nat.le_of_succ_le_succ h),
        UInt8.xor_assoc, UInt8.xor_self, UInt8.xor_zero]

/-- Masking a payload once more shows the key. -/
theorem payloadOf_payloadOf {challenge key : List UInt8} (h : challenge.length = hmacSize)
    (hkey : key.length = aesKeySize) :
    payloadOf ecb challenge (payloadOf ecb challenge key) = key := by
  have hlength := payloadOf_length ecb h hkey
  obtain ⟨mask, hmask, hall⟩ := exists_mask ecb h
  rw [hall _ hlength, hall key hkey, zipWith_xor_zipWith_xor _ _ (by rw [hkey, hmask])]

/-! ## Frames with other bytes -/

/-- The bytes at a place of a capture. -/
def rawAt (frames : List Frame) (i : ℕ) : List UInt8 := (frames[i]?.map Frame.raw).getD []

/-- The same frames with other bytes. -/
def withRaw (raws : ℕ → List UInt8) (frames : List Frame) : List Frame :=
  frames.mapIdx fun i f => { f with raw := raws i }

/-- New bytes of the old length behind the old headers. -/
def SameShape (frames : List Frame) (raws : ℕ → List UInt8) : Prop :=
  ∀ i < frames.length, (raws i).length = (rawAt frames i).length ∧
    (raws i).take frameMinSize = (rawAt frames i).take frameMinSize

variable {frames : List Frame} {raws : ℕ → List UInt8}

theorem rawAt_eq {i : ℕ} {f : Frame} (h : frames[i]? = some f) : rawAt frames i = f.raw := by
  rw [rawAt, h, Option.map_some, Option.getD_some]

@[simp] theorem withRaw_length : (withRaw raws frames).length = frames.length :=
  List.length_mapIdx

theorem withRaw_getElem? (i : ℕ) :
    (withRaw raws frames)[i]? = frames[i]?.map fun f => { f with raw := raws i } :=
  List.getElem?_mapIdx

theorem withRaw_rawAt (frames : List Frame) : withRaw (rawAt frames) frames = frames := by
  apply List.ext_getElem?
  intro i
  rw [withRaw_getElem?]
  cases h : frames[i]? with
  | none => rfl
  | some f => rw [Option.map_some, rawAt_eq h]

theorem withRaw_congr {raws' : ℕ → List UInt8} (h : ∀ i < frames.length, raws i = raws' i) :
    withRaw raws frames = withRaw raws' frames := by
  apply List.ext_getElem?
  intro i
  rw [withRaw_getElem?, withRaw_getElem?]
  cases hf : frames[i]? with
  | none => rfl
  | some f => rw [h i (List.getElem?_eq_some_iff.1 hf).1]

variable (raws) in
/-- Overwriting one frame is overwriting its bytes. -/
theorem withRaw_set {i : ℕ} {f : Frame} (h : frames[i]? = some f) (raw : List UInt8) :
    (withRaw raws frames).set i { f with raw := raw } =
      withRaw (Function.update raws i raw) frames := by
  apply List.ext_getElem?
  intro j
  rw [withRaw_getElem?]
  by_cases hj : i = j
  · subst hj
    rw [List.getElem?_set_self (by rw [withRaw_length]; exact (List.getElem?_eq_some_iff.1 h).1),
      Function.update_self, h, Option.map_some]
  · rw [List.getElem?_set_ne hj, withRaw_getElem?, Function.update_of_ne (Ne.symm hj)]

theorem frameCmd_congr {f g : Frame} (hlen : f.raw.length = g.raw.length)
    (htake : f.raw.take frameMinSize = g.raw.take frameMinSize) : frameCmd f = frameCmd g := by
  have hcmd : f.raw[8]? = g.raw[8]? := by
    have hget := congrArg (fun raw => raw[8]?) htake
    simpa [List.getElem?_take, frameMinSize] using hget
  rw [frameCmd, frameCmd, hlen, hcmd]

/-- The finders see no difference. -/
theorem kinds_withRaw (hshape : SameShape frames raws) :
    (withRaw raws frames).map Frame.kind = frames.map Frame.kind := by
  apply List.ext_getElem?
  intro i
  rw [List.getElem?_map, List.getElem?_map, withRaw_getElem?]
  cases h : frames[i]? with
  | none => rfl
  | some f =>
    obtain ⟨hlen, htake⟩ := hshape i (List.getElem?_eq_some_iff.1 h).1
    rw [rawAt_eq h] at hlen htake
    rw [Option.map_some, Option.map_some, Option.map_some]
    exact congrArg some (congrArg (Kind.mk f.direction) (frameCmd_congr hlen htake))

theorem findTriples_withRaw (hshape : SameShape frames raws) (cmd : UInt8)
    (isOrigin : Kind → Bool) :
    findTriples cmd isOrigin (withRaw raws frames) = findTriples cmd isOrigin frames := by
  rw [findTriples, findTriples, withRaw_length, kinds_withRaw hshape]

theorem wellSized_withRaw (hsized : ∀ f ∈ frames, f.WellSized) (hshape : SameShape frames raws) :
    ∀ f ∈ withRaw raws frames, f.WellSized := by
  intro g hg
  obtain ⟨i, hg⟩ := List.mem_iff_getElem?.1 hg
  rw [withRaw_getElem?] at hg
  obtain ⟨f, hf, rfl⟩ := Option.map_eq_some_iff.1 hg
  obtain ⟨hlen, htake⟩ := hshape i (List.getElem?_eq_some_iff.1 hf).1
  rw [rawAt_eq hf] at hlen htake
  have hhead : (raws i).getD 0 0 = f.raw.getD 0 0 := by
    have hget := congrArg (fun raw => raw[0]?) htake
    simp only [List.getElem?_take, frameMinSize, Nat.zero_lt_succ, if_true] at hget
    rw [List.getD_eq_getElem?_getD, List.getD_eq_getElem?_getD, hget]
  have h := hsized f (List.mem_of_getElem? hf)
  unfold Frame.WellSized at h ⊢
  dsimp only
  rw [hlen, hhead]
  exact h

/-! ## Well-formed captures -/

/-- Lengths that the commands of the authentication ask for. -/
structure WellFormed (f : Frame) : Prop where
  sized : f.WellSized
  challenge : frameCmd f = some cmdChallengeReq → f.raw.length = frameMinSize + hmacSize
  response : frameCmd f = some cmdChallengeResp → f.raw.length = frameMinSize + hmacSize
  transfer : frameCmd f = some cmdKeyTransfer → f.raw.length = frameMinSize + aesKeySize

def challengeAt (frames : List Frame) (t : Triple) : List UInt8 :=
  field (rawAt frames t.challenge) hmacSize

theorem field_length {raw : List UInt8} {size : ℕ} (h : raw.length = frameMinSize + size) :
    (field raw size).length = size := by
  rw [field, List.length_take, List.length_drop, h]
  omega

theorem field_append {header data : List UInt8} (h : header.length = frameMinSize) {size : ℕ}
    (hdata : data.length = size) : field (header ++ data) size = data := by
  rw [field, List.drop_left' h, ← hdata, List.take_length]

theorem drop_eight_eq {raw : List UInt8} {b : UInt8} (h : raw[8]? = some b) :
    raw.drop 8 = b :: raw.drop frameMinSize := by
  obtain ⟨hlen, rfl⟩ := List.getElem?_eq_some_iff.1 h
  exact List.drop_eq_getElem_cons hlen

section
variable {cmd : UInt8} {isOrigin : Kind → Bool} {t : Triple}

theorem challengeAt_length (hwf : ∀ f ∈ frames, WellFormed f) (e : Exchange cmd isOrigin frames t) :
    (challengeAt frames t).length = hmacSize := by
  have h := (hwf _ (List.mem_of_getElem? e.getElem_challenge)).challenge
    (Kind.is_iff.1 e.is_challenge).2
  rw [challengeAt, rawAt_eq e.getElem_challenge, field_length h]

/-- The bytes of a frame after other frames were rewritten. -/
theorem nonCrcBytes_withRaw (hsized : ∀ f ∈ frames, f.WellSized) (hshape : SameShape frames raws)
    {i : ℕ} {f : Frame} (h : frames[i]? = some f) :
    nonCrcBytes { f with raw := raws i } = raws i := by
  have hmem : { f with raw := raws i } ∈ withRaw raws frames := by
    apply List.mem_of_getElem? (i := i)
    rw [withRaw_getElem?, h, Option.map_some]
  exact nonCrcBytes_of_not_crcPresent (wellSized_withRaw hsized hshape _ hmem).crcPresent

theorem hmacParts_withRaw (hsized : ∀ f ∈ frames, f.WellSized) (hshape : SameShape frames raws)
    (e : Exchange cmd isOrigin frames t) :
    hmacParts { e.origin with raw := raws t.origin } { e.challenge with raw := raws t.challenge }
        { e.closing with raw := raws t.closing } =
      .ok { transcript := (raws t.origin).drop 8
            challenge := field (raws t.challenge) hmacSize
            hmac := field (raws t.closing) hmacSize } := by
  have horigin : ∃ b, (raws t.origin)[8]? = some b := by
    obtain ⟨b, hb⟩ := Option.isSome_iff_exists.1 e.isSome_origin
    obtain ⟨hlen, -⟩ := frameCmd_eq hb
    obtain ⟨hsame, -⟩ := hshape t.origin (List.getElem?_eq_some_iff.1 e.getElem_origin).1
    rw [rawAt_eq e.getElem_origin] at hsame
    have hlen : 9 ≤ e.origin.raw.length := hlen
    exact ⟨(raws t.origin)[8], List.getElem?_eq_getElem (by omega)⟩
  obtain ⟨b, hb⟩ := horigin
  rw [hmacParts, nonCrcBytes_withRaw hsized hshape e.getElem_origin,
    nonCrcBytes_withRaw hsized hshape e.getElem_challenge,
    nonCrcBytes_withRaw hsized hshape e.getElem_closing, hb]
  dsimp only
  rw [drop_eight_eq hb]

variable (raws) in
/-- The places of a triple in the rewritten frames. -/
theorem exchange_withRaw (e : Exchange cmd isOrigin frames t) :
    (withRaw raws frames)[t.origin]? = some { e.origin with raw := raws t.origin } ∧
      (withRaw raws frames)[t.challenge]? = some { e.challenge with raw := raws t.challenge } ∧
      (withRaw raws frames)[t.closing]? = some { e.closing with raw := raws t.closing } := by
  refine ⟨?_, ?_, ?_⟩
  · rw [withRaw_getElem?, e.getElem_origin, Option.map_some]
  · rw [withRaw_getElem?, e.getElem_challenge, Option.map_some]
  · rw [withRaw_getElem?, e.getElem_closing, Option.map_some]

end

/-! ## One rewriting -/

section
variable {keyFingerprint : List UInt8 → String} {realKey corpusKey : AesKey} {t : Triple} {n : ℕ}
  {s : List Frame × ℕ}

theorem setFrameRaw_of_not_crcPresent {f : Frame} (h : f.crcPresent = false) (raw : List UInt8) :
    setFrameRaw f raw = { f with raw := raw } := by
  rw [setFrameRaw, h, if_neg Bool.false_ne_true]

/-- What re-keying one authentication code asks for and does. -/
theorem rekeyHmacFrame_withRaw {cmd : UInt8} {isOrigin : Kind → Bool}
    (hsized : ∀ f ∈ frames, f.WellSized) (hshape : SameShape frames raws)
    (e : Exchange cmd isOrigin frames t)
    (hchallenge : (field (raws t.challenge) hmacSize).length = hmacSize) :
    rekeyHmacFrame ecb keyFingerprint realKey corpusKey (withRaw raws frames, n) t = .ok s ↔
      hmacOf ecb ((raws t.origin).drop 8) (field (raws t.challenge) hmacSize) realKey =
          field (raws t.closing) hmacSize ∧
        s = (withRaw (Function.update raws t.closing ((raws t.closing).take frameMinSize ++
          hmacOf ecb ((raws t.origin).drop 8) (field (raws t.challenge) hmacSize) corpusKey))
            frames, n + 1) := by
  obtain ⟨ho, hc, hr⟩ := exchange_withRaw raws e
  have hset := withRaw_set raws e.getElem_closing ((raws t.closing).take frameMinSize ++
    hmacOf ecb ((raws t.origin).drop 8) (field (raws t.challenge) hmacSize) corpusKey)
  have hcrc : ({ e.closing with raw := raws t.closing } : Frame).crcPresent = false :=
    (wellSized_withRaw hsized hshape _ (List.mem_of_getElem? hr)).crcPresent
  unfold rekeyHmacFrame
  dsimp only
  rw [ho, hc, hr]
  dsimp only
  rw [hmacParts_withRaw hsized hshape e]
  dsimp only [bind, Except.bind, verifyHmac, pure, Except.pure]
  rw [createHmac_eq_hmacOf hchallenge, createHmac_eq_hmacOf hchallenge]
  dsimp only
  rw [nonCrcBytes_withRaw hsized hshape e.getElem_closing, setFrameRaw_of_not_crcPresent hcrc, hset]
  split_ifs with h
  · rw [Bool.not_eq_true', beq_eq_false_iff_ne] at h
    exact iff_of_false (fun hok => by cases hok) fun hok => h hok.1
  · rw [Bool.not_eq_true', beq_eq_false_iff_ne, not_not] at h
    rw [Except.ok.injEq, eq_comm, and_iff_right h]

theorem keyTransferParts_withRaw (hsized : ∀ f ∈ frames, f.WellSized)
    (hshape : SameShape frames raws) (e : Exchange cmdKeyTransfer isKeyInit frames t) :
    keyTransferParts { e.origin with raw := raws t.origin }
        { e.challenge with raw := raws t.challenge } { e.closing with raw := raws t.closing } =
      { keyInitCmd := [cmdKeyInit]
        challenge := field (raws t.challenge) hmacSize
        encryptedPayload := field (raws t.closing) aesKeySize } := by
  have hinit : frameCmd e.origin = some cmdKeyInit := (Kind.is_iff.1 e.isOrigin_origin).2
  obtain ⟨hlen, htake⟩ := hshape t.origin (List.getElem?_eq_some_iff.1 e.getElem_origin).1
  rw [rawAt_eq e.getElem_origin] at hlen htake
  have hcmd : frameCmd { e.origin with raw := raws t.origin } = some cmdKeyInit :=
    (frameCmd_congr hlen htake).trans hinit
  rw [keyTransferParts, nonCrcBytes_withRaw hsized hshape e.getElem_origin,
    nonCrcBytes_withRaw hsized hshape e.getElem_challenge,
    nonCrcBytes_withRaw hsized hshape e.getElem_closing, drop_take_one (frameCmd_eq hcmd).2]

/-- What re-keying one key transfer asks for and does. -/
theorem rekeyKeyTransferFrame_withRaw (hsized : ∀ f ∈ frames, f.WellSized)
    (hshape : SameShape frames raws) (e : Exchange cmdKeyTransfer isKeyInit frames t)
    (hchallenge : (field (raws t.challenge) hmacSize).length = hmacSize)
    (hpayload : (field (raws t.closing) aesKeySize).length = aesKeySize)
    (hreal : payloadOf ecb (field (raws t.challenge) hmacSize) (field (raws t.closing) aesKeySize) =
      realKey.toList) :
    rekeyKeyTransferFrame ecb keyFingerprint realKey corpusKey (withRaw raws frames, n) t =
      .ok (withRaw (Function.update raws t.closing ((raws t.closing).take frameMinSize ++
        payloadOf ecb (field (raws t.challenge) hmacSize) corpusKey.toList)) frames, n + 1) := by
  obtain ⟨ho, hc, hr⟩ := exchange_withRaw raws e
  have hset := withRaw_set raws e.getElem_closing ((raws t.closing).take frameMinSize ++
    payloadOf ecb (field (raws t.challenge) hmacSize) corpusKey.toList)
  have hcrc : ({ e.closing with raw := raws t.closing } : Frame).crcPresent = false :=
    (wellSized_withRaw hsized hshape _ (List.mem_of_getElem? hr)).crcPresent
  have hcorpus : corpusKey.toList.length = aesKeySize := Vector.length_toList
  unfold rekeyKeyTransferFrame
  dsimp only
  rw [ho, hc, hr]
  dsimp only
  rw [keyTransferParts_withRaw hsized hshape e]
  dsimp only [bind, Except.bind, pure, Except.pure]
  rw [cryptKey_eq_payloadOf hchallenge hpayload, cryptKey_eq_payloadOf hchallenge hcorpus]
  dsimp only
  rw [if_neg (not_not.2 hreal), nonCrcBytes_withRaw hsized hshape e.getElem_closing,
    setFrameRaw_of_not_crcPresent hcrc, hset]

/-- What the check on an authentication code asks for. -/
theorem checkHmac_withRaw {captureId : String} {cmd : UInt8} {isOrigin : Kind → Bool}
    (hsized : ∀ f ∈ frames, f.WellSized) (hshape : SameShape frames raws)
    (e : Exchange cmd isOrigin frames t)
    (hchallenge : (raws t.challenge).length = frameMinSize + hmacSize)
    (hresponse : (raws t.closing).length = frameMinSize + hmacSize) :
    checkHmac ecb (withRaw raws frames) captureId t = .ok () ↔
      hmacOf ecb ((raws t.origin).drop 8) (field (raws t.challenge) hmacSize) corpusSystemKey =
        field (raws t.closing) hmacSize := by
  obtain ⟨ho, hc, hr⟩ := exchange_withRaw raws e
  have hlong : decide (frameMinSize + hmacSize ≤ (raws t.challenge).length) = true :=
    decide_eq_true (Nat.le_of_eq hchallenge.symm)
  have hlong' : decide (frameMinSize + hmacSize ≤ (raws t.closing).length) = true :=
    decide_eq_true (Nat.le_of_eq hresponse.symm)
  unfold checkHmac
  rw [ho, hc, hr]
  dsimp only
  rw [hlong, hlong', hmacParts_withRaw hsized hshape e]
  dsimp only [bind, Except.bind, require, if_true, verifyHmac, pure, Except.pure]
  rw [createHmac_eq_hmacOf (field_length hchallenge)]
  dsimp only
  exact require_eq_ok_iff.trans beq_iff_eq

/-- What the check on a key transfer asks for. -/
theorem checkKeyTransfer_withRaw {captureId : String} (hsized : ∀ f ∈ frames, f.WellSized)
    (hshape : SameShape frames raws) (e : Exchange cmdKeyTransfer isKeyInit frames t)
    (hchallenge : (raws t.challenge).length = frameMinSize + hmacSize)
    (htransfer : (raws t.closing).length = frameMinSize + aesKeySize) :
    checkKeyTransfer ecb (withRaw raws frames) captureId t = .ok () ↔
      payloadOf ecb (field (raws t.challenge) hmacSize) (field (raws t.closing) aesKeySize) =
        corpusSystemKey.toList := by
  obtain ⟨ho, hc, hr⟩ := exchange_withRaw raws e
  have hlong : decide (frameMinSize + hmacSize ≤ (raws t.challenge).length) = true :=
    decide_eq_true (Nat.le_of_eq hchallenge.symm)
  have hlong' : decide (frameMinSize + aesKeySize ≤ (raws t.closing).length) = true :=
    decide_eq_true (Nat.le_of_eq htransfer.symm)
  unfold checkKeyTransfer
  rw [ho, hc, hr]
  dsimp only
  rw [hlong, hlong', keyTransferParts_withRaw hsized hshape e]
  dsimp only [bind, Except.bind, require, if_true]
  rw [cryptKey_eq_payloadOf (field_length hchallenge) (field_length htransfer)]
  dsimp only
  exact require_eq_ok_iff.trans beq_iff_eq

end

end HomeIoControl.Corpus
