import HomeIoControl.RekeyedFrames

namespace HomeIoControl.Corpus

open ExceptLoops

variable {ecb : AesBlock → AesKey → AesBlock} {frames : List Frame}

/-! ## The re-keyed bytes -/

/-- The challenge that the frame at a place answers. -/
def answerAt (frames : List Frame) (i : ℕ) : Option Triple :=
  tripleAt cmdChallengeResp isChallenged (frames.map Frame.kind) i

/-- The key exchange that the frame at a place ends. -/
def transferAt (frames : List Frame) (i : ℕ) : Option Triple :=
  tripleAt cmdKeyTransfer isKeyInit (frames.map Frame.kind) i

theorem origin_lt_of_tripleAt {cmd : UInt8} {isOrigin : Kind → Bool} {i : ℕ} {t : Triple}
    (h : tripleAt cmd isOrigin (frames.map Frame.kind) i = some t) : t.origin < i := by
  obtain ⟨rfl, ⟨e⟩⟩ := exists_exchange h
  exact Nat.lt_trans e.origin_lt e.challenge_lt

/-- A frame once every answer up to it carries the code under the corpus key, which covers the
frame it was challenged for as that one then is. -/
def resignedRaw (ecb : AesBlock → AesKey → AesBlock) (frames : List Frame) (i : ℕ) : List UInt8 :=
  match h : answerAt frames i with
  | none => rawAt frames i
  | some t =>
    have : t.origin < i := origin_lt_of_tripleAt h
    (rawAt frames i).take frameMinSize ++
      hmacOf ecb ((resignedRaw ecb frames t.origin).drop 8) (challengeAt frames t) corpusSystemKey
termination_by i

/-- A frame once every key transfer hides the corpus key as well. -/
def rekeyedRaw (ecb : AesBlock → AesKey → AesBlock) (frames : List Frame) (i : ℕ) : List UInt8 :=
  match transferAt frames i with
  | none => resignedRaw ecb frames i
  | some t =>
    (rawAt frames i).take frameMinSize ++
      payloadOf ecb (challengeAt frames t) corpusSystemKey.toList

theorem resignedRaw_of_none {i : ℕ} (h : answerAt frames i = none) :
    resignedRaw ecb frames i = rawAt frames i := by
  rw [resignedRaw]
  split
  · rfl
  · next t ht => rw [h] at ht; cases ht

theorem resignedRaw_of_some {i : ℕ} {t : Triple} (h : answerAt frames i = some t) :
    resignedRaw ecb frames i = (rawAt frames i).take frameMinSize ++
      hmacOf ecb ((resignedRaw ecb frames t.origin).drop 8) (challengeAt frames t)
        corpusSystemKey := by
  rw [resignedRaw]
  split
  · next hnone => rw [h] at hnone; cases hnone
  · next t' ht =>
    obtain rfl := Option.some.inj (h.symm.trans ht)
    rfl

/-- The answers are signed by the real key, over the frames as they are re-keyed by then. -/
def SignedBy (ecb : AesBlock → AesKey → AesBlock) (frames : List Frame) (realKey : AesKey)
    (t : Triple) : Prop :=
  hmacOf ecb ((resignedRaw ecb frames t.origin).drop 8) (challengeAt frames t) realKey =
    field (rawAt frames t.closing) hmacSize

/-- Only a frame of the closing command ends an exchange. -/
theorem tripleAt_of_ne {cmd : UInt8} {isOrigin : Kind → Bool} {i : ℕ} {f : Frame}
    (hf : frames[i]? = some f) (h : frameCmd f ≠ some cmd) :
    tripleAt cmd isOrigin (frames.map Frame.kind) i = none := by
  rw [tripleAt, if_neg]
  rw [List.getElem?_map, hf, Option.map_some, Option.any_some, Kind.is_iff]
  exact fun hcmd => h hcmd.2

/-- A frame that is of one command does not end the exchanges of another. -/
theorem tripleAt_of_is {cmd cmd' : UInt8} {isOrigin : Kind → Bool} {i : ℕ} {f : Frame}
    (hf : frames[i]? = some f) (hcmd : frameCmd f = some cmd') (hne : cmd' ≠ cmd) :
    tripleAt cmd isOrigin (frames.map Frame.kind) i = none := by
  apply tripleAt_of_ne hf
  rw [hcmd]
  exact fun h => hne (Option.some.inj h)

theorem header_length {i size : ℕ} (h : (rawAt frames i).length = frameMinSize + size) :
    ((rawAt frames i).take frameMinSize).length = frameMinSize := by
  rw [List.length_take, h]
  omega

theorem closing_length {cmd : UInt8} {isOrigin : Kind → Bool} {t : Triple}
    (e : Exchange cmd isOrigin frames t) {size : ℕ}
    (hsize : frameCmd e.closing = some cmd → e.closing.raw.length = frameMinSize + size) :
    (rawAt frames t.closing).length = frameMinSize + size := by
  rw [rawAt_eq e.getElem_closing]
  exact hsize (Kind.is_iff.1 e.is_closing).2

section
variable (hwf : ∀ f ∈ frames, WellFormed f)
include hwf

theorem sized_of_wellFormed : ∀ f ∈ frames, f.WellSized := fun f hf => (hwf f hf).sized

theorem answer_length {t : Triple} (e : Exchange cmdChallengeResp isChallenged frames t) :
    (rawAt frames t.closing).length = frameMinSize + hmacSize :=
  closing_length e (hwf _ (List.mem_of_getElem? e.getElem_closing)).response

theorem transfer_length {t : Triple} (e : Exchange cmdKeyTransfer isKeyInit frames t) :
    (rawAt frames t.closing).length = frameMinSize + aesKeySize :=
  closing_length e (hwf _ (List.mem_of_getElem? e.getElem_closing)).transfer

variable (ecb) in
theorem sameShape_resignedRaw : SameShape frames (resignedRaw ecb frames) := by
  intro i _
  cases h : answerAt frames i with
  | none =>
    rw [resignedRaw_of_none h]
    exact ⟨rfl, rfl⟩
  | some t =>
    obtain ⟨rfl, ⟨e⟩⟩ := exists_exchange h
    have hlen := answer_length hwf e
    have hheader := header_length hlen
    rw [resignedRaw_of_some h, List.length_append, hheader,
      hmacOf_length (challengeAt_length hwf e), List.take_left' hheader]
    exact ⟨hlen.symm, rfl⟩

variable (ecb) in
theorem sameShape_rekeyedRaw : SameShape frames (rekeyedRaw ecb frames) := by
  intro i hi
  cases h : transferAt frames i with
  | none =>
    rw [rekeyedRaw, h]
    exact sameShape_resignedRaw ecb hwf i hi
  | some t =>
    obtain ⟨rfl, ⟨e⟩⟩ := exists_exchange h
    have hlen := transfer_length hwf e
    have hheader := header_length hlen
    have hkey : corpusSystemKey.toList.length = aesKeySize := Vector.length_toList
    have hpayload := payloadOf_length ecb (challengeAt_length hwf e) hkey
    rw [rekeyedRaw, h]
    dsimp only
    rw [List.length_append, hheader, hpayload, List.take_left' hheader]
    exact ⟨hlen.symm, rfl⟩

end

/-- Two stages of a pass over the frames: up to a place the later bytes, from there the earlier. -/
def upTo (n : ℕ) (later earlier : ℕ → List UInt8) (i : ℕ) : List UInt8 :=
  if i < n then later i else earlier i

theorem sameShape_upTo {later earlier : ℕ → List UInt8} (hlater : SameShape frames later)
    (hearlier : SameShape frames earlier) (n : ℕ) : SameShape frames (upTo n later earlier) := by
  intro i hi
  unfold upTo
  split_ifs
  · exact hlater i hi
  · exact hearlier i hi

theorem sameShape_rawAt : SameShape frames (rawAt frames) := fun _ _ => ⟨rfl, rfl⟩

theorem upTo_of_lt {n i : ℕ} {later earlier : ℕ → List UInt8} (h : i < n) :
    upTo n later earlier i = later i := if_pos h

theorem upTo_self {n : ℕ} {later earlier : ℕ → List UInt8} :
    upTo n later earlier n = earlier n := if_neg (Nat.lt_irrefl n)

/-- Passing one more place. -/
theorem update_upTo (n : ℕ) (later earlier : ℕ → List UInt8) :
    Function.update (upTo n later earlier) n (later n) = upTo (n + 1) later earlier := by
  funext i
  by_cases h : i = n
  · subst h
    rw [Function.update_self, upTo_of_lt (Nat.lt_succ_self i)]
  · rw [Function.update_of_ne h]
    unfold upTo
    split_ifs
    · rfl
    · omega
    · omega
    · rfl

theorem upTo_succ_of_eq {n : ℕ} {later earlier : ℕ → List UInt8} (h : later n = earlier n) :
    upTo (n + 1) later earlier = upTo n later earlier := by
  have hself : upTo n later earlier n = earlier n := upTo_self
  rw [← update_upTo, h, ← hself, Function.update_eq_self]

/-! ## The two passes -/

section
variable {keyFingerprint : List UInt8 → String} {realKey : AesKey} {t : Triple} {i n : ℕ}
  {s : List Frame × ℕ}

/-- A challenge is no answer and no key transfer. -/
theorem resignedRaw_challenge {cmd : UInt8} {isOrigin : Kind → Bool}
    (e : Exchange cmd isOrigin frames t) :
    resignedRaw ecb frames t.challenge = rawAt frames t.challenge := by
  have hcmd : frameCmd e.challenge = some cmdChallengeReq := (Kind.is_iff.1 e.is_challenge).2
  exact resignedRaw_of_none (tripleAt_of_is e.getElem_challenge hcmd (by decide))

theorem rekeyedRaw_challenge {cmd : UInt8} {isOrigin : Kind → Bool}
    (e : Exchange cmd isOrigin frames t) :
    rekeyedRaw ecb frames t.challenge = rawAt frames t.challenge := by
  have hcmd : frameCmd e.challenge = some cmdChallengeReq := (Kind.is_iff.1 e.is_challenge).2
  have hnone : transferAt frames t.challenge = none :=
    tripleAt_of_is e.getElem_challenge hcmd (by decide)
  rw [rekeyedRaw, hnone]
  exact resignedRaw_challenge e

/-- The first pass at an answer. -/
theorem rekeyHmacFrame_upTo (hwf : ∀ f ∈ frames, WellFormed f) (h : answerAt frames i = some t) :
    rekeyHmacFrame ecb keyFingerprint realKey corpusSystemKey
        (withRaw (upTo i (resignedRaw ecb frames) (rawAt frames)) frames, n) t = .ok s ↔
      SignedBy ecb frames realKey t ∧
        s = (withRaw (upTo (i + 1) (resignedRaw ecb frames) (rawAt frames)) frames, n + 1) := by
  obtain ⟨rfl, ⟨e⟩⟩ := exists_exchange h
  have hsized := sized_of_wellFormed hwf
  have hshape := sameShape_upTo (sameShape_resignedRaw ecb hwf) sameShape_rawAt t.closing
  have horigin : upTo t.closing (resignedRaw ecb frames) (rawAt frames) t.origin =
      resignedRaw ecb frames t.origin := upTo_of_lt (Nat.lt_trans e.origin_lt e.challenge_lt)
  have hchallenge : upTo t.closing (resignedRaw ecb frames) (rawAt frames) t.challenge =
      rawAt frames t.challenge := by
    rw [upTo_of_lt e.challenge_lt, resignedRaw_challenge e]
  have hclosing : upTo t.closing (resignedRaw ecb frames) (rawAt frames) t.closing =
      rawAt frames t.closing := upTo_self
  rw [rekeyHmacFrame_withRaw hsized hshape e
    (by rw [hchallenge]; exact challengeAt_length hwf e), horigin, hchallenge, hclosing,
    ← update_upTo, resignedRaw_of_some h]
  rfl

theorem upTo_length {later earlier : ℕ → List UInt8} :
    withRaw (upTo frames.length later earlier) frames = withRaw later frames :=
  withRaw_congr fun _ hi => upTo_of_lt hi

theorem upTo_zero {later earlier : ℕ → List UInt8} : upTo 0 later earlier = earlier := by
  funext i
  exact if_neg (Nat.not_lt_zero i)

/-- The frames and the count before a place. -/
def passState (later earlier : ℕ → List UInt8) (at? : ℕ → Option Triple) (frames : List Frame)
    (n : ℕ) : List Frame × ℕ :=
  (withRaw (upTo n later earlier) frames, ((List.range n).filterMap at?).length)

theorem passState_succ_of_none {later earlier : ℕ → List UInt8} {at? : ℕ → Option Triple}
    (h : at? n = none) (heq : later n = earlier n) :
    passState later earlier at? frames (n + 1) = passState later earlier at? frames n := by
  rw [passState, passState, upTo_succ_of_eq heq, List.range_succ, List.filterMap_append,
    List.filterMap_cons_none h, List.filterMap_nil, List.append_nil]

theorem passState_succ_of_some {later earlier : ℕ → List UInt8} {at? : ℕ → Option Triple}
    (h : at? n = some t) :
    passState later earlier at? frames (n + 1) =
      (withRaw (upTo (n + 1) later earlier) frames,
        (passState later earlier at? frames n).2 + 1) := by
  rw [passState, passState, List.range_succ, List.filterMap_append, List.length_append,
    List.filterMap_cons_some h, List.filterMap_nil, List.length_singleton]

theorem passState_zero {later earlier : ℕ → List UInt8} {at? : ℕ → Option Triple} :
    passState later earlier at? frames 0 = (withRaw earlier frames, 0) := by
  rw [passState, upTo_zero]
  rfl

theorem passState_length {later earlier : ℕ → List UInt8} {at? : ℕ → Option Triple} :
    passState later earlier at? frames frames.length =
      (withRaw later frames, ((List.range frames.length).filterMap at?).length) := by
  rw [passState, upTo_length]

/-- The first pass succeeds when every answer is signed by the real key. -/
theorem rekeyHmacFrames_eq_ok_iff (hwf : ∀ f ∈ frames, WellFormed f) :
    rekeyHmacFrames ecb keyFingerprint frames realKey corpusSystemKey = .ok s ↔
      (∀ t ∈ findChallengeResponseTriples frames, SignedBy ecb frames realKey t) ∧
        s = (withRaw (resignedRaw ecb frames) frames,
          (findChallengeResponseTriples frames).length) := by
  have hnone : ∀ i < frames.length, answerAt frames i = none →
      passState (resignedRaw ecb frames) (rawAt frames) (answerAt frames) frames (i + 1) =
        passState (resignedRaw ecb frames) (rawAt frames) (answerAt frames) frames i :=
    fun i _ h => passState_succ_of_none h (resignedRaw_of_none h)
  have hsome : ∀ i < frames.length, ∀ t, answerAt frames i = some t → ∀ s,
      rekeyHmacFrame ecb keyFingerprint realKey corpusSystemKey
          (passState (resignedRaw ecb frames) (rawAt frames) (answerAt frames) frames i) t =
        .ok s ↔
      (∀ t, answerAt frames i = some t → SignedBy ecb frames realKey t) ∧
        s = passState (resignedRaw ecb frames) (rawAt frames) (answerAt frames) frames
          (i + 1) := by
    intro i _ t h s
    rw [passState_succ_of_some h, passState, rekeyHmacFrame_upTo hwf h, h]
    simp
  have hloop := foldlM_filterMap_range_eq_ok_iff _ _ hnone hsome (Nat.le_refl _) s
  rw [passState_zero, withRaw_rawAt, passState_length] at hloop
  refine hloop.trans (and_congr_left fun _ => ?_)
  constructor
  · intro h t ht
    have hanswer : answerAt frames t.closing = some t := mem_findTriples_iff.1 ht
    obtain ⟨-, ⟨e⟩⟩ := exists_exchange hanswer
    exact h t.closing (List.getElem?_eq_some_iff.1 e.getElem_closing).1
      (by rw [hanswer]; rfl) t hanswer
  · intro h i _ _ t ht
    obtain ⟨rfl, -⟩ := exists_exchange ht
    exact h t (mem_findTriples_iff.2 ht)

/-- The payload of a key transfer hides the real key. -/
def Hides (ecb : AesBlock → AesKey → AesBlock) (frames : List Frame) (realKey : AesKey)
    (t : Triple) : Prop :=
  payloadOf ecb (challengeAt frames t) (field (rawAt frames t.closing) aesKeySize) = realKey.toList

/-- A key transfer is no answer. -/
theorem resignedRaw_transfer (e : Exchange cmdKeyTransfer isKeyInit frames t) :
    resignedRaw ecb frames t.closing = rawAt frames t.closing := by
  have hcmd : frameCmd e.closing = some cmdKeyTransfer := (Kind.is_iff.1 e.is_closing).2
  exact resignedRaw_of_none (tripleAt_of_is e.getElem_closing hcmd (by decide))

/-- The second pass at a key transfer. -/
theorem rekeyKeyTransferFrame_upTo (hwf : ∀ f ∈ frames, WellFormed f)
    (h : transferAt frames i = some t) (hreal : Hides ecb frames realKey t) :
    rekeyKeyTransferFrame ecb keyFingerprint realKey corpusSystemKey
        (withRaw (upTo i (rekeyedRaw ecb frames) (resignedRaw ecb frames)) frames, n) t =
      .ok (withRaw (upTo (i + 1) (rekeyedRaw ecb frames) (resignedRaw ecb frames)) frames,
        n + 1) := by
  obtain ⟨rfl, ⟨e⟩⟩ := exists_exchange h
  have hsized := sized_of_wellFormed hwf
  have hshape : SameShape frames
      (upTo t.closing (rekeyedRaw ecb frames) (resignedRaw ecb frames)) :=
    sameShape_upTo (sameShape_rekeyedRaw ecb hwf) (sameShape_resignedRaw ecb hwf) t.closing
  have hchallenge : upTo t.closing (rekeyedRaw ecb frames) (resignedRaw ecb frames) t.challenge =
      rawAt frames t.challenge := by
    rw [upTo_of_lt e.challenge_lt, rekeyedRaw_challenge e]
  have hclosing : upTo t.closing (rekeyedRaw ecb frames) (resignedRaw ecb frames) t.closing =
      rawAt frames t.closing := by
    rw [upTo_self, resignedRaw_transfer e]
  have hrekeyed : rekeyedRaw ecb frames t.closing = (rawAt frames t.closing).take frameMinSize ++
      payloadOf ecb (challengeAt frames t) corpusSystemKey.toList := by
    rw [rekeyedRaw, h]
  rw [rekeyKeyTransferFrame_withRaw hsized hshape e
    (by rw [hchallenge]; exact challengeAt_length hwf e)
    (by rw [hclosing]; exact field_length (transfer_length hwf e))
    (by rw [hchallenge, hclosing]; exact hreal), hchallenge, hclosing, ← update_upTo, hrekeyed]
  rfl

/-- The second pass always succeeds. -/
theorem rekeyKeyTransferFrames_eq_ok (hwf : ∀ f ∈ frames, WellFormed f)
    (hreal : ∀ t ∈ findKeyTransferTriples frames, Hides ecb frames realKey t) :
    rekeyKeyTransferFrames ecb keyFingerprint (withRaw (resignedRaw ecb frames) frames) realKey
        corpusSystemKey =
      .ok (withRaw (rekeyedRaw ecb frames) frames, (findKeyTransferTriples frames).length) := by
  have hnone : ∀ i < frames.length, transferAt frames i = none →
      passState (rekeyedRaw ecb frames) (resignedRaw ecb frames) (transferAt frames) frames
          (i + 1) =
        passState (rekeyedRaw ecb frames) (resignedRaw ecb frames) (transferAt frames) frames
          i := by
    intro i _ h
    apply passState_succ_of_none h
    rw [rekeyedRaw, h]
  have hsome : ∀ i < frames.length, ∀ t, transferAt frames i = some t → ∀ s,
      rekeyKeyTransferFrame ecb keyFingerprint realKey corpusSystemKey
          (passState (rekeyedRaw ecb frames) (resignedRaw ecb frames) (transferAt frames) frames i)
          t = .ok s ↔
      True ∧ s = passState (rekeyedRaw ecb frames) (resignedRaw ecb frames) (transferAt frames)
        frames (i + 1) := by
    intro i _ t h s
    obtain ⟨hclosing, -⟩ := exists_exchange h
    have ht : t ∈ findKeyTransferTriples frames :=
      mem_findTriples_iff.2 (by rw [hclosing]; exact h)
    rw [passState_succ_of_some h, passState, rekeyKeyTransferFrame_upTo hwf h (hreal t ht),
      Except.ok.injEq, true_and, eq_comm]
  have hloop := foldlM_filterMap_range_eq_ok_iff _ _ hnone hsome (Nat.le_refl _)
    (passState (rekeyedRaw ecb frames) (resignedRaw ecb frames) (transferAt frames) frames
      frames.length)
  rw [passState_zero, passState_length] at hloop
  have hfind : findKeyTransferTriples (withRaw (resignedRaw ecb frames) frames) =
      findKeyTransferTriples frames :=
    findTriples_withRaw (sameShape_resignedRaw ecb hwf) _ _
  rw [rekeyKeyTransferFrames, hfind]
  exact hloop.2 ⟨fun _ _ _ => trivial, rfl⟩

/-- Both passes together. -/
theorem rekeyFrames_eq_ok_iff (hwf : ∀ f ∈ frames, WellFormed f)
    (hreal : ∀ t ∈ findKeyTransferTriples frames, Hides ecb frames realKey t) {out : List Frame} :
    rekeyFrames ecb keyFingerprint frames realKey corpusSystemKey = .ok out ↔
      (∀ t ∈ findChallengeResponseTriples frames, SignedBy ecb frames realKey t) ∧
        out = withRaw (rekeyedRaw ecb frames) frames := by
  unfold rekeyFrames
  rw [bind_eq_ok_iff]
  constructor
  · rintro ⟨s, hs, h⟩
    obtain ⟨hsigned, rfl⟩ := (rekeyHmacFrames_eq_ok_iff hwf).1 hs
    dsimp only at h
    rw [rekeyKeyTransferFrames_eq_ok hwf hreal] at h
    cases h
    exact ⟨hsigned, rfl⟩
  · rintro ⟨hsigned, rfl⟩
    refine ⟨_, (rekeyHmacFrames_eq_ok_iff hwf).2 ⟨hsigned, rfl⟩, ?_⟩
    dsimp only
    rw [rekeyKeyTransferFrames_eq_ok hwf hreal]
    rfl

end

end HomeIoControl.Corpus
