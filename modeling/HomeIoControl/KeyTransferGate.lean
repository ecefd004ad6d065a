import HomeIoControl.CorpusGate

namespace HomeIoControl.Corpus

open ExceptLoops

variable {py : Interpreter} {ecb : AesBlock → AesKey → AesBlock} {data : Dict}
  {path captureId : String} {frames : List Frame} {f : Frame}

/-! ## What an accepted capture looks like -/

theorem stripCrc_length (crcPresent : Bool) (raw : List UInt8) :
    (stripCrc crcPresent raw).length = if crcPresent then raw.length - 2 else raw.length := by
  unfold stripCrc
  split_ifs
  · rw [List.length_take]
    omega
  · rfl

theorem stripCrc_head {crcPresent : Bool} {raw : List UInt8}
    (h : 0 < (stripCrc crcPresent raw).length) :
    (stripCrc crcPresent raw).getD 0 0 = raw.getD 0 0 := by
  unfold stripCrc at h ⊢
  split_ifs at h ⊢
  · rw [List.length_take] at h
    rw [List.getD_eq_getElem?_getD, List.getElem?_take, if_pos (by omega),
      ← List.getD_eq_getElem?_getD]
  · rfl

/-- The bytes that a checked frame keeps have the announced length. -/
theorem length_of_validateBytes {raw : List UInt8} {crcPresent : Bool} {context : String}
    (h : validateBytes raw crcPresent context = .ok ()) :
    (stripCrc crcPresent raw).length =
      ctrl0ImpliedLength ((stripCrc crcPresent raw).getD 0 0) := by
  have hmin : 9 ≤ (stripCrc crcPresent raw).length ∧
      (stripCrc crcPresent raw).length = ctrl0ImpliedLength (raw.getD 0 0) := by
    unfold validateBytes at h
    obtain ⟨hmin, h⟩ := of_require_bind h
    obtain ⟨-, h⟩ := of_require_bind h
    obtain ⟨hlength, -⟩ := of_require_bind h
    rw [decide_eq_true_eq] at hmin
    rw [beq_iff_eq] at hlength
    rw [stripCrc_length]
    cases crcPresent with
    | false =>
      simp only [Bool.false_eq_true, if_false, frameMinSize] at hmin hlength ⊢
      omega
    | true =>
      simp only [if_true, frameMinSize] at hmin hlength ⊢
      omega
  rw [stripCrc_head (by omega)]
  exact hmin.2

theorem parseHex_of_validateHex {hex context : String} {raw : List UInt8}
    (h : validateHex py hex context = .ok raw) : parseHex py.text hex.toList = some raw := by
  obtain ⟨-, h⟩ := of_require_bind h
  cases hparse : parseHex py.text hex.toList with
  | none =>
    rw [hparse] at h
    cases h
  | some parsed =>
    rw [hparse] at h
    cases h
    rfl

theorem get_of_item {d : Dict} {key : String} {value : Yaml} (h : d.item key = .ok value) :
    d.get key = some value := by
  unfold Dict.item at h
  split at h
  · cases h
  · next hget =>
    cases h
    exact hget

/-- What the checks say of a frame holds of the frame that the finders see. -/
theorem wellSized_of_validateFrame {frame : Dict} {index : ℕ}
    (hvalid : validateFrame py frame index captureId = .ok ())
    (hframe : nonCrcRawFrame py frame = .ok f) : f.WellSized := by
  unfold validateFrame at hvalid
  obtain ⟨_, -, hvalid⟩ := bind_eq_ok_iff.1 hvalid
  obtain ⟨_, -, hvalid⟩ := bind_eq_ok_iff.1 hvalid
  obtain ⟨_, -, hvalid⟩ := bind_eq_ok_iff.1 hvalid
  obtain ⟨-, hvalid⟩ := of_require_bind hvalid
  obtain ⟨crc, hcrc, hvalid⟩ := bind_eq_ok_iff.1 hvalid
  obtain ⟨_, -, hvalid⟩ := bind_eq_ok_iff.1 hvalid
  obtain ⟨-, hvalid⟩ := of_require_bind hvalid
  obtain ⟨_, hitem, hvalid⟩ := bind_eq_ok_iff.1 hvalid
  obtain ⟨hex, hstr, hvalid⟩ := bind_eq_ok_iff.1 hvalid
  obtain ⟨raw, hraw, hvalid⟩ := bind_eq_ok_iff.1 hvalid
  have hlength := length_of_validateBytes hvalid
  unfold nonCrcRawFrame at hframe
  obtain ⟨_, hitem', hframe⟩ := bind_eq_ok_iff.1 hframe
  obtain rfl := Except.ok.inj (hitem.symm.trans hitem')
  obtain ⟨hex', hstr', hframe⟩ := bind_eq_ok_iff.1 hframe
  obtain rfl := Except.ok.inj (hstr.symm.trans hstr')
  rw [parseHex_of_validateHex hraw, get_of_item hcrc] at hframe
  dsimp only [Option.any_some] at hframe
  obtain ⟨_, -, hframe⟩ := bind_eq_ok_iff.1 hframe
  obtain ⟨dir, -, hframe⟩ := bind_eq_ok_iff.1 hframe
  split at hframe
  · cases hframe
    exact hlength
  · cases hframe
    exact hlength
  · cases hframe

/-- Acceptance means that the frames and the key transfers were checked. -/
theorem checks_of_validateCapture (h : validateCapture py ecb data path = .ok captureId) :
    (∃ items, validateFrames py data captureId = .ok items) ∧
      validateCrypto py ecb data captureId = .ok () := by
  unfold validateCapture at h
  obtain ⟨captureId', -, h⟩ := bind_eq_ok_iff.1 h
  obtain ⟨items, hframes, h⟩ := bind_eq_ok_iff.1 h
  obtain ⟨_, -, h⟩ := bind_eq_ok_iff.1 h
  obtain ⟨_, hcrypto, h⟩ := bind_eq_ok_iff.1 h
  cases h
  exact ⟨⟨items, hframes⟩, hcrypto⟩

theorem wellSized_of_validateFrames {items : List Yaml}
    (hvalid : validateFrames py data captureId = .ok items)
    (hframes : captureFrames py data = .ok frames) : ∀ f ∈ frames, f.WellSized := by
  unfold validateFrames at hvalid
  obtain ⟨value, hvalue, hvalid⟩ := bind_eq_ok_iff.1 hvalid
  unfold captureFrames framesOf at hframes
  obtain ⟨items', hitems, hframes⟩ := bind_eq_ok_iff.1 hframes
  rw [hvalue] at hitems
  cases value with
  | list entries =>
    cases hitems
    obtain ⟨-, hvalid⟩ := of_require_bind hvalid
    obtain ⟨_, hall, -⟩ := bind_eq_ok_iff.1 hvalid
    have hchecked := forM_eq_ok_iff.1 hall
    have hread := mapM_eq_ok_iff.1 hframes
    intro f hf
    obtain ⟨i, hi, rfl⟩ := List.getElem_of_mem hf
    have hlen := hread.length_eq
    obtain ⟨frame, hframe, hget⟩ := bind_eq_ok_iff.1 (hread.get (by omega) hi)
    have hcheck := hchecked (items'[i], i) (List.mk_mem_zipIdx_iff_getElem?.2
      (List.getElem?_eq_getElem (by omega)))
    obtain ⟨frame', hframe', hcheck⟩ := bind_eq_ok_iff.1 hcheck
    obtain rfl := Except.ok.inj (hframe.symm.trans hframe')
    exact wellSized_of_validateFrame hcheck hget
  | null => cases hitems
  | other => cases hitems
  | str s => cases hitems
  | map entries => cases hitems

theorem checkCrypto_of_validateCrypto (h : validateCrypto py ecb data captureId = .ok ())
    (hframes : captureFrames py data = .ok frames) :
    ∀ t ∈ findKeyTransferTriples frames, checkKeyTransfer ecb frames captureId t = .ok () := by
  unfold validateCrypto at h
  obtain ⟨frames', hframes', h⟩ := bind_eq_ok_iff.1 h
  obtain rfl := Except.ok.inj (hframes.symm.trans hframes')
  obtain ⟨_, -, h⟩ := bind_eq_ok_iff.1 h
  unfold checkCrypto at h
  obtain ⟨_, hall, -⟩ := bind_eq_ok_iff.1 h
  exact forM_eq_ok_iff.1 hall

/-! ## Key transfers -/

def IsKeyTransfer (frames : List Frame) (i : ℕ) : Prop :=
  ∃ f, frames[i]? = some f ∧ frameCmd f = some cmdKeyTransfer

/-- The payload decrypts to the public key under the challenge of an earlier frame. -/
def EncodesCorpusKey (ecb : AesBlock → AesKey → AesBlock) (frames : List Frame) (i : ℕ) : Prop :=
  ∃ f, frames[i]? = some f ∧ ∃ c < i, ∃ g, frames[c]? = some g ∧
    frameCmd g = some cmdChallengeReq ∧
    cryptKey ecb [cmdKeyInit] (field g.raw hmacSize) (field f.raw aesKeySize) =
      .ok corpusSystemKey.toList

/-- The capture holds the whole exchange, from the side of the one who transfers the key. -/
def InRecordedExchange (frames : List Frame) (i : ℕ) : Prop :=
  (∃ f, frames[i]? = some f ∧ f.kind.is .tx cmdKeyTransfer = true) ∧
    ∃ c < i, (∃ g, frames[c]? = some g ∧ g.kind.is .rx cmdChallengeReq = true) ∧
      ∃ o < c, ∃ g, frames[o]? = some g ∧ g.kind.is .tx cmdKeyInit = true

/-- A recorded exchange is found. -/
theorem exists_triple {i : ℕ} (h : InRecordedExchange frames i) :
    ∃ t ∈ findKeyTransferTriples frames, t.closing = i := by
  obtain ⟨⟨f, hf, hclosing⟩, c, hc, ⟨g, hg, hchallenge⟩, o, ho, k, hk, horigin⟩ := h
  have hkinds : ∀ {j : ℕ} {x : Frame}, frames[j]? = some x →
      (frames.map Frame.kind)[j]? = some x.kind := by
    intro j x hx
    rw [List.getElem?_map, hx, Option.map_some]
  have hcmd : k.kind.cmd.isSome = true := by rw [(Kind.is_iff.1 horigin).2]; rfl
  have hscan : (scanBack isKeyInit (frames.map Frame.kind) none i).isSome = true :=
    scanBack_isSome ho hc (hkinds hk) hcmd horigin (hkinds hg) hchallenge
  obtain ⟨found, hfound⟩ := Option.isSome_iff_exists.1 hscan
  refine ⟨⟨found.1, found.2, i⟩, ?_, rfl⟩
  rw [findKeyTransferTriples, mem_findTriples_iff, tripleAt, hkinds hf, Option.any_some,
    if_pos hclosing, hfound]
  rfl

/-- What the check on an exchange ensures of its key transfer. -/
theorem encodesCorpusKey_of_triple (hsized : ∀ f ∈ frames, f.WellSized) {t : Triple}
    (ht : t ∈ findKeyTransferTriples frames)
    (hcheck : checkKeyTransfer ecb frames captureId t = .ok ()) :
    EncodesCorpusKey ecb frames t.closing := by
  obtain ⟨-, ⟨e⟩⟩ := exists_exchange (mem_findTriples_iff.1 ht)
  -- none of the three frames has a CRC left
  have hbytes : ∀ {j : ℕ} {x : Frame}, frames[j]? = some x → nonCrcBytes x = x.raw := fun hx =>
    nonCrcBytes_of_not_crcPresent (hsized _ (List.mem_of_getElem? hx)).crcPresent
  unfold checkKeyTransfer at hcheck
  dsimp only at hcheck
  rw [e.getElem_origin, e.getElem_challenge, e.getElem_closing] at hcheck
  obtain ⟨-, hcheck⟩ := of_require_bind hcheck
  obtain ⟨-, hcheck⟩ := of_require_bind hcheck
  obtain ⟨decrypted, hdecrypted, hcheck⟩ := bind_eq_ok_iff.1 hcheck
  obtain rfl := eq_of_beq (require_eq_ok_iff.1 hcheck)
  simp only [keyTransferParts, hbytes e.getElem_origin, hbytes e.getElem_challenge,
    hbytes e.getElem_closing,
    drop_take_one (frameCmd_eq (Kind.is_iff.1 e.isOrigin_origin).2).2] at hdecrypted
  exact ⟨e.closing, e.getElem_closing, t.challenge, e.challenge_lt, e.challenge,
    e.getElem_challenge, (Kind.is_iff.1 e.is_challenge).2, hdecrypted⟩

/-- In an accepted capture it is exactly the key transfers outside a recorded exchange that the
gate takes on trust. -/
theorem keyTransfers_rekeyed_iff (haccept : validateCapture py ecb data path = .ok captureId)
    (hframes : captureFrames py data = .ok frames) :
    (∀ i, IsKeyTransfer frames i → EncodesCorpusKey ecb frames i) ↔
      ∀ i, IsKeyTransfer frames i → ¬InRecordedExchange frames i →
        EncodesCorpusKey ecb frames i := by
  obtain ⟨⟨items, hvalid⟩, hcrypto⟩ := checks_of_validateCapture haccept
  have hsized := wellSized_of_validateFrames hvalid hframes
  have hchecks := checkCrypto_of_validateCrypto hcrypto hframes
  constructor
  · exact fun h i hi _ => h i hi
  · intro h i hi
    by_cases hrecorded : InRecordedExchange frames i
    · obtain ⟨t, ht, rfl⟩ := exists_triple hrecorded
      exact encodesCorpusKey_of_triple hsized ht (hchecks t ht)
    · exact h i hi hrecorded

/-! ## A trimmed capture -/

/-- A pairing cut down to its key transfer. -/
def trimmedCapture : Dict :=
  [(.str "id", .str "trimmed"), (.str "description", .str "pairing"),
    (.str "source", .map [(.str "origin", .str "own-hardware"),
      (.str "captured_with", .str "sx1262"), (.str "device", .str "cover"), (.str "date", .other)]),
    (.str "key", .str "unknown"),
    (.str "frames", .list [.map [(.str "dir", .str "tx"),
      (.str "hex", .str
        "18 00 00 00 01 00 00 02 32 00 01 02 03 04 05 06 07 08 09 0A 0B 0C 0D 0E 0F"),
      (.str "crc", .str "absent")]])]

def trimmedFrame : Frame where
  direction := .tx
  raw := [0x18, 0, 0, 0, 1, 0, 0, 2, 0x32, 0, 1, 2, 3, 4, 5, 6, 7, 8, 9, 10, 11, 12, 13, 14, 15]

theorem captureFrames_trimmedCapture :
    captureFrames asciiInterpreter trimmedCapture = .ok [trimmedFrame] := by rfl

theorem validateCapture_trimmedCapture :
    validateCapture asciiInterpreter aes128Encrypt trimmedCapture "trimmed.yaml" =
      .ok "trimmed" := by
  rfl

theorem not_encodesCorpusKey_trimmed :
    ¬EncodesCorpusKey aes128Encrypt [trimmedFrame] 0 := by
  rintro ⟨_, _, c, hc, _⟩
  exact Nat.not_lt_zero c hc

/-- The gate accepts the capture, though no frame in it could decrypt the key transfer. -/
theorem keyTransfers_not_rekeyed_trimmed :
    validateCapture asciiInterpreter aes128Encrypt trimmedCapture "trimmed.yaml" = .ok "trimmed" ∧
      captureFrames asciiInterpreter trimmedCapture = .ok [trimmedFrame] ∧
      ¬∀ i, IsKeyTransfer [trimmedFrame] i → EncodesCorpusKey aes128Encrypt [trimmedFrame] i :=
  ⟨validateCapture_trimmedCapture, captureFrames_trimmedCapture, fun h =>
    not_encodesCorpusKey_trimmed (h 0 ⟨trimmedFrame, rfl, rfl⟩)⟩

theorem keyTransfers_rekeyed_iff_trimmed :
    (∀ i, IsKeyTransfer [trimmedFrame] i → EncodesCorpusKey aes128Encrypt [trimmedFrame] i) ↔
      ∀ i, IsKeyTransfer [trimmedFrame] i → ¬InRecordedExchange [trimmedFrame] i →
        EncodesCorpusKey aes128Encrypt [trimmedFrame] i :=
  keyTransfers_rekeyed_iff validateCapture_trimmedCapture captureFrames_trimmedCapture

end HomeIoControl.Corpus
