import HomeIoControl.CorpusGate
import HomeIoControl.CorpusRemap

namespace HomeIoControl.Corpus

section
-- the fingerprint stands for a key in messages: the first digits of its hash
variable (ecb : AesBlock → AesKey → AesBlock) (keyFingerprint : List UInt8 → String)

/-- Verifies and rewrites one authentication code in the frames as they are by then. -/
def rekeyHmacFrame (realKey corpusKey : AesKey) (s : List Frame × ℕ) (t : Triple) :
    Except Failure (List Frame × ℕ) := do
  let some origin := s.1[t.origin]? | .error .indexError
  let some challenge := s.1[t.challenge]? | .error .indexError
  let some response := s.1[t.closing]? | .error .indexError
  let parts ← hmacParts origin challenge response
  if !(← verifyHmac ecb parts.transcript parts.hmac parts.challenge realKey.toList) then
    .error (.rekeyError ("HMAC verification FAILED against the real key (fingerprint sha256=" ++
      keyFingerprint realKey.toList ++ ") for challenge-response frame " ++ upperHex response.raw ++
      " — wrong key, mis-copied bytes, or a corrupted capture. Aborting; nothing was written."))
  else do
    let newHmac ← createHmac ecb parts.transcript parts.challenge corpusKey.toList
    let newResponse := (nonCrcBytes response).take frameMinSize ++ newHmac
    return (s.1.set t.closing (setFrameRaw response newResponse), s.2 + 1)

def rekeyHmacFrames (frames : List Frame) (realKey corpusKey : AesKey) :
    Except Failure (List Frame × ℕ) :=
  (findChallengeResponseTriples frames).foldlM
    (rekeyHmacFrame ecb keyFingerprint realKey corpusKey) (frames, 0)

/-- Verifies and rewrites one key transfer. -/
def rekeyKeyTransferFrame (realKey corpusKey : AesKey) (s : List Frame × ℕ) (t : Triple) :
    Except Failure (List Frame × ℕ) := do
  let some keyInit := s.1[t.origin]? | .error .indexError
  let some challenge := s.1[t.challenge]? | .error .indexError
  let some transfer := s.1[t.closing]? | .error .indexError
  let parts := keyTransferParts keyInit challenge transfer
  let decrypted ← cryptKey ecb parts.keyInitCmd parts.challenge parts.encryptedPayload
  if decrypted ≠ realKey.toList then
    .error (.rekeyError ("key-transfer payload does NOT decrypt to the real key " ++
      "(fingerprint sha256=" ++ keyFingerprint realKey.toList ++ ") for frame " ++
      upperHex transfer.raw ++
      " — aborting; nothing was written. Never commit this capture un-re-keyed."))
  else do
    let newEncrypted ← cryptKey ecb parts.keyInitCmd parts.challenge corpusKey.toList
    let newTransfer := (nonCrcBytes transfer).take frameMinSize ++ newEncrypted
    return (s.1.set t.closing (setFrameRaw transfer newTransfer), s.2 + 1)

def rekeyKeyTransferFrames (frames : List Frame) (realKey corpusKey : AesKey) :
    Except Failure (List Frame × ℕ) :=
  (findKeyTransferTriples frames).foldlM
    (rekeyKeyTransferFrame ecb keyFingerprint realKey corpusKey) (frames, 0)

def assertNoKeyLeakage (frames : List Frame) (realKey : AesKey) : Except Failure Unit :=
  forM frames fun f =>
    if realKey.toList <:+: f.raw ∨ realKey.toList.reverse <:+: f.raw then
      .error (.rekeyError ("OUTPUT-SAFETY ABORT: a rewritten frame still contains the real key's " ++
        "bytes (fingerprint sha256=" ++ keyFingerprint realKey.toList ++
        ") — refusing to write output. frame=" ++ upperHex f.raw))
    else .ok ()

/-- The two passes over the frames. -/
def rekeyFrames (frames : List Frame) (realKey corpusKey : AesKey) :
    Except Failure (List Frame) := do
  let (frames, _) ← rekeyHmacFrames ecb keyFingerprint frames realKey corpusKey
  let (frames, _) ← rekeyKeyTransferFrames ecb keyFingerprint frames realKey corpusKey
  return frames

/-- The whole pipeline: the rewritten frames and the warnings. -/
def applyRekey (frames : List Frame) (realKey : AesKey) (remap : RemapTable) :
    Except Failure (List Frame × List String) := do
  let frames ← rekeyFrames ecb keyFingerprint frames realKey corpusSystemKey
  let (frames, warnings) := applyNodeRemap frames remap
  assertNoKeyLeakage keyFingerprint frames realKey
  return (frames, warnings)

end

/-! ## The written capture -/

def Direction.text : Direction → String
  | .tx => "tx"
  | .rx => "rx"

/-- A frame entry of a capture file. -/
def frameEntries (f : Frame) : Dict :=
  [(.str "dir", .str f.direction.text), (.str "hex", .str (String.ofList (joinHex f.raw))),
    (.str "crc", .str (if f.crcPresent then "present" else "absent"))]

/-- What crypto validation reads of a capture under the corpus key. -/
def rekeyedCapture (frames : List Frame) : Dict :=
  [(.str "key", .str "corpus"), (.str "frames", .list (frames.map (.map ∘ frameEntries)))]

variable (py : Interpreter)

/-- A written frame is read as it was. -/
theorem nonCrcRawFrame_frameEntries (f : Frame) :
    nonCrcRawFrame py (frameEntries f) = .ok ⟨f.direction, nonCrcBytes f⟩ := by
  have hhex : (frameEntries f).item "hex" = .ok (.str (String.ofList (joinHex f.raw))) := rfl
  have hdir : (frameEntries f).item "dir" = .ok (.str f.direction.text) := rfl
  have hcrc : (frameEntries f).get "crc" =
      some (.str (if f.crcPresent then "present" else "absent")) := rfl
  unfold nonCrcRawFrame
  rw [hhex, hdir, hcrc]
  dsimp only [bind, Except.bind, Yaml.asStr]
  rw [String.toList_ofList, parseHex_joinHex]
  have hraw : stripCrc ((some (Yaml.str (if f.crcPresent then "present" else "absent"))).any
      (isStr · "present")) f.raw = nonCrcBytes f := by
    unfold stripCrc nonCrcBytes
    by_cases h : f.crcPresent = true
    · simp [h, isStr]
    · simp [h, isStr]
  dsimp only
  rw [hraw]
  cases f.direction with
  | tx => rfl
  | rx => rfl

/-- A written capture is read as the frames it was written from. -/
theorem captureFrames_rekeyedCapture {frames : List Frame}
    (h : ∀ f ∈ frames, f.crcPresent = false) :
    captureFrames py (rekeyedCapture frames) = .ok frames := by
  have hread : (frames.map (Yaml.map ∘ frameEntries)).mapM
      (fun item => do nonCrcRawFrame py (← item.asDict)) = .ok frames := by
    rw [ExceptLoops.mapM_eq_ok_iff, List.forall₂_map_left_iff, List.forall₂_same]
    intro f hf
    have hframe := nonCrcRawFrame_frameEntries py f
    rw [nonCrcBytes_of_not_crcPresent (h f hf)] at hframe
    exact hframe
  exact hread

end HomeIoControl.Corpus
