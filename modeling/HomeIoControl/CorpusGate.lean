import HomeIoControl.CorpusFrames
import HomeIoControl.CorpusHex
import HomeIoControl.ExceptLoops

namespace HomeIoControl.Corpus

open ExceptLoops

/-! ## Documents -/

inductive YamlKey
  | str (s : String)
  | other (n : ℕ)
  deriving DecidableEq, Repr

/-- A loaded value. Of numbers, booleans and dates no check asks what they are. -/
inductive Yaml
  | null
  | other
  | str (s : String)
  | list (items : List Yaml)
  | map (entries : List (YamlKey × Yaml))

abbrev Dict := List (YamlKey × Yaml)

def Dict.get (d : Dict) (key : String) : Option Yaml :=
  (d.find? fun entry => entry.1 = .str key).map Prod.snd

def Dict.has (d : Dict) (key : String) : Bool := (d.get key).isSome

/-- `d[key]` -/
def Dict.item (d : Dict) (key : String) : Except Failure Yaml :=
  match d.get key with
  | none => .error .keyError
  | some value => .ok value

def Yaml.asDict : Yaml → Except Failure Dict
  | .map entries => .ok entries
  | _ => .error .typeError

def Yaml.asStr : Yaml → Except Failure String
  | .str s => .ok s
  | _ => .error .typeError

/-- Membership in a set of strings, which a value without hash does not survive. -/
def Yaml.isIn (allowed : List String) : Yaml → Except Failure Bool
  | .str s => .ok (s ∈ allowed)
  | .list _ => .error .typeError
  | .map _ => .error .typeError
  | _ => .ok false

/-- What the interpreter decides or writes: which characters are blank, how a value is shown, and
what it says about text that is not hex. -/
structure Interpreter where
  text : StrText
  repr : Yaml → String
  hexError : List Char → String

/-! ## Checks -/

def require (condition : Bool) (message : String) : Except Failure Unit :=
  if condition then .ok () else .error (.validationError message)

/-- The fields in the order in which they are asked for. -/
def requireFields (d : Dict) (fields : List String) (message : String → String) :
    Except Failure Unit :=
  forM fields fun field => require (d.has field) (message field)

def allowedKeyModes : List String := ["corpus", "unknown"]
def allowedOrigins : List String := ["own-hardware", "github-issue", "synthetic-bootstrap"]
def allowedCapturedWith : List String := ["sx1276", "sx1262", "other", "synthetic"]
def allowedDirs : List String := ["tx", "rx"]
def allowedCrc : List String := ["present", "absent"]
def allowedExpectKeys : List String := ["frames", "exchange", "device", "oneway"]
def allowedExpectFrameKeys : List String :=
  ["cmd", "start", "end", "protocol", "classification", "hmac_valid"]
def allowedExpectExchangeKeys : List String := ["kind", "outcome"]
def allowedExpectDeviceKeys : List String := ["reported_position", "name"]
def allowedExpectOnewayKeys : List String := ["intent", "target_type", "originator", "acei"]
def allowedClassifications : List String :=
  ["IGNORE_UNRELATED", "COMPLETE_DIRECT", "REQUIRE_AUTH", "ACCEPT", "NO_RESPONSE", "INVALID",
    "DISCOVERY_ACCEPT", "IGNORE"]

/-- `sorted` on a set of strings, as it is shown. -/
def sortedText (items : List String) : String :=
  "[" ++ ", ".intercalate ((items.mergeSort (· ≤ ·)).map fun s => "'" ++ s ++ "'") ++ "]"

def hexDigitsUpper (n : ℕ) : String :=
  String.ofList [hexDigit (n / 4096 % 16), hexDigit (n / 256 % 16), hexDigit (n / 16 % 16),
    hexDigit (n % 16)]

section
variable (py : Interpreter)

def validateHex (hex context : String) : Except Failure (List UInt8) := do
  require ((compact py.text hex.toList).length % 2 == 0)
    (context ++ ": hex string has an odd number of digits: " ++ py.repr (.str hex))
  match parseHex py.text hex.toList with
  | some raw => .ok raw
  | none =>
    .error (.validationError (context ++ ": hex string is not valid hex: " ++ py.repr (.str hex) ++
      " (" ++ py.hexError (compact py.text hex.toList) ++ ")"))

/-- The checks on the bytes of a frame. -/
def validateBytes (raw : List UInt8) (crcPresent : Bool) (context : String) :
    Except Failure Unit := do
  let nonCrcLen : ℤ := if crcPresent then raw.length - 2 else raw.length
  require (frameMinSize ≤ nonCrcLen) (context ++ ": frame is " ++ toString nonCrcLen ++
    " bytes (excluding CRC), below FRAME_MIN_SIZE=" ++ toString frameMinSize)
  require (nonCrcLen ≤ frameMaxSize) (context ++ ": frame is " ++ toString nonCrcLen ++
    " bytes (excluding CRC), above FRAME_MAX_SIZE=" ++ toString frameMaxSize)
  let expectedTotal := ctrl0ImpliedLength (raw.getD 0 0)
  require (expectedTotal == nonCrcLen) (context ++ ": CTRL0 length bits imply " ++
    toString expectedTotal ++ " bytes, but captured non-CRC length is " ++ toString nonCrcLen)
  if crcPresent then
    let computed := crcCcitt (raw.take nonCrcLen.toNat)
    let capturedCrc := (raw.getD nonCrcLen.toNat 0).toNat |||
      ((raw.getD (nonCrcLen.toNat + 1) 0).toNat <<< 8)
    require (computed == capturedCrc) (context ++ ": CRC mismatch — computed 0x" ++
      hexDigitsUpper computed ++ ", captured 0x" ++ hexDigitsUpper capturedCrc)

def isStr (value : Yaml) (s : String) : Bool :=
  match value with
  | .str t => t == s
  | _ => false

def validateFrame (frame : Dict) (index : ℕ) (captureId : String) : Except Failure Unit := do
  let context := captureId ++ " frame[" ++ toString index ++ "]"
  requireFields frame ["dir", "hex", "crc"] fun field =>
    context ++ ": missing required field '" ++ field ++ "'"
  let dir ← frame.item "dir"
  require (← dir.isIn allowedDirs) (context ++ ": dir must be one of " ++
    sortedText allowedDirs ++ ", got " ++ py.repr dir)
  let crc ← frame.item "crc"
  require (← crc.isIn allowedCrc) (context ++ ": crc must be one of " ++
    sortedText allowedCrc ++ ", got " ++ py.repr crc)
  let raw ← validateHex py (← (← frame.item "hex").asStr) context
  validateBytes raw (isStr crc "present") context

/-! ## Expectations -/

def YamlKey.text (py : Interpreter) : YamlKey → String
  | .str s => s
  | .other _ => py.repr .other

def requireKnownKeys (mapping : Dict) (allowed : List String) (context : String) :
    Except Failure Unit :=
  let unknown := (mapping.map Prod.fst).filter fun key => !allowed.any fun a => key = .str a
  require unknown.isEmpty (context ++ ": unknown key(s) " ++
    sortedText (unknown.map (YamlKey.text py)) ++ "; expected one of " ++ sortedText allowed)

/-- A mapping with known keys only. -/
def requireMapping (value : Yaml) (allowed : List String) (context : String) :
    Except Failure Dict :=
  match value with
  | .map entries => do
    requireKnownKeys py entries allowed context
    return entries
  | _ => .error (.validationError (context ++ " must be a mapping"))

/-- A section that may be missing or null. -/
def validateExpectSection (expect : Dict) (field : String) (allowed : List String)
    (captureId : String) : Except Failure Unit :=
  match expect.get field with
  | none | some .null => .ok ()
  | some value => do
    let _ ← requireMapping py value allowed (captureId ++ ": expect." ++ field)

def validateExpectFrame (index : ℕ) (expectFrame : Yaml) (captureId : String) :
    Except Failure Unit := do
  let context := captureId ++ ": expect.frames[" ++ toString index ++ "]"
  let entries ← requireMapping py expectFrame allowedExpectFrameKeys context
  match entries.get "classification" with
  | none => .ok ()
  | some value =>
    require (← value.isIn allowedClassifications) (context ++ ".classification must be one of " ++
      sortedText allowedClassifications ++ ", got " ++ py.repr value)

def validateExpectFrames (expect : Dict) (frameCount : ℕ) (captureId : String) :
    Except Failure Unit :=
  match expect.get "frames" with
  | none | some .null => .ok ()
  | some (.list items) => do
    require (items.length ≤ frameCount) (captureId ++ ": expect.frames has " ++
      toString items.length ++ " entries but only " ++ toString frameCount ++
      " frame(s) were captured — the extra entries would be silently ignored by build.py")
    forM items.zipIdx fun item => validateExpectFrame py item.2 item.1 captureId
  | some _ => .error (.validationError (captureId ++ ": expect.frames must be a list"))

def validateExpect (expect : Yaml) (frameCount : ℕ) (captureId : String) : Except Failure Unit := do
  match expect with
  | .map entries => do
    requireKnownKeys py entries allowedExpectKeys (captureId ++ ": expect")
    validateExpectFrames py entries frameCount captureId
    validateExpectSection py entries "exchange" allowedExpectExchangeKeys captureId
    validateExpectSection py entries "device" allowedExpectDeviceKeys captureId
    validateExpectSection py entries "oneway" allowedExpectOnewayKeys captureId
  | _ => .error (.validationError (captureId ++ ": 'expect' must be a mapping"))

/-! ## Crypto -/

def stripCrc (crcPresent : Bool) (raw : List UInt8) : List UInt8 :=
  if crcPresent then raw.take (raw.length - 2) else raw

/-- The direction and the bytes without CRC. Other directions do not pass the checks above. -/
def nonCrcRawFrame (frame : Dict) : Except Failure Frame := do
  let hex ← (← frame.item "hex").asStr
  match parseHex py.text hex.toList with
  | none => .error (.valueError (py.hexError (compact py.text hex.toList)))
  | some raw =>
    let raw := stripCrc ((frame.get "crc").any (isStr · "present")) raw
    match ← (← frame.item "dir").asStr with
    | "tx" => .ok ⟨.tx, raw⟩
    | "rx" => .ok ⟨.rx, raw⟩
    | _ => .error .typeError

variable (ecb : AesBlock → AesKey → AesBlock)

/-- The payload of a recorded key transfer must decrypt to the corpus key. -/
def checkKeyTransfer (frames : List Frame) (captureId : String) (t : Triple) :
    Except Failure Unit := do
  let some keyInit := frames[t.origin]? | .error .indexError
  let some challenge := frames[t.challenge]? | .error .indexError
  let some transfer := frames[t.closing]? | .error .indexError
  require (frameMinSize + hmacSize ≤ challenge.raw.length) (captureId ++
    ": 0x3C challenge frame preceding a 0x32 key-transfer is shorter than expected")
  require (frameMinSize + aesKeySize ≤ transfer.raw.length) (captureId ++
    ": 0x32 key-transfer frame payload is shorter than " ++ toString aesKeySize ++ " bytes")
  let parts := keyTransferParts keyInit challenge transfer
  let decrypted ← cryptKey ecb parts.keyInitCmd parts.challenge parts.encryptedPayload
  require (decrypted == corpusSystemKey.toList) (captureId ++
    ": SECURITY: a 0x32 key-transfer frame's payload does not decrypt to the public " ++
    "corpus key — this capture must be re-keyed (scripts/corpus/ingest.py --rekey) before it can " ++
    "ever be committed; committing it as-is would leak whatever real key it currently encodes")

/-- A recorded authentication code must verify under the corpus key. -/
def checkHmac (frames : List Frame) (captureId : String) (t : Triple) : Except Failure Unit := do
  let some origin := frames[t.origin]? | .error .indexError
  let some challenge := frames[t.challenge]? | .error .indexError
  let some response := frames[t.closing]? | .error .indexError
  require (frameMinSize + hmacSize ≤ challenge.raw.length) (captureId ++
    ": 0x3C challenge frame is shorter than expected")
  require (frameMinSize + hmacSize ≤ response.raw.length) (captureId ++
    ": 0x3D challenge-response frame payload is shorter than " ++ toString hmacSize ++ " bytes")
  let parts ← hmacParts origin challenge response
  require (← verifyHmac ecb parts.transcript parts.hmac parts.challenge corpusSystemKey.toList)
    (captureId ++ ": key: corpus promise broken — a 0x3D HMAC does not verify under the public " ++
      "corpus key")

/-- The checks on the frames of a capture with a given key mode. -/
def checkCrypto (frames : List Frame) (key : Yaml) (captureId : String) : Except Failure Unit := do
  forM (findKeyTransferTriples frames) (checkKeyTransfer ecb frames captureId)
  if isStr key "corpus" then
    forM (findChallengeResponseTriples frames) (checkHmac ecb frames captureId)

/-- The entries of the frame list. -/
def framesOf (data : Dict) : Except Failure (List Yaml) := do
  match ← data.item "frames" with
  | .list items => .ok items
  | _ => .error .typeError

/-- The frames of a capture, each without its CRC. -/
def captureFrames (data : Dict) : Except Failure (List Frame) := do
  (← framesOf data).mapM fun item => do nonCrcRawFrame py (← item.asDict)

def validateCrypto (data : Dict) (captureId : String) : Except Failure Unit := do
  let frames ← captureFrames py data
  checkCrypto ecb frames (← data.item "key") captureId

/-! ## Captures -/

/-- The capture's own name, which every later message starts with. -/
def captureIdOf (data : Dict) (path : String) : Except Failure String := do
  match ← data.item "id" with
  | .str s => do
    require (!s.isEmpty) (path ++ ": 'id' must be a non-empty string")
    return s
  | _ => .error (.validationError (path ++ ": 'id' must be a non-empty string"))

def validateSource (source : Yaml) (captureId : String) : Except Failure Unit := do
  match source with
  | .map entries => do
    requireFields entries ["origin", "captured_with", "device", "date"] fun field =>
      captureId ++ ": source." ++ field ++ " is required"
    let origin ← Dict.item entries "origin"
    require (← origin.isIn allowedOrigins) (captureId ++ ": source.origin must be one of " ++
      sortedText allowedOrigins ++ ", got " ++ py.repr origin)
    let capturedWith ← Dict.item entries "captured_with"
    require (← capturedWith.isIn allowedCapturedWith) (captureId ++
      ": source.captured_with must be one of " ++ sortedText allowedCapturedWith ++ ", got " ++
      py.repr capturedWith)
  | _ => .error (.validationError (captureId ++ ": 'source' must be a mapping"))

/-- The checks before the frames. -/
def validateHead (data : Dict) (path : String) : Except Failure String := do
  requireFields data ["id", "description", "source", "key", "frames"] fun field =>
    path ++ ": missing required top-level field '" ++ field ++ "'"
  let captureId ← captureIdOf data path
  require (← (← data.item "key").isIn allowedKeyModes) (captureId ++ ": key must be one of " ++
    sortedText allowedKeyModes)
  validateSource py (← data.item "source") captureId
  return captureId

def validateFrames (data : Dict) (captureId : String) : Except Failure (List Yaml) := do
  match ← data.item "frames" with
  | .list items => do
    require (!items.isEmpty) (captureId ++ ": 'frames' must be a non-empty list")
    forM items.zipIdx fun item => do validateFrame py (← item.1.asDict) item.2 captureId
    return items
  | _ => .error (.validationError (captureId ++ ": 'frames' must be a non-empty list"))

def validateExpectation (data : Dict) (frameCount : ℕ) (captureId : String) :
    Except Failure Unit :=
  match data.get "expect" with
  | none => .ok ()
  | some expect => validateExpect py expect frameCount captureId

def validateCapture (data : Dict) (path : String) : Except Failure String := do
  let captureId ← validateHead py data path
  let items ← validateFrames py data captureId
  validateExpectation py data items.length captureId
  validateCrypto py ecb data captureId
  return captureId

end

/-! ## Checks that pass -/

theorem require_eq_ok_iff {condition : Bool} {message : String} :
    require condition message = .ok () ↔ condition = true := by
  unfold require
  split_ifs with h
  · exact iff_of_true rfl h
  · exact iff_of_false (fun hok => by cases hok) h

theorem of_require_bind {α : Type} {condition : Bool} {message : String}
    {next : Unit → Except Failure α} {a : α}
    (h : require condition message >>= next = .ok a) : condition = true ∧ next () = .ok a := by
  obtain ⟨_, hrequire, hnext⟩ := bind_eq_ok_iff.1 h
  exact ⟨require_eq_ok_iff.1 hrequire, hnext⟩

/-- An interpreter for ASCII text; nothing below raises what it would have to show. -/
def asciiInterpreter : Interpreter where
  text := .ascii
  repr _ := ""
  hexError _ := ""

end HomeIoControl.Corpus
