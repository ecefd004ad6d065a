import HomeIoControl.CorpusFrames
import HomeIoControl.CorpusHex
import HomeIoControl.RegexMatch
import Mathlib.Data.List.DropRight

namespace HomeIoControl.Corpus
open RegexMatch

/-! ## Character classes -/

/-- What the character database says about text, which characters a word is made of, and what
`bytes.fromhex` says about text that it rejects. -/
structure CharData where
  text : StrText
  isWord : Char → Bool
  hexError : List Char → String
  isWord_ascii : ∀ c, c.toNat < 128 → isWord c = (c.isAlphanum || c == '_')

def isHex (c : Char) : Bool := (PythonInt.asciiDigit c).isSome

def isCapital (c : Char) : Bool := 'A' ≤ c && c ≤ 'Z'

/-- A character at which `str.splitlines` ends a line. -/
def isLineBreak (c : Char) : Bool :=
  [0x0A, 0x0B, 0x0C, 0x0D, 0x1C, 0x1D, 0x1E, 0x85, 0x2028, 0x2029].contains c.toNat

/-- `str.splitlines`, with the line read so far. A carriage return and the newline after it are
one end. -/
def splitLinesFrom (line : List Char) : List Char → List (List Char)
  | [] => if line.isEmpty then [] else [line]
  | '\r' :: '\n' :: s => line :: splitLinesFrom [] s
  | c :: s =>
    if isLineBreak c then line :: splitLinesFrom [] s else splitLinesFrom (line ++ [c]) s

def splitLines (s : List Char) : List (List Char) := splitLinesFrom [] s

/-- The characters of ASCII alone. -/
def CharData.ascii : CharData where
  text := StrText.ascii
  isWord c := c.isAlphanum || c == '_'
  hexError _ := "non-hexadecimal number found in fromhex() arg"
  isWord_ascii _ _ := rfl

namespace CharData

variable (data : CharData)

def isSpace (c : Char) : Bool := data.text.isSpace c

def isSolid (c : Char) : Bool := !data.isSpace c

def isDecimal (c : Char) : Bool := (data.text.digit c).isSome && !c.isAlpha

def decimalValue (w : List Char) : ℕ :=
  w.foldl (fun n c => 10 * n + (data.text.digit c).getD 0) 0

def strip (s : List Char) : List Char := (s.dropWhile data.isSpace).rdropWhile data.isSpace

end CharData

def hexValue (w : List Char) : ℕ :=
  w.foldl (fun n c => 16 * n + (PythonInt.asciiDigit c).getD 0) 0

/-! ## The patterns of the log formats -/

structure CaptureGroups where
  chip : List Char
  stage : List Char
  freq : List Char
  ts : List Char
  len : List Char

structure FrameGroups where
  capture : CaptureGroups
  cmd : List Char
  src : List Char
  dst : List Char
  payload : List Char

section
variable (data : CharData)

/-- A literal text and the blanks after the group before it. -/
def spaced (w : String) : Matcher Unit := do
  let _ ← run1 data.isSpace
  literal w.toList

def captureGroupsRe : Matcher CaptureGroups := do
  literal "chip=".toList
  let chip ← run1 data.isSolid
  spaced data "phase=component"
  spaced data "stage="
  let stage ← run1 data.isSolid
  spaced data "freq="
  let freq ← run1 data.isDecimal
  spaced data "ts="
  let ts ← run1 data.isDecimal
  spaced data "len="
  let len ← run1 data.isDecimal
  pure { chip, stage, freq, ts, len }

def payloadRe : Matcher (List Char) := run1 fun c => isHex c || c == ' '

def ioCaptureWithFrameRe : Matcher FrameGroups := do
  let capture ← captureGroupsRe data
  spaced data "cmd=0x"
  let cmd ← run1 isHex
  spaced data "src="
  let src ← exactly isHex 6
  spaced data "dst="
  let dst ← exactly isHex 6
  spaced data "payload="
  let payload ← payloadRe
  pure { capture, cmd, src, dst, payload }

def ioCaptureNoFrameRe : Matcher (CaptureGroups × List Char) := do
  let capture ← captureGroupsRe data
  spaced data "payload="
  let payload ← payloadRe
  pure (capture, payload)

def directionRe : Matcher Direction :=
  orElse
    (do
      literal "TX".toList
      pure .tx)
    (do
      literal "RX".toList
      pure .rx)

def preambleRe : Matcher (List Char) := do
  literal "preamble=".toList
  let preamble ← run1 data.isDecimal
  let _ ← run data.isSpace
  pure preamble

def flagRe : Matcher (List Char) := do
  literal ['[']
  let flag ← run1 isCapital
  literal [']']
  pure flag

def commandRe : Matcher (List Char × List (List Char)) := do
  literal "cmd=".toList
  let cmdName ← run1 data.isSolid
  let _ ← run data.isSpace
  let flags ← many flagRe
  let _ ← run data.isSpace
  pure (cmdName, flags)

/-- `\s+[0-9A-Fa-f]{2}` -/
def nextByteRe : Matcher (List Char) := do
  let blanks ← run1 data.isSpace
  let digits ← exactly isHex 2
  pure (blanks ++ digits)

def hexBytesRe : Matcher (List Char) := do
  let digits ← exactly isHex 2
  let bytes ← atLeast (nextByteRe data) 1
  pure (digits ++ bytes.flatten)

def ioFrameRe : Matcher (Direction × List Char × List Char) := do
  let direction ← directionRe
  spaced data "["
  let _ ← run1 data.isDecimal
  spaced data "bytes]"
  spaced data "freq="
  let freq ← run1 data.isDecimal
  let _ ← run data.isSpace
  let _ ← opt (preambleRe data)
  let _ ← opt (commandRe data)
  literal [':']
  let _ ← run data.isSpace
  let bytes ← hexBytesRe data
  pure (direction, freq, bytes)

def timestampRe : Matcher (List Char × List Char × List Char × List Char) := do
  literal ['[']
  let h ← exactly data.isDecimal 2
  literal [':']
  let m ← exactly data.isDecimal 2
  literal [':']
  let s ← exactly data.isDecimal 2
  literal ['.']
  let ms ← exactly data.isDecimal 3
  literal [']']
  pure (h, m, s, ms)

/-- A byte that is a word of its own. -/
def hexWordRe : Matcher (List Char) := do
  wordBoundary data.isWord
  let digits ← exactly isHex 2
  wordBoundary data.isWord
  pure digits

/-- The whole text of a run of bytes. -/
def hexRunRe : Matcher (List Char) := do
  let bytes ← atLeast
    (do
      let digits ← hexWordRe data
      let blanks ← run1 data.isSpace
      pure (digits ++ blanks))
    (frameMinSize - 1)
  let last ← hexWordRe data
  pure (bytes.flatten ++ last)

end

/-! ## One line -/

structure RawFrame where
  direction : Direction
  hexBytes : List Char
  freq : ℕ := 0
  tMs : Option ℕ := none
  chip : Option (List Char) := none
  unverified : Bool := false
  sourceLine : List Char := []
  deriving DecidableEq

section
variable (data : CharData)

/-- `parse_hex`, which raises for a stray digit -/
def readHex (s : List Char) : Except Failure (List UInt8) :=
  match parseHex data.text s with
  | none => .error (.valueError (data.hexError (compact data.text s)))
  | some bytes => .ok bytes

def RawFrame.raw (f : RawFrame) : Except Failure (List UInt8) := readHex data f.hexBytes

/-- The payload has the length, the command and the addresses that the line names. -/
def ioCaptureMetadataAgrees (m : FrameGroups) : Except Failure Bool := do
  let payload ← readHex data m.payload
  pure
    (payload.length == data.decimalValue m.capture.len && decide (8 < payload.length) &&
      (payload.getD 8 0).toNat == hexValue m.cmd &&
      some ((payload.drop 2).take 3) == bytesFromHex m.dst &&
      some ((payload.drop 5).take 3) == bytesFromHex m.src)

def wallClockMs (line : List Char) : Option ℕ :=
  (matchAt (timestampRe data) ⟨none, line⟩).map fun (h, m, s, ms) =>
    ((data.decimalValue h * 60 + data.decimalValue m) * 60 + data.decimalValue s) * 1000 +
      data.decimalValue ms

def parseLogLine (line : List Char) : Except Failure (Option RawFrame) :=
  let tMs := wallClockMs data line
  match search (ioCaptureWithFrameRe data) line with
  | some m => do
    let agrees ← ioCaptureMetadataAgrees data m
    pure (some
      { direction := if m.capture.stage = "tx_frame".toList then .tx else .rx
        hexBytes := data.strip m.payload
        freq := data.decimalValue m.capture.freq
        tMs
        chip := some m.capture.chip
        unverified := !agrees
        sourceLine := line })
  | none =>
    match search (ioCaptureNoFrameRe data) line with
    | some (capture, payload) =>
      pure (some
        { direction := .rx
          hexBytes := data.strip payload
          freq := data.decimalValue capture.freq
          tMs
          chip := some capture.chip
          unverified := true
          sourceLine := line })
    | none =>
      match search (ioFrameRe data) line with
      | some (direction, freq, bytes) =>
        pure (some
          { direction
            hexBytes := data.strip bytes
            freq := data.decimalValue freq
            tMs
            sourceLine := line })
      | none =>
        match search (hexRunRe data) line with
        | some bytes =>
          pure (some
            { direction := .rx
              hexBytes := data.strip bytes
              tMs
              unverified := true
              sourceLine := line })
        | none => pure none

/-! ## A whole log -/

def comparableHex (f : RawFrame) : List Char :=
  (compact data.text f.hexBytes).flatMap data.text.upper

def samePhysicalFrame (a b : RawFrame) : Bool :=
  if a.direction ≠ b.direction then false
  else if comparableHex data a ≠ comparableHex data b then false
  else a.chip.isSome || b.chip.isSome

end

def mergeFrames (a b : RawFrame) : RawFrame where
  direction := a.direction
  hexBytes := if a.unverified && !b.unverified then b.hexBytes else a.hexBytes
  freq := if a.freq ≠ 0 then a.freq else b.freq
  tMs :=
    if (a.tMs.getD 0) ≠ 0 then a.tMs
    else if (b.tMs.getD 0) ≠ 0 then b.tMs
    else if a.tMs.isSome then a.tMs else b.tMs
  -- an empty chip name counts as none
  chip := if (a.chip.getD []) ≠ [] then a.chip else b.chip
  unverified := a.unverified && b.unverified
  sourceLine := a.sourceLine ++ " | ".toList ++ b.sourceLine

section
variable (data : CharData)

/-- The next extracted frame joins the last one or follows it. -/
def addFrame (frames : List RawFrame) (frame : RawFrame) : List RawFrame :=
  match frames.getLast? with
  | none => [frame]
  | some last =>
    if samePhysicalFrame data last frame then frames.dropLast ++ [mergeFrames last frame]
    else frames ++ [frame]

def addLine (frames : List RawFrame) (line : List Char) : Except Failure (List RawFrame) := do
  match ← parseLogLine data line with
  | none => pure frames
  | some frame => pure (addFrame data frames frame)

def parseLog (log : List Char) : Except Failure (List RawFrame) :=
  (splitLines log).foldlM (addLine data) []

end

end HomeIoControl.Corpus
