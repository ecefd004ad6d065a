import HomeIoControl.LogText
import Mathlib.Data.List.GetD

namespace HomeIoControl.Corpus
open RegexMatch

/-! ## Pieces of a capture line -/

section
variable (data : CharData) {w rest : List Char}

/-- The fields up to the length, and a blank. -/
def captureGroupsText (g : CaptureGroups) (rest : List Char) : List Char :=
  "chip=".toList ++ (g.chip ++ ' ' :: ("phase=component".toList ++ ' ' :: ("stage=".toList ++
    (g.stage ++ ' ' :: ("freq=".toList ++ (g.freq ++ ' ' :: ("ts=".toList ++
      (g.ts ++ ' ' :: ("len=".toList ++ (g.len ++ ' ' :: rest))))))))))

theorem finds_captureGroups {chip stage : List Char} (hchip : IsValue chip)
    (hstage : IsValue stage) (freq ts len : ℕ) (rest : List Char) :
    Finds (captureGroupsRe data)
      (captureGroupsText ⟨chip, stage, decimal freq, decimal ts, decimal len⟩ rest)
      ⟨chip, stage, decimal freq, decimal ts, decimal len⟩ (' ' :: rest) := by
  unfold captureGroupsRe captureGroupsText
  refine (finds_literal "chip=".toList _).bind ?_
  refine (finds_value data hchip _).bind ?_
  refine (finds_spaced data (w := "phase=component") rfl (by decide) _).bind ?_
  refine (finds_spaced data (w := "stage=") rfl (by decide) _).bind ?_
  refine (finds_value data hstage _).bind ?_
  refine (finds_spaced data (w := "freq=") rfl (by decide) _).bind ?_
  refine (finds_decimal data freq (stops_decimal_blank data _)).bind ?_
  refine (finds_spaced data (w := "ts=") rfl (by decide) _).bind ?_
  refine (finds_decimal data ts (stops_decimal_blank data _)).bind ?_
  refine (finds_spaced data (w := "len=") rfl (by decide) _).bind ?_
  refine (finds_decimal data len (stops_decimal_blank data _)).bind ?_
  exact finds_pure _ _

theorem finds_byteHex (b : UInt8) (rest : List Char) :
    Finds (run1 isHex) (byteHex b ++ ' ' :: rest) (byteHex b) (' ' :: rest) :=
  finds_run1 (List.cons_ne_nil _ _) (isHex_byteHex b) (stops_cons (by decide) rest)

theorem finds_nodeId (id : NodeId) (rest : List Char) :
    Finds (exactly isHex 6) (id.toList.flatMap byteHex ++ rest) (id.toList.flatMap byteHex)
      rest := by
  have hhex : ∀ c ∈ id.toList.flatMap byteHex, isHex c = true := by
    intro c hc
    obtain ⟨b, -, hb⟩ := List.mem_flatMap.1 hc
    exact isHex_byteHex b c hb
  have hlength : (id.toList.flatMap byteHex).length = 6 := by
    rw [List.length_flatMap]
    show (id.toList.map fun _ => 2).sum = 6
    rw [List.map_const', List.sum_replicate_nat, Vector.length_toList]
  have hfinds := finds_exactly hhex rest
  rwa [hlength] at hfinds

/-- A hex digit or a blank. -/
def isPayloadChar (c : Char) : Bool := isHex c || c == ' '

theorem isPayloadChar_hexText (bytes : List UInt8) :
    ∀ c ∈ hexText bytes, isPayloadChar c = true := by
  intro c hc
  obtain ⟨b, -, hb⟩ := List.mem_flatMap.1 hc
  rcases List.mem_append.1 hb with hb | hb
  · rw [isPayloadChar, isHex_byteHex b c hb, Bool.true_or]
  · rw [List.mem_singleton.1 hb]
    rfl

theorem finds_payload {bytes : List UInt8} (hne : bytes ≠ [])
    (hrest : Stops isPayloadChar rest) :
    Finds payloadRe (hexText bytes ++ rest) (hexText bytes) rest := by
  obtain ⟨b, bytes, rfl⟩ := List.exists_cons_of_ne_nil hne
  refine finds_run1 ?_ (isPayloadChar_hexText (b :: bytes)) hrest
  rw [hexText_cons]
  exact List.cons_ne_nil _ _

end

/-- The fields of a decoded frame, and a blank. -/
def captureFrameText (frame : IoFrame) (rest : List Char) : List Char :=
  "cmd=0x".toList ++ (byteHex frame.cmd ++ ' ' :: ("src=".toList ++
    (frame.src.toList.flatMap byteHex ++ ' ' :: ("dst=".toList ++
      (frame.dst.toList.flatMap byteHex ++ ' ' :: rest)))))

theorem captureFrameFields_append (frame : IoFrame) (rest : List Char) :
    captureFrameFields frame ++ ' ' :: rest = ' ' :: captureFrameText frame rest := by
  have hcmd : " cmd=0x".toList = ' ' :: "cmd=0x".toList := rfl
  have hsrc : " src=".toList = ' ' :: "src=".toList := rfl
  have hdst : " dst=".toList = ' ' :: "dst=".toList := rfl
  unfold captureFrameFields captureFrameText
  rw [hcmd, hsrc, hdst]
  simp only [List.append_assoc, List.cons_append]

section
variable (data : CharData) (t : LoggerText) {chip stage : List Char} (capture : RadioCaptureInfo)
  {buf : List UInt8}

theorem logComponentCapture_eq (chip stage : List Char) (hlen : buf.length ≤ frameMaxSize)
    (frame : Option IoFrame) (tail : List Char) :
    logComponentCapture chip capture stage buf frame ++ tail =
      captureGroupsText
        ⟨chip, stage, decimal capture.freqHz, decimal capture.timestampMs, decimal buf.length⟩
        ((frame.elim id captureFrameText)
          ("payload=".toList ++ (hexText (shownBytes buf) ++ (maskText buf ++ tail)))) := by
  have hphase : " phase=component stage=".toList =
      ' ' :: ("phase=component".toList ++ ' ' :: "stage=".toList) := rfl
  have hfreq : " freq=".toList = ' ' :: "freq=".toList := rfl
  have hts : " ts=".toList = ' ' :: "ts=".toList := rfl
  have hlen' : " len=".toList = ' ' :: "len=".toList := rfl
  have hpayload : " payload".toList = ' ' :: "payload".toList := rfl
  have hequals : "payload=".toList = "payload".toList ++ ['='] := rfl
  unfold logComponentCapture captureHead captureGroupsText
  rw [render_eq hlen, hphase, hfreq, hts, hlen', hpayload, hequals]
  cases frame with
  | none =>
    simp only [Option.map_none, Option.getD_none, Option.elim_none, id, List.append_assoc,
      List.cons_append, List.nil_append]
  | some frame =>
    simp only [Option.map_some, Option.getD_some, Option.elim_some, List.append_assoc,
      List.cons_append, List.nil_append]
    rw [captureFrameFields_append]

/-! ## The patterns of the capture log -/

theorem fails_captureGroups {s : List Char} (h : ¬ "chip=".toList <+: s) :
    Fails (captureGroupsRe data) s := by
  unfold captureGroupsRe
  exact (fails_literal h).bind _

theorem fails_ioCaptureWithFrame {s : List Char} (h : ¬ "chip=".toList <+: s) :
    Fails (ioCaptureWithFrameRe data) s := by
  unfold ioCaptureWithFrameRe
  exact (fails_captureGroups data h).bind _

theorem fails_ioCaptureNoFrame {s : List Char} (h : ¬ "chip=".toList <+: s) :
    Fails (ioCaptureNoFrameRe data) s := by
  unfold ioCaptureNoFrameRe
  exact (fails_captureGroups data h).bind _

/-- Nothing in the head of a line looks like the start of its message. -/
theorem not_chip_isPrefix (t : LoggerText) {w : List Char} (hw : w <:+ t.head) (hne : w ≠ [])
    (g : CaptureGroups) (rest : List Char) :
    ¬ "chip=".toList <+: w ++ captureGroupsText g rest := by
  have hlen : "chip".toList.length < (w ++ "chip".toList).length := by
    have hpos := List.length_pos_of_ne_nil hne
    rw [List.length_append]
    omega
  have hequals : '=' ∉ w ++ "chip".toList := by
    intro hmem
    rcases List.mem_append.1 hmem with hmem | hmem
    · exact (t.head_plain _ (hw.subset hmem)).1 rfl
    · exact absurd hmem (by decide)
  have hnot := not_isPrefix_append hlen hequals ('=' :: (captureGroupsText g rest).drop 5)
  rw [List.append_assoc] at hnot
  exact hnot

theorem search_ioCaptureWithFrame (hchip : IsValue chip) (hstage : IsValue stage)
    (hmin : frameMinSize ≤ buf.length) (hmax : buf.length ≤ frameMaxSize) (frame : IoFrame) :
    search (ioCaptureWithFrameRe data)
        (t.line (logComponentCapture chip capture stage buf (some frame))) =
      some
        { capture :=
            ⟨chip, stage, decimal capture.freqHz, decimal capture.timestampMs, decimal buf.length⟩
          cmd := byteHex frame.cmd
          src := frame.src.toList.flatMap byteHex
          dst := frame.dst.toList.flatMap byteHex
          payload := hexText (shownBytes buf) } := by
  rw [LoggerText.line, logComponentCapture_eq capture chip stage hmax]
  refine search_append (u := maskText buf ++ t.tail)
    (fun w hw hwne => fails_ioCaptureWithFrame data (not_chip_isPrefix t hw hwne _ _)) ?_
  unfold ioCaptureWithFrameRe
  refine (finds_captureGroups data hchip hstage _ _ _ _).bind ?_
  refine (finds_spaced data (w := "cmd=0x") rfl (by decide) _).bind ?_
  refine (finds_byteHex frame.cmd _).bind ?_
  refine (finds_spaced data (w := "src=") rfl (by decide) _).bind ?_
  refine (finds_nodeId frame.src _).bind ?_
  refine (finds_spaced data (w := "dst=") rfl (by decide) _).bind ?_
  refine (finds_nodeId frame.dst _).bind ?_
  refine (finds_spaced data (w := "payload=") rfl (by decide) _).bind ?_
  exact (finds_payload (shownBytes_ne_nil hmin)
    (t.stops_maskText buf (by decide) (by decide))).bind (finds_pure _ _)

/-- Without the fields of a decoded frame. -/
theorem search_ioCaptureNoFrame (hchip : IsValue chip) (hstage : IsValue stage)
    (hmin : frameMinSize ≤ buf.length) (hmax : buf.length ≤ frameMaxSize) :
    search (ioCaptureNoFrameRe data) (t.line (logComponentCapture chip capture stage buf none)) =
      some
        (⟨chip, stage, decimal capture.freqHz, decimal capture.timestampMs, decimal buf.length⟩,
          hexText (shownBytes buf)) := by
  rw [LoggerText.line, logComponentCapture_eq capture chip stage hmax]
  refine search_append (u := maskText buf ++ t.tail)
    (fun w hw hwne => fails_ioCaptureNoFrame data (not_chip_isPrefix t hw hwne _ _)) ?_
  unfold ioCaptureNoFrameRe
  refine (finds_captureGroups data hchip hstage _ _ _ _).bind ?_
  refine (finds_spaced data (w := "payload=") rfl (by decide) _).bind ?_
  exact (finds_payload (shownBytes_ne_nil hmin)
    (t.stops_maskText buf (by decide) (by decide))).bind (finds_pure _ _)

end

/-! ## What the patterns need -/

section
variable (data : CharData)

theorem consumes_captureGroups : Consumes (captureGroupsRe data) := by
  unfold captureGroupsRe
  refine (consumes_literal _).bind fun _ => (consumes_run1 _).bind fun _ => ?_
  refine (consumes_spaced data _).bind fun _ => (consumes_spaced data _).bind fun _ => ?_
  refine (consumes_run1 _).bind fun _ => (consumes_spaced data _).bind fun _ => ?_
  refine (consumes_run1 _).bind fun _ => (consumes_spaced data _).bind fun _ => ?_
  refine (consumes_run1 _).bind fun _ => (consumes_spaced data _).bind fun _ => ?_
  exact (consumes_run1 _).bind fun _ => consumes_pure _

theorem needs_captureGroups : Needs "chip=".toList (captureGroupsRe data) := by
  unfold captureGroupsRe
  exact (needs_literal _).bind_left _

theorem needs_ioCaptureWithFrame_chip : Needs "chip=".toList (ioCaptureWithFrameRe data) := by
  unfold ioCaptureWithFrameRe
  exact (needs_captureGroups data).bind_left _

theorem needs_ioCaptureNoFrame : Needs "chip=".toList (ioCaptureNoFrameRe data) := by
  unfold ioCaptureNoFrameRe
  exact (needs_captureGroups data).bind_left _

theorem needs_ioCaptureWithFrame_src : Needs "src=".toList (ioCaptureWithFrameRe data) := by
  unfold ioCaptureWithFrameRe
  refine Needs.bind_right (consumes_captureGroups data) fun _ => ?_
  refine Needs.bind_right (consumes_spaced data _) fun _ => ?_
  refine Needs.bind_right (consumes_run1 _) fun _ => ?_
  exact (needs_spaced data "src=").bind_left _

end

/-- The fields of a capture line are those it is made of. -/
theorem noField_logComponentCapture {x : Char} {chip stage : List Char} {buf : List UInt8}
    (capture : RadioCaptureInfo) (frame : Option IoFrame)
    (hx : ∀ w ∈ ["chip=", "phase=component", "stage=", "freq=", "ts=", "len=", "payload="],
      NoField x w.toList)
    (hframe : frame.isSome → ∀ w ∈ ["cmd=0x", "src=", "dst="], NoField x w.toList)
    (hchip : IsValue chip) (hstage : IsValue stage) (hmax : buf.length ≤ frameMaxSize) :
    NoField x (logComponentCapture chip capture stage buf frame) := by
  have hend : NoField x (hexText (shownBytes buf) ++ (maskText buf ++ [])) :=
    (noField_hexText _).append ((noField_maskText buf).append noField_nil)
  have hpayload := (hx "payload=" (by simp)).append hend
  have hfields : NoField x ((frame.elim id captureFrameText)
      ("payload=".toList ++ (hexText (shownBytes buf) ++ (maskText buf ++ [])))) := by
    cases frame with
    | none => exact hpayload
    | some frame =>
      have hnode (id : NodeId) : NoField x (id.toList.flatMap byteHex) :=
        noField_flatMap fun b _ => noField_byteHex b
      have hdst := (hframe rfl "dst=" (by simp)).append
        ((hnode frame.dst).append hpayload.blank_cons)
      have hsrc := (hframe rfl "src=" (by simp)).append
        ((hnode frame.src).append hdst.blank_cons)
      exact (hframe rfl "cmd=0x" (by simp)).append
        ((noField_byteHex frame.cmd).append hsrc.blank_cons)
  have hlen := (hx "len=" (by simp)).append
    ((noField_decimal buf.length).append hfields.blank_cons)
  have hts := (hx "ts=" (by simp)).append
    ((noField_decimal capture.timestampMs).append hlen.blank_cons)
  have hfreq := (hx "freq=" (by simp)).append
    ((noField_decimal capture.freqHz).append hts.blank_cons)
  have hstages := (hx "stage=" (by simp)).append
    (hstage.noField.append hfreq.blank_cons)
  have hphase := (hx "phase=component" (by simp)).append hstages.blank_cons
  rw [← List.append_nil (logComponentCapture ..), logComponentCapture_eq capture chip stage hmax]
  exact (hx "chip=" (by simp)).append (hchip.noField.append hphase.blank_cons)

/-! ## Messages of physical frames -/

inductive RadioChip
  | sx1262
  | sx1276
  deriving DecidableEq, Repr

def RadioChip.chipName : RadioChip → List Char
  | .sx1262 => "sx1262".toList
  | .sx1276 => "sx1276".toList

namespace PhysicalFrame

def captureStage (f : PhysicalFrame) : List Char :=
  match f.direction with
  | .tx => "tx_frame".toList
  | .rx => if (parse f.bytes).isSome then "parse_ok".toList else "parse_fail".toList

/-- The message of a frame under the tag `io_capture`. -/
def captureMessage (f : PhysicalFrame) (chip : RadioChip) (capture : RadioCaptureInfo) :
    List Char :=
  logComponentCapture chip.chipName capture f.captureStage f.bytes (parse f.bytes)

/-- For a received frame it is what passive reception logs. -/
theorem captureMessage_of_rx {f : PhysicalFrame} (h : f.direction = .rx) (chip : RadioChip)
    (capture : RadioCaptureInfo) :
    f.captureMessage chip capture = receivedPacketLog chip.chipName capture f.bytes := by
  unfold captureMessage captureStage receivedPacketLog
  rw [h]
  cases parse f.bytes with
  | none => rfl
  | some frame => rfl

theorem captureStage_eq_tx_iff (f : PhysicalFrame) :
    f.captureStage = "tx_frame".toList ↔ f.direction = .tx := by
  unfold captureStage
  cases hd : f.direction with
  | tx => simp
  | rx =>
    split_ifs
    · exact iff_of_false (by decide) (by decide)
    · exact iff_of_false (by decide) (by decide)

/-- The stage tells the direction. -/
theorem direction_of_captureStage (f : PhysicalFrame) :
    (if f.captureStage = "tx_frame".toList then Direction.tx else .rx) = f.direction := by
  cases hd : f.direction with
  | tx => exact if_pos (f.captureStage_eq_tx_iff.2 hd)
  | rx =>
    refine if_neg fun htx => ?_
    rw [f.captureStage_eq_tx_iff, hd] at htx
    exact absurd htx (by decide)

/-- What is sent is a frame. -/
theorem direction_of_parse_eq_none {f : PhysicalFrame} (h : parse f.bytes = none) :
    f.direction = .rx := by
  cases hd : f.direction with
  | tx =>
    have hsent := f.sent hd
    rw [h] at hsent
    exact absurd hsent Bool.false_ne_true
  | rx => rfl

theorem captureStage_isValue (f : PhysicalFrame) : IsValue f.captureStage := by
  unfold captureStage
  cases f.direction with
  | tx =>
    dsimp only
    decide
  | rx =>
    dsimp only
    split_ifs
    · decide
    · decide

end PhysicalFrame

theorem RadioChip.chipName_isValue (chip : RadioChip) : IsValue chip.chipName := by
  cases chip with
  | sx1262 => decide
  | sx1276 => decide

/-! ## What is read of a capture line -/

section
variable (data : CharData)

theorem hexValue_byteHex (b : UInt8) : hexValue (byteHex b) = b.toNat := by
  have hb := b.toNat_lt
  rw [hexValue, byteHex, List.foldl_cons, List.foldl_cons, List.foldl_nil,
    asciiDigit_hexDigit (by omega), asciiDigit_hexDigit (by omega), Option.getD_some,
    Option.getD_some]
  omega

theorem take_three_drop {s : List UInt8} {i : ℕ} (h : i + 3 ≤ s.length) :
    (s.drop i).take 3 = [s.getD i 0, s.getD (i + 1) 0, s.getD (i + 2) 0] := by
  rw [List.drop_eq_getElem_cons (by omega), List.drop_eq_getElem_cons (by omega),
    List.drop_eq_getElem_cons (by omega), List.getD_eq_getElem _ _ (by omega),
    List.getD_eq_getElem _ _ (by omega), List.getD_eq_getElem _ _ (by omega)]
  rfl

/-- The node IDs of the header are shown. -/
theorem take_three_shownBytes {buf : List UInt8} (hmin : frameMinSize ≤ buf.length) {i : ℕ}
    (hi : i + 3 ≤ frameMinSize) :
    ((shownBytes buf).drop i).take 3 = [buf.getD i 0, buf.getD (i + 1) 0, buf.getD (i + 2) 0] := by
  have hsize := shownBytes_length_ge hmin
  rw [take_three_drop (by omega), getD_shownBytes buf (by omega), getD_shownBytes buf (by omega),
    getD_shownBytes buf (by omega)]

/-- The fields of the line agree with the bytes it shows exactly if these are all. -/
theorem ioCaptureMetadataAgrees_shown {buf : List UInt8} (hmin : frameMinSize ≤ buf.length)
    (g : CaptureGroups) (hlen : g.len = decimal buf.length) :
    ioCaptureMetadataAgrees data
        { capture := g
          cmd := byteHex (readFrame buf).cmd
          src := (readFrame buf).src.toList.flatMap byteHex
          dst := (readFrame buf).dst.toList.flatMap byteHex
          payload := hexText (shownBytes buf) } =
      .ok (decide (¬ HidesPayload buf)) := by
  have hsize := shownBytes_length_ge hmin
  have hread : readHex data (hexText (shownBytes buf)) = .ok (shownBytes buf) :=
    readHex_of_compact data (compact_hexText data _)
  have hcount : ((shownBytes buf).length == buf.length) = decide (¬ HidesPayload buf) := by
    rw [Bool.eq_iff_iff, beq_iff_eq, decide_eq_true_iff]
    exact shownBytes_length_eq_iff buf
  have hcmd : (shownBytes buf).getD 8 0 = (readFrame buf).cmd := getD_shownBytes buf (by decide)
  have hdst : ((shownBytes buf).drop 2).take 3 = (readFrame buf).dst.toList :=
    take_three_shownBytes hmin (by decide)
  have hsrc : ((shownBytes buf).drop 5).take 3 = (readFrame buf).src.toList :=
    take_three_shownBytes hmin (by decide)
  have hlong : decide (8 < (shownBytes buf).length) = true := decide_eq_true hsize
  unfold ioCaptureMetadataAgrees
  rw [hread]
  show Except.ok _ = _
  rw [hlen, data.decimalValue_decimal, hcount, hlong, hcmd, hdst, hsrc, hexValue_byteHex,
    bytesFromHex_flatMap, bytesFromHex_flatMap, beq_self_eq_true, beq_self_eq_true,
    beq_self_eq_true, Bool.and_true, Bool.and_true, Bool.and_true, Bool.and_true]

/-- A capture line gives the bytes that it shows, verified only if these are all. -/
theorem parseLogLine_capture (t : LoggerText) (f : PhysicalFrame) (chip : RadioChip)
    (capture : RadioCaptureInfo) :
    ∃ e, parseLogLine data (t.line (f.captureMessage chip capture)) = .ok (some e) ∧
      e.IsOf data f true ∧
      (e.unverified = false ↔ (parse f.bytes).isSome = true ∧ ¬ HidesPayload f.bytes) := by
  have hchip := chip.chipName_isValue
  have hstage := f.captureStage_isValue
  have hhex : compact data.text (data.strip (hexText (shownBytes f.bytes))) =
      (shownBytes f.bytes).flatMap byteHex := by
    rw [compact_strip, compact_hexText]
  have hchip_ne : some chip.chipName ≠ some [] := fun h => hchip.1 (Option.some.inj h)
  cases hparse : parse f.bytes with
  | some frame =>
    have hframe := ((parse_eq_some_iff f.bytes frame).1 hparse).2.2
    have hfind :=
      search_ioCaptureWithFrame data t capture hchip hstage f.length_ge f.length_le frame
    rw [hframe] at hfind
    rw [PhysicalFrame.captureMessage, hparse, parseLogLine, hframe, hfind]
    dsimp only
    rw [ioCaptureMetadataAgrees_shown data f.length_ge _ rfl]
    exact ⟨_, rfl, ⟨f.direction_of_captureStage, hhex, rfl, hchip_ne⟩, by simp⟩
  | none =>
    have hsrc : ['c', '='] <:+: "src=".toList := ⟨"sr".toList, [], rfl⟩
    have hno : search (ioCaptureWithFrameRe data)
        (t.line (logComponentCapture chip.chipName capture f.captureStage f.bytes none)) = none :=
      (needs_ioCaptureWithFrame_src data).search_eq_none
        ((t.noField_line (noField_logComponentCapture (x := 'c') capture none (by decide) nofun
          hchip hstage f.length_le)).not_isInfix hsrc)
    have hfind := search_ioCaptureNoFrame data t capture hchip hstage f.length_ge f.length_le
    have hrx := PhysicalFrame.direction_of_parse_eq_none hparse
    rw [PhysicalFrame.captureMessage, hparse, parseLogLine, hno, hfind]
    exact ⟨_, rfl, ⟨hrx.symm, hhex, rfl, hchip_ne⟩, by simp⟩

theorem noField_captureMessage (f : PhysicalFrame) (chip : RadioChip)
    (capture : RadioCaptureInfo) : NoField 'z' (f.captureMessage chip capture) :=
  noField_logComponentCapture capture (parse f.bytes) (by decide) (fun _ => by decide)
    chip.chipName_isValue f.captureStage_isValue f.length_le

end

end HomeIoControl.Corpus
