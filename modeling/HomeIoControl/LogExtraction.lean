import HomeIoControl.FrameLineParsing

namespace HomeIoControl.Corpus

/-! ## Logged frames -/

inductive LogTag
  | ioCapture
  | ioFrame
  deriving DecidableEq, Repr

/-- The lines that one frame is logged with. -/
inductive LogStyle
  | capture
  | frame
  | captureFrame
  | frameCapture
  deriving DecidableEq, Repr

def LogStyle.tags : LogStyle → List LogTag
  | .capture => [.ioCapture]
  | .frame => [.ioFrame]
  | .captureFrame => [.ioCapture, .ioFrame]
  | .frameCapture => [.ioFrame, .ioCapture]

/-- A frame on the air with all that its lines tell of it. -/
structure FrameEvent where
  frame : PhysicalFrame
  style : LogStyle
  captureText : LoggerText
  frameText : LoggerText
  chip : RadioChip
  capture : RadioCaptureInfo
  freqHz : ℕ
  preamble : ℕ

namespace FrameEvent

variable (e : FrameEvent)

def line : LogTag → List Char
  | .ioCapture => e.captureText.line (e.frame.captureMessage e.chip e.capture)
  | .ioFrame =>
    e.frameText.line
      (logFrame (directionLabel e.frame.direction) e.frame.bytes e.freqHz e.preamble)

def lines : List (List Char) := e.style.tags.map e.line

def text : List Char := e.lines.flatMap (· ++ ['\n'])

/-- A line of the capture log is among the lines. -/
def captured : Bool := e.style.tags.contains .ioCapture

/-- The first line is one of the capture log. -/
def opensCaptured : Bool := e.style.tags.head? == some .ioCapture

end FrameEvent

/-! ## From text to lines -/

theorem splitLinesFrom_append {w : List Char} (hw : ∀ c ∈ w, isLineBreak c = false)
    (line s : List Char) :
    splitLinesFrom line (w ++ '\n' :: s) = (line ++ w) :: splitLinesFrom [] s := by
  induction w generalizing line with
  | nil =>
    rw [List.append_nil, List.nil_append, splitLinesFrom, if_pos (by decide)]
    intro s hs
    cases hs
  | cons c w ih =>
    obtain ⟨hc, hw⟩ := List.forall_mem_cons.1 hw
    have hreturn : c ≠ '\r' := by
      rintro rfl
      exact absurd hc (by decide)
    rw [List.cons_append, splitLinesFrom, if_neg (by rw [hc]; exact Bool.false_ne_true),
      ih hw, List.append_assoc, List.singleton_append]
    intro s hs
    exact absurd hs hreturn

theorem splitLines_flatMap {lines : List (List Char)}
    (h : ∀ line ∈ lines, ∀ c ∈ line, isLineBreak c = false) :
    splitLines (lines.flatMap (· ++ ['\n'])) = lines := by
  induction lines with
  | nil => rfl
  | cons line lines ih =>
    obtain ⟨hline, hlines⟩ := List.forall_mem_cons.1 h
    rw [List.flatMap_cons, List.append_assoc, List.singleton_append, splitLines,
      splitLinesFrom_append hline, List.nil_append]
    exact congrArg (line :: ·) (ih hlines)

theorem FrameEvent.line_isOneLine (e : FrameEvent) (tag : LogTag) :
    ∀ c ∈ e.line tag, isLineBreak c = false := by
  cases tag with
  | ioCapture =>
    exact (e.captureText.noField_line (noField_captureMessage e.frame e.chip e.capture)).2.2
  | ioFrame =>
    exact (e.frameText.noField_line (noField_logFrame e.frame.direction e.frame.length_ge
      e.frame.length_le e.freqHz e.preamble)).2.2

theorem splitLines_text (events : List FrameEvent) :
    splitLines (events.flatMap FrameEvent.text) = events.flatMap FrameEvent.lines := by
  have hflat : events.flatMap FrameEvent.text =
      (events.flatMap FrameEvent.lines).flatMap (· ++ ['\n']) := by
    rw [List.flatMap_assoc]
    rfl
  rw [hflat]
  refine splitLines_flatMap fun line hline => ?_
  obtain ⟨e, -, hline⟩ := List.mem_flatMap.1 hline
  obtain ⟨tag, -, rfl⟩ := List.mem_map.1 hline
  exact e.line_isOneLine tag

/-! ## Joining extracted frames -/

section
variable (data : CharData) {a b : RawFrame} {f g : PhysicalFrame} {captured captured' : Bool}

theorem upper_byteHex (b : UInt8) : (byteHex b).flatMap data.text.upper = byteHex b := by
  have hdigit {n : ℕ} (h : n < 16) : data.text.upper (hexDigit n) = [hexDigit n] := by
    have hupper : ∀ i : Fin 16, (hexDigit i).toUpper = hexDigit i := by decide
    have hascii := (hexDigit_isVisible h).1.2
    rw [data.text.upper_ascii _ (by omega), hupper ⟨n, h⟩]
  have hb := b.toNat_lt
  rw [byteHex, List.flatMap_cons, List.flatMap_singleton, hdigit (by omega), hdigit (by omega)]
  rfl

theorem RawFrame.IsOf.comparableHex (h : a.IsOf data f captured) :
    Corpus.comparableHex data a = (shownBytes f.bytes).flatMap byteHex := by
  rw [Corpus.comparableHex, h.hexBytes, List.flatMap_assoc]
  exact congrArg (List.flatMap · _) (funext (upper_byteHex data))

theorem RawFrame.IsOf.raw (h : a.IsOf data f captured) : a.raw data = .ok (shownBytes f.bytes) :=
  readHex_of_compact data h.hexBytes

/-- Both frames show the same in the same direction. -/
def PhysicalFrame.LooksLike (f g : PhysicalFrame) : Prop :=
  f.direction = g.direction ∧ shownBytes f.bytes = shownBytes g.bytes

theorem RawFrame.IsOf.of_looksLike (h : a.IsOf data f captured) (hfg : f.LooksLike g) :
    a.IsOf data g captured :=
  ⟨h.direction.trans hfg.1, by rw [h.hexBytes, hfg.2], h.chip, h.chip_ne⟩

theorem samePhysicalFrame_iff (ha : a.IsOf data f captured) (hb : b.IsOf data g captured') :
    samePhysicalFrame data a b = true ↔ f.LooksLike g ∧ (captured || captured') = true := by
  rw [samePhysicalFrame, ha.comparableHex, hb.comparableHex, ha.direction, hb.direction, ha.chip,
    hb.chip, PhysicalFrame.LooksLike]
  by_cases hdirection : f.direction = g.direction
  · by_cases hshown : shownBytes f.bytes = shownBytes g.bytes
    · rw [if_neg (not_not.2 hdirection), if_neg (by rw [hshown]; exact not_not.2 rfl)]
      simp only [hdirection, hshown, true_and]
    · have hhex : (shownBytes f.bytes).flatMap byteHex ≠ (shownBytes g.bytes).flatMap byteHex :=
        fun h => hshown (flatMap_byteHex_injective h)
      rw [if_neg (not_not.2 hdirection), if_pos hhex]
      simp [hshown]
  · rw [if_pos hdirection]
    simp [hdirection]

theorem mergeFrames_isOf (ha : a.IsOf data f captured) (hb : b.IsOf data f captured') :
    (mergeFrames a b).IsOf data f (captured || captured') := by
  have hhex : compact data.text (mergeFrames a b).hexBytes =
      (shownBytes f.bytes).flatMap byteHex := by
    simp only [mergeFrames]
    split_ifs
    · exact hb.hexBytes
    · exact ha.hexBytes
  have hchip : (mergeFrames a b).chip = if captured then a.chip else b.chip := by
    simp only [mergeFrames]
    cases hc : a.chip with
    | none => rw [← ha.chip, hc, if_neg (by simp), if_neg (by simp)]
    | some w =>
      have hw : w ≠ [] := fun hw => ha.chip_ne (by rw [hc, hw])
      rw [← ha.chip, hc, if_pos (by simpa using hw), if_pos (by simp)]
  cases captured with
  | true =>
    rw [if_pos rfl] at hchip
    refine ⟨ha.direction, hhex, by rw [hchip, ha.chip, Bool.true_or], ?_⟩
    rw [hchip]
    exact ha.chip_ne
  | false =>
    rw [if_neg Bool.false_ne_true] at hchip
    refine ⟨ha.direction, hhex, by rw [hchip, hb.chip, Bool.false_or], ?_⟩
    rw [hchip]
    exact hb.chip_ne

theorem addFrame_of_forall {frames : List RawFrame}
    (h : ∀ last ∈ frames.getLast?, samePhysicalFrame data last b = false) :
    addFrame data frames b = frames ++ [b] := by
  unfold addFrame
  cases hlast : frames.getLast? with
  | none =>
    rw [List.getLast?_eq_none_iff.1 hlast]
    rfl
  | some last =>
    dsimp only
    rw [h last hlast, if_neg Bool.false_ne_true]

theorem addFrame_concat_of_same (init : List RawFrame) (h : samePhysicalFrame data a b = true) :
    addFrame data (init ++ [a]) b = init ++ [mergeFrames a b] := by
  unfold addFrame
  rw [List.getLast?_concat]
  dsimp only
  rw [if_pos h, List.dropLast_concat]

end

/-! ## Reading the lines of an event -/

/-- The tag leaves its mark on an extracted frame. -/
def LogTag.captured (tag : LogTag) : Bool := tag == .ioCapture

section
variable (data : CharData) (e : FrameEvent) {tag : LogTag} {last : RawFrame} {g : PhysicalFrame}
  {captured : Bool}

theorem FrameEvent.parseLogLine_line (tag : LogTag) :
    ∃ r, parseLogLine data (e.line tag) = .ok (some r) ∧ r.IsOf data e.frame tag.captured := by
  cases tag with
  | ioCapture =>
    obtain ⟨r, hr, hof, -⟩ := parseLogLine_capture data e.captureText e.frame e.chip e.capture
    exact ⟨r, hr, hof⟩
  | ioFrame =>
    obtain ⟨r, hr, hof, -⟩ := parseLogLine_frame data e.frameText e.frame e.freqHz e.preamble
    exact ⟨r, hr, hof⟩

theorem addLine_of_parse {line : List Char} {r : RawFrame}
    (h : parseLogLine data line = .ok (some r)) (frames : List RawFrame) :
    addLine data frames line = .ok (addFrame data frames r) := by
  rw [addLine, h]
  rfl

theorem addLine_joins (tag : LogTag) (init : List RawFrame) (hlast : last.IsOf data g captured)
    (hlook : g.LooksLike e.frame)
    (hcaptured : (captured || tag.captured) = true) :
    ∃ last', addLine data (init ++ [last]) (e.line tag) = .ok (init ++ [last']) ∧
      last'.IsOf data e.frame (captured || tag.captured) := by
  obtain ⟨r, hr, hof⟩ := e.parseLogLine_line data tag
  have hsame := (samePhysicalFrame_iff data hlast hof).2 ⟨hlook, hcaptured⟩
  refine ⟨mergeFrames last r, ?_, mergeFrames_isOf data (hlast.of_looksLike data hlook) hof⟩
  rw [addLine_of_parse data hr, addFrame_concat_of_same data init hsame]

theorem addLine_apart (tag : LogTag) {frames : List RawFrame}
    (h : ∀ last ∈ frames.getLast?, ∃ g captured, last.IsOf data g captured ∧
      ¬ (g.LooksLike e.frame ∧ (captured || tag.captured) = true)) :
    ∃ r, addLine data frames (e.line tag) = .ok (frames ++ [r]) ∧
      r.IsOf data e.frame tag.captured := by
  obtain ⟨r, hr, hof⟩ := e.parseLogLine_line data tag
  refine ⟨r, ?_, hof⟩
  have hnew : ∀ last ∈ frames.getLast?, samePhysicalFrame data last r = false := by
    intro last hlast
    obtain ⟨g, captured, hlast, hnot⟩ := h last hlast
    rw [← Bool.not_eq_true, samePhysicalFrame_iff data hlast hof]
    exact hnot
  rw [addLine_of_parse data hr, addFrame_of_forall data hnew]

theorem foldlM_addLine_cons {line : List Char} {frames frames' : List RawFrame}
    (h : addLine data frames line = .ok frames') (lines : List (List Char)) :
    (line :: lines).foldlM (addLine data) frames = lines.foldlM (addLine data) frames' := by
  rw [List.foldlM_cons, h]
  rfl

def readEvent (frames : List RawFrame) (e : FrameEvent) : Except Failure (List RawFrame) :=
  e.lines.foldlM (addLine data) frames

/-- The other line of an event joins the first. -/
theorem readEvent_of_first {frames init : List RawFrame}
    (hfirst : ∀ tag ∈ e.style.tags.head?,
      addLine data frames (e.line tag) = .ok (init ++ [last]))
    (hof : last.IsOf data e.frame captured) (hopens : e.opensCaptured = true → captured = true) :
    ∃ last', readEvent data frames e = .ok (init ++ [last']) ∧
      last'.IsOf data e.frame (captured || e.captured) := by
  unfold readEvent FrameEvent.lines FrameEvent.captured
  unfold FrameEvent.opensCaptured at hopens
  cases hstyle : e.style with
  | capture =>
    rw [hstyle] at hfirst hopens
    refine ⟨last, ?_, ?_⟩
    · rw [LogStyle.tags, List.map_singleton, foldlM_addLine_cons data (hfirst _ rfl)]
      rfl
    · rwa [hopens rfl] at hof ⊢
  | frame =>
    rw [hstyle] at hfirst
    refine ⟨last, ?_, ?_⟩
    · rw [LogStyle.tags, List.map_singleton, foldlM_addLine_cons data (hfirst _ rfl)]
      rfl
    · rwa [LogStyle.tags, List.contains_cons, List.contains_nil, Bool.or_false,
        show (LogTag.ioCapture == LogTag.ioFrame) = false from rfl, Bool.or_false]
  | captureFrame =>
    rw [hstyle] at hfirst hopens
    obtain ⟨last', hjoin, hof'⟩ := addLine_joins data e .ioFrame init hof
      ⟨rfl, rfl⟩ (by rw [hopens rfl]; rfl)
    refine ⟨last', ?_, ?_⟩
    · rw [LogStyle.tags, List.map_cons, List.map_singleton,
        foldlM_addLine_cons data (hfirst _ rfl), foldlM_addLine_cons data hjoin]
      rfl
    · rw [hopens rfl] at hof' ⊢
      exact hof'
  | frameCapture =>
    rw [hstyle] at hfirst
    obtain ⟨last', hjoin, hof'⟩ := addLine_joins data e .ioCapture init hof
      ⟨rfl, rfl⟩ (Bool.or_true _)
    refine ⟨last', ?_, hof'⟩
    rw [LogStyle.tags, List.map_cons, List.map_singleton,
      foldlM_addLine_cons data (hfirst _ rfl), foldlM_addLine_cons data hjoin]
    rfl

theorem opensCaptured_imp_captured (h : e.opensCaptured = true) : e.captured = true := by
  unfold FrameEvent.opensCaptured at h
  unfold FrameEvent.captured
  cases hstyle : e.style with
  | capture => rfl
  | frame =>
    rw [hstyle] at h
    cases h
  | captureFrame => rfl
  | frameCapture => rfl

theorem exists_head_tag (style : LogStyle) : ∃ tag, style.tags.head? = some tag := by
  cases style with
  | capture => exact ⟨_, rfl⟩
  | frame => exact ⟨_, rfl⟩
  | captureFrame => exact ⟨_, rfl⟩
  | frameCapture => exact ⟨_, rfl⟩

theorem head_tag_captured (h : e.style.tags.head? = some tag) : tag.captured = e.opensCaptured := by
  unfold FrameEvent.opensCaptured
  rw [h]
  cases tag with
  | ioCapture => rfl
  | ioFrame => rfl

/-- The lines of an event that looks like the last frame all join it. -/
theorem readEvent_joins (init : List RawFrame) (hlast : last.IsOf data g captured)
    (hlook : g.LooksLike e.frame) (hcaptured : (captured || e.opensCaptured) = true) :
    ∃ last', readEvent data (init ++ [last]) e = .ok (init ++ [last']) ∧
      last'.IsOf data e.frame true := by
  obtain ⟨tag, htag⟩ := exists_head_tag e.style
  have hopens := head_tag_captured e htag
  obtain ⟨last', hjoin, hof⟩ := addLine_joins data e tag init hlast hlook
    (by rw [hopens]; exact hcaptured)
  rw [hopens, hcaptured] at hof
  have hfirst : ∀ tag ∈ e.style.tags.head?,
      addLine data (init ++ [last]) (e.line tag) = .ok (init ++ [last']) := by
    intro tag' htag'
    rw [htag] at htag'
    obtain rfl := Option.some.inj htag'
    exact hjoin
  exact readEvent_of_first data e hfirst hof fun _ => rfl

/-- An event that does not look like the last frame, or that only lines of the frame log tell of,
gives a frame of its own. -/
theorem readEvent_apart (frames : List RawFrame)
    (h : ∀ last ∈ frames.getLast?, ∃ g captured, last.IsOf data g captured ∧
      ¬ (g.LooksLike e.frame ∧ (captured || e.opensCaptured) = true)) :
    ∃ r, readEvent data frames e = .ok (frames ++ [r]) ∧ r.IsOf data e.frame e.captured := by
  obtain ⟨tag, htag⟩ := exists_head_tag e.style
  have hopens := head_tag_captured e htag
  obtain ⟨r, hnew, hof⟩ := addLine_apart data e tag (by rw [hopens]; exact h)
  rw [hopens] at hof
  have hfirst : ∀ tag ∈ e.style.tags.head?,
      addLine data frames (e.line tag) = .ok (frames ++ [r]) := by
    intro tag' htag'
    rw [htag] at htag'
    obtain rfl := Option.some.inj htag'
    exact hnew
  obtain ⟨last', hread, hof'⟩ := readEvent_of_first data e hfirst hof id
  refine ⟨last', hread, ?_⟩
  cases ho : e.opensCaptured with
  | true => rwa [ho, Bool.true_or, ← opensCaptured_imp_captured e ho] at hof'
  | false => rwa [ho, Bool.false_or] at hof'

/-- An event gives at most one frame, and the last frame is its own. -/
theorem readEvent_le (init : List RawFrame) (hlast : last.IsOf data g captured) :
    ∃ init' last' captured', readEvent data (init ++ [last]) e = .ok (init' ++ [last']) ∧
      last'.IsOf data e.frame captured' ∧ init'.length ≤ init.length + 1 := by
  by_cases hjoins : g.LooksLike e.frame ∧ (captured || e.opensCaptured) = true
  · obtain ⟨last', hread, hof⟩ := readEvent_joins data e init hlast hjoins.1 hjoins.2
    exact ⟨init, last', true, hread, hof, Nat.le_succ _⟩
  · obtain ⟨r, hread, hof⟩ := readEvent_apart data e (init ++ [last]) (by
      intro last' hlast'
      rw [List.getLast?_concat] at hlast'
      obtain rfl := Option.some.inj hlast'
      exact ⟨g, captured, hlast, hjoins⟩)
    refine ⟨init ++ [last], r, e.captured, hread, hof, ?_⟩
    rw [List.length_append, List.length_singleton]

end

/-! ## Runs of events -/

namespace FrameEvent

/-- The first line of the later event is taken for one more line of the earlier. -/
def Joins (e e' : FrameEvent) : Prop :=
  e.frame.LooksLike e'.frame ∧ (e.captured || e'.opensCaptured) = true

end FrameEvent

section
variable (data : CharData)

theorem parseLog_text (events : List FrameEvent) :
    parseLog data (events.flatMap FrameEvent.text) = events.foldlM (readEvent data) [] := by
  have hfold (frames : List RawFrame) :
      (events.flatMap FrameEvent.lines).foldlM (addLine data) frames =
        events.foldlM (readEvent data) frames := by
    induction events generalizing frames with
    | nil => rfl
    | cons e events ih =>
      rw [List.flatMap_cons, List.foldlM_append, List.foldlM_cons, readEvent]
      exact congrArg _ (funext ih)
  rw [parseLog, splitLines_text, hfold]

theorem readEvent_next (init : List RawFrame) {last : RawFrame} {prev e : FrameEvent}
    (hlast : last.IsOf data prev.frame prev.captured) (hnot : ¬ prev.Joins e) :
    ∃ r, readEvent data (init ++ [last]) e = .ok (init ++ [last] ++ [r]) ∧
      r.IsOf data e.frame e.captured := by
  refine readEvent_apart data e _ fun last' hlast' => ?_
  rw [List.getLast?_concat] at hlast'
  obtain rfl := Option.some.inj hlast'
  exact ⟨prev.frame, prev.captured, hlast, hnot⟩

/-- Events of which none joins the one before give one frame each. -/
theorem run_apart {events : List FrameEvent} (init : List RawFrame) {last : RawFrame}
    {prev : FrameEvent} (hlast : last.IsOf data prev.frame prev.captured)
    (hchain : (prev :: events).IsChain fun e e' => ¬ e.Joins e') :
    ∃ news, events.foldlM (readEvent data) (init ++ [last]) = .ok (init ++ [last] ++ news) ∧
      List.Forall₂ (fun r e => r.IsOf data e.frame e.captured) news events := by
  induction events generalizing init last prev with
  | nil => exact ⟨[], by rw [List.append_nil]; rfl, .nil⟩
  | cons e events ih =>
    obtain ⟨hnot, hchain⟩ := List.isChain_cons_cons.1 hchain
    obtain ⟨r, hread, hof⟩ := readEvent_next data init hlast hnot
    obtain ⟨news, hfold, hnews⟩ := ih (init ++ [last]) hof hchain
    refine ⟨r :: news, ?_, .cons hof hnews⟩
    rw [List.foldlM_cons, hread]
    show events.foldlM (readEvent data) (init ++ [last] ++ [r]) = _
    rw [hfold, List.append_assoc (init ++ [last]), List.singleton_append]

/-- Events give at most one frame each. -/
theorem run_le (events : List FrameEvent) (init : List RawFrame) {last : RawFrame}
    {g : PhysicalFrame} {captured : Bool} (hlast : last.IsOf data g captured) :
    ∃ frames, events.foldlM (readEvent data) (init ++ [last]) = .ok frames ∧
      frames.length ≤ init.length + 1 + events.length := by
  induction events generalizing init last g captured with
  | nil => exact ⟨init ++ [last], rfl, by rw [List.length_append, List.length_singleton]; omega⟩
  | cons e events ih =>
    obtain ⟨init', last', captured', hread, hof, hle⟩ := readEvent_le data e init hlast
    obtain ⟨frames, hfold, hframes⟩ := ih init' hof
    refine ⟨frames, ?_, ?_⟩
    · rw [List.foldlM_cons, hread]
      exact hfold
    · rw [List.length_cons]
      omega

/-- Events of which one joins the one before give fewer frames. -/
theorem run_joins {events : List FrameEvent} (init : List RawFrame) {last : RawFrame}
    {prev : FrameEvent} (hlast : last.IsOf data prev.frame prev.captured)
    (hchain : ¬ (prev :: events).IsChain fun e e' => ¬ e.Joins e') :
    ∃ frames, events.foldlM (readEvent data) (init ++ [last]) = .ok frames ∧
      frames.length < init.length + 1 + events.length := by
  induction events generalizing init last prev with
  | nil => exact absurd (List.isChain_singleton prev) hchain
  | cons e events ih =>
    rw [List.isChain_cons_cons, not_and_or, not_not] at hchain
    rw [List.length_cons, List.foldlM_cons]
    by_cases hjoins : prev.Joins e
    · obtain ⟨last', hread, hof⟩ := readEvent_joins data e init hlast hjoins.1 hjoins.2
      obtain ⟨frames, hfold, hle⟩ := run_le data events init hof
      rw [hread]
      exact ⟨frames, hfold, by omega⟩
    · obtain ⟨r, hread, hof⟩ := readEvent_next data init hlast hjoins
      obtain ⟨frames, hfold, hlt⟩ := ih (init ++ [last]) hof (hchain.resolve_left hjoins)
      rw [List.length_append, List.length_singleton] at hlt
      rw [hread]
      exact ⟨frames, hfold, by omega⟩

/-- A log in which no event joins the one before gives one frame for each event, with what its
lines show. -/
theorem parseLog_of_isChain {events : List FrameEvent}
    (hchain : events.IsChain fun e e' => ¬ e.Joins e') :
    ∃ frames, parseLog data (events.flatMap FrameEvent.text) = .ok frames ∧
      List.Forall₂ (fun r e => r.IsOf data e.frame e.captured) frames events := by
  rw [parseLog_text]
  cases events with
  | nil => exact ⟨[], rfl, .nil⟩
  | cons e events =>
    obtain ⟨r, hread, hof⟩ := readEvent_apart data e [] (by simp)
    obtain ⟨news, hfold, hnews⟩ := run_apart data [] hof hchain
    refine ⟨r :: news, ?_, .cons hof hnews⟩
    rw [List.foldlM_cons, hread]
    exact hfold

/-- Where one does, frames are missing. -/
theorem parseLog_of_not_isChain {events : List FrameEvent}
    (hchain : ¬ events.IsChain fun e e' => ¬ e.Joins e') :
    ∃ frames, parseLog data (events.flatMap FrameEvent.text) = .ok frames ∧
      frames.length < events.length := by
  rw [parseLog_text]
  cases events with
  | nil => exact absurd List.IsChain.nil hchain
  | cons e events =>
    obtain ⟨r, hread, hof⟩ := readEvent_apart data e [] (by simp)
    obtain ⟨frames, hfold, hlt⟩ := run_joins data [] hof hchain
    refine ⟨frames, ?_, by simpa [Nat.add_comm] using hlt⟩
    rw [List.foldlM_cons, hread]
    exact hfold

end

/-! ## What the log tells of each frame -/

/-- The extracted frame has the direction and the bytes of the frame on the air. -/
def RawFrame.Tells (data : CharData) (r : RawFrame) (f : PhysicalFrame) : Prop :=
  r.direction = f.direction ∧ r.raw data = .ok f.bytes

theorem RawFrame.IsOf.tells_iff {data : CharData} {r : RawFrame} {f : PhysicalFrame}
    {captured : Bool} (h : r.IsOf data f captured) : r.Tells data f ↔ ¬ HidesPayload f.bytes := by
  rw [← shownBytes_eq_self_iff, RawFrame.Tells, h.raw, Except.ok.injEq]
  exact and_iff_right h.direction

/-- Two lines of one frame. -/
theorem foldlM_addLine_pair (data : CharData) (l l' : List Char) {a b : RawFrame}
    (ha : parseLogLine data l = .ok (some a)) (hb : parseLogLine data l' = .ok (some b))
    (hsame : samePhysicalFrame data a b = true) :
    [l, l'].foldlM (addLine data) [] = .ok [mergeFrames a b] := by
  have hfirst : addLine data [] l = .ok [a] := by
    rw [addLine_of_parse data ha, addFrame_of_forall data (by simp)]
    rfl
  have hjoins : addLine data [a] l' = .ok [mergeFrames a b] := by
    rw [addLine_of_parse data hb]
    exact congrArg _ (addFrame_concat_of_same data [] hsame)
  rw [foldlM_addLine_cons data hfirst, foldlM_addLine_cons data hjoins]
  rfl

namespace FrameEvent

variable (data : CharData) (e : FrameEvent)

/-- What is read of one line, or of an adjacent pair, is right or for a reviewer to verify. -/
def Agrees : Prop :=
  match e.style with
  | .capture =>
    ∃ r, parseLogLine data (e.line .ioCapture) = .ok (some r) ∧
      (r.Tells data e.frame ∨ r.unverified = true)
  | .frame =>
    ∃ r, parseLogLine data (e.line .ioFrame) = .ok (some r) ∧
      (r.Tells data e.frame ∨ r.unverified = true)
  | .captureFrame | .frameCapture =>
    ∃ r, parseLog data e.text = .ok [r] ∧ (r.Tells data e.frame ∨ r.unverified = true)

theorem agrees_of_capture (h : e.style = .capture) : e.Agrees data := by
  obtain ⟨r, hr, hof, hverified⟩ :=
    parseLogLine_capture data e.captureText e.frame e.chip e.capture
  unfold Agrees
  rw [h]
  refine ⟨r, hr, ?_⟩
  rw [hof.tells_iff, or_iff_not_imp_right, Bool.not_eq_true, hverified]
  exact And.right

theorem agrees_frame_iff (h : e.style = .frame) :
    e.Agrees data ↔ ¬ HidesPayload e.frame.bytes := by
  obtain ⟨r, hr, hof, hverified⟩ :=
    parseLogLine_frame data e.frameText e.frame e.freqHz e.preamble
  unfold Agrees
  rw [h]
  show (∃ r', parseLogLine data (e.line .ioFrame) = .ok (some r') ∧ _) ↔ _
  have hline : parseLogLine data (e.line .ioFrame) = .ok (some r) := hr
  simp only [hline, Except.ok.injEq, Option.some.injEq, exists_eq_left', hverified,
    hof.tells_iff, Bool.false_eq_true, or_false]

/-- A pair of lines gives one frame, verified whatever the capture line is. -/
theorem parseLog_pair (h : e.style = .captureFrame ∨ e.style = .frameCapture) :
    ∃ r, parseLog data e.text = .ok [r] ∧ r.IsOf data e.frame true ∧ r.unverified = false := by
  obtain ⟨c, hc, hcof, -⟩ := parseLogLine_capture data e.captureText e.frame e.chip e.capture
  obtain ⟨f, hf, hfof, hverified⟩ :=
    parseLogLine_frame data e.frameText e.frame e.freqHz e.preamble
  have hlines : parseLog data e.text = e.lines.foldlM (addLine data) [] := by
    have hsplit := splitLines_text [e]
    rw [List.flatMap_singleton, List.flatMap_singleton] at hsplit
    rw [parseLog, hsplit]
  rcases h with h | h
  · have hsame := (samePhysicalFrame_iff data hcof hfof).2 ⟨⟨rfl, rfl⟩, rfl⟩
    refine ⟨mergeFrames c f, ?_, mergeFrames_isOf data hcof hfof, ?_⟩
    · rw [hlines, lines, h]
      exact foldlM_addLine_pair data (e.line .ioCapture) (e.line .ioFrame) hc hf hsame
    · show (c.unverified && f.unverified) = false
      rw [hverified, Bool.and_false]
  · have hsame := (samePhysicalFrame_iff data hfof hcof).2 ⟨⟨rfl, rfl⟩, rfl⟩
    refine ⟨mergeFrames f c, ?_, mergeFrames_isOf data hfof hcof, ?_⟩
    · rw [hlines, lines, h]
      exact foldlM_addLine_pair data (e.line .ioFrame) (e.line .ioCapture) hf hc hsame
    · show (f.unverified && c.unverified) = false
      rw [hverified, Bool.false_and]

theorem agrees_pair_iff (h : e.style = .captureFrame ∨ e.style = .frameCapture) :
    e.Agrees data ↔ ¬ HidesPayload e.frame.bytes := by
  obtain ⟨r, hr, hof, hverified⟩ := e.parseLog_pair data h
  have hpair : e.Agrees data ↔
      ∃ r, parseLog data e.text = .ok [r] ∧ (r.Tells data e.frame ∨ r.unverified = true) := by
    unfold Agrees
    rcases h with h | h
    · rw [h]
    · rw [h]
  rw [hpair, hr]
  simp only [Except.ok.injEq, List.cons.injEq, and_true, exists_eq_left', hverified,
    hof.tells_iff, Bool.false_eq_true, or_false]

/-- The lines of a frame tell the frame or are for a reviewer to verify, unless a line of the frame
log is among them and masks a payload. -/
theorem agrees_iff : e.Agrees data ↔ e.style = .capture ∨ ¬ HidesPayload e.frame.bytes := by
  cases h : e.style with
  | capture => exact iff_of_true (e.agrees_of_capture data h) (.inl rfl)
  | frame => rw [e.agrees_frame_iff data h, or_iff_right (by decide)]
  | captureFrame => rw [e.agrees_pair_iff data (.inl h), or_iff_right (by decide)]
  | frameCapture => rw [e.agrees_pair_iff data (.inr h), or_iff_right (by decide)]

end FrameEvent

/-- A transmitted key transfer. -/
def keyTransferFrame : PhysicalFrame where
  direction := .tx
  bytes := [0x18, 0x00, 0xAA, 0xBB, 0xCC, 0x11, 0x22, 0x33, cmdKeyTransfer] ++
    List.replicate 16 0xA5
  length_ge := by decide
  length_le := by decide
  sent _ := by decide

/-- A discovery request. -/
def discoverFrame : PhysicalFrame where
  direction := .tx
  bytes := [0x08, 0x00, 0x00, 0x00, 0x3F, 0x11, 0x22, 0x33, cmdDiscoverReq]
  length_ge := by decide
  length_le := by decide
  sent _ := by decide

def plainText : LoggerText where
  head := "[D][home_io_control:087]: ".toList
  tail := []
  head_plain := forall_mem_of_all (by decide)
  tail_plain _ hc := absurd hc List.not_mem_nil
  tail_escape _ hc := by cases hc

def loggedAs (frame : PhysicalFrame) (style : LogStyle) : FrameEvent where
  frame := frame
  style := style
  captureText := plainText
  frameText := plainText
  chip := .sx1262
  capture := {}
  freqHz := 868950000
  preamble := 1024

/-- The frame log shows nine of twenty-five bytes, and they pass for the frame. -/
theorem key_transfer_shortened :
    ¬ (loggedAs keyTransferFrame .frame).Agrees CharData.ascii := by
  rw [FrameEvent.agrees_frame_iff _ _ rfl, not_not]
  decide

/-! ## One frame for each event -/

section
variable (data : CharData)

/-- The log gives exactly one frame for each event, in order, with its direction and bytes. -/
def Extracts (events : List FrameEvent) : Prop :=
  ∃ frames, parseLog data (events.flatMap FrameEvent.text) = .ok frames ∧
    List.Forall₂ (fun r e => r.Tells data e.frame) frames events

/-- The same bytes in the same direction, of which the capture log tells before or right at the
seam. -/
def FrameEvent.Repeats (e e' : FrameEvent) : Prop :=
  e.frame.direction = e'.frame.direction ∧ e.frame.bytes = e'.frame.bytes ∧
    (e.captured || e'.opensCaptured) = true

theorem FrameEvent.Repeats.joins {e e' : FrameEvent} (h : e.Repeats e') : e.Joins e' :=
  ⟨⟨h.1, congrArg shownBytes h.2.1⟩, h.2.2⟩

theorem not_extracts_of_joins {events : List FrameEvent}
    (hchain : ¬ events.IsChain fun e e' => ¬ e.Joins e') : ¬ Extracts data events := by
  rintro ⟨frames, hparse, htells⟩
  obtain ⟨frames', hparse', hlt⟩ := parseLog_of_not_isChain data hchain
  rw [hparse] at hparse'
  rw [← Except.ok.inj hparse', htells.length_eq] at hlt
  exact Nat.lt_irrefl _ hlt

/-- A retransmission that the capture log tells of as well. -/
theorem retransmission_joined :
    ¬ Extracts CharData.ascii (List.replicate 2 (loggedAs discoverFrame .captureFrame)) := by
  refine not_extracts_of_joins _ fun hchain => ?_
  exact (List.isChain_cons_cons.1 hchain).1 ⟨⟨rfl, rfl⟩, rfl⟩

theorem forall₂_tells_iff {frames : List RawFrame} {events : List FrameEvent}
    (h : List.Forall₂ (fun r e => r.IsOf data e.frame e.captured) frames events) :
    List.Forall₂ (fun r e => r.Tells data e.frame) frames events ↔
      ∀ e ∈ events, ¬ HidesPayload e.frame.bytes := by
  induction h with
  | nil => exact iff_of_true .nil fun _ he => absurd he List.not_mem_nil
  | cons hof _ ih => rw [List.forall₂_cons, hof.tells_iff, ih, List.forall_mem_cons]

/-- Each frame is counted once exactly if no event hides a payload and none repeats the one before
with the capture log at the seam. -/
theorem extracts_iff (events : List FrameEvent) :
    Extracts data events ↔ (∀ e ∈ events, ¬ HidesPayload e.frame.bytes) ∧
      events.IsChain fun e e' => ¬ e.Repeats e' := by
  constructor
  · intro h
    have hchain : events.IsChain fun e e' => ¬ e.Joins e' := by
      by_contra hchain
      exact not_extracts_of_joins data hchain h
    obtain ⟨frames, hparse, htells⟩ := h
    obtain ⟨frames', hparse', hof⟩ := parseLog_of_isChain data hchain
    rw [hparse] at hparse'
    rw [← Except.ok.inj hparse'] at hof
    exact ⟨(forall₂_tells_iff data hof).1 htells, hchain.imp fun e e' hnot h => hnot h.joins⟩
  · rintro ⟨hshown, hchain⟩
    have hjoins : events.IsChain fun e e' => ¬ e.Joins e' := by
      refine hchain.imp_of_mem_imp fun e e' he he' hnot hjoins => hnot ?_
      obtain ⟨⟨hdirection, hbytes⟩, hcaptured⟩ := hjoins
      rw [(shownBytes_eq_self_iff _).2 (hshown e he),
        (shownBytes_eq_self_iff _).2 (hshown e' he')] at hbytes
      exact ⟨hdirection, hbytes, hcaptured⟩
    obtain ⟨frames, hparse, hof⟩ := parseLog_of_isChain data hjoins
    exact ⟨frames, hparse, (forall₂_tells_iff data hof).2 hshown⟩

end

end HomeIoControl.Corpus
