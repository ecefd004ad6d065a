import HomeIoControl.CaptureLineParsing

namespace HomeIoControl.Corpus
open RegexMatch

/-! ## Pieces of a frame line -/

/-- The preamble and a blank. -/
def preambleText (preamble : ℕ) (rest : List Char) : List Char :=
  if 0 < preamble then "preamble=".toList ++ (decimal preamble ++ ' ' :: rest) else rest

/-- The command, the flags and the colon. -/
def commandText (name : List Char) (flags : List String) (rest : List Char) : List Char :=
  "cmd=".toList ++ (name ++ ' ' :: (flags.flatMap flagText ++ ':' :: rest))

/-- The line of a frame that has a command. -/
theorem logFrame_eq (label : List Char) {buf : List UInt8} (hmin : frameMinSize ≤ buf.length)
    (hmax : buf.length ≤ frameMaxSize) (freqHz preamble : ℕ) (tail : List Char) :
    logFrame label buf freqHz preamble ++ tail =
      label ++ ' ' :: ("[".toList ++ (decimal buf.length ++ ' ' :: ("bytes]".toList ++ ' ' ::
        ("freq=".toList ++ (decimal freqHz ++ ' ' :: preambleText preamble
          (commandText (commandName (buf.getD frameCmdOffset 0)).toList
            (ctrl1Flags (buf.getD 1 0))
            (' ' :: (hexText (shownBytes buf) ++ (maskText buf ++ tail))))))))) := by
  have hopen : " [".toList = ' ' :: "[".toList := rfl
  have hfreq : " bytes] freq=".toList = ' ' :: ("bytes]".toList ++ ' ' :: "freq=".toList) := rfl
  have hcmd : " cmd=".toList = ' ' :: "cmd=".toList := rfl
  have hcolon : ": ".toList = [':', ' '] := rfl
  have hpreamble (rest : List Char) :
      preambleField preamble ++ ' ' :: rest = ' ' :: preambleText preamble rest := by
    unfold preambleField preambleText
    have hspace : " preamble=".toList = ' ' :: "preamble=".toList := rfl
    split_ifs
    · rw [hspace, List.cons_append, List.cons_append, List.append_assoc]
    · rfl
  unfold logFrame
  dsimp only
  rw [render_eq hmax, decide_eq_true hmin, if_pos rfl, if_pos rfl, hopen, hfreq, hcmd, hcolon,
    decodeCtrl1Flags]
  simp only [List.append_assoc, List.cons_append, List.nil_append]
  rw [hpreamble, commandText]

section
variable (data : CharData) {w rest : List Char}

theorem finds_blank (hrest : Stops data.isSpace rest) :
    Finds (run data.isSpace) (' ' :: rest) [' '] rest := by
  have hblank : ∀ c ∈ [' '], data.isSpace c = true := by
    simpa using data.isSpace_blank
  exact finds_run hblank hrest

theorem finds_no_blank (hrest : Stops data.isSpace rest) :
    Finds (run data.isSpace) rest [] rest :=
  finds_run (w := []) (by simp) hrest

theorem stops_blank {c : Char} (hc : IsVisible c) (rest : List Char) :
    Stops data.isSpace (c :: rest) :=
  stops_cons (data.isSpace_of_isVisible hc) rest

theorem stops_preambleText (preamble : ℕ) (hrest : Stops data.isSpace rest) :
    Stops data.isSpace (preambleText preamble rest) := by
  unfold preambleText
  split_ifs
  · exact stops_blank data (by decide) _
  · exact hrest

theorem finds_preamble (preamble : ℕ) (hrest : Stops data.isSpace rest)
    (hnot : ¬ "preamble=".toList <+: rest) :
    ∃ a, Finds (opt (preambleRe data)) (preambleText preamble rest) a rest := by
  unfold preambleText
  split_ifs
  · refine ⟨_, finds_opt_some (a := decimal preamble) ?_⟩
    unfold preambleRe
    refine (finds_literal "preamble=".toList _).bind ?_
    refine (finds_decimal data preamble (stops_decimal_blank data _)).bind ?_
    exact (finds_blank data hrest).bind (finds_pure _ _)
  · refine ⟨_, finds_opt_none ?_⟩
    unfold preambleRe
    exact (fails_literal hnot).bind _

theorem finds_flag {flag : String} (hne : flag.toList ≠ [])
    (hcapital : ∀ c ∈ flag.toList, isCapital c = true) (rest : List Char) :
    Finds flagRe (flagText flag ++ rest) flag.toList rest := by
  have hclose : Stops isCapital (']' :: rest) := stops_cons (by decide) rest
  have htext : flagText flag ++ rest = ['['] ++ (flag.toList ++ ([']'] ++ rest)) := by
    rw [flagText, List.cons_append, List.append_assoc]
    rfl
  rw [htext]
  unfold flagRe
  refine (finds_literal ['['] _).bind ?_
  refine (finds_run1 hne hcapital hclose).bind ?_
  exact (finds_literal [']'] rest).bind (finds_pure _ _)

theorem mem_of_mem_ctrl1Flags {ctrl1 : UInt8} {flag : String} (h : flag ∈ ctrl1Flags ctrl1) :
    flag ∈ ["ACK", "LPM", "PRIO", "R", "B"] := by
  obtain ⟨bit, hbit, hsome⟩ := List.mem_filterMap.1 h
  split_ifs at hsome
  obtain rfl := Option.some.inj hsome
  exact List.mem_map_of_mem (f := Prod.snd) hbit

theorem ctrl1Flags_capital {ctrl1 : UInt8} {flag : String} (h : flag ∈ ctrl1Flags ctrl1) :
    flag.toList ≠ [] ∧ ∀ c ∈ flag.toList, isCapital c = true := by
  have hall : ∀ flag ∈ ["ACK", "LPM", "PRIO", "R", "B"],
      flag.toList ≠ [] ∧ flag.toList.all isCapital = true := by decide
  obtain ⟨hne, hcapital⟩ := hall flag (mem_of_mem_ctrl1Flags h)
  exact ⟨hne, List.all_eq_true.1 hcapital⟩

theorem commandName_isValue (cmd : UInt8) : IsValue (commandName cmd).toList := by
  have htable : ∀ e ∈ commandNames, IsValue e.2.toList := by decide +kernel
  unfold commandName
  cases hlookup : commandNames.lookup cmd with
  | none =>
    rw [Option.getD_none]
    decide
  | some name =>
    obtain ⟨before, after, hsplit, -⟩ := List.lookup_eq_some_iff.1 hlookup
    exact htable (cmd, name) (by rw [hsplit]; simp)

theorem finds_command {name : List Char} (hname : IsValue name) (ctrl1 : UInt8)
    (rest : List Char) :
    ∃ a, Finds (opt (commandRe data)) (commandText name (ctrl1Flags ctrl1) rest) a
      (':' :: rest) := by
  have hpiece : ∀ a ∈ (ctrl1Flags ctrl1).map String.toList, ∀ rest,
      Finds flagRe ('[' :: (a ++ [']']) ++ rest) a rest := by
    intro a ha rest
    obtain ⟨flag, hflag, rfl⟩ := List.mem_map.1 ha
    exact finds_flag (ctrl1Flags_capital hflag).1 (ctrl1Flags_capital hflag).2 rest
  have hcolon : Fails flagRe (':' :: rest) := by
    have hnot : ¬ ['['] <+: ':' :: rest := by
      rintro ⟨s, hs⟩
      exact absurd (List.cons.inj hs).1 (by decide)
    unfold flagRe
    exact (fails_literal hnot).bind _
  have hflags := finds_many hpiece (fun a _ => List.cons_ne_nil _ _) hcolon
  rw [List.flatMap_map] at hflags
  have hstop : Stops data.isSpace ((ctrl1Flags ctrl1).flatMap flagText ++ ':' :: rest) := by
    cases hcases : ctrl1Flags ctrl1 with
    | nil => exact stops_blank data (by decide) rest
    | cons flag flags => exact stops_blank data (by decide) _
  refine ⟨_, finds_opt_some (a := (name, (ctrl1Flags ctrl1).map String.toList)) ?_⟩
  unfold commandRe commandText
  refine (finds_literal "cmd=".toList _).bind ?_
  refine (finds_value data hname _).bind ?_
  refine (finds_blank data hstop).bind ?_
  refine hflags.bind ?_
  exact (finds_no_blank data (stops_blank data (by decide) rest)).bind (finds_pure _ _)

/-- After the bytes only a blank follows. -/
theorem fails_nextByte (hspace : Stops data.isSpace rest) (hhex : Stops isHex rest) :
    Fails (nextByteRe data) (' ' :: rest) := by
  have hdigits : Fails (exactly isHex 2 >>= fun digits => pure ([' '] ++ digits)) rest := by
    refine Fails.bind ?_ _
    rw [exactly]
    refine Fails.bind ?_ _
    cases rest with
    | nil => exact fails_one_nil isHex
    | cons c rest => exact fails_one (by simpa [Stops] using hhex) rest
  unfold nextByteRe
  exact (only_run1 data.isSpace_blank hspace).fails
    (k := fun blanks => exactly isHex 2 >>= fun digits => pure (blanks ++ digits)) hdigits

theorem finds_nextByte (b : UInt8) (rest : List Char) :
    Finds (nextByteRe data) (' ' :: byteHex b ++ rest) (' ' :: byteHex b) rest := by
  have hstop : Stops data.isSpace (byteHex b ++ rest) :=
    stops_blank data (byteHex_isVisible b _ (List.mem_cons_self ..)) _
  unfold nextByteRe
  refine (finds_run1 (w := [' ']) (List.cons_ne_nil _ _) ?_ hstop).bind ?_
  · simpa using data.isSpace_blank
  · exact (finds_exactly (isHex_byteHex b) rest).bind (finds_pure _ rest)

/-- Each byte but the first has its blank before it. -/
theorem hexText_cons_append (b : UInt8) (bytes : List UInt8) (rest : List Char) :
    hexText (b :: bytes) ++ rest =
      byteHex b ++ ((bytes.map (' ' :: byteHex ·)).flatMap id ++ ' ' :: rest) := by
  induction bytes generalizing b with
  | nil =>
    rw [hexText_cons]
    simp [hexText]
  | cons c bytes ih =>
    rw [hexText_cons, List.append_assoc, List.cons_append, ih c, List.map_cons,
      List.flatMap_cons, id, List.append_assoc, List.cons_append]

theorem compact_blank_bytes (bytes : List UInt8) :
    compact data.text (bytes.map (' ' :: byteHex ·)).flatten = bytes.flatMap byteHex := by
  induction bytes with
  | nil => rfl
  | cons b bytes ih =>
    rw [List.map_cons, List.flatten_cons, compact_append, compact_blank_cons, compact_byteHex, ih,
      List.flatMap_cons]

/-- The text of at least two bytes. -/
theorem finds_hexBytes {bytes : List UInt8} (hbytes : 2 ≤ bytes.length)
    (hspace : Stops data.isSpace rest) (hhex : Stops isHex rest) :
    ∃ s, Finds (hexBytesRe data) (hexText bytes ++ rest) s (' ' :: rest) ∧
      compact data.text s = bytes.flatMap byteHex := by
  obtain ⟨b, c, bytes, rfl⟩ : ∃ b c bs, bytes = b :: c :: bs := by
    match bytes, hbytes with
    | b :: c :: bs, _ => exact ⟨b, c, bs, rfl⟩
  have hpiece : ∀ w ∈ bytes.map (' ' :: byteHex ·), ∀ rest,
      Finds (nextByteRe data) (id w ++ rest) w rest := by
    intro w hw rest
    obtain ⟨d, -, rfl⟩ := List.mem_map.1 hw
    exact finds_nextByte data d rest
  have hne : ∀ w ∈ bytes.map (' ' :: byteHex ·), id w ≠ [] := by
    intro w hw
    obtain ⟨d, -, rfl⟩ := List.mem_map.1 hw
    exact List.cons_ne_nil _ _
  have hlater := finds_many hpiece hne (fails_nextByte data hspace hhex)
  refine ⟨byteHex b ++ ((' ' :: byteHex c) :: bytes.map (' ' :: byteHex ·)).flatten, ?_, ?_⟩
  · rw [hexText_cons_append, List.map_cons, List.flatMap_cons, List.append_assoc]
    unfold hexBytesRe
    refine (finds_exactly (isHex_byteHex b) _).bind ?_
    refine Finds.bind (t := ' ' :: rest) ?_ (finds_pure _ _)
    rw [atLeast]
    exact (finds_nextByte data c _).bind (hlater.bind (finds_pure _ _))
  · rw [compact_append, compact_byteHex, ← List.map_cons (f := (' ' :: byteHex ·)),
      compact_blank_bytes, ← List.flatMap_cons]

/-! ## The pattern of the frame log -/

/-- The label of a line. -/
def directionLabel : Direction → List Char
  | .tx => "TX".toList
  | .rx => "RX".toList

theorem finds_direction (direction : Direction) (rest : List Char) :
    Finds directionRe (directionLabel direction ++ rest) direction rest := by
  unfold directionRe
  cases direction with
  | tx =>
    have htx := (finds_literal "TX".toList rest).bind (k := fun _ => pure Direction.tx)
      (finds_pure _ rest)
    exact htx.orElse_left _
  | rx =>
    have hnot : ¬ "TX".toList <+: directionLabel .rx ++ rest := by
      rintro ⟨s, hs⟩
      exact absurd (List.cons.inj hs).1 (by decide)
    have hrx := (finds_literal "RX".toList rest).bind (k := fun _ => pure Direction.rx)
      (finds_pure _ rest)
    exact hrx.orElse_right ((fails_literal hnot).bind _)

theorem fails_direction {s : List Char} (htx : ¬ "TX".toList <+: s) (hrx : ¬ "RX".toList <+: s) :
    Fails directionRe s := by
  unfold directionRe
  exact ((fails_literal htx).bind _).orElse ((fails_literal hrx).bind _)

/-- Nothing in the head of a line looks like a label. -/
theorem not_label_isPrefix (t : LoggerText) {w : List Char} (hw : w <:+ t.head) (hne : w ≠ [])
    (direction direction' : Direction) (rest : List Char) :
    ¬ directionLabel direction <+: w ++ (directionLabel direction' ++ rest) := by
  have hpos := List.length_pos_of_ne_nil hne
  have hlast (direction : Direction) : ∃ c, c ≠ 'X' ∧ directionLabel direction = [c] ++ ['X'] := by
    cases direction with
    | tx => exact ⟨'T', by decide, rfl⟩
    | rx => exact ⟨'R', by decide, rfl⟩
  obtain ⟨c, -, hc⟩ := hlast direction
  obtain ⟨c', hX, hc'⟩ := hlast direction'
  have hnotMem : 'X' ∉ w ++ [c'] := by
    intro hmem
    rcases List.mem_append.1 hmem with hmem | hmem
    · exact (t.head_plain _ (hw.subset hmem)).2.1 rfl
    · exact hX (List.mem_singleton.1 hmem).symm
  have hnot := not_isPrefix_append (u := [c]) (by simpa using hpos) hnotMem ('X' :: rest)
  rw [hc, hc']
  simpa only [List.append_assoc, List.nil_append, List.cons_append] using hnot

theorem fails_ioFrame (t : LoggerText) {w : List Char} (hw : w <:+ t.head) (hne : w ≠ [])
    (direction : Direction) (rest : List Char) :
    Fails (ioFrameRe data) (w ++ (directionLabel direction ++ rest)) := by
  unfold ioFrameRe
  exact (fails_direction (not_label_isPrefix t hw hne .tx direction rest)
    (not_label_isPrefix t hw hne .rx direction rest)).bind _

theorem stops_hexText {bytes : List UInt8} (hne : bytes ≠ []) (rest : List Char) :
    Stops data.isSpace (hexText bytes ++ rest) := by
  obtain ⟨b, bytes, rfl⟩ := List.exists_cons_of_ne_nil hne
  rw [hexText_cons]
  exact stops_blank data (byteHex_isVisible b _ (List.mem_cons_self ..)) _

theorem search_ioFrame (t : LoggerText) (direction : Direction) {buf : List UInt8}
    (hmin : frameMinSize ≤ buf.length) (hmax : buf.length ≤ frameMaxSize) (freqHz preamble : ℕ) :
    ∃ s, search (ioFrameRe data)
        (t.line (logFrame (directionLabel direction) buf freqHz preamble)) =
          some (direction, decimal freqHz, s) ∧
      compact data.text s = (shownBytes buf).flatMap byteHex := by
  have hshown : 2 ≤ (shownBytes buf).length :=
    (by decide : 2 ≤ frameMinSize).trans (shownBytes_length_ge hmin)
  have hspace : Stops data.isSpace (maskText buf ++ t.tail) :=
    t.stops_maskText buf (data.isSpace_escape) (data.isSpace_of_isVisible (by decide))
  have hhex : Stops isHex (maskText buf ++ t.tail) :=
    t.stops_maskText buf (by decide) (by decide)
  obtain ⟨s, hbytes, hs⟩ := finds_hexBytes data hshown hspace hhex
  refine ⟨s, ?_, hs⟩
  rw [LoggerText.line, logFrame_eq _ hmin hmax]
  refine search_append (u := ' ' :: (maskText buf ++ t.tail))
    (fun w hw hwne => fails_ioFrame data t hw hwne direction _) ?_
  obtain ⟨cmd, hcmd⟩ := finds_command data (commandName_isValue (buf.getD frameCmdOffset 0))
    (buf.getD 1 0) (' ' :: (hexText (shownBytes buf) ++ (maskText buf ++ t.tail)))
  have hstop : Stops data.isSpace (commandText (commandName (buf.getD frameCmdOffset 0)).toList
      (ctrl1Flags (buf.getD 1 0))
      (' ' :: (hexText (shownBytes buf) ++ (maskText buf ++ t.tail)))) :=
    stops_blank data (by decide) _
  obtain ⟨pre, hpre⟩ := finds_preamble data preamble hstop (by
    rintro ⟨s, hs⟩
    exact absurd (List.cons.inj hs).1 (by decide))
  have hfirst := stops_hexText data (shownBytes_ne_nil hmin) (maskText buf ++ t.tail)
  unfold ioFrameRe
  refine (finds_direction direction _).bind ?_
  refine (finds_spaced data (w := "[") rfl (by decide) _).bind ?_
  refine (finds_decimal data buf.length (stops_decimal_blank data _)).bind ?_
  refine (finds_spaced data (w := "bytes]") rfl (by decide) _).bind ?_
  refine (finds_spaced data (w := "freq=") rfl (by decide) _).bind ?_
  refine (finds_decimal data freqHz (stops_decimal_blank data _)).bind ?_
  refine (finds_blank data (stops_preambleText data preamble hstop)).bind ?_
  refine hpre.bind ?_
  refine hcmd.bind ?_
  refine (finds_literal [':'] _).bind ?_
  refine (finds_blank data hfirst).bind ?_
  exact hbytes.bind (finds_pure _ _)

theorem noField_flags {x : Char} (ctrl1 : UInt8) :
    NoField x ((ctrl1Flags ctrl1).flatMap flagText) := by
  have hall : ∀ flag ∈ ["ACK", "LPM", "PRIO", "R", "B"], IsValue (flagText flag) := by decide
  exact noField_flatMap fun flag hflag => (hall flag (mem_of_mem_ctrl1Flags hflag)).noField

theorem noField_preambleText (preamble : ℕ) (h : NoField 'p' rest) :
    NoField 'p' (preambleText preamble rest) := by
  unfold preambleText
  split_ifs
  · exact (show NoField 'p' "preamble=".toList by decide).append
      ((noField_decimal preamble).append h.blank_cons)
  · exact h

theorem noField_directionLabel (direction : Direction) :
    NoField 'p' (directionLabel direction) := by
  cases direction with
  | tx => decide
  | rx => decide

/-- The line of a frame names no chip. -/
theorem noField_logFrame (direction : Direction) {buf : List UInt8}
    (hmin : frameMinSize ≤ buf.length) (hmax : buf.length ≤ frameMaxSize) (freqHz preamble : ℕ) :
    NoField 'p' (logFrame (directionLabel direction) buf freqHz preamble) := by
  have hend : NoField 'p' (hexText (shownBytes buf) ++ (maskText buf ++ [])) :=
    (noField_hexText _).append ((noField_maskText buf).append noField_nil)
  have hbytes := (show NoField 'p' [':'] by decide).append hend.blank_cons
  have hflags := (noField_flags (buf.getD 1 0)).append hbytes
  have hcmd := (show NoField 'p' "cmd=".toList by decide).append
    ((commandName_isValue (buf.getD frameCmdOffset 0)).noField.append hflags.blank_cons)
  have hpreamble := noField_preambleText preamble hcmd
  have hfreq := (show NoField 'p' "freq=".toList by decide).append
    ((noField_decimal freqHz).append hpreamble.blank_cons)
  have hsize := (show NoField 'p' "bytes]".toList by decide).append hfreq.blank_cons
  have hopen := (show NoField 'p' "[".toList by decide).append
    ((noField_decimal buf.length).append hsize.blank_cons)
  rw [← List.append_nil (logFrame ..), logFrame_eq _ hmin hmax]
  exact (noField_directionLabel direction).append hopen.blank_cons

/-- A frame line gives the bytes that it shows, always as verified. -/
theorem parseLogLine_frame (t : LoggerText) (f : PhysicalFrame) (freqHz preamble : ℕ) :
    ∃ e, parseLogLine data
        (t.line (logFrame (directionLabel f.direction) f.bytes freqHz preamble)) = .ok (some e) ∧
      e.IsOf data f false ∧ e.unverified = false := by
  have hline :=
    t.noField_line (noField_logFrame f.direction f.length_ge f.length_le freqHz preamble)
  have hchip : ¬ "chip=".toList <:+:
      t.line (logFrame (directionLabel f.direction) f.bytes freqHz preamble) :=
    hline.not_isInfix ⟨"chi".toList, [], rfl⟩
  obtain ⟨s, hfind, hs⟩ :=
    search_ioFrame data t f.direction f.length_ge f.length_le freqHz preamble
  rw [parseLogLine, (needs_ioCaptureWithFrame_chip data).search_eq_none hchip,
    (needs_ioCaptureNoFrame data).search_eq_none hchip, hfind]
  refine ⟨_, rfl, ⟨rfl, ?_, rfl, by simp⟩, rfl⟩
  rw [compact_strip, hs]

end

end HomeIoControl.Corpus
