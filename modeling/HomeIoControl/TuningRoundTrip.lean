import HomeIoControl.TuningRegistry

namespace HomeIoControl
open TextScan

/-! ## The setter reads what the getter writes -/

theorem trimToken_eq (token : List Char) : trimToken token = trim isBlank token := by
  unfold trimToken
  dsimp only
  rw [take_findLast, drop_findFrom, trim]

theorem pushCommand_eq (commands : List DiscoveryCommand) (token : List Char) :
    pushCommand commands token =
      commands ++ (discoveryCommandFromString (trim isBlank token)).toList := by
  unfold pushCommand
  rw [trimToken_eq]
  cases discoveryCommandFromString (trim isBlank token) with
  | none => exact (List.append_nil commands).symm
  | some cmd => rfl

/-- What the tokens of a text mean, token by token. -/
def tokenCommands (tokens : List (List Char)) : List DiscoveryCommand :=
  tokens.filterMap fun token => discoveryCommandFromString (trim isBlank token)

theorem tokenCommands_cons (token : List Char) (tokens : List (List Char)) :
    tokenCommands (token :: tokens) =
      (discoveryCommandFromString (trim isBlank token)).toList ++ tokenCommands tokens := by
  unfold tokenCommands
  rw [List.filterMap_cons]
  cases discoveryCommandFromString (trim isBlank token) <;> rfl

/-- An empty text has one token, which is no command. -/
theorem tokenCommands_blank : tokenCommands [[]] = [] := by decide

theorem parseDiscoveryCommands_eq (v : List Char) (start : ℕ)
    (commands : List DiscoveryCommand) :
    parseDiscoveryCommands v start commands =
      commands ++ tokenCommands ((v.drop start).splitOn ',') := by
  fun_induction parseDiscoveryCommands v start commands with
  | case1 start commands hlt hcomma =>
    rw [pushCommand_eq, splitOn_of_findFrom_none hcomma, tokenCommands_cons]
    exact congrArg _ (List.append_nil _).symm
  | case2 start commands hlt comma hcomma ih =>
    rw [ih, pushCommand_eq, splitOn_of_findFrom hcomma, tokenCommands_cons, List.append_assoc]
  | case3 start commands hge =>
    rw [List.drop_eq_nil_of_le (by omega), List.splitOn_nil, tokenCommands_blank, List.append_nil]

theorem parseDiscoveryCommands_intercalate {tokens : List (List Char)}
    (h : ∀ token ∈ tokens, ',' ∉ token) :
    parseDiscoveryCommands ([','].intercalate tokens) 0 [] = tokenCommands tokens := by
  rw [parseDiscoveryCommands_eq, List.nil_append, List.drop_zero]
  cases tokens with
  | nil => exact tokenCommands_blank
  | cons token tokens => rw [List.splitOn_intercalate ',' h (List.cons_ne_nil _ _)]

/-- A comma before every entry but the first. -/
theorem foldl_zipIdx_commas (l : List DiscoveryCommand) (k : ℕ) (hk : 0 < k)
    (result : List Char) :
    (l.zipIdx k).foldl (fun result entry =>
        (if 0 < entry.2 then result ++ [','] else result) ++ discoveryCommandToString entry.1)
      result = result ++ l.flatMap fun cmd => ',' :: discoveryCommandToString cmd := by
  induction l generalizing k result with
  | nil => exact (List.append_nil result).symm
  | cons cmd l ih =>
    rw [List.zipIdx_cons, List.foldl_cons, ih (k + 1) (by omega), List.flatMap_cons]
    simp [hk]

theorem discoveryCommandsToCsv_eq (commands : List DiscoveryCommand) :
    discoveryCommandsToCsv commands =
      [','].intercalate (commands.map discoveryCommandToString) := by
  unfold discoveryCommandsToCsv
  cases commands with
  | nil => rfl
  | cons cmd commands =>
    rw [List.zipIdx_cons, List.foldl_cons, foldl_zipIdx_commas _ _ (by omega), List.map_cons,
      intercalate_cons, List.flatMap_map]
    rfl

theorem discoveryCommandToString_chars (cmd : DiscoveryCommand) :
    (discoveryCommandToString cmd).all fun c => !isBlank c && c != ',' := by
  cases cmd <;> decide

theorem discoveryCommandFromString_toString (cmd : DiscoveryCommand) :
    discoveryCommandFromString (discoveryCommandToString cmd) = some cmd := by
  cases cmd <;> decide

theorem trim_toString (cmd : DiscoveryCommand) :
    trim isBlank (discoveryCommandToString cmd) = discoveryCommandToString cmd := by
  apply trim_of_none
  intro c hc
  have hchars := List.all_eq_true.1 (discoveryCommandToString_chars cmd) c hc
  simpa using (Bool.and_eq_true_iff.1 hchars).1

theorem comma_not_mem_toString (cmd : DiscoveryCommand) : ',' ∉ discoveryCommandToString cmd := by
  intro hc
  have hchars := List.all_eq_true.1 (discoveryCommandToString_chars cmd) ',' hc
  simp at hchars

theorem tokenCommands_toString (commands : List DiscoveryCommand) :
    tokenCommands (commands.map discoveryCommandToString) = commands := by
  induction commands with
  | nil => rfl
  | cons cmd commands ih =>
    rw [List.map_cons, tokenCommands_cons, trim_toString, discoveryCommandFromString_toString, ih]
    rfl

theorem parseDiscoveryCommands_csv (commands : List DiscoveryCommand) :
    parseDiscoveryCommands (discoveryCommandsToCsv commands) 0 [] = commands := by
  rw [discoveryCommandsToCsv_eq, parseDiscoveryCommands_intercalate, tokenCommands_toString]
  intro token htoken
  obtain ⟨cmd, -, rfl⟩ := List.mem_map.1 htoken
  exact comma_not_mem_toString cmd

/-! ## Blanks around a token -/

/-- A token between commas, with blanks before and behind it. -/
structure PaddedToken where
  left : List Char
  token : List Char
  right : List Char
  left_blank : ∀ c ∈ left, isBlank c
  right_blank : ∀ c ∈ right, isBlank c
  no_comma : ',' ∉ token

namespace PaddedToken

def text (p : PaddedToken) : List Char := p.left ++ p.token ++ p.right

theorem comma_not_mem_text (p : PaddedToken) : ',' ∉ p.text := by
  intro h
  rcases List.mem_append.1 h with h | h
  · rcases List.mem_append.1 h with h | h
    · exact absurd (p.left_blank _ h) (by decide)
    · exact p.no_comma h
  · exact absurd (p.right_blank _ h) (by decide)

theorem trim_text (p : PaddedToken) : trim isBlank p.text = trim isBlank p.token :=
  trim_pad p.left_blank p.right_blank p.token

end PaddedToken

theorem tokenCommands_padded (tokens : List PaddedToken) :
    tokenCommands (tokens.map PaddedToken.text) = tokenCommands (tokens.map PaddedToken.token) := by
  induction tokens with
  | nil => rfl
  | cons p tokens ih =>
    rw [List.map_cons, List.map_cons, tokenCommands_cons, tokenCommands_cons, p.trim_text, ih]

theorem parseDiscoveryCommands_padded (tokens : List PaddedToken) :
    parseDiscoveryCommands ([','].intercalate (tokens.map PaddedToken.text)) 0 [] =
      parseDiscoveryCommands ([','].intercalate (tokens.map PaddedToken.token)) 0 [] := by
  rw [parseDiscoveryCommands_intercalate, parseDiscoveryCommands_intercalate, tokenCommands_padded]
  · intro token htoken
    obtain ⟨p, -, rfl⟩ := List.mem_map.1 htoken
    exact p.no_comma
  · intro token htoken
    obtain ⟨p, -, rfl⟩ := List.mem_map.1 htoken
    exact p.comma_not_mem_text

/-! ## Selecting the option that is shown -/

theorem setSx1262RxBandwidth_get (t : RuntimeTuning) :
    setSx1262RxBandwidth t (sx1262BandwidthToString t.sx1262RxBandwidth) = (t, true) := by
  have hread : ∀ bw, sx1262BandwidthFromString (sx1262BandwidthToString bw) = some bw := by
    intro bw
    cases bw <;> decide
  unfold setSx1262RxBandwidth
  rw [hread]

theorem setSx1276RxBandwidth_get (t : RuntimeTuning) :
    setSx1276RxBandwidth t (sx1276BandwidthToString t.sx1276RxBandwidth) = (t, true) := by
  have hread : ∀ bw, sx1276BandwidthFromString (sx1276BandwidthToString bw) = some bw := by
    intro bw
    cases bw <;> decide
  unfold setSx1276RxBandwidth
  rw [hread]

theorem setDiscoveryCommands_get (t : RuntimeTuning) :
    setDiscoveryCommands t (discoveryCommandsToCsv t.pairingDiscoveryCommands) = (t, true) := by
  unfold setDiscoveryCommands
  rw [parseDiscoveryCommands_csv]

theorem discoveryDestinationToString_explicit (destination : NodeId) :
    discoveryDestinationToString false destination =
      "0x".toList ++ destination.toList.flatMap byteHex := rfl

theorem eq_of_discoveryDestinationToString {destination destination' : NodeId}
    (h : discoveryDestinationToString false destination =
      discoveryDestinationToString false destination') : destination = destination' := by
  rw [discoveryDestinationToString_explicit, discoveryDestinationToString_explicit,
    List.append_cancel_left_eq] at h
  exact Vector.toList_inj.1 (flatMap_byteHex_injective h)

theorem setDiscoveryDestination_auto (t : RuntimeTuning)
    (hauto : t.pairingDiscoveryDestinationAuto = true) :
    setDiscoveryDestination t "auto".toList = (t, true) := by
  rw [setDiscoveryDestination, if_pos rfl, ← hauto]

/-- A destination that is no option stays as it is. -/
theorem setDiscoveryDestination_explicit (t : RuntimeTuning)
    (hauto : t.pairingDiscoveryDestinationAuto = false) :
    (setDiscoveryDestination t
      (discoveryDestinationToString false t.pairingDiscoveryDestination)).1 = t := by
  have hdiscover : "0x00003B".toList = discoveryDestinationToString false broadcastDiscover := rfl
  have halt : "0x00003F".toList = discoveryDestinationToString false broadcastDiscoverAlt := rfl
  have hname :
      discoveryDestinationToString false t.pairingDiscoveryDestination ≠ "auto".toList := by
    intro h
    exact absurd (congrArg List.head? h) (by simp [discoveryDestinationToString_explicit])
  rw [setDiscoveryDestination, if_neg hname]
  split_ifs with h h
  · rw [hdiscover] at h
    rw [← eq_of_discoveryDestinationToString h, ← hauto]
  · rw [halt] at h
    rw [← eq_of_discoveryDestinationToString h, ← hauto]
  · rfl

theorem setDiscoveryDestination_get (t : RuntimeTuning) :
    (setDiscoveryDestination t (discoveryDestinationToString t.pairingDiscoveryDestinationAuto
      t.pairingDiscoveryDestination)).1 = t := by
  cases hauto : t.pairingDiscoveryDestinationAuto with
  | true => exact congrArg Prod.fst (setDiscoveryDestination_auto t hauto)
  | false => exact setDiscoveryDestination_explicit t hauto

/-- Nor is a payload read back that is no option. -/
theorem setDiscoveryPayload_get (t : RuntimeTuning) :
    (setDiscoveryPayload t
      (discoveryPayloadToString t.pairingDiscoveryPayloadEnabled t.pairingDiscoveryPayload)).1 =
      t := by
  cases henabled : t.pairingDiscoveryPayloadEnabled with
  | false =>
    rw [discoveryPayloadToString, if_pos (by decide), setDiscoveryPayload, if_pos rfl, ← henabled]
  | true =>
    have hname : "0x".toList ++ byteHex t.pairingDiscoveryPayload ≠ "none".toList := by
      intro h
      exact absurd (congrArg List.head? h) (by simp)
    rw [discoveryPayloadToString, if_neg (by decide), setDiscoveryPayload, if_neg hname]
    split_ifs with h
    · have hzero : "0x00".toList = "0x".toList ++ byteHex 0 := rfl
      rw [hzero, List.append_cancel_left_eq] at h
      rw [← byteHex_injective h, ← henabled]
    · rfl

theorem setDiscoveryLowPower_get (t : RuntimeTuning) :
    setDiscoveryLowPower t (if t.pairingDiscoveryLowPower then "On".toList else "Off".toList) =
      (t, true) := by
  have hread : ∀ b : Bool,
      decide ((if b then "On".toList else "Off".toList) = "On".toList) = b := by
    decide
  rw [setDiscoveryLowPower, hread]

/-- No parameter changes when the option that its getter shows is selected. -/
theorem selectParams_set_get (t : RuntimeTuning) :
    ∀ param ∈ selectParams, (param.set t (param.get t)).1 = t := by
  unfold selectParams
  rw [List.forall_mem_cons, List.forall_mem_cons, List.forall_mem_cons, List.forall_mem_cons,
    List.forall_mem_cons, List.forall_mem_singleton]
  exact ⟨congrArg Prod.fst (setSx1262RxBandwidth_get t),
    congrArg Prod.fst (setSx1276RxBandwidth_get t),
    congrArg Prod.fst (setDiscoveryCommands_get t), setDiscoveryDestination_get t,
    setDiscoveryPayload_get t, congrArg Prod.fst (setDiscoveryLowPower_get t)⟩

/-- Nor does the tuning change when the option that is shown is selected, whatever the name. -/
theorem updateTuningSelect_get (name : String) (t : RuntimeTuning) :
    (updateTuningSelect name (getTuningSelectValue name t) t).1 = t := by
  unfold updateTuningSelect getTuningSelectValue
  cases hfind : findTuningSelect name with
  | none => rfl
  | some param => exact selectParams_set_get t param (List.mem_of_find?_eq_some hfind)

/-- The setter of the discovery commands reads back what the getter writes, and does not see blanks
around a token. -/
theorem pairingDiscoveryCommands_roundTrip :
    ∃ param, findTuningSelect "pairing_discovery_commands" = some param ∧
      (∀ t, param.set t (param.get t) = (t, true)) ∧
      ∀ (t : RuntimeTuning) (tokens : List PaddedToken),
        param.set t ([','].intercalate (tokens.map PaddedToken.text)) =
          param.set t ([','].intercalate (tokens.map PaddedToken.token)) := by
  refine ⟨_, rfl, setDiscoveryCommands_get, fun t tokens => ?_⟩
  exact congrArg
    (fun commands => ({ t with pairingDiscoveryCommands := commands }, true))
    (parseDiscoveryCommands_padded tokens)

end HomeIoControl
