import HomeIoControl.ExchangeEngine
import HomeIoControl.LogFrame
import HomeIoControl.TextScan

namespace HomeIoControl
open TextScan

/-! ## Options as text -/

inductive Sx1262RxBandwidth
  | bw58_6
  | bw78_2
  | bw117_3
  | bw156_2
  | bw187_2
  deriving DecidableEq, Repr

inductive Sx1276RxBandwidth
  | bw20_8
  | bw41_7
  | bw62_5
  | bw83_3
  | bw125_0
  deriving DecidableEq, Repr

/-- Tenths of a kilohertz. -/
def Sx1262RxBandwidth.khzTenths : Sx1262RxBandwidth → ℕ
  | .bw58_6 => 586
  | .bw78_2 => 782
  | .bw117_3 => 1173
  | .bw156_2 => 1562
  | .bw187_2 => 1872

def Sx1276RxBandwidth.khzTenths : Sx1276RxBandwidth → ℕ
  | .bw20_8 => 208
  | .bw41_7 => 417
  | .bw62_5 => 625
  | .bw83_3 => 833
  | .bw125_0 => 1250

/-- One place behind the point. -/
def khzText (tenths : ℕ) : List Char := decimal (tenths / 10) ++ '.' :: decimal (tenths % 10)

def sx1262BandwidthToString (bw : Sx1262RxBandwidth) : List Char := khzText bw.khzTenths

def sx1276BandwidthToString (bw : Sx1276RxBandwidth) : List Char := khzText bw.khzTenths

/-- `isspace` -/
def isSpaceChar (c : Char) : Bool := c == ' ' || decide (0x09 ≤ c.toNat) && decide (c.toNat ≤ 0x0D)

/-- Lower case, without blanks and without a unit at the end. -/
def normalizeBandwidth (value : List Char) : List Char :=
  let normalized := (value.filter (!isSpaceChar ·)).map Char.toLower
  let unitAt := normalized.length - 3
  if normalized.length > 3 ∧ normalized.drop unitAt = "khz".toList then normalized.take unitAt
  else normalized

/-- The first option that the text names, with or without the place behind the point. -/
def bandwidthFromString {β : Type} (options : List (String × String × β)) (value : List Char) :
    Option β :=
  (options.find? fun option =>
    normalizeBandwidth value = option.1.toList ∨
      normalizeBandwidth value = option.2.1.toList).map fun option => option.2.2

def sx1262BandwidthFromString (value : List Char) : Option Sx1262RxBandwidth :=
  bandwidthFromString [("58.6", "58", .bw58_6), ("78.2", "78", .bw78_2), ("117.3", "117", .bw117_3),
    ("156.2", "156", .bw156_2), ("187.2", "187", .bw187_2)] value

def sx1276BandwidthFromString (value : List Char) : Option Sx1276RxBandwidth :=
  bandwidthFromString [("20.8", "20", .bw20_8), ("41.7", "41", .bw41_7), ("62.5", "62", .bw62_5),
    ("83.3", "83", .bw83_3), ("125.0", "125", .bw125_0)] value

def discoveryCommandFromString (value : List Char) : Option DiscoveryCommand :=
  let normalized := value.map Char.toLower
  if normalized = "0x28".toList ∨ normalized = "discover".toList then some .discover
  else if normalized = "0x2a".toList ∨ normalized = "discover_spe".toList then some .discoverSpe
  else if normalized = "0x2e".toList ∨ normalized = "discover_alt".toList then some .discoverAlt
  else none

def discoveryCommandToString (cmd : DiscoveryCommand) : List Char := "0x".toList ++ byteHex cmd.byte

/-- A comma before every command but the first. -/
def discoveryCommandsToCsv (commands : List DiscoveryCommand) : List Char :=
  commands.zipIdx.foldl
    (fun result entry =>
      (if 0 < entry.2 then result ++ [','] else result) ++ discoveryCommandToString entry.1) []

def discoveryDestinationToString (destinationAuto : Bool) (destination : NodeId) : List Char :=
  if destinationAuto then "auto".toList
  else "0x".toList ++ destination.toList.flatMap byteHex

def discoveryPayloadToString (payloadEnabled : Bool) (payload : UInt8) : List Char :=
  if !payloadEnabled then "none".toList else "0x".toList ++ byteHex payload

/-! ## The list of commands -/

def isBlank (c : Char) : Bool := c == ' ' || c == '\t'

/-- Erases up to the first character that is no blank, then behind the last one. -/
def trimToken (token : List Char) : List Char :=
  let token := token.drop ((findFrom (!isBlank ·) 0 token).getD token.length)
  token.take (((findLast (!isBlank ·) token).map (· + 1)).getD 0)

def pushCommand (commands : List DiscoveryCommand) (token : List Char) : List DiscoveryCommand :=
  match discoveryCommandFromString (trimToken token) with
  | some cmd => commands ++ [cmd]
  | none => commands

/-- The tokens from a position on, up to the last comma or the end of the text. -/
def parseDiscoveryCommands (v : List Char) (start : ℕ) (commands : List DiscoveryCommand) :
    List DiscoveryCommand :=
  if start < v.length then
    match _ : findFrom (· == ',') start v with
    | none => pushCommand commands (v.drop start)
    | some comma =>
      parseDiscoveryCommands v (comma + 1)
        (pushCommand commands ((v.drop start).take (comma - start)))
  else commands
termination_by v.length - start
decreasing_by
  rename_i hcomma
  have hle := (findFrom_eq_some hcomma).1
  omega

/-! ## The table of parameters -/

/-- The tuning with the receive bandwidths of the two radios. -/
structure RuntimeTuning extends TuningConfig where
  sx1262RxBandwidth : Sx1262RxBandwidth := .bw117_3
  sx1276RxBandwidth : Sx1276RxBandwidth := .bw41_7
  deriving DecidableEq

/-- A setter also says whether it could read the option. -/
structure TuningSelectParam where
  name : String
  get : RuntimeTuning → List Char
  set : RuntimeTuning → List Char → RuntimeTuning × Bool
  appliesToRadio : Bool

def setSx1262RxBandwidth (t : RuntimeTuning) (v : List Char) : RuntimeTuning × Bool :=
  match sx1262BandwidthFromString v with
  | none => (t, false)
  | some bw => ({ t with sx1262RxBandwidth := bw }, true)

def setSx1276RxBandwidth (t : RuntimeTuning) (v : List Char) : RuntimeTuning × Bool :=
  match sx1276BandwidthFromString v with
  | none => (t, false)
  | some bw => ({ t with sx1276RxBandwidth := bw }, true)

def setDiscoveryCommands (t : RuntimeTuning) (v : List Char) : RuntimeTuning × Bool :=
  ({ t with pairingDiscoveryCommands := parseDiscoveryCommands v 0 [] }, true)

def setDiscoveryDestination (t : RuntimeTuning) (v : List Char) : RuntimeTuning × Bool :=
  if v = "auto".toList then ({ t with pairingDiscoveryDestinationAuto := true }, true)
  else if v = "0x00003B".toList then
    ({ t with
      pairingDiscoveryDestinationAuto := false
      pairingDiscoveryDestination := broadcastDiscover }, true)
  else if v = "0x00003F".toList then
    ({ t with
      pairingDiscoveryDestinationAuto := false
      pairingDiscoveryDestination := broadcastDiscoverAlt }, true)
  else (t, false)

def setDiscoveryPayload (t : RuntimeTuning) (v : List Char) : RuntimeTuning × Bool :=
  if v = "none".toList then ({ t with pairingDiscoveryPayloadEnabled := false }, true)
  else if v = "0x00".toList then
    ({ t with pairingDiscoveryPayloadEnabled := true, pairingDiscoveryPayload := 0 }, true)
  else (t, false)

def setDiscoveryLowPower (t : RuntimeTuning) (v : List Char) : RuntimeTuning × Bool :=
  ({ t with pairingDiscoveryLowPower := decide (v = "On".toList) }, true)

def selectParams : List TuningSelectParam :=
  [{ name := "sx1262_rx_bandwidth"
     get := fun t => sx1262BandwidthToString t.sx1262RxBandwidth
     set := setSx1262RxBandwidth
     appliesToRadio := true },
    { name := "sx1276_rx_bandwidth"
      get := fun t => sx1276BandwidthToString t.sx1276RxBandwidth
      set := setSx1276RxBandwidth
      appliesToRadio := true },
    { name := "pairing_discovery_commands"
      get := fun t => discoveryCommandsToCsv t.pairingDiscoveryCommands
      set := setDiscoveryCommands
      appliesToRadio := false },
    { name := "pairing_discovery_destination"
      get := fun t =>
        discoveryDestinationToString t.pairingDiscoveryDestinationAuto t.pairingDiscoveryDestination
      set := setDiscoveryDestination
      appliesToRadio := false },
    { name := "pairing_discovery_payload"
      get := fun t =>
        discoveryPayloadToString t.pairingDiscoveryPayloadEnabled t.pairingDiscoveryPayload
      set := setDiscoveryPayload
      appliesToRadio := false },
    { name := "pairing_discovery_low_power"
      get := fun t => if t.pairingDiscoveryLowPower then "On".toList else "Off".toList
      set := setDiscoveryLowPower
      appliesToRadio := false }]

def findTuningSelect (name : String) : Option TuningSelectParam :=
  selectParams.find? fun param => name == param.name

/-- The tuning, and whether the radio is set up again. -/
def updateTuningSelect (name : String) (value : List Char) (t : RuntimeTuning) :
    RuntimeTuning × Bool :=
  match findTuningSelect name with
  | none => (t, false)
  | some param => ((param.set t value).1, (param.set t value).2 && param.appliesToRadio)

def getTuningSelectValue (name : String) (t : RuntimeTuning) : List Char :=
  match findTuningSelect name with
  | none => []
  | some param => param.get t

end HomeIoControl
