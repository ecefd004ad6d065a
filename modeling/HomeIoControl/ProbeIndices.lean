import HomeIoControl.FrameRoundTrip
import HomeIoControl.RadioSoftPhy
import Mathlib.Data.Prod.Lex

namespace HomeIoControl
open BitStream

/-! ## The search on indices

The same functions as they address their buffers. An access outside of a buffer has no result. -/

namespace Indexed

def getBitMsb (data : List UInt8) (bitPos : ℕ) : Option Bool :=
  data[bitPos / 8]?.map fun b => b.toNat.testBit (7 - bitPos % 8)

/-- The data bits of the symbol at the position. -/
def dataBits (raw : List UInt8) (bitPos : ℕ) : Option (List Bool) :=
  (List.range 8).mapM fun index => getBitMsb raw (bitPos + 1 + index)

/-- A write behind the bytes that are decoded so far. -/
def store (decoded : List UInt8) (value : UInt8) : Option (List UInt8) :=
  if decoded.length < radioPacketBufferSize then some (decoded ++ [value]) else none

/-- The loop of the decoder, for a number of turns that has to suffice. -/
def decodeLoop (raw : List UInt8) (decodedMaxLen : ℕ) : ℕ → ℕ → List UInt8 → Option (List UInt8)
  | 0, _, _ => none
  | turns + 1, bitPos, decoded =>
    if bitPos + 10 ≤ raw.length * 8 ∧ decoded.length < decodedMaxLen then do
      let start ← getBitMsb raw bitPos
      let stop ← getBitMsb raw (bitPos + 9)
      if start != false || stop != true then return decoded
      let bits ← dataBits raw bitPos
      let decoded ← store decoded (ofBits bits)
      decodeLoop raw decodedMaxLen turns (bitPos + 10) decoded
    else some decoded

def decodeUartProbe (raw : List UInt8) (bitOffset decodedMaxLen : ℕ) : Option (List UInt8) :=
  decodeLoop raw decodedMaxLen (decodedMaxLen + 1) bitOffset []

def isCrcValidCandidate (decoded : List UInt8) (start candidateLen : ℕ) : Option Bool := do
  let bytes ← slice decoded start candidateLen
  match ← parse bytes with
  | none => return false
  | some frame =>
    if !isPlausibleUartFrame frame candidateLen then return false
    if start + candidateLen + 2 > decoded.length then return false
    let low ← decoded[start + candidateLen]?
    let high ← decoded[start + candidateLen + 1]?
    return crcCcitt bytes == low.toUInt16 ||| (high.toUInt16 <<< 8)

def findCrcValidFrame (decoded : List UInt8) : Option (Option (ℕ × ℕ)) :=
  (List.range decoded.length).findSomeM? fun start => do
    let len ← (candidateLengths (decoded.length - start)).findM? (isCrcValidCandidate decoded start)
    return len.map (start, ·)

def probeOffsets (raw : List UInt8) : List ℕ → UartProbeResult → Option UartProbeResult
  | [], best => some best
  | bitOffset :: rest, best => do
    let decoded ← decodeUartProbe raw bitOffset radioPacketBufferSize
    if decoded = [] then probeOffsets raw rest best
    else
      match ← findCrcValidFrame decoded with
      | some (frameStart, frameLen) =>
        return { valid := true, bitOffset, decoded, frameStart, frameLen }
      | none =>
        probeOffsets raw rest
          (if best.decoded.length < decoded.length ∧ best.valid = false then
            { best with bitOffset, decoded }
          else best)

def findUartProbe (raw : List UInt8) : Option UartProbeResult :=
  probeOffsets raw (List.range uartProbeMaxBitOffset) {}

/-! ## Reading the raw buffer -/

theorem reverse_byteBits_getElem? (b : UInt8) {j : ℕ} (h : j < 8) :
    (byteBits b).reverse[j]? = some (b.toNat.testBit (7 - j)) := by
  rw [List.getElem?_reverse (by simpa using h), byteBits_length, byteBits, List.getElem?_map,
    List.getElem?_range (by omega), Option.map_some, show 8 - 1 - j = 7 - j by omega]

theorem getBitMsb_eq {raw : List UInt8} {bitPos : ℕ} (h : bitPos < 8 * raw.length) :
    getBitMsb raw bitPos = (unpackMsb raw)[bitPos]? := by
  have hmod : bitPos % 8 < 8 := Nat.mod_lt _ (by decide)
  have hget := unpackMsb_getElem? raw (bitPos / 8) (bitPos % 8) (by omega) hmod
  have hbyte : raw[bitPos / 8]? = some (raw.getD (bitPos / 8) 0) :=
    getElem?_eq_getD (by omega) 0
  rw [Nat.div_add_mod, reverse_byteBits_getElem? _ hmod] at hget
  rw [hget, getBitMsb, hbyte, Option.map_some]

theorem mapM_of_forall {α β : Type} {f : α → Option β} {g : α → β} {l : List α}
    (h : ∀ a ∈ l, f a = some (g a)) : l.mapM f = some (l.map g) := by
  induction l with
  | nil => rfl
  | cons a l ih =>
    rw [List.mapM_cons, h a (by simp), ih fun b hb => h b (by simp [hb])]
    rfl

/-- Nothing outside of the buffer is read for a symbol that lies within it. -/
theorem dataBits_eq {raw : List UInt8} {bitPos : ℕ} (h : bitPos + 10 ≤ 8 * raw.length) :
    dataBits raw bitPos = some ((((unpackMsb raw).drop bitPos).drop 1).take 8) := by
  have hget (index : ℕ) (hindex : index < 8) : (unpackMsb raw)[bitPos + 1 + index]? =
      some ((unpackMsb raw).getD (bitPos + 1 + index) false) :=
    getElem?_eq_getD (by simp; omega) false
  have hbits : dataBits raw bitPos =
      some ((List.range 8).map fun index => (unpackMsb raw).getD (bitPos + 1 + index) false) := by
    apply mapM_of_forall
    intro index hindex
    rw [List.mem_range] at hindex
    rw [getBitMsb_eq (by omega), hget index hindex]
  rw [hbits, List.drop_drop]
  congr 1
  apply List.ext_getElem?
  intro index
  rw [List.getElem?_map, List.getElem?_take, List.getElem?_drop]
  split_ifs with hindex
  · rw [List.getElem?_range hindex, Option.map_some, hget index hindex]
  · rw [List.getElem?_eq_none (by simpa using hindex), Option.map_none]

/-- The loop goes on where the decoded bytes end. -/
theorem decodeLoop_eq (raw : List UInt8) {decodedMaxLen : ℕ}
    (hmax : decodedMaxLen ≤ radioPacketBufferSize) (turns bitPos : ℕ) (decoded : List UInt8)
    (hturns : decodedMaxLen + 1 = turns + decoded.length) (hroom : decoded.length ≤ decodedMaxLen) :
    decodeLoop raw decodedMaxLen turns bitPos decoded =
      some (decoded ++ decodeUart (decodedMaxLen - decoded.length)
        ((unpackMsb raw).drop bitPos)) := by
  induction turns generalizing bitPos decoded with
  | zero => omega
  | succ turns ih =>
    rw [decodeLoop]
    have hlength : ((unpackMsb raw).drop bitPos).length = 8 * raw.length - bitPos := by simp
    by_cases hloop : bitPos + 10 ≤ raw.length * 8 ∧ decoded.length < decodedMaxLen
    · obtain ⟨hbits, hspace⟩ := hloop
      have hget (index : ℕ) (hindex : index < 10) : getBitMsb raw (bitPos + index) =
          some (((unpackMsb raw).drop bitPos).getD index false) := by
        rw [getBitMsb_eq (by omega), ← List.getElem?_drop]
        exact getElem?_eq_getD (by omega) false
      have hstore (value : UInt8) : store decoded value = some (decoded ++ [value]) :=
        if_pos (by omega)
      have hstart : getBitMsb raw bitPos = some (((unpackMsb raw).drop bitPos).getD 0 false) :=
        hget 0 (by decide)
      rw [if_pos ⟨hbits, hspace⟩, hstart, hget 9 (by decide), dataBits_eq (by omega),
        show decodedMaxLen - decoded.length = (decodedMaxLen - (decoded.length + 1)) + 1 by omega,
        decodeUart, if_neg (by omega)]
      simp only [Option.bind_eq_bind, Option.bind_some, hstore]
      split_ifs
      · simp
      · rw [ih (bitPos + 10) _ (by simp; omega) (by simp; omega), List.drop_drop]
        simp
    · have hdone : decodeUart (decodedMaxLen - decoded.length) ((unpackMsb raw).drop bitPos) =
          [] := by
        cases hspace : decodedMaxLen - decoded.length with
        | zero => rfl
        | succ space => rw [decodeUart, if_pos (by omega)]
      rw [if_neg hloop, hdone, List.append_nil]

theorem decodeUartProbe_eq (raw : List UInt8) (bitOffset : ℕ) :
    decodeUartProbe raw bitOffset radioPacketBufferSize =
      some (HomeIoControl.decodeUartProbe raw bitOffset radioPacketBufferSize) := by
  rw [decodeUartProbe, decodeLoop_eq raw le_rfl _ _ _ rfl (Nat.zero_le _)]
  rfl

/-! ## Searching the decoded bytes -/

theorem isCrcValidCandidate_eq {decoded : List UInt8} {start len : ℕ}
    (h : start + len ≤ decoded.length) :
    isCrcValidCandidate decoded start len =
      some (HomeIoControl.isCrcValidCandidate (decoded.drop start) len) := by
  unfold isCrcValidCandidate HomeIoControl.isCrcValidCandidate slice
  rw [if_pos h]
  simp only [Option.bind_eq_bind, Option.bind_some, parse_eq]
  have hlength : (decoded.drop start).length = decoded.length - start := List.length_drop
  cases hparse : HomeIoControl.parse ((decoded.drop start).take len) with
  | none => rfl
  | some frame =>
    dsimp only
    cases hshape : isPlausibleUartFrame frame len with
    | false => rfl
    | true =>
      by_cases hfits : start + len + 2 ≤ decoded.length
      · have hget (index : ℕ) (hindex : index < decoded.length - start) :
            decoded[start + index]? = some ((decoded.drop start).getD index 0) := by
          rw [← List.getElem?_drop]
          exact getElem?_eq_getD (by omega) 0
        have hhigh := hget (len + 1) (by omega)
        rw [← Nat.add_assoc] at hhigh
        have hroom : len + 2 ≤ (decoded.drop start).length := by omega
        simp only [Bool.not_true, Bool.false_eq_true, if_false, if_neg (Nat.not_lt.2 hfits),
          hget len (by omega), hhigh, Option.bind_some, Bool.true_and, hroom, decide_true]
        rfl
      · have hroom : ¬len + 2 ≤ (decoded.drop start).length := by omega
        simp only [Bool.not_true, Bool.false_eq_true, if_false, if_pos (Nat.lt_of_not_le hfits),
          hroom, decide_false, Bool.and_false, Bool.false_and]
        rfl

/-- A search whose tests all have a result. -/
theorem findM?_of_forall {α : Type} {f : α → Option Bool} {g : α → Bool} {l : List α}
    (h : ∀ a ∈ l, f a = some (g a)) : l.findM? f = some (l.find? g) := by
  induction l with
  | nil => rfl
  | cons a l ih =>
    rw [List.findM?, h a (by simp), List.find?_cons]
    cases hfound : g a with
    | true => rfl
    | false => exact ih fun b hb => h b (by simp [hb])

theorem findSomeM?_of_forall {α β : Type} {f : α → Option (Option β)} {g : α → Option β}
    {l : List α} (h : ∀ a ∈ l, f a = some (g a)) : l.findSomeM? f = some (l.findSome? g) := by
  induction l with
  | nil => rfl
  | cons a l ih =>
    rw [List.findSomeM?_cons, h a (by simp), List.findSome?_cons]
    cases hfound : g a with
    | some b => rfl
    | none => exact ih fun b hb => h b (by simp [hb])

theorem findCrcValidFrame_eq (decoded : List UInt8) :
    findCrcValidFrame decoded = some (HomeIoControl.findCrcValidFrame decoded) := by
  unfold findCrcValidFrame HomeIoControl.findCrcValidFrame
  apply findSomeM?_of_forall
  intro start hstart
  have hfind : (candidateLengths (decoded.length - start)).findM?
      (isCrcValidCandidate decoded start) =
      some ((candidateLengths (decoded.length - start)).find?
        (HomeIoControl.isCrcValidCandidate (decoded.drop start))) := by
    apply findM?_of_forall
    intro len hlen
    apply isCrcValidCandidate_eq
    simp only [candidateLengths, List.mem_reverse, List.mem_range'_1, frameMinSize, frameMaxSize]
      at hlen
    rw [List.mem_range] at hstart
    omega
  rw [hfind]
  rfl

/-- The search touches nothing outside of its buffers. -/
theorem findUartProbe_eq (raw : List UInt8) :
    findUartProbe raw = some (HomeIoControl.findUartProbe raw) := by
  unfold findUartProbe HomeIoControl.findUartProbe
  generalize List.range uartProbeMaxBitOffset = offsets
  generalize ({} : UartProbeResult) = best
  induction offsets generalizing best with
  | nil => rfl
  | cons bitOffset rest ih =>
    rw [probeOffsets, HomeIoControl.probeOffsets, decodeUartProbe_eq]
    simp only [Option.bind_eq_bind, Option.bind_some]
    by_cases hempty : HomeIoControl.decodeUartProbe raw bitOffset radioPacketBufferSize = []
    · rw [if_pos hempty, if_pos hempty]
      exact ih best
    · rw [if_neg hempty, if_neg hempty, findCrcValidFrame_eq, Option.bind_some]
      cases HomeIoControl.findCrcValidFrame
          (HomeIoControl.decodeUartProbe raw bitOffset radioPacketBufferSize) with
      | some found => rfl
      | none => exact ih _

end Indexed

/-! ## The first match -/

theorem decodeUart_length_le (n : ℕ) (bits : List Bool) : (decodeUart n bits).length ≤ n := by
  induction n generalizing bits with
  | zero => exact Nat.le_refl 0
  | succ n ih =>
    rw [decodeUart]
    split_ifs
    · exact Nat.zero_le _
    · exact Nat.zero_le _
    · exact Nat.succ_le_succ (ih _)

theorem probeOffsets_decoded_length_le (raw : List UInt8) (offsets : List ℕ)
    (best : UartProbeResult) (h : best.decoded.length ≤ radioPacketBufferSize) :
    (probeOffsets raw offsets best).decoded.length ≤ radioPacketBufferSize := by
  induction offsets generalizing best with
  | nil => exact h
  | cons bitOffset rest ih =>
    have hdecoded : (decodeUartProbe raw bitOffset radioPacketBufferSize).length ≤
        radioPacketBufferSize := decodeUart_length_le _ _
    rw [probeOffsets]
    by_cases hempty : decodeUartProbe raw bitOffset radioPacketBufferSize = []
    · rw [if_pos hempty]
      exact ih best h
    · rw [if_neg hempty]
      cases findCrcValidFrame (decodeUartProbe raw bitOffset radioPacketBufferSize) with
      | some found => exact hdecoded
      | none =>
        apply ih
        split_ifs
        · exact hdecoded
        · exact h

/-- No confirmed frame comes before the first one in the order of offsets and starts. -/
theorem IsFirstFrame.least {raw : List UInt8} {bitOffset start len o s l : ℕ} {frame : IoFrame}
    (h : IsFirstFrame raw bitOffset start len)
    (hframe : IsFrameAt (decodeUartProbe raw o radioPacketBufferSize) s l frame) :
    toLex (bitOffset, start) ≤ toLex (o, s) := by
  rw [Prod.Lex.toLex_le_toLex]
  rcases lt_trichotomy bitOffset o with hlt | rfl | hlt
  · exact .inl hlt
  · refine .inr ⟨rfl, Nat.le_of_not_lt fun hlt => ?_⟩
    exact h.first_start s hlt l frame hframe
  · exact absurd hframe (h.first_offset o hlt s l frame)

/-- The probe is valid exactly when some offset decodes to a stream with a confirmed frame. Its
result is then the first one, within the decoded bytes, and no access leaves its buffer. -/
theorem findUartProbe_first_match (raw : List UInt8) :
    ((findUartProbe raw).valid = true ↔
      ∃ bitOffset < uartProbeMaxBitOffset, ∃ start len frame,
        IsFrameAt (decodeUartProbe raw bitOffset radioPacketBufferSize) start len frame) ∧
      ((findUartProbe raw).valid = true →
        let r := findUartProbe raw
        r.bitOffset < uartProbeMaxBitOffset ∧
          r.decoded = decodeUartProbe raw r.bitOffset radioPacketBufferSize ∧
          (∃ frame, IsFrameAt r.decoded r.frameStart r.frameLen frame) ∧
          r.frameStart + r.frameLen + 2 ≤ r.decoded.length ∧
          ∀ o < uartProbeMaxBitOffset, ∀ s l frame,
            IsFrameAt (decodeUartProbe raw o radioPacketBufferSize) s l frame →
            toLex (r.bitOffset, r.frameStart) ≤ toLex (o, s)) ∧
      Indexed.findUartProbe raw = some (findUartProbe raw) ∧
      (findUartProbe raw).decoded.length ≤ radioPacketBufferSize := by
  refine ⟨findUartProbe_valid_iff raw, ?_, Indexed.findUartProbe_eq raw,
    probeOffsets_decoded_length_le raw _ _ (Nat.zero_le _)⟩
  intro hvalid
  obtain ⟨hfirst, hdecoded⟩ := findUartProbe_first raw hvalid
  obtain ⟨frame, hframe⟩ := findUartProbe_frame raw hvalid
  exact ⟨hfirst.offset_lt, hdecoded, ⟨frame, hframe⟩, hframe.fits,
    fun o _ s l frame hother => hfirst.least hother⟩

end HomeIoControl
