import HomeIoControl.CorpusCrypto

namespace HomeIoControl.Corpus

inductive Direction
  | tx
  | rx
  deriving DecidableEq, Repr

/-- What finders and checks read of a frame. -/
structure Frame where
  direction : Direction
  raw : List UInt8
  deriving DecidableEq, Repr

/-! ## CRC -/

/-- Two bytes more than announced can only be a CRC. -/
def Frame.crcPresent (f : Frame) : Bool :=
  match f.raw with
  | [] => false
  | ctrl0 :: _ => f.raw.length == ctrl0ImpliedLength ctrl0 + 2

def nonCrcBytes (f : Frame) : List UInt8 :=
  if f.crcPresent then f.raw.take (f.raw.length - 2) else f.raw

/-- The bytes are as many as the first of them announces. -/
def Frame.WellSized (f : Frame) : Prop := f.raw.length = ctrl0ImpliedLength (f.raw.getD 0 0)

theorem Frame.WellSized.crcPresent {f : Frame} (h : f.WellSized) : f.crcPresent = false := by
  obtain ⟨direction, raw⟩ := f
  cases raw with
  | nil => rfl
  | cons ctrl0 raw =>
    simp only [Frame.WellSized, List.getD_cons_zero] at h
    simp only [Frame.crcPresent, h, beq_eq_false_iff_ne]
    omega

theorem nonCrcBytes_of_not_crcPresent {f : Frame} (h : f.crcPresent = false) :
    nonCrcBytes f = f.raw := by
  rw [nonCrcBytes, h, if_neg Bool.false_ne_true]

/-- The trailing CRC, low byte first. -/
def crcBytes (data : List UInt8) : List UInt8 :=
  [UInt8.ofNat (crcCcitt data &&& 0xFF), UInt8.ofNat ((crcCcitt data >>> 8) &&& 0xFF)]

/-- Replaces the bytes of a frame, with a fresh CRC if the old bytes had one. -/
def setFrameRaw (f : Frame) (newNonCrcBytes : List UInt8) : Frame :=
  { f with
    raw := if f.crcPresent then newNonCrcBytes ++ crcBytes newNonCrcBytes else newNonCrcBytes }

/-! ## Exchanges in a capture -/

def frameCmd (f : Frame) : Option UInt8 :=
  if frameMinSize ≤ f.raw.length then f.raw[8]? else none

/-- All that the finders look at: the direction, and the command unless the frame is too short. -/
structure Kind where
  direction : Direction
  cmd : Option UInt8
  deriving DecidableEq, Repr

def Frame.kind (f : Frame) : Kind := ⟨f.direction, frameCmd f⟩

/-- A frame whose command says nothing is skipped. -/
def Kind.is (k : Kind) (direction : Direction) (cmd : UInt8) : Bool :=
  k.direction == direction && k.cmd == some cmd

/-- The scan from a place downwards: first to a received challenge, from there to its origin. -/
def scanBack (isOrigin : Kind → Bool) (kinds : List Kind) : Option ℕ → ℕ → Option (ℕ × ℕ)
  | _, 0 => none
  | none, j + 1 =>
    if kinds[j]?.any (Kind.is · .rx cmdChallengeReq) then scanBack isOrigin kinds (some j) j
    else scanBack isOrigin kinds none j
  | some c, j + 1 =>
    if kinds[j]?.any fun k => k.cmd.isSome && isOrigin k then some (j, c)
    else scanBack isOrigin kinds (some c) j

/-- Places of the three frames of one exchange. -/
structure Triple where
  origin : ℕ
  challenge : ℕ
  closing : ℕ
  deriving DecidableEq, Repr

/-- The exchange that the frame at a place closes. -/
def tripleAt (cmd : UInt8) (isOrigin : Kind → Bool) (kinds : List Kind) (i : ℕ) : Option Triple :=
  if kinds[i]?.any (Kind.is · .tx cmd) then
    (scanBack isOrigin kinds none i).map fun found => ⟨found.1, found.2, i⟩
  else none

def findTriples (cmd : UInt8) (isOrigin : Kind → Bool) (frames : List Frame) : List Triple :=
  (List.range frames.length).filterMap (tripleAt cmd isOrigin (frames.map Frame.kind))

/-- Any transmitted frame can be challenged. -/
def isChallenged (k : Kind) : Bool := k.direction == .tx

def isKeyInit (k : Kind) : Bool := k.is .tx cmdKeyInit

def findChallengeResponseTriples (frames : List Frame) : List Triple :=
  findTriples cmdChallengeResp isChallenged frames

def findKeyTransferTriples (frames : List Frame) : List Triple :=
  findTriples cmdKeyTransfer isKeyInit frames

/-! ## Bytes under the cipher -/

/-- The bytes behind the header, as many as are there. -/
def field (raw : List UInt8) (size : ℕ) : List UInt8 := (raw.drop frameMinSize).take size

structure HmacParts where
  transcript : List UInt8
  challenge : List UInt8
  hmac : List UInt8
  deriving DecidableEq, Repr

structure KeyTransferParts where
  keyInitCmd : List UInt8
  challenge : List UInt8
  encryptedPayload : List UInt8
  deriving DecidableEq, Repr

def hmacParts (origin challenge response : Frame) : Except Failure HmacParts :=
  match (nonCrcBytes origin)[8]? with
  | none => .error .indexError
  | some cmd =>
    .ok { transcript := cmd :: (nonCrcBytes origin).drop frameMinSize
          challenge := field (nonCrcBytes challenge) hmacSize
          hmac := field (nonCrcBytes response) hmacSize }

def keyTransferParts (keyInit challenge transfer : Frame) : KeyTransferParts where
  keyInitCmd := ((nonCrcBytes keyInit).drop 8).take 1
  challenge := field (nonCrcBytes challenge) hmacSize
  encryptedPayload := field (nonCrcBytes transfer) aesKeySize

/-- The public key of the corpus. -/
def corpusSystemKey : AesKey :=
  #v[0xDE, 0xCA, 0xFC, 0x0F, 0xFE, 0xE0, 0xFF, 0x1C, 0xEB, 0xAD, 0xBE, 0xEF, 0xF0, 0x0D, 0xBA, 0x11]

/-! ## What the scan finds -/

section
variable {isOrigin : Kind → Bool} {kinds : List Kind}

theorem scanBack_of_challenge {c n o c' : ℕ}
    (h : scanBack isOrigin kinds (some c) n = some (o, c')) :
    c' = c ∧ o < n ∧ ∃ k, kinds[o]? = some k ∧ k.cmd.isSome = true ∧ isOrigin k = true := by
  induction n with
  | zero => cases h
  | succ j ih =>
    rw [scanBack] at h
    split_ifs at h with horigin
    · obtain ⟨k, hk, hcond⟩ := (Option.any_eq_true _ _).1 horigin
      rw [Bool.and_eq_true] at hcond
      cases h
      exact ⟨rfl, Nat.lt_succ_self _, k, hk, hcond⟩
    · obtain ⟨hc, ho, hk⟩ := ih h
      exact ⟨hc, Nat.lt_succ_of_lt ho, hk⟩

/-- Origin, challenge and closing frame stand in this order. -/
theorem scanBack_sound {n o c : ℕ} (h : scanBack isOrigin kinds none n = some (o, c)) :
    o < c ∧ c < n ∧ (∃ k, kinds[c]? = some k ∧ k.is .rx cmdChallengeReq = true) ∧
      ∃ k, kinds[o]? = some k ∧ k.cmd.isSome = true ∧ isOrigin k = true := by
  induction n with
  | zero => cases h
  | succ j ih =>
    rw [scanBack] at h
    split_ifs at h with hchallenge
    · obtain ⟨rfl, ho, hk⟩ := scanBack_of_challenge h
      exact ⟨ho, Nat.lt_succ_self _, (Option.any_eq_true _ _).1 hchallenge, hk⟩
    · obtain ⟨ho, hc, hk⟩ := ih h
      exact ⟨ho, Nat.lt_succ_of_lt hc, hk⟩

theorem scanBack_isSome_of_origin {c o n : ℕ} {k : Kind} (ho : o < n) (hk : kinds[o]? = some k)
    (hcmd : k.cmd.isSome = true) (horigin : isOrigin k = true) :
    (scanBack isOrigin kinds (some c) n).isSome = true := by
  induction n with
  | zero => omega
  | succ j ih =>
    rw [scanBack]
    split_ifs with hj
    · rfl
    · apply ih
      rcases Nat.lt_succ_iff_lt_or_eq.1 ho with ho | rfl
      · exact ho
      · rw [hk, Option.any_some, hcmd, horigin] at hj
        exact absurd rfl hj

/-- Wherever an origin precedes a challenge the scan ends in a triple, though perhaps with a later
challenge and a later origin. -/
theorem scanBack_isSome {o c n : ℕ} {k k' : Kind} (hoc : o < c) (hc : c < n)
    (hk : kinds[o]? = some k) (hcmd : k.cmd.isSome = true) (horigin : isOrigin k = true)
    (hk' : kinds[c]? = some k') (hchallenge : k'.is .rx cmdChallengeReq = true) :
    (scanBack isOrigin kinds none n).isSome = true := by
  induction n with
  | zero => omega
  | succ j ih =>
    rw [scanBack]
    split_ifs with hj
    · exact scanBack_isSome_of_origin (by omega) hk hcmd horigin
    · apply ih
      rcases Nat.lt_succ_iff_lt_or_eq.1 hc with hc | rfl
      · exact hc
      · rw [hk', Option.any_some, hchallenge] at hj
        exact absurd rfl hj

end

theorem Kind.is_iff {k : Kind} {direction : Direction} {cmd : UInt8} :
    k.is direction cmd = true ↔ k.direction = direction ∧ k.cmd = some cmd := by
  rw [Kind.is, Bool.and_eq_true, beq_iff_eq, beq_iff_eq]

/-- The three frames of an exchange that was found. -/
structure Exchange (cmd : UInt8) (isOrigin : Kind → Bool) (frames : List Frame) (t : Triple) where
  origin : Frame
  challenge : Frame
  closing : Frame
  origin_lt : t.origin < t.challenge
  challenge_lt : t.challenge < t.closing
  getElem_origin : frames[t.origin]? = some origin
  getElem_challenge : frames[t.challenge]? = some challenge
  getElem_closing : frames[t.closing]? = some closing
  isSome_origin : (frameCmd origin).isSome = true
  isOrigin_origin : isOrigin origin.kind = true
  is_challenge : challenge.kind.is .rx cmdChallengeReq = true
  is_closing : closing.kind.is .tx cmd = true

theorem exists_exchange {cmd : UInt8} {isOrigin : Kind → Bool} {frames : List Frame} {i : ℕ}
    {t : Triple} (h : tripleAt cmd isOrigin (frames.map Frame.kind) i = some t) :
    t.closing = i ∧ Nonempty (Exchange cmd isOrigin frames t) := by
  unfold tripleAt at h
  split_ifs at h with hclosing
  obtain ⟨⟨o, c⟩, hfound, rfl⟩ := Option.map_eq_some_iff.1 h
  obtain ⟨hoc, hci, ⟨k, hk, hchallenge⟩, k', hk', hcmd, horigin⟩ := scanBack_sound hfound
  rw [List.getElem?_map] at hk hk' hclosing
  obtain ⟨challenge, hc, rfl⟩ := Option.map_eq_some_iff.1 hk
  obtain ⟨origin, ho, rfl⟩ := Option.map_eq_some_iff.1 hk'
  obtain ⟨k, hk, hclosing⟩ := (Option.any_eq_true _ _).1 hclosing
  obtain ⟨closing, hi, rfl⟩ := Option.map_eq_some_iff.1 hk
  exact ⟨rfl, ⟨{
    origin, challenge, closing
    origin_lt := hoc
    challenge_lt := hci
    getElem_origin := ho
    getElem_challenge := hc
    getElem_closing := hi
    isSome_origin := hcmd
    isOrigin_origin := horigin
    is_challenge := hchallenge
    is_closing := hclosing }⟩⟩

theorem mem_findTriples_iff {cmd : UInt8} {isOrigin : Kind → Bool} {frames : List Frame}
    {t : Triple} :
    t ∈ findTriples cmd isOrigin frames ↔
      tripleAt cmd isOrigin (frames.map Frame.kind) t.closing = some t := by
  rw [findTriples, List.mem_filterMap]
  constructor
  · rintro ⟨i, -, h⟩
    obtain ⟨rfl, -⟩ := exists_exchange h
    exact h
  · intro h
    obtain ⟨-, ⟨e⟩⟩ := exists_exchange h
    exact ⟨t.closing, List.mem_range.2 (List.getElem?_eq_some_iff.1 e.getElem_closing).1, h⟩

theorem frameCmd_eq {f : Frame} {cmd : UInt8} (h : frameCmd f = some cmd) :
    frameMinSize ≤ f.raw.length ∧ f.raw[8]? = some cmd := by
  unfold frameCmd at h
  split_ifs at h with hlen
  exact ⟨hlen, h⟩

theorem drop_take_one {raw : List UInt8} {b : UInt8} (h : raw[8]? = some b) :
    (raw.drop 8).take 1 = [b] := by
  obtain ⟨hlen, rfl⟩ := List.getElem?_eq_some_iff.1 h
  rw [List.drop_eq_getElem_cons hlen, List.take_succ_cons, List.take_zero]

end HomeIoControl.Corpus
