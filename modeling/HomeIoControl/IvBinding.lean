import HomeIoControl.AffineRegister
import HomeIoControl.Crypto
import HomeIoControl.XorByte
import Mathlib.Data.List.GetD
import Mathlib.Tactic.IntervalCases

namespace HomeIoControl
open AffineRegister

/-! ## The checksum as a linear register -/

theorem shiftLeft_and_low (b : UInt8) : (b &&& 0x7F) <<< 1 = b <<< 1 := by
  apply byte_of_nibbles _ b
  decide +kernel

theorem shiftLeft_or_one (b : UInt8) : (b <<< 1) ||| (1 : UInt8) = (b <<< 1) ^^^ (1 : UInt8) := by
  apply byte_of_nibbles _ b
  decide +kernel

/-- What a step does to the two bytes, the input mixed in already. -/
theorem computeChecksum_eq (c : UInt8 × UInt8) (byte : UInt8) :
    computeChecksum c byte =
      ((c.1 <<< 1) ^^^ ((c.2 ^^^ byte) >>> 7) ^^^ feedback 0x55 c.1,
        ((c.2 ^^^ byte) <<< 1) ^^^ feedback 0x5B c.1) := by
  unfold computeChecksum feedback
  dsimp only
  rw [UInt8.xor_comm byte c.2, shiftLeft_and_low, shiftLeft_or_one]
  generalize c.2 ^^^ byte = tmp
  rcases topBit_cases c.1 with ⟨h₁, h₂, -⟩ | ⟨h₁, h₂, -⟩ <;>
    rcases topBit_cases tmp with ⟨h₃, -, h₄⟩ | ⟨h₃, -, h₄⟩ <;>
    simp [h₁, h₂, h₃, h₄]

/-- The two checksum bytes as a state of the register. -/
def checksumState (c : UInt8 × UInt8) : XorByte × XorByte := (⟨c.1⟩, ⟨c.2⟩)

theorem checksumState_injective : Function.Injective checksumState := by
  intro c d h
  have h₁ := congrArg (fun s => s.1.byte) h
  have h₂ := congrArg (fun s => s.2.byte) h
  exact Prod.ext h₁ h₂

/-- The checksum's register, without its inputs. -/
def checksumRegister : AddMonoid.End (XorByte × XorByte) where
  toFun s := checksumState (computeChecksum (s.1.byte, s.2.byte) 0)
  map_zero' := rfl
  map_add' s t := by
    ext
    · simp only [checksumState, computeChecksum_eq, UInt8.xor_zero, Prod.fst_add, Prod.snd_add,
        XorByte.byte_add, feedback_xor, UInt8.shiftLeft_xor, UInt8.shiftRight_xor]
      ac_rfl
    · simp only [checksumState, computeChecksum_eq, UInt8.xor_zero, Prod.fst_add, Prod.snd_add,
        XorByte.byte_add, feedback_xor, UInt8.shiftLeft_xor]
      ac_rfl

theorem checksumRegister_apply (c : UInt8 × UInt8) :
    checksumRegister (checksumState c) = checksumState (computeChecksum c 0) := rfl

theorem checksumState_computeChecksum (c : UInt8 × UInt8) (byte : UInt8) :
    checksumState (computeChecksum c byte) =
      step checksumRegister (checksumState c) (0, ⟨byte⟩) := by
  have hmixed : checksumState c + (0, ⟨byte⟩) = checksumState (c.1, c.2 ^^^ byte) :=
    Prod.ext (XorByte.ext UInt8.xor_zero) rfl
  rw [step, hmixed, checksumRegister_apply, computeChecksum_eq, computeChecksum_eq,
    UInt8.xor_zero]

theorem checksumState_foldl (c : UInt8 × UInt8) (data : List UInt8) :
    checksumState (data.foldl computeChecksum c) =
      run checksumRegister (checksumState c) (data.map fun byte => (0, ⟨byte⟩)) := by
  induction data generalizing c with
  | nil => rfl
  | cons byte data ih =>
    rw [List.foldl_cons, ih, checksumState_computeChecksum]
    rfl

theorem eq_zero_of_shifts {b : UInt8} (hhigh : b >>> 7 = 0) (hlow : b <<< 1 = 0) : b = 0 := by
  have h : b >>> 7 = 0 → b <<< 1 = 0 → b = 0 := by
    apply byte_of_nibbles _ b
    decide +kernel
  exact h hhigh hlow

/-- A shift leaves the lowest bit free. -/
theorem shiftLeft_one_and_one (b : UInt8) : (b <<< 1) &&& 1 = 0 := by
  apply byte_of_nibbles _ b
  decide +kernel

/-- Only zero is shifted to zero: carry and feedback set the bit that a shift leaves free. -/
theorem computeChecksum_eq_zero {c : UInt8 × UInt8} (h : computeChecksum c 0 = (0, 0)) :
    c = (0, 0) := by
  rw [computeChecksum_eq, UInt8.xor_zero, Prod.mk.injEq] at h
  have hfirst := shiftLeft_one_and_one c.1
  have hsecond := shiftLeft_one_and_one c.2
  unfold feedback at h
  rcases topBit_cases c.1 with ⟨htop, -⟩ | ⟨htop, -⟩
  · have hlow : c.2 <<< 1 = 0 := by simpa [htop] using h.2
    rcases topBit_cases c.2 with ⟨hcarry, -⟩ | ⟨hcarry, -⟩
    · have hshifted : c.1 <<< 1 = 0 := by simpa [htop, hcarry] using h.1
      exact Prod.ext (eq_zero_of_shifts htop hshifted) (eq_zero_of_shifts hcarry hlow)
    · have hshifted : c.1 <<< 1 = 1 := by simpa [htop, hcarry] using h.1
      rw [hshifted] at hfirst
      exact absurd hfirst (by decide)
  · have hshifted : c.2 <<< 1 = 0x5B := by simpa [htop] using h.2
    rw [hshifted] at hsecond
    exact absurd hsecond (by decide)

theorem checksumRegister_injective : Function.Injective checksumRegister := by
  rw [injective_iff_map_eq_zero]
  intro s h
  have hzero : computeChecksum (s.1.byte, s.2.byte) 0 = (0, 0) := checksumState_injective h
  exact congrArg checksumState (computeChecksum_eq_zero hzero)

/-! ## Checksums that padding brings back -/

/-- A state that a padding byte leaves alone. -/
def paddingFixed : UInt8 × UInt8 := (0x00, 0x66)

theorem step_paddingFixed :
    step checksumRegister (checksumState paddingFixed) (0, ⟨ivPadding⟩) =
      checksumState paddingFixed := by
  rw [← checksumState_computeChecksum]
  rfl

/-- Generators of the states that so many shifts of the register bring back. -/
def shiftPeriodic : ℕ → List (UInt8 × UInt8)
  | 1 => [(0xCC, 0xC9)]
  | 2 => [(0x44, 0x47), (0x88, 0x8E)]
  | 3 => [(0x2F, 0x43), (0x5E, 0x86), (0xBD, 0x0C)]
  | 4 => [(0x3C, 0x3D), (0x78, 0x7A), (0xF0, 0xF4)]
  | 5 => [(0xCC, 0xC9)]
  | 6 => [(0x1A, 0xC1), (0x35, 0x82), (0x6B, 0x04), (0xD6, 0x08)]
  | 7 => [(0x1D, 0x6F), (0x3A, 0xDE), (0x75, 0xBC), (0xEB, 0x78)]
  | _ => []

/-- All sums of some of the words. -/
def xorSpan : List (UInt8 × UInt8) → List (UInt8 × UInt8)
  | [] => [(0, 0)]
  | d :: ds => xorSpan ds ++ (xorSpan ds).map fun c => (d.1 ^^^ c.1, d.2 ^^^ c.2)

/-- The checksums that so many padding bytes bring back. -/
def returningChecksums (k : ℕ) : List (UInt8 × UInt8) :=
  (xorSpan (shiftPeriodic k)).map fun d => (d.1 ^^^ paddingFixed.1, d.2 ^^^ paddingFixed.2)

def shiftTimes (k : ℕ) (c : UInt8 × UInt8) : UInt8 × UInt8 := (fun c => computeChecksum c 0)^[k] c

/-- Undoes the sum of a byte with its own shift. -/
def solveShift (k : ℕ) (b : UInt8) : UInt8 := (fun x => b ^^^ (x <<< .ofNat k))^[7 / k] b

def ShiftSolved (k : ℕ) (x : UInt8) : Prop := solveShift k (x ^^^ (shiftTimes k (0, x)).2) = x

instance (k : ℕ) (x : UInt8) : Decidable (ShiftSolved k x) := inferInstanceAs (Decidable (_ = _))

theorem shiftSolved : ∀ k < 8, 0 < k → ∀ hi < 16, ∀ lo < 16,
    ShiftSolved k (.ofNat (16 * hi + lo)) := by
  decide +kernel

/-- The only state with the given first byte that can come back. -/
def returnCandidate (k : ℕ) (first : UInt8) : UInt8 × UInt8 :=
  (first, solveShift k (shiftTimes k (first, 0)).2)

def CandidateListed (k : ℕ) (first : UInt8) : Prop :=
  (shiftTimes k (returnCandidate k first)).1 = first →
    returnCandidate k first ∈ xorSpan (shiftPeriodic k)

instance (k : ℕ) (first : UInt8) : Decidable (CandidateListed k first) :=
  inferInstanceAs (Decidable (_ → _))

theorem candidateListed : ∀ k < 8, 0 < k → ∀ hi < 16, ∀ lo < 16,
    CandidateListed k (.ofNat (16 * hi + lo)) := by
  decide +kernel

theorem checksumState_shiftTimes (k : ℕ) (c : UInt8 × UInt8) :
    checksumState (shiftTimes k c) = (checksumRegister ^ k) (checksumState c) := by
  rw [AddMonoid.End.coe_pow, shiftTimes]
  induction k generalizing c with
  | zero => rfl
  | succ k ih => exact ih (computeChecksum c 0)

theorem all_generators_return :
    ∀ k < 8, (shiftPeriodic k).all fun d => decide (shiftTimes k d = d) := by
  decide +kernel

theorem shiftTimes_generator {k : ℕ} (hk : k < 8) :
    ∀ d ∈ shiftPeriodic k, shiftTimes k d = d := by
  intro d hd
  exact of_decide_eq_true (List.all_eq_true.1 (all_generators_return k hk) d hd)

theorem shiftTimes_zero (k : ℕ) : shiftTimes k (0, 0) = (0, 0) := by
  apply checksumState_injective
  rw [checksumState_shiftTimes]
  exact map_zero (checksumRegister ^ k)

theorem shiftTimes_xor (k : ℕ) (c d : UInt8 × UInt8) :
    shiftTimes k (c.1 ^^^ d.1, c.2 ^^^ d.2) =
      ((shiftTimes k c).1 ^^^ (shiftTimes k d).1, (shiftTimes k c).2 ^^^ (shiftTimes k d).2) := by
  apply checksumState_injective
  have hadd := map_add (checksumRegister ^ k) (checksumState c) (checksumState d)
  rw [← checksumState_shiftTimes, ← checksumState_shiftTimes] at hadd
  rw [checksumState_shiftTimes]
  exact hadd

/-- Sums of states that come back come back. -/
theorem shiftTimes_of_mem_xorSpan {k : ℕ} {ds : List (UInt8 × UInt8)}
    (h : ∀ d ∈ ds, shiftTimes k d = d) : ∀ c ∈ xorSpan ds, shiftTimes k c = c := by
  induction ds with
  | nil =>
    intro c hc
    rw [List.mem_singleton.1 hc, shiftTimes_zero]
  | cons d ds ih =>
    have htail := ih fun d' hd' => h d' (List.mem_cons_of_mem d hd')
    intro c hc
    rcases List.mem_append.1 hc with hc | hc
    · exact htail c hc
    · obtain ⟨c', hc', rfl⟩ := List.mem_map.1 hc
      rw [shiftTimes_xor, h d List.mem_cons_self, htail c' hc']

theorem shiftTimes_eq_self_iff {k : ℕ} (hpos : 0 < k) (hk : k < 8) (c : UInt8 × UInt8) :
    shiftTimes k c = c ↔ c ∈ xorSpan (shiftPeriodic k) := by
  constructor
  · intro h
    have hfixed : (checksumRegister ^ k) (⟨c.1⟩, ⟨c.2⟩) = (⟨c.1⟩, ⟨c.2⟩) := by
      have hstate := congrArg checksumState h
      rwa [checksumState_shiftTimes] at hstate
    have hsolve : ∀ b : XorByte,
        (⟨solveShift k (b - ((checksumRegister ^ k) (0, b)).2).byte⟩ : XorByte) = b := by
      intro b
      have hsecond : ((checksumRegister ^ k) (0, b)).2.byte = (shiftTimes k (0, b.byte)).2 := by
        rw [show ((0, b) : XorByte × XorByte) = checksumState (0, b.byte) from rfl,
          ← checksumState_shiftTimes]
        rfl
      apply XorByte.ext
      rw [XorByte.byte_sub, hsecond]
      exact byte_of_nibbles (shiftSolved k hk hpos) b.byte
    -- the first byte of a state that comes back determines the second one
    have hcandidate : returnCandidate k c.1 = c := by
      have hfirst : (checksumRegister ^ k) (⟨c.1⟩, 0) = checksumState (shiftTimes k (c.1, 0)) :=
        (checksumState_shiftTimes k (c.1, 0)).symm
      have hsecond := snd_eq_of_fixed (fun b => ⟨solveShift k b.byte⟩) hsolve hfixed
      rw [hfirst] at hsecond
      exact Prod.ext rfl (congrArg XorByte.byte hsecond).symm
    have hlisted := byte_of_nibbles (candidateListed k hk hpos) c.1
    unfold CandidateListed at hlisted
    rw [hcandidate] at hlisted
    exact hlisted (congrArg Prod.fst h)
  · exact shiftTimes_of_mem_xorSpan (shiftTimes_generator hk) c

/-- What the checksum is after a list of bytes. -/
def dataChecksum (data : List UInt8) : UInt8 × UInt8 := data.foldl computeChecksum (0, 0)

theorem mem_returningChecksums_iff (k : ℕ) (c : UInt8 × UInt8) :
    c ∈ returningChecksums k ↔
      (c.1 ^^^ paddingFixed.1, c.2 ^^^ paddingFixed.2) ∈ xorSpan (shiftPeriodic k) := by
  have hcancel : ∀ x y : UInt8, x ^^^ y ^^^ y = x := by
    intro x y
    rw [UInt8.xor_assoc, UInt8.xor_self, UInt8.xor_zero]
  unfold returningChecksums
  rw [List.mem_map]
  constructor
  · rintro ⟨d, hd, rfl⟩
    simpa only [hcancel] using hd
  · intro h
    exact ⟨_, h, by simp only [hcancel]⟩

/-- Padding brings a checksum back exactly when it is one of these. -/
theorem dataChecksum_append_padding_iff {k : ℕ} (hpos : 0 < k) (hk : k < 8) (data : List UInt8) :
    dataChecksum (data ++ List.replicate k ivPadding) = dataChecksum data ↔
      dataChecksum data ∈ returningChecksums k := by
  rw [mem_returningChecksums_iff, ← shiftTimes_eq_self_iff hpos hk, dataChecksum,
    List.foldl_append, ← dataChecksum]
  generalize dataChecksum data = c
  have hsub : checksumState c - checksumState paddingFixed =
      checksumState (c.1 ^^^ paddingFixed.1, c.2 ^^^ paddingFixed.2) :=
    Prod.ext (XorByte.ext (XorByte.byte_sub _ _)) (XorByte.ext (XorByte.byte_sub _ _))
  rw [← checksumState_injective.eq_iff, checksumState_foldl, List.map_replicate, run_replicate,
    iterate_step_eq_self_iff step_paddingFixed, hsub, ← checksumState_shiftTimes,
    checksumState_injective.eq_iff]

/-! ## Equal initialization vectors -/

theorem constructIv_eq_iff_padded (data data' : List UInt8) (challenge : Challenge) :
    constructIv data challenge = constructIv data' challenge ↔
      (∀ i < 8, data.getD i ivPadding = data'.getD i ivPadding) ∧
        dataChecksum data = dataChecksum data' := by
  constructor
  · intro h
    have hbyte : ∀ i : Fin 16,
        (constructIv data challenge)[i] = (constructIv data' challenge)[i] := by
      intro i
      rw [h]
    unfold constructIv at hbyte
    simp only [Fin.getElem_fin, Vector.getElem_ofFn] at hbyte
    refine ⟨fun i hi => ?_, Prod.ext ?_ ?_⟩
    · have hi' := hbyte ⟨i, by omega⟩
      simpa only [hi, if_true] using hi'
    · exact hbyte 8
    · exact hbyte 9
  · rintro ⟨hpadded, hchecksum⟩
    unfold dataChecksum at hchecksum
    unfold constructIv
    rw [hchecksum]
    apply Vector.ext
    intro i hi
    simp only [Vector.getElem_ofFn]
    split_ifs with h
    · exact hpadded i h
    all_goals rfl

/-- Equal after padding: the longer one is the shorter one with padding bytes at its end. -/
theorem eq_append_padding {data data' : List UInt8} (hle : data.length ≤ data'.length)
    (hlen : data'.length ≤ 8)
    (h : ∀ i < 8, data.getD i ivPadding = data'.getD i ivPadding) :
    data' = data ++ List.replicate (data'.length - data.length) ivPadding := by
  apply List.ext_getElem
  · simp only [List.length_append, List.length_replicate]
    omega
  · intro i hi _
    have hbyte := h i (by omega)
    rw [List.getD_eq_getElem _ _ hi] at hbyte
    rw [← hbyte, List.getElem_append]
    split
    · rename_i hshort
      exact List.getD_eq_getElem _ _ hshort
    · rename_i hlong
      -- past the shorter list the longer one can only hold padding
      rw [List.getElem_replicate]
      exact List.getD_eq_default _ _ (by omega)

/-- The second transcript is the first one with padding bytes at its end, which bring its checksum
back. -/
def PaddingTwin (data data' : List UInt8) : Prop :=
  ∃ k, 0 < k ∧ data' = data ++ List.replicate k ivPadding ∧
    dataChecksum data ∈ returningChecksums k

theorem constructIv_eq_iff_of_le {data data' : List UInt8} (hpos : 0 < data.length)
    (hle : data.length ≤ data'.length) (hlen : data'.length ≤ 8) (challenge : Challenge) :
    constructIv data challenge = constructIv data' challenge ↔
      data = data' ∨ PaddingTwin data data' := by
  rw [constructIv_eq_iff_padded]
  constructor
  · rintro ⟨hpadded, hchecksum⟩
    have hdata := eq_append_padding hle hlen hpadded
    rcases Nat.eq_zero_or_pos (data'.length - data.length) with hzero | hmore
    · left
      rw [hdata, hzero, List.replicate_zero, List.append_nil]
    · right
      refine ⟨_, hmore, hdata, ?_⟩
      rw [← dataChecksum_append_padding_iff hmore (by omega), ← hdata, hchecksum]
  · rintro (rfl | ⟨k, hmore, rfl, hmem⟩)
    · exact ⟨fun _ _ => rfl, rfl⟩
    · rw [List.length_append, List.length_replicate] at hlen
      refine ⟨fun i _ => ?_, ((dataChecksum_append_padding_iff hmore (by omega) _).2 hmem).symm⟩
      rcases Nat.lt_or_ge i data.length with hi | hi
      · rw [List.getD_append _ _ _ _ hi]
      · rw [List.getD_eq_default _ _ hi, List.getD_append_right _ _ _ _ hi]
        -- past the data both are padding
        rcases Nat.lt_or_ge (i - data.length) k with hi' | hi'
        · rw [List.getD_replicate _ hi']
        · rw [List.getD_eq_default _ _ (by simpa using hi')]

theorem PaddingTwin.length_lt {data data' : List UInt8} (h : PaddingTwin data data') :
    data.length < data'.length := by
  obtain ⟨k, hpos, rfl, -⟩ := h
  rw [List.length_append, List.length_replicate]
  omega

/-- Two short transcripts share an initialization vector only if one of them is the other with
padding bytes at its end that bring its checksum back. -/
theorem constructIv_eq_iff (cmd cmd' : UInt8) {payload payload' : List UInt8}
    (h : (cmd :: payload).length ≤ 8) (h' : (cmd' :: payload').length ≤ 8)
    (challenge : Challenge) :
    constructIv (cmd :: payload) challenge = constructIv (cmd' :: payload') challenge ↔
      cmd :: payload = cmd' :: payload' ∨ PaddingTwin (cmd :: payload) (cmd' :: payload') ∨
        PaddingTwin (cmd' :: payload') (cmd :: payload) := by
  rcases Nat.le_total (cmd :: payload).length (cmd' :: payload').length with hle | hle
  · rw [constructIv_eq_iff_of_le (by simp) hle h']
    apply or_congr_right
    exact (or_iff_left fun htwin => absurd htwin.length_lt (by omega)).symm
  · rw [eq_comm, constructIv_eq_iff_of_le (by simp) hle h, eq_comm]
    apply or_congr_right
    exact (or_iff_right fun htwin => absurd htwin.length_lt (by omega)).symm

/-- A key confirmation without a payload and one with a padding byte as its payload. -/
theorem constructIv_keyConfirm_padded :
    [cmdKeyConfirm] ≠ [cmdKeyConfirm, ivPadding] ∧
      constructIv [cmdKeyConfirm] (.replicate 6 0) =
        constructIv [cmdKeyConfirm, ivPadding] (.replicate 6 0) := by
  decide +kernel

theorem constructIv_eq_iff_keyConfirm :
    constructIv [cmdKeyConfirm] (.replicate 6 0) =
        constructIv [cmdKeyConfirm, ivPadding] (.replicate 6 0) ↔
      [cmdKeyConfirm] = [cmdKeyConfirm, ivPadding] ∨
        PaddingTwin [cmdKeyConfirm] [cmdKeyConfirm, ivPadding] ∨
        PaddingTwin [cmdKeyConfirm, ivPadding] [cmdKeyConfirm] :=
  constructIv_eq_iff cmdKeyConfirm cmdKeyConfirm (by decide) (by decide) (.replicate 6 0)

/-! ## One changed byte -/

/-- The checksum alone tells a transcript from one with another byte in one place. -/
theorem dataChecksum_ne_of_change {data data' : List UInt8} {i : ℕ}
    (hlength : data.length = data'.length) (hi : data[i]? ≠ data'[i]?)
    (hrest : ∀ j, j ≠ i → data[j]? = data'[j]?) : dataChecksum data ≠ dataChecksum data' := by
  have hinput : Function.Injective fun byte : UInt8 => ((0, ⟨byte⟩) : XorByte × XorByte) :=
    fun _ _ h => congrArg (fun u : XorByte × XorByte => u.2.byte) h
  intro h
  unfold dataChecksum at h
  rw [← checksumState_injective.eq_iff, checksumState_foldl, checksumState_foldl] at h
  apply run_ne_of_change checksumRegister_injective _ (by simpa using hlength) _ _ h
  · exact i
  · rw [List.getElem?_map, List.getElem?_map]
    exact fun hsame => hi (Option.map_injective hinput hsame)
  · intro j hj
    rw [List.getElem?_map, List.getElem?_map, hrest j hj]

/-- A byte that changes changes the initialization vector, also past the bytes that it holds. -/
theorem constructIv_ne_of_change {data data' : List UInt8} {i : ℕ}
    (hlength : data.length = data'.length) (hi : data[i]? ≠ data'[i]?)
    (hrest : ∀ j, j ≠ i → data[j]? = data'[j]?) (challenge : Challenge) :
    constructIv data challenge ≠ constructIv data' challenge := by
  intro h
  exact dataChecksum_ne_of_change hlength hi hrest ((constructIv_eq_iff_padded _ _ _).1 h).2

/-- The ninth byte, which is not in the vector itself. -/
theorem constructIv_ne_ninthByte :
    constructIv [1, 2, 3, 4, 5, 6, 7, 8, 9] (.replicate 6 0) ≠
      constructIv [1, 2, 3, 4, 5, 6, 7, 8, 10] (.replicate 6 0) := by
  have hrest : ∀ j, j ≠ 8 →
      ([1, 2, 3, 4, 5, 6, 7, 8, 9] : List UInt8)[j]? = [1, 2, 3, 4, 5, 6, 7, 8, 10][j]? := by
    intro j hj
    rcases Nat.lt_or_ge j 9 with hlt | hge
    · interval_cases j <;> trivial
    · rw [List.getElem?_eq_none (by simpa using hge), List.getElem?_eq_none (by simpa using hge)]
  exact constructIv_ne_of_change (by decide) (by decide) hrest _

end HomeIoControl
