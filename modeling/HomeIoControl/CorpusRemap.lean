import HomeIoControl.CorpusFrames
import HomeIoControl.SequentialRenaming
import Mathlib.Data.List.Infix

namespace HomeIoControl.Corpus

open SequentialRenaming

/-- Old and new node IDs of three bytes each, in the order of the command line. -/
structure RemapTable where
  entries : List (List UInt8 × List UInt8)
  size : ∀ e ∈ entries, e.1.length = 3 ∧ e.2.length = 3
  nodup : (entries.map Prod.fst).Nodup

def slice (raw : List UInt8) (start stop : ℕ) : List UInt8 := (raw.drop start).take (stop - start)

def setSlice (raw : List UInt8) (start stop : ℕ) (new : List UInt8) : List UInt8 :=
  raw.take start ++ new ++ raw.drop stop

def upperHex (bytes : List UInt8) : String := String.ofList (bytes.flatMap byteHex)

def payloadWarning (oldId raw : List UInt8) : String :=
  "frame src/dst-remapped but payload still contains old node ID " ++ upperHex oldId ++
    " — review manually (e.g. discovery response payloads that repeat the node ID): " ++
    upperHex raw

/-- One entry of the table on the bytes and the warnings so far. -/
def remapEntry (s : List UInt8 × List String) (e : List UInt8 × List UInt8) :
    List UInt8 × List String :=
  let raw := if slice s.1 2 5 = e.1 then setSlice s.1 2 5 e.2 else s.1
  let raw := if slice raw 5 8 = e.1 then setSlice raw 5 8 e.2 else raw
  (raw, if e.1 <:+: raw.drop frameMinSize then s.2 ++ [payloadWarning e.1 raw] else s.2)

def remapFrame (remap : RemapTable) (f : Frame) : Frame × List String :=
  if f.raw.length < frameMinSize then (f, [])
  else
    let s := remap.entries.foldl remapEntry (f.raw, [])
    (setFrameRaw f s.1, s.2)

/-- The frames afterwards, and the warnings. -/
def applyNodeRemap (frames : List Frame) (remap : RemapTable) : List Frame × List String :=
  if remap.entries = [] then (frames, [])
  else
    (frames.map fun f => (remapFrame remap f).1, frames.flatMap fun f => (remapFrame remap f).2)

/-! ## Simultaneous substitution -/

/-- Both node IDs replaced by their images at once. -/
def substituteIds (remap : RemapTable) (bytes : List UInt8) : List UInt8 :=
  bytes.take 2 ++ image remap.entries (slice bytes 2 5) ++
    image remap.entries (slice bytes 5 8) ++ bytes.drop 8

/-- A frame with its node IDs substituted and, if it had a CRC, the CRC of the new bytes. A frame
without a whole header has no node IDs. -/
def substituted (remap : RemapTable) (f : Frame) : Frame :=
  let bytes :=
    if f.raw.length < frameMinSize then nonCrcBytes f else substituteIds remap (nonCrcBytes f)
  { f with raw := if f.crcPresent then bytes ++ crcBytes bytes else bytes }

/-- What the table must leave of a frame: a frame that is rewritten has no CRC, and the images of
both its node IDs stay what they are under the later entries. -/
def RemapsCleanly (remap : RemapTable) (f : Frame) : Prop :=
  if remap.entries = [] ∨ f.raw.length < frameMinSize then
    f.crcPresent = true → f.raw = nonCrcBytes f ++ crcBytes (nonCrcBytes f)
  else
    f.crcPresent = false ∧ Settles remap.entries (slice f.raw 2 5) ∧
      Settles remap.entries (slice f.raw 5 8)

/-! ## The rewritten bytes -/

theorem slices_append (raw : List UInt8) :
    raw.take 2 ++ slice raw 2 5 ++ slice raw 5 8 ++ raw.drop 8 = raw := by
  have hsrc : slice raw 5 8 ++ raw.drop 8 = raw.drop 5 := by
    rw [slice, show raw.drop 8 = (raw.drop 5).drop 3 by rw [List.drop_drop], List.take_append_drop]
  have hdst : slice raw 2 5 ++ raw.drop 5 = raw.drop 2 := by
    rw [slice, show raw.drop 5 = (raw.drop 2).drop 3 by rw [List.drop_drop], List.take_append_drop]
  rw [List.append_assoc, hsrc, List.append_assoc, hdst, List.take_append_drop]

theorem slice_length {raw : List UInt8} {a b : ℕ} (h : b ≤ raw.length) :
    (slice raw a b).length = b - a := by
  rw [slice, List.length_take, List.length_drop]
  omega

theorem rename_length {e : List UInt8 × List UInt8} {id : List UInt8} {n : ℕ}
    (he : e.2.length = n) (hid : id.length = n) : (rename id e).length = n := by
  unfold rename
  split_ifs
  · exact he
  · exact hid

section
variable {ctrl dst src rest : List UInt8} (hctrl : ctrl.length = 2)
include hctrl

theorem slice_dst (hdst : dst.length = 3) : slice (ctrl ++ dst ++ src ++ rest) 2 5 = dst := by
  rw [slice, List.append_assoc, List.append_assoc, List.drop_left' hctrl, List.take_left' hdst]

theorem slice_src (hdst : dst.length = 3) (hsrc : src.length = 3) :
    slice (ctrl ++ dst ++ src ++ rest) 5 8 = src := by
  rw [slice, List.append_assoc, List.drop_left' (by rw [List.length_append, hctrl, hdst]),
    List.take_left' hsrc]

theorem setSlice_dst (hdst : dst.length = 3) (new : List UInt8) :
    setSlice (ctrl ++ dst ++ src ++ rest) 2 5 new = ctrl ++ new ++ src ++ rest := by
  have hdrop : (ctrl ++ dst ++ src ++ rest).drop 5 = src ++ rest := by
    rw [List.append_assoc, List.drop_left' (by rw [List.length_append, hctrl, hdst])]
  have htake : (ctrl ++ dst ++ src ++ rest).take 2 = ctrl := by
    rw [List.append_assoc, List.append_assoc, List.take_left' hctrl]
  rw [setSlice, hdrop, htake, List.append_assoc (ctrl ++ new)]

theorem setSlice_src (hdst : dst.length = 3) (hsrc : src.length = 3) (new : List UInt8) :
    setSlice (ctrl ++ dst ++ src ++ rest) 5 8 new = ctrl ++ dst ++ new ++ rest := by
  have hdrop : (ctrl ++ dst ++ src ++ rest).drop 8 = rest :=
    List.drop_left' (by rw [List.length_append, List.length_append, hctrl, hdst, hsrc])
  have htake : (ctrl ++ dst ++ src ++ rest).take 5 = ctrl ++ dst := by
    rw [List.append_assoc, List.take_left' (by rw [List.length_append, hctrl, hdst])]
  rw [setSlice, hdrop, htake]

/-- One entry renames the two node IDs independently and touches nothing else. -/
theorem remapEntry_fst (rest : List UInt8) (hdst : dst.length = 3) (hsrc : src.length = 3)
    {e : List UInt8 × List UInt8} (he : e.2.length = 3) (warnings : List String) :
    (remapEntry (ctrl ++ dst ++ src ++ rest, warnings) e).1 =
      ctrl ++ rename dst e ++ rename src e ++ rest := by
  have hrename : (rename dst e).length = 3 := rename_length he hdst
  have hfirst : (if slice (ctrl ++ dst ++ src ++ rest) 2 5 = e.1
      then setSlice (ctrl ++ dst ++ src ++ rest) 2 5 e.2 else ctrl ++ dst ++ src ++ rest) =
      ctrl ++ rename dst e ++ src ++ rest := by
    rw [slice_dst hctrl hdst, setSlice_dst hctrl hdst, rename]
    split_ifs <;> rfl
  unfold remapEntry
  dsimp only
  rw [hfirst, slice_src hctrl hrename hsrc, setSlice_src hctrl hrename hsrc, rename.eq_def src]
  split_ifs <;> rfl

theorem foldl_remapEntry_fst (rest : List UInt8) {entries : List (List UInt8 × List UInt8)}
    (hsize : ∀ e ∈ entries, e.1.length = 3 ∧ e.2.length = 3) (hdst : dst.length = 3)
    (hsrc : src.length = 3) (warnings : List String) :
    (entries.foldl remapEntry (ctrl ++ dst ++ src ++ rest, warnings)).1 =
      ctrl ++ sequential entries dst ++ sequential entries src ++ rest := by
  induction entries generalizing dst src warnings with
  | nil => rfl
  | cons e entries ih =>
    obtain ⟨he, hrest⟩ := List.forall_mem_cons.1 hsize
    rw [List.foldl_cons, sequential_cons, sequential_cons]
    have hstep := remapEntry_fst hctrl rest hdst hsrc he.2 warnings
    rw [← ih hrest (rename_length he.2 hdst) (rename_length he.2 hsrc)
      (remapEntry (ctrl ++ dst ++ src ++ rest, warnings) e).2, ← hstep]

end

section
variable {remap : RemapTable} {f : Frame}

/-- The loop over the table on the bytes of a frame with a header. -/
theorem foldl_remapEntry_of_header {raw : List UInt8} (h : frameMinSize ≤ raw.length) :
    (remap.entries.foldl remapEntry (raw, [])).1 =
      raw.take 2 ++ sequential remap.entries (slice raw 2 5) ++
        sequential remap.entries (slice raw 5 8) ++ raw.drop 8 := by
  have hlen : 9 ≤ raw.length := h
  have hctrl : (raw.take 2).length = 2 := by
    rw [List.length_take]
    omega
  have hdst : (slice raw 2 5).length = 3 := slice_length (by omega)
  have hsrc : (slice raw 5 8).length = 3 := slice_length (by omega)
  have hloop := foldl_remapEntry_fst hctrl (raw.drop 8) remap.size hdst hsrc []
  rwa [slices_append] at hloop

theorem image_length (remap : RemapTable) (id : List UInt8) :
    (image remap.entries id).length = id.length := by
  by_cases hid : id ∈ remap.entries.map Prod.fst
  · obtain ⟨before, y, after, hentries, hbefore⟩ := exists_split hid
    have hmem : (id, y) ∈ remap.entries := by
      rw [hentries]
      exact List.mem_append_right _ List.mem_cons_self
    have hsize := remap.size (id, y) hmem
    rw [hentries, image_of_split hbefore, hsize.1, hsize.2]
  · rw [image_of_notMem hid]

theorem substituteIds_length (remap : RemapTable) (bytes : List UInt8) :
    (substituteIds remap bytes).length = bytes.length := by
  have h := congrArg List.length (slices_append bytes)
  simp only [List.length_append] at h
  simp only [substituteIds, List.length_append, image_length]
  exact h

/-- A frame with CRC is longer than its CRC. -/
theorem nonCrcBytes_length (h : f.crcPresent = true) :
    (nonCrcBytes f).length + 2 = f.raw.length := by
  have hlen : 2 ≤ f.raw.length := by
    unfold Frame.crcPresent at h
    split at h
    · cases h
    · rw [beq_iff_eq] at h
      omega
  rw [nonCrcBytes, if_pos h, List.length_take]
  omega

theorem crcBytes_length (data : List UInt8) : (crcBytes data).length = 2 := rfl

theorem sequential_entries_length (remap : RemapTable) {id : List UInt8} (hid : id.length = 3) :
    (sequential remap.entries id).length = 3 := by
  have hall : ∀ (entries : List (List UInt8 × List UInt8)) (id : List UInt8),
      (∀ e ∈ entries, e.1.length = 3 ∧ e.2.length = 3) → id.length = 3 →
      (sequential entries id).length = 3 := by
    intro entries
    induction entries with
    | nil => exact fun _ _ hid => hid
    | cons e entries ih =>
      intro id hsize hid
      obtain ⟨he, hrest⟩ := List.forall_mem_cons.1 hsize
      exact ih _ hrest (rename_length he.2 hid)
  exact hall remap.entries id remap.size hid

/-- A frame whose bytes stay what they are. -/
theorem eq_substituted_iff_of_same
    (h : (if f.raw.length < frameMinSize then nonCrcBytes f
      else substituteIds remap (nonCrcBytes f)) = nonCrcBytes f) :
    f = substituted remap f ↔
      (f.crcPresent = true → f.raw = nonCrcBytes f ++ crcBytes (nonCrcBytes f)) := by
  obtain ⟨direction, raw⟩ := f
  unfold substituted
  rw [h]
  simp only [Frame.mk.injEq, true_and]
  split_ifs with hcrc
  · exact ⟨fun hraw _ => hraw, fun hraw => hraw hcrc⟩
  · rw [nonCrcBytes_of_not_crcPresent (Bool.not_eq_true _ ▸ hcrc)]
    exact iff_of_true rfl fun h => absurd h hcrc

/-- The fresh CRC stands behind the old one. -/
theorem remapFrame_raw_ne_of_crcPresent (h : frameMinSize ≤ f.raw.length)
    (hcrc : f.crcPresent = true) : (remapFrame remap f).1.raw ≠ (substituted remap f).raw := by
  have hlen : 9 ≤ f.raw.length := h
  have hdst : (slice f.raw 2 5).length = 3 := slice_length (by omega)
  have hsrc : (slice f.raw 5 8).length = 3 := slice_length (by omega)
  have hlong : ¬f.raw.length < frameMinSize := Nat.not_lt.2 h
  have hnonCrc := nonCrcBytes_length hcrc
  intro hraw
  unfold remapFrame substituted setFrameRaw at hraw
  rw [if_neg hlong, if_neg hlong] at hraw
  dsimp only at hraw
  rw [foldl_remapEntry_of_header h, if_pos hcrc, if_pos hcrc] at hraw
  have hsize := congrArg List.length hraw
  simp only [List.length_append, crcBytes_length, substituteIds_length, List.length_take,
    List.length_drop, sequential_entries_length remap hdst,
    sequential_entries_length remap hsrc] at hsize
  omega

/-- A frame that the table rewrites. -/
theorem remapFrame_eq_substituted_iff (h : frameMinSize ≤ f.raw.length) :
    (remapFrame remap f).1 = substituted remap f ↔
      f.crcPresent = false ∧ Settles remap.entries (slice f.raw 2 5) ∧
        Settles remap.entries (slice f.raw 5 8) := by
  have hlen : 9 ≤ f.raw.length := h
  have hdst : (slice f.raw 2 5).length = 3 := slice_length (by omega)
  by_cases hcrc : f.crcPresent = true
  · apply iff_of_false
    · exact fun heq => remapFrame_raw_ne_of_crcPresent h hcrc (congrArg Frame.raw heq)
    · rintro ⟨hnone, -⟩
      exact Bool.false_ne_true (hnone.symm.trans hcrc)
  · have hnone : f.crcPresent = false := Bool.not_eq_true _ ▸ hcrc
    have hlong : ¬f.raw.length < frameMinSize := Nat.not_lt.2 h
    unfold remapFrame substituted setFrameRaw
    rw [if_neg hlong, if_neg hlong]
    dsimp only
    rw [foldl_remapEntry_of_header h, Frame.mk.injEq, if_neg hcrc, if_neg hcrc,
      nonCrcBytes_of_not_crcPresent hnone, substituteIds,
      ← sequential_eq_image_iff remap.nodup, ← sequential_eq_image_iff remap.nodup]
    constructor
    · rintro ⟨-, hraw⟩
      rw [List.append_assoc, List.append_assoc, List.append_assoc, List.append_assoc] at hraw
      obtain ⟨hd, htail⟩ := List.append_inj (List.append_cancel_left hraw) (by
        rw [sequential_entries_length remap hdst, image_length, hdst])
      exact ⟨hnone, hd, List.append_cancel_right htail⟩
    · rintro ⟨-, hd, hs⟩
      rw [hd, hs]
      exact ⟨rfl, rfl⟩

theorem substituteIds_nil (h : remap.entries = []) (bytes : List UInt8) :
    substituteIds remap bytes = bytes := by
  have himage : ∀ id, image remap.entries id = id := fun id =>
    image_of_notMem (by rw [h]; exact List.not_mem_nil)
  rw [substituteIds, himage, himage, slices_append]

theorem eq_substituted_iff_of_left_alone
    (h : remap.entries = [] ∨ f.raw.length < frameMinSize) :
    f = substituted remap f ↔ RemapsCleanly remap f := by
  rw [RemapsCleanly, if_pos h]
  apply eq_substituted_iff_of_same
  rcases h with h | h
  · rw [substituteIds_nil h, ite_self]
  · rw [if_pos h]

/-- Remapping is simultaneous substitution on exactly the frames that the table leaves clean. -/
theorem applyNodeRemap_eq_iff (frames : List Frame) (remap : RemapTable) :
    (applyNodeRemap frames remap).1 = frames.map (substituted remap) ↔
      ∀ f ∈ frames, RemapsCleanly remap f := by
  unfold applyNodeRemap
  split_ifs with hempty
  · have hid : frames = frames.map (substituted remap) ↔
        frames.map id = frames.map (substituted remap) := by rw [List.map_id]
    rw [hid, List.map_inj_left]
    exact forall₂_congr fun f _ => eq_substituted_iff_of_left_alone (.inl hempty)
  · rw [List.map_inj_left]
    apply forall₂_congr
    intro f _
    by_cases hshort : f.raw.length < frameMinSize
    · rw [remapFrame, if_pos hshort]
      exact eq_substituted_iff_of_left_alone (.inr hshort)
    · rw [RemapsCleanly, if_neg (not_or.2 ⟨hempty, hshort⟩)]
      exact remapFrame_eq_substituted_iff (Nat.le_of_not_lt hshort)

/-- Two nodes that are to change places. -/
def swapTable : RemapTable where
  entries := [([0, 0, 1], [0, 0, 2]), ([0, 0, 2], [0, 0, 1])]
  size := by decide
  nodup := by decide

/-- The second entry undoes the first: a frame to node 1 stays a frame to node 1. -/
theorem applyNodeRemap_swap_ne :
    (applyNodeRemap [⟨.tx, [8, 0, 0, 0, 1, 0, 0, 3, 0]⟩] swapTable).1 ≠
      [⟨.tx, [8, 0, 0, 0, 1, 0, 0, 3, 0]⟩].map (substituted swapTable) := by
  decide

end

end HomeIoControl.Corpus
