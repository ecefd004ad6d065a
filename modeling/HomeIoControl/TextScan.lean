import Mathlib.Data.List.DropRight
import Mathlib.Tactic.Common

/-! Positions in a text, and the cutting of a text at them. -/

namespace TextScan

variable {α : Type*}

/-- The first position from `start` on where `p` holds. -/
def findFrom (p : α → Bool) (start : ℕ) (l : List α) : Option ℕ :=
  ((l.drop start).findIdx? p).map (start + ·)

/-- The last position where `p` holds. -/
def findLast (p : α → Bool) (l : List α) : Option ℕ :=
  (l.reverse.findIdx? p).map (l.length - 1 - ·)

/-! ## Trimming -/

/-- Without what `p` holds of at either end. -/
def trim (p : α → Bool) (l : List α) : List α := (l.dropWhile p).rdropWhile p

theorem drop_findFrom (p : α → Bool) (l : List α) :
    l.drop ((findFrom (!p ·) 0 l).getD l.length) = l.dropWhile p := by
  have hindex : (findFrom (!p ·) 0 l).getD l.length = l.findIdx (!p ·) := by
    unfold findFrom
    rw [List.drop_zero, List.findIdx_eq_getD_findIdx?]
    cases l.findIdx? (!p ·) <;> simp
  rw [hindex, List.dropWhile_eq_drop_findIdx_not]

theorem take_findLast (p : α → Bool) (l : List α) :
    l.take (((findLast (!p ·) l).map (· + 1)).getD 0) = l.rdropWhile p := by
  have hkept : ((findLast (!p ·) l).map (· + 1)).getD 0 = l.length - l.reverse.findIdx (!p ·) := by
    unfold findLast
    rw [List.findIdx_eq_getD_findIdx?, List.length_reverse]
    cases hfound : l.reverse.findIdx? (!p ·) with
    | none => simp
    | some k =>
      have hk := (List.findIdx?_eq_some_iff_getElem.1 hfound).1
      rw [List.length_reverse] at hk
      simp only [Option.map_some, Option.getD_some]
      omega
  rw [hkept, List.rdropWhile, List.dropWhile_eq_drop_findIdx_not, List.drop_reverse,
    List.reverse_reverse]

theorem rdropWhile_append_all {p : α → Bool} {right : List α} (h : ∀ a ∈ right, p a)
    (l : List α) : (l ++ right).rdropWhile p = l.rdropWhile p := by
  unfold List.rdropWhile
  rw [List.reverse_append, List.dropWhile_append_of_pos]
  simpa using h

/-- What is trimmed may stand at either end. -/
theorem trim_pad {p : α → Bool} {left right : List α} (hleft : ∀ a ∈ left, p a)
    (hright : ∀ a ∈ right, p a) (l : List α) : trim p (left ++ l ++ right) = trim p l := by
  unfold trim
  rw [List.append_assoc, List.dropWhile_append_of_pos hleft, List.dropWhile_append]
  split
  · rename_i hempty
    -- the text itself is trimmed away
    rw [List.isEmpty_iff] at hempty
    have hnone : right.dropWhile p = [] := List.dropWhile_eq_nil_iff.2 hright
    rw [hempty, hnone]
  · exact rdropWhile_append_all hright _

theorem trim_of_none {p : α → Bool} {l : List α} (h : ∀ a ∈ l, p a = false) : trim p l = l := by
  have hhead : l.dropWhile p = l := by
    apply List.dropWhile_eq_self_iff.2
    intro hl
    simp [h _ (List.getElem_mem hl)]
  rw [trim, hhead]
  apply List.rdropWhile_eq_self_iff.2
  intro hl
  simp [h _ (List.getLast_mem hl)]

/-! ## Cutting at a separator -/

/-- Joined texts stand behind a separator each, but for the first. -/
theorem intercalate_cons (sep : α) (l : List α) (ls : List (List α)) :
    [sep].intercalate (l :: ls) = l ++ ls.flatMap (sep :: ·) := by
  induction ls generalizing l with
  | nil => rw [List.intercalate_singleton, List.flatMap_nil, List.append_nil]
  | cons l' ls ih =>
    rw [List.intercalate_cons_cons, ih, List.flatMap_cons, List.append_assoc]
    rfl

variable [BEq α] [LawfulBEq α] {sep : α}

theorem findFrom_eq_some {start k : ℕ} {l : List α} (h : findFrom (· == sep) start l = some k) :
    start ≤ k ∧ l[k]? = some sep ∧ sep ∉ (l.drop start).take (k - start) := by
  obtain ⟨i, hi, rfl⟩ := Option.map_eq_some_iff.1 h
  obtain ⟨hlt, hsep, hbefore⟩ := List.findIdx?_eq_some_iff_getElem.1 hi
  rw [List.length_drop] at hlt
  refine ⟨by omega, ?_, fun hmem => ?_⟩
  · rw [List.getElem?_eq_getElem (by omega), ← eq_of_beq hsep, List.getElem_drop]
  · obtain ⟨j, hj, hget⟩ := List.mem_iff_getElem.1 hmem
    rw [List.getElem_take] at hget
    rw [List.length_take] at hj
    exact hbefore j (by omega) (beq_iff_eq.2 hget)

/-- Up to the next separator, and on behind it. -/
theorem splitOn_of_findFrom {start k : ℕ} {l : List α} (h : findFrom (· == sep) start l = some k) :
    (l.drop start).splitOn sep =
      (l.drop start).take (k - start) :: (l.drop (k + 1)).splitOn sep := by
  obtain ⟨hle, hget, hbefore⟩ := findFrom_eq_some h
  obtain ⟨hlt, hsep⟩ := List.getElem?_eq_some_iff.1 hget
  have hrest : (l.drop start).drop (k - start) = sep :: l.drop (k + 1) := by
    rw [List.drop_drop, Nat.add_sub_cancel' hle, List.drop_eq_getElem_cons hlt, hsep]
  rw [← List.splitOn_append_cons_self_of_not_mem hbefore, ← hrest, List.take_append_drop]

theorem splitOn_of_findFrom_none {start : ℕ} {l : List α}
    (h : findFrom (· == sep) start l = none) : (l.drop start).splitOn sep = [l.drop start] := by
  have hnone := List.findIdx?_eq_none_iff.1 (Option.map_eq_none_iff.1 h)
  apply List.splitOn_eq_singleton
  intro hmem
  exact Bool.false_ne_true ((hnone sep hmem).symm.trans (beq_self_eq_true sep))

end TextScan
