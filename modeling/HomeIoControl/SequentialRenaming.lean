import Mathlib.Data.List.Nodup

namespace SequentialRenaming

variable {α : Type*} [DecidableEq α]

/-- One entry of a table, applied to a name. -/
def rename (x : α) (entry : α × α) : α := if x = entry.1 then entry.2 else x

/-- The entries one after the other, each applied to what the earlier ones left. -/
def sequential (table : List (α × α)) (x : α) : α := table.foldl rename x

/-- The image under the table as a partial function. -/
def image (table : List (α × α)) (x : α) : α := (table.lookup x).getD x

/-- From the image of a name, the entries behind its own lead back to the image. -/
def Settles (table : List (α × α)) (x : α) : Prop :=
  ∀ before y after, table = before ++ (x, y) :: after → sequential after y = y

variable {table : List (α × α)} {x y : α} {entry : α × α}

@[simp] theorem sequential_nil : sequential [] x = x := rfl

@[simp] theorem sequential_cons :
    sequential (entry :: table) x = sequential table (rename x entry) := rfl

theorem sequential_append (before after : List (α × α)) :
    sequential (before ++ after) x = sequential after (sequential before x) :=
  List.foldl_append

theorem rename_of_ne (h : x ≠ entry.1) : rename x entry = x := if_neg h

theorem sequential_of_notMem (h : x ∉ table.map Prod.fst) : sequential table x = x := by
  induction table with
  | nil => rfl
  | cons entry table ih =>
    rw [List.map_cons, List.mem_cons, not_or] at h
    rw [sequential_cons, rename_of_ne h.1, ih h.2]

theorem image_of_notMem (h : x ∉ table.map Prod.fst) : image table x = x := by
  induction table with
  | nil => rfl
  | cons entry table ih =>
    rw [List.map_cons, List.mem_cons, not_or] at h
    rw [image, List.lookup_cons, beq_false_of_ne h.1]
    exact ih h.2

/-- The place of a name in a table. -/
theorem exists_split (h : x ∈ table.map Prod.fst) :
    ∃ before y after, table = before ++ (x, y) :: after ∧ x ∉ before.map Prod.fst := by
  induction table with
  | nil => cases h
  | cons entry table ih =>
    by_cases hx : x = entry.1
    · exact ⟨[], entry.2, table, by rw [hx, List.nil_append], List.not_mem_nil⟩
    · have hmem : x ∈ table.map Prod.fst :=
        (List.mem_cons.1 h).resolve_left hx
      obtain ⟨before, y, after, rfl, hbefore⟩ := ih hmem
      exact ⟨entry :: before, y, after, rfl, List.not_mem_cons_of_ne_of_not_mem hx hbefore⟩

theorem image_of_split {before after : List (α × α)} (h : x ∉ before.map Prod.fst) :
    image (before ++ (x, y) :: after) x = y := by
  induction before with
  | nil => rw [List.nil_append, image, List.lookup_cons_self, Option.getD_some]
  | cons entry before ih =>
    rw [List.map_cons, List.mem_cons, not_or] at h
    rw [List.cons_append, image, List.lookup_cons, beq_false_of_ne h.1]
    exact ih h.2

theorem sequential_of_split {before after : List (α × α)} (h : x ∉ before.map Prod.fst) :
    sequential (before ++ (x, y) :: after) x = sequential after y := by
  rw [sequential_append, sequential_of_notMem h, sequential_cons, rename, if_pos rfl]

/-- When a table read entry by entry acts as the function it is. -/
theorem sequential_eq_image_iff (hnodup : (table.map Prod.fst).Nodup) :
    sequential table x = image table x ↔ Settles table x := by
  constructor
  · rintro h before y after rfl
    have hbefore : x ∉ before.map Prod.fst := by
      rw [List.map_append, List.map_cons] at hnodup
      exact fun hmem => (List.nodup_middle.1 hnodup).notMem
        (List.mem_append_left _ hmem)
    rw [sequential_of_split hbefore, image_of_split hbefore] at h
    exact h
  · intro h
    by_cases hx : x ∈ table.map Prod.fst
    · obtain ⟨before, y, after, rfl, hbefore⟩ := exists_split hx
      rw [sequential_of_split hbefore, image_of_split hbefore]
      exact h before y after rfl
    · rw [sequential_of_notMem hx, image_of_notMem hx]

end SequentialRenaming
