import Mathlib.Data.List.Flatten
import Mathlib.Data.List.Forall2
import Mathlib.Data.List.Perm.Basic
import Mathlib.Tactic.Common

namespace RequestLedger

variable {κ : Type*} (Joins : κ → κ → κ → Prop)

/-- The requests an entry serves: the one it was queued for, and those joined to it later. -/
inductive Serves : List κ → κ → Prop
  | alone (c : κ) : Serves [c] c
  | join {served : List κ} {c r c' : κ} (hserved : Serves served c) (hjoin : Joins c r c') :
    Serves (served ++ [r]) c'

/-- A request goes to the end of the queue or is joined to a waiting entry, in place. -/
inductive Absorbs : List κ → κ → List κ → Prop
  | push (q : List κ) (r : κ) : Absorbs q r (q ++ [r])
  | join (p q : List κ) {c r c' : κ} (hjoin : Joins c r c') :
    Absorbs (p ++ c :: q) r (p ++ c' :: q)

/-- The entries serve every request once, and those that serve one request alone are in the order
of their requests. -/
structure Delivers (requested entries : List κ) : Prop where
  intro ::
  exists_served : ∃ served : List (List κ),
    List.Forall₂ (Serves Joins) served entries ∧ served.flatten.Perm requested ∧
      (served.filter fun rs => rs.length = 1).flatten.Sublist requested

variable {Joins} {requested entries p q : List κ} {c r c' : κ}

theorem Serves.ne_nil {served : List κ} (h : Serves Joins served c) : served ≠ [] := by
  cases h <;> simp

/-- What was taken from the front is not touched. -/
theorem Absorbs.append_left (taken : List κ) (h : Absorbs Joins p r q) :
    Absorbs Joins (taken ++ p) r (taken ++ q) := by
  cases h with
  | push =>
    rw [← List.append_assoc]
    exact .push (taken ++ p) r
  | join p q hjoin =>
    rw [← List.append_assoc, ← List.append_assoc]
    exact .join (taken ++ p) q hjoin

theorem delivers_nil : Delivers Joins [] [] := ⟨[], .nil, .nil, by simp⟩

theorem Delivers.push (h : Delivers Joins requested entries) (r : κ) :
    Delivers Joins (requested ++ [r]) (entries ++ [r]) := by
  obtain ⟨served, hserves, hperm, halone⟩ := h
  refine ⟨served ++ [[r]], ?_, ?_, ?_⟩
  · exact List.rel_append hserves (.cons (.alone r) .nil)
  · rw [List.flatten_append]
    exact hperm.append_right [r]
  · rw [List.filter_append, List.flatten_append]
    exact halone.append (List.Sublist.refl [r])

/-- The entry leaves those that serve one request alone; the order of the others stays. -/
theorem Delivers.join (h : Delivers Joins requested (p ++ c :: q)) (hjoin : Joins c r c') :
    Delivers Joins (requested ++ [r]) (p ++ c' :: q) := by
  obtain ⟨served, hserves, hperm, halone⟩ := h
  have hbefore := List.forall₂_take_append served p (c :: q) hserves
  obtain ⟨own, after, hown, hafter, hrest⟩ :=
    List.forall₂_cons_right_iff.1 (List.forall₂_drop_append served p (c :: q) hserves)
  have hserved : served = served.take p.length ++ own :: after := by
    rw [← hrest, List.take_append_drop]
  generalize served.take p.length = before at hbefore hserved
  subst hserved
  have hmoved : (before ++ (own ++ [r]) :: after).flatten.Perm
      ((before ++ own :: after).flatten ++ [r]) := by
    simp only [List.flatten_append, List.flatten_cons, List.append_assoc]
    exact (List.perm_append_comm.append_left own).append_left before.flatten
  have hlong : ¬ (own ++ [r]).length = 1 := by
    have := List.length_pos_iff.2 hown.ne_nil
    simp only [List.length_append, List.length_singleton]
    omega
  refine ⟨before ++ (own ++ [r]) :: after, ?_, ?_, ?_⟩
  · exact List.rel_append hbefore (.cons (.join hown hjoin) hafter)
  · exact hmoved.trans (hperm.append_right [r])
  · have hfewer : ((before ++ (own ++ [r]) :: after).filter fun rs => rs.length = 1).Sublist
        ((before ++ own :: after).filter fun rs => rs.length = 1) := by
      rw [List.filter_append, List.filter_cons_of_neg (by simpa using hlong), List.filter_append]
      exact (List.Sublist.refl _).append ((List.sublist_cons_self own after).filter _)
    exact (hfewer.flatten.trans halone).trans (List.sublist_append_left requested [r])

theorem Delivers.absorb (h : Delivers Joins requested p) (hstep : Absorbs Joins p r q) :
    Delivers Joins (requested ++ [r]) q := by
  cases hstep with
  | push => exact h.push r
  | join p q hjoin => exact h.join hjoin

/-- Whatever two requests joined write together, the entries write it once. -/
theorem Delivers.perm_flatMap {ω : Type*} {writes : κ → List ω}
    (hwrites : ∀ {c r c'}, Joins c r c' → (writes c').Perm (writes c ++ writes r))
    (h : Delivers Joins requested entries) :
    (entries.flatMap writes).Perm (requested.flatMap writes) := by
  obtain ⟨served, hserves, hperm, -⟩ := h
  have hown : ∀ {own c}, Serves Joins own c → (writes c).Perm (own.flatMap writes) := by
    intro own c hserved
    induction hserved with
    | alone c => simp
    | join hserved hjoin ih =>
      rw [List.flatMap_append]
      simpa using (hwrites hjoin).trans (ih.append_right _)
  have hall : (entries.flatMap writes).Perm (served.flatten.flatMap writes) := by
    clear hperm
    induction hserves with
    | nil => simp
    | cons hserved _ ih =>
      rw [List.flatten_cons, List.flatMap_append, List.flatMap_cons]
      exact (hown hserved).append ih
  exact hall.trans (hperm.flatMap_right writes)

end RequestLedger
