import Mathlib.Data.List.Basic

namespace EventTrace

variable {α β : Type*}

/-- Every event of the trace is justified by the events before it. -/
def Justified (J : List α → α → Prop) (trace : List α) : Prop :=
  ∀ before e after, trace = before ++ e :: after → J before e

theorem justified_nil (J : List α → α → Prop) : Justified J [] := by
  intro before e after h
  simp at h

/-- A later part of a trace is justified with the earlier part in front of it. -/
theorem justified_append {J : List α → α → Prop} {t es : List α} :
    Justified J (t ++ es) ↔ Justified J t ∧ Justified (fun before => J (t ++ before)) es := by
  constructor
  · intro h
    constructor
    · intro before e after ht
      apply h before e (after ++ es)
      rw [ht, List.append_assoc, List.cons_append]
    · intro before e after hes
      apply h (t ++ before) e after
      rw [hes, List.append_assoc]
  · rintro ⟨ht, hes⟩ before e after heq
    rcases List.append_eq_append_iff.1 heq with ⟨m, rfl, hm⟩ | ⟨m, rfl, hm⟩
    · exact hes m e after hm
    · cases m with
      | nil =>
        have h := hes [] e after hm.symm
        simpa only [List.append_nil] using h
      | cons a m =>
        obtain ⟨rfl, -⟩ := List.cons.inj (hm.trans (List.cons_append ..))
        exact ht before e m rfl

theorem justified_cons {J : List α → α → Prop} {e : α} {es : List α} :
    Justified J (e :: es) ↔ J [] e ∧ Justified (fun before => J (e :: before)) es := by
  rw [← List.singleton_append, justified_append]
  apply and_congr_left'
  constructor
  · intro h
    exact h [] e [] rfl
  · intro h before e' after heq
    cases before with
    | nil =>
      obtain ⟨rfl, -⟩ := List.cons.inj heq
      exact h
    | cons a before => simp at heq

theorem justified_singleton {J : List α → α → Prop} {e : α} : Justified J [e] ↔ J [] e := by
  rw [justified_cons]
  exact and_iff_left (justified_nil _)

/-- Events that need no justification. -/
theorem justified_of_forall {J : List α → α → Prop} {es : List α}
    (h : ∀ e ∈ es, ∀ before, J before e) : Justified J es := by
  rintro before e after rfl
  exact h e (by simp) before

theorem justified_map {J : List α → α → Prop} {f : β → α} {xs : List β}
    (h : ∀ x before, J before (f x)) : Justified J (xs.map f) := by
  apply justified_of_forall
  intro e he before
  obtain ⟨x, -, rfl⟩ := List.mem_map.1 he
  exact h x before

theorem Justified.mono {J K : List α → α → Prop} {trace : List α} (h : Justified J trace)
    (hJK : ∀ before e, J before e → K before e) : Justified K trace := by
  intro before e after heq
  exact hJK before e (h before e after heq)

/-- Justifications that need only a late part of the past carry over to longer traces. -/
theorem Justified.append_left {J : List α → α → Prop} {trace : List α}
    (hJ : ∀ earlier before e, J before e → J (earlier ++ before) e) (h : Justified J trace)
    (earlier : List α) : Justified (fun before => J (earlier ++ before)) trace :=
  h.mono (hJ earlier)

/-! ## Order of events -/

/-- An event with one property comes before an event with another. -/
def Precedes (P Q : α → Prop) (trace : List α) : Prop :=
  ∃ x y, [x, y].Sublist trace ∧ P x ∧ Q y

variable {P Q : α → Prop} {trace : List α}

theorem Precedes.of_sublist {longer : List α} (h : Precedes P Q trace)
    (hsub : trace.Sublist longer) : Precedes P Q longer := by
  obtain ⟨x, y, hxy, hx, hy⟩ := h
  exact ⟨x, y, hxy.trans hsub, hx, hy⟩

theorem Precedes.append_left (h : Precedes P Q trace) (earlier : List α) :
    Precedes P Q (earlier ++ trace) :=
  h.of_sublist (List.sublist_append_right earlier trace)

theorem Precedes.append_right (h : Precedes P Q trace) (later : List α) :
    Precedes P Q (trace ++ later) :=
  h.of_sublist (List.sublist_append_left trace later)

theorem precedes_append_of_mem {xs ys : List α} {x y : α} (hx : x ∈ xs) (hy : y ∈ ys)
    (hPx : P x) (hQy : Q y) : Precedes P Q (xs ++ ys) :=
  ⟨x, y, (List.singleton_sublist.2 hx).append (List.singleton_sublist.2 hy), hPx, hQy⟩

end EventTrace
