import HomeIoControl.EventTrace
import HomeIoControl.GuardedRun

namespace EventTrace
open GuardedRun

variable {α β σ ε : Type*}

/-- The trace goes on with events that are justified by all that came before them. -/
def Grows (J : List α → α → Prop) (t t' : List α) : Prop :=
  ∃ es, t' = t ++ es ∧ Justified (fun before => J (t ++ before)) es

variable {J K : List α → α → Prop} {t t' t'' : List α}

theorem Grows.refl (J : List α → α → Prop) (t : List α) : Grows J t t :=
  ⟨[], (List.append_nil t).symm, justified_nil _⟩

theorem Grows.trans (h : Grows J t t') (h' : Grows J t' t'') : Grows J t t'' := by
  obtain ⟨es, rfl, hes⟩ := h
  obtain ⟨later, rfl, hlater⟩ := h'
  refine ⟨es ++ later, List.append_assoc t es later, justified_append.2 ⟨hes, ?_⟩⟩
  simpa only [List.append_assoc] using hlater

theorem Grows.isPrefix (h : Grows J t t') : t <+: t' := by
  obtain ⟨es, rfl, -⟩ := h
  exact List.prefix_append t es

theorem grows_append {es : List α} (h : Justified (fun before => J (t ++ before)) es) :
    Grows J t (t ++ es) :=
  ⟨es, rfl, h⟩

theorem grows_concat {e : α} (h : J t e) : Grows J t (t ++ [e]) := by
  apply grows_append
  rw [justified_singleton, List.append_nil]
  exact h

/-- Parts that follow one another, each justified behind whatever comes before it. -/
theorem justified_flatten {parts : List (List α)}
    (h : ∀ part ∈ parts, ∀ earlier, Justified (fun before => J (earlier ++ before)) part) :
    Justified J parts.flatten := by
  induction parts generalizing J with
  | nil => exact justified_nil J
  | cons part parts ih =>
    obtain ⟨hpart, hparts⟩ := List.forall_mem_cons.1 h
    rw [List.flatten_cons, justified_append]
    refine ⟨hpart [], ih fun later hlater earlier => ?_⟩
    simpa only [List.append_assoc] using hparts later hlater (part ++ earlier)

/-- Each allowed step of a system lets a trace grow, and so does a run of them. -/
theorem grows_run_of_guarded {step : σ → ε → σ} (trace : σ → List α) {I : σ → Prop} {A : ε → Prop}
    (hkeeps : ∀ s e, I s → A e → I (step s e))
    (hstep : ∀ s e, I s → A e → Grows J (trace s) (trace (step s e))) {s : σ} (hs : I s)
    {events : List ε} (hevents : ∀ e ∈ events, A e) :
    Grows J (trace s) (trace (run step s events)) := by
  induction events generalizing s with
  | nil => exact Grows.refl J (trace s)
  | cons e events ih =>
    obtain ⟨he, hrest⟩ := List.forall_mem_cons.1 hevents
    exact (hstep s e hs he).trans (ih (hkeeps s e hs he) hrest)

end EventTrace
