import Mathlib.Data.List.Infix

namespace GuardedRun

variable {σ ε : Type*} (step : σ → ε → σ)

/-- The state after a list of events. -/
def run (s : σ) (events : List ε) : σ := events.foldl step s

@[simp] theorem run_nil (s : σ) : run step s [] = s := rfl

/-- The property holds in every state that the run goes through. -/
def Always (P : σ → Prop) (s : σ) (events : List ε) : Prop :=
  ∀ before, before <+: events → P (run step s before)

/-- Every event meets its guard in the state in which it happens. -/
def Guarded (G : σ → ε → Prop) (s : σ) (events : List ε) : Prop :=
  ∀ before e, before ++ [e] <+: events → G (run step s before) e

variable {step} {P I : σ → Prop} {G : σ → ε → Prop} {s : σ} {e : ε} {events : List ε}

theorem always_nil : Always step P s [] ↔ P s := by
  simp [Always]

theorem always_cons : Always step P s (e :: events) ↔ P s ∧ Always step P (step s e) events := by
  unfold Always
  constructor
  · intro h
    refine ⟨h [] List.nil_prefix, fun before hbefore => ?_⟩
    exact h (e :: before) (List.cons_prefix_cons.2 ⟨rfl, hbefore⟩)
  · rintro ⟨hs, h⟩ before hbefore
    cases before with
    | nil => exact hs
    | cons d before =>
      obtain ⟨rfl, hrest⟩ := List.cons_prefix_cons.1 hbefore
      exact h before hrest

instance decidableAlways [DecidablePred P] :
    ∀ (events : List ε) (s : σ), Decidable (Always step P s events)
  | [], _ => decidable_of_iff' _ always_nil
  | e :: events, s =>
    have := decidableAlways events (step s e)
    decidable_of_iff' _ always_cons

theorem guarded_nil : Guarded step G s [] := by
  intro before e h
  simp at h

theorem guarded_cons :
    Guarded step G s (e :: events) ↔ G s e ∧ Guarded step G (step s e) events := by
  unfold Guarded
  constructor
  · intro h
    refine ⟨h [] e (List.cons_prefix_cons.2 ⟨rfl, List.nil_prefix⟩), fun before d hbefore => ?_⟩
    exact h (e :: before) d (List.cons_prefix_cons.2 ⟨rfl, hbefore⟩)
  · rintro ⟨he, h⟩ before d hbefore
    cases before with
    | nil =>
      obtain ⟨rfl, -⟩ := List.cons_prefix_cons.1 hbefore
      exact he
    | cons c before =>
      obtain ⟨rfl, hrest⟩ := List.cons_prefix_cons.1 hbefore
      exact h before d hrest

theorem run_append (s : σ) (before after : List ε) :
    run step s (before ++ after) = run step (run step s before) after :=
  List.foldl_append

theorem guarded_append {before after : List ε} :
    Guarded step G s (before ++ after) ↔
      Guarded step G s before ∧ Guarded step G (run step s before) after := by
  induction before generalizing s with
  | nil => exact (and_iff_right guarded_nil).symm
  | cons e before ih =>
    rw [List.cons_append, guarded_cons, guarded_cons, ih, and_assoc]
    rfl

/-- A guard that says when a property holds after an event. -/
theorem guarded_iff_after {H : σ → ε → Prop} (hiff : ∀ s e, H s e → (P (step s e) ↔ G s e))
    (h : Guarded step H s events) :
    (∀ before, before <+: events → before ≠ [] → P (run step s before)) ↔
      Guarded step G s events := by
  constructor
  · intro hP before e hprefix
    rw [← hiff _ e (h before e hprefix)]
    have hafter := hP (before ++ [e]) hprefix (by simp)
    rw [run_append] at hafter
    exact hafter
  · intro hG before hprefix hne
    obtain ⟨before, e, rfl⟩ := List.eq_nil_or_concat' before |>.resolve_left hne
    rw [run_append]
    exact (hiff _ e (h before e hprefix)).2 (hG before e hprefix)

/-- What every allowed event keeps holds in every state of a run of allowed events. -/
theorem always_of_kept {A : ε → Prop} (hkeeps : ∀ s e, I s → A e → I (step s e)) (hstart : I s)
    (hallowed : ∀ e ∈ events, A e) : Always step I s events := by
  induction events generalizing s with
  | nil => exact always_nil.2 hstart
  | cons e events ih =>
    obtain ⟨he, hrest⟩ := List.forall_mem_cons.1 hallowed
    exact always_cons.2 ⟨hstart, ih (hkeeps s e hstart he) hrest⟩

theorem Always.head (h : Always step P s events) : P s := h [] List.nil_prefix

/-- An invariant turns a property of every state into a guard on every event: a guarded event
keeps the invariant, and an event after which the property holds met its guard. A side condition
that is known of every state of the run may be used on both sides of an event. -/
theorem always_iff_guarded {Q : σ → Prop} (hI : ∀ s, I s → Q s)
    (hkeeps : ∀ s e, I s → P s → P (step s e) → G s e → I (step s e))
    (hmeets : ∀ s e, I s → P s → P (step s e) → Q (step s e) → G s e)
    (hstart : I s) (hP : Always step P s events) :
    Always step Q s events ↔ Guarded step G s events := by
  induction events generalizing s with
  | nil => exact iff_of_true (always_nil.2 (hI s hstart)) guarded_nil
  | cons e events ih =>
    obtain ⟨hs, hrest⟩ := always_cons.1 hP
    rw [always_cons, guarded_cons]
    constructor
    · rintro ⟨-, hQ⟩
      have he := hmeets s e hstart hs hrest.head hQ.head
      exact ⟨he, (ih (hkeeps s e hstart hs hrest.head he) hrest).1 hQ⟩
    · rintro ⟨he, hG⟩
      exact ⟨hI s hstart, (ih (hkeeps s e hstart hs hrest.head he) hrest).2 hG⟩

/-- Two guards that agree wherever an invariant holds. -/
theorem guarded_congr {H : σ → ε → Prop} (hkeeps : ∀ s e, I s → I (step s e))
    (hiff : ∀ s e, I s → (G s e ↔ H s e)) (hstart : I s) :
    Guarded step G s events ↔ Guarded step H s events := by
  induction events generalizing s with
  | nil => exact iff_of_true guarded_nil guarded_nil
  | cons e events ih =>
    rw [guarded_cons, guarded_cons, hiff s e hstart, ih (hkeeps s e hstart)]

end GuardedRun
