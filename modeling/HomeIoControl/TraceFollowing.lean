import Mathlib.Data.List.Basic

namespace EventTrace

variable {σ ε : Type*} {step : σ → ε → σ → Prop}

/-- A party goes from one state to another with the events of a trace. What it does with an event
may be open. -/
inductive Follows (step : σ → ε → σ → Prop) : σ → List ε → σ → Prop
  | nil (s : σ) : Follows step s [] s
  | cons {s t u : σ} {e : ε} {events : List ε} (head : step s e t)
      (tail : Follows step t events u) : Follows step s (e :: events) u

variable {s t u : σ} {e : ε} {events later : List ε}

theorem follows_nil : Follows step s [] t ↔ t = s := by
  constructor
  · intro h
    cases h
    rfl
  · rintro rfl
    exact .nil t

theorem follows_cons :
    Follows step s (e :: events) u ↔ ∃ t, step s e t ∧ Follows step t events u := by
  constructor
  · intro h
    cases h with
    | cons head tail => exact ⟨_, head, tail⟩
  · rintro ⟨t, head, tail⟩
    exact .cons head tail

theorem follows_append :
    Follows step s (events ++ later) u ↔
      ∃ t, Follows step s events t ∧ Follows step t later u := by
  induction events generalizing s with
  | nil => simp [follows_nil]
  | cons e events ih =>
    rw [List.cons_append, follows_cons]
    simp only [follows_cons, ih]
    constructor
    · rintro ⟨t, head, v, middle, tail⟩
      exact ⟨v, ⟨t, head, middle⟩, tail⟩
    · rintro ⟨v, ⟨t, head, middle⟩, tail⟩
      exact ⟨t, head, v, middle, tail⟩

/-- What every event keeps holds at the end. -/
theorem Follows.kept {I : σ → Prop} (h : Follows step s events t)
    (hkeeps : ∀ s t, ∀ e ∈ events, I s → step s e t → I t) (hs : I s) : I t := by
  induction h with
  | nil s => exact hs
  | cons head tail ih =>
    exact ih (fun s t e he => hkeeps s t e (List.mem_cons_of_mem _ he))
      (hkeeps _ _ _ List.mem_cons_self hs head)

/-- A party that no event moves, and what every event shows of its state. -/
theorem Follows.still {P : σ → ε → Prop} (h : Follows step s events t)
    (hstill : ∀ s t, ∀ e ∈ events, step s e t → t = s ∧ P s e) :
    t = s ∧ ∀ e ∈ events, P s e := by
  induction h with
  | nil s => exact ⟨rfl, fun e he => absurd he List.not_mem_nil⟩
  | cons head tail ih =>
    obtain ⟨rfl, hshown⟩ := hstill _ _ _ List.mem_cons_self head
    obtain ⟨hsame, hrest⟩ := ih fun s t e he => hstill s t e (List.mem_cons_of_mem _ he)
    exact ⟨hsame, List.forall_mem_cons.2 ⟨hshown, hrest⟩⟩

/-- The state in which an event of the trace happens. -/
theorem Follows.at_mem (h : Follows step s events u) (he : e ∈ events) :
    ∃ before after t t', events = before ++ e :: after ∧ Follows step s before t ∧
      step t e t' ∧ Follows step t' after u := by
  obtain ⟨before, after, rfl⟩ := List.append_of_mem he
  obtain ⟨t, hbefore, hrest⟩ := follows_append.1 h
  obtain ⟨t', head, tail⟩ := follows_cons.1 hrest
  exact ⟨before, after, t, t', rfl, hbefore, head, tail⟩

end EventTrace
