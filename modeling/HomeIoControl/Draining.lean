import Mathlib.Tactic.Common

namespace Draining

variable {σ α β : Type*} {pop : σ → Option α × σ}

/-- Popping until nothing comes out: what came out, in order, and the state that is left. -/
inductive Drains (pop : σ → Option α × σ) : σ → List α → σ → Prop
  | done {s t : σ} : pop s = (none, t) → Drains pop s [] t
  | next {s t u : σ} {a : α} {as : List α} :
      pop s = (some a, t) → Drains pop t as u → Drains pop s (a :: as) u

theorem Drains.unique {s t u : σ} {as bs : List α} (h : Drains pop s as t)
    (h' : Drains pop s bs u) : bs = as ∧ u = t := by
  induction h generalizing bs with
  | done hpop =>
    cases h' with
    | done hpop' =>
      rw [hpop] at hpop'
      exact ⟨rfl, (Prod.mk.inj hpop').2.symm⟩
    | next hpop' =>
      rw [hpop] at hpop'
      exact absurd (Prod.mk.inj hpop').1 (by simp)
  | next hpop _ ih =>
    cases h' with
    | done hpop' =>
      rw [hpop] at hpop'
      exact absurd (Prod.mk.inj hpop').1 (by simp)
    | next hpop' hrest =>
      rw [hpop, Prod.mk.injEq, Option.some_inj] at hpop'
      obtain ⟨rfl, rfl⟩ := hpop'
      obtain ⟨rfl, rfl⟩ := ih hrest
      exact ⟨rfl, rfl⟩

/-- If each call takes the head off a list, popping comes to an end and puts out the list. -/
theorem exists_drains (due : σ → List α) (hhead : ∀ s, (pop s).1 = (due s).head?)
    (htail : ∀ s a, (pop s).1 = some a → due (pop s).2 = (due s).tail) (s : σ) :
    ∃ t, Drains pop s (due s) t := by
  induction hdue : due s generalizing s with
  | nil =>
    have hnone : (pop s).1 = none := by rw [hhead, hdue, List.head?_nil]
    exact ⟨(pop s).2, .done (Prod.ext hnone rfl)⟩
  | cons a as ih =>
    have hsome : (pop s).1 = some a := by rw [hhead, hdue, List.head?_cons]
    have hrest : due (pop s).2 = as := by rw [htail s a hsome, hdue, List.tail_cons]
    obtain ⟨t, ht⟩ := ih (pop s).2 hrest
    exact ⟨t, .next (Prod.ext hsome rfl) ht⟩

/-- What no call changes is known at the end if the last call shows it. -/
theorem Drains.settles {s t : σ} {as : List α} (h : Drains pop s as t) (settled shown : σ → β)
    (hnext : ∀ s a t, pop s = (some a, t) → settled t = settled s)
    (hdone : ∀ s t, pop s = (none, t) → shown t = settled s) : shown t = settled s := by
  induction h with
  | done hpop => exact hdone _ _ hpop
  | next hpop _ ih => rw [ih, hnext _ _ _ hpop]

end Draining
