import Mathlib.Data.List.Forall2

namespace ExceptLoops

variable {ε α β : Type}

theorem bind_eq_ok_iff {x : Except ε α} {f : α → Except ε β} {b : β} :
    x >>= f = .ok b ↔ ∃ a, x = .ok a ∧ f a = .ok b := by
  cases x with
  | error e =>
    apply iff_of_false
    · rintro ⟨⟩
    · rintro ⟨_, ⟨⟩, _⟩
  | ok a =>
    constructor
    · exact fun h => ⟨a, rfl, h⟩
    · rintro ⟨_, ⟨⟩, h⟩
      exact h

/-- A loop of checks succeeds when every check does. -/
theorem forM_eq_ok_iff {f : α → Except ε Unit} {xs : List α} :
    forM xs f = .ok ⟨⟩ ↔ ∀ x ∈ xs, f x = .ok ⟨⟩ := by
  induction xs with
  | nil => exact iff_of_true rfl fun _ h => absurd h List.not_mem_nil
  | cons x xs ih =>
    rw [List.forM_cons, bind_eq_ok_iff, List.forall_mem_cons, ← ih]
    constructor
    · rintro ⟨_, hx, hxs⟩
      exact ⟨hx, hxs⟩
    · rintro ⟨hx, hxs⟩
      exact ⟨⟨⟩, hx, hxs⟩

/-- A traversal succeeds when it does at every element. -/
theorem mapM_eq_ok_iff {f : α → Except ε β} {xs : List α} {ys : List β} :
    xs.mapM f = .ok ys ↔ List.Forall₂ (fun x y => f x = .ok y) xs ys := by
  induction xs generalizing ys with
  | nil =>
    rw [List.mapM_nil, List.forall₂_nil_left_iff]
    constructor
    · rintro ⟨⟩
      rfl
    · rintro rfl
      rfl
  | cons x xs ih =>
    rw [List.mapM_cons, List.forall₂_cons_left_iff, bind_eq_ok_iff]
    constructor
    · rintro ⟨y, hy, h⟩
      obtain ⟨ys', hys, h⟩ := bind_eq_ok_iff.1 h
      cases h
      exact ⟨y, ys', hy, ih.1 hys, rfl⟩
    · rintro ⟨y, ys', hy, hys, rfl⟩
      exact ⟨y, hy, bind_eq_ok_iff.2 ⟨ys', ih.2 hys, rfl⟩⟩

theorem foldlM_append_singleton_eq_ok_iff {f : β → α → Except ε β} {xs : List α} {x : α}
    {b b' : β} :
    (xs ++ [x]).foldlM f b = .ok b' ↔ ∃ c, xs.foldlM f b = .ok c ∧ f c x = .ok b' := by
  rw [List.foldlM_append, bind_eq_ok_iff]
  apply exists_congr
  intro c
  apply and_congr_right
  intro _
  rw [List.foldlM_cons, bind_eq_ok_iff]
  constructor
  · rintro ⟨_, hf, ⟨⟩⟩
    exact hf
  · exact fun hf => ⟨b', hf, rfl⟩

/-- A loop over the places where something is found, when the state before each place is known. -/
theorem foldlM_filterMap_range_eq_ok_iff {g : ℕ → Option α} {f : β → α → Except ε β}
    (state : ℕ → β) (ok : ℕ → Prop) {bound : ℕ}
    (hnone : ∀ i < bound, g i = none → state (i + 1) = state i)
    (hsome : ∀ i < bound, ∀ a, g i = some a → ∀ b,
      f (state i) a = .ok b ↔ ok i ∧ b = state (i + 1))
    {n : ℕ} (hn : n ≤ bound) (b : β) :
    ((List.range n).filterMap g).foldlM f (state 0) = .ok b ↔
      (∀ i < n, (g i).isSome = true → ok i) ∧ b = state n := by
  induction n generalizing b with
  | zero =>
    constructor
    · rintro ⟨⟩
      exact ⟨fun i hi => absurd hi (Nat.not_lt_zero i), rfl⟩
    · rintro ⟨-, rfl⟩
      rfl
  | succ n ih =>
    have ih := ih (Nat.le_of_succ_le hn)
    rw [List.range_succ, List.filterMap_append]
    cases hg : g n with
    | none =>
      rw [List.filterMap_cons_none hg, List.filterMap_nil, List.append_nil, ih,
        hnone n hn hg, Nat.forall_lt_succ_right, hg]
      simp
    | some a =>
      rw [List.filterMap_cons_some hg, List.filterMap_nil, foldlM_append_singleton_eq_ok_iff,
        Nat.forall_lt_succ_right, hg]
      constructor
      · rintro ⟨c, hc, hf⟩
        obtain ⟨hall, rfl⟩ := (ih c).1 hc
        obtain ⟨hok, hb⟩ := (hsome n hn a hg b).1 hf
        exact ⟨⟨hall, fun _ => hok⟩, hb⟩
      · rintro ⟨⟨hall, hok⟩, hb⟩
        exact ⟨state n, (ih _).2 ⟨hall, rfl⟩, (hsome n hn a hg b).2 ⟨hok rfl, hb⟩⟩

end ExceptLoops
