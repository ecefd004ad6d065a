import Mathlib.Data.List.TakeWhile

namespace BandedList

variable {α : Type*}

/-- The entries stand in the order of their bands, and no entry stands before one it excludes. -/
def Banded (band : α → ℕ) (excludes : α → α → Prop) (l : List α) : Prop :=
  l.Pairwise fun a b => band a ≤ band b ∧ ¬ excludes a b

variable {band : α → ℕ} {excludes : α → α → Prop} {l l' : List α} {a : α}

theorem Banded.nil : Banded band excludes [] := List.Pairwise.nil

theorem Banded.sublist (h : Banded band excludes l) (hl : l'.Sublist l) :
    Banded band excludes l' := List.Pairwise.sublist hl h

theorem Banded.cons (h : Banded band excludes l)
    (ha : ∀ b ∈ l, band a ≤ band b ∧ ¬ excludes a b) : Banded band excludes (a :: l) :=
  List.pairwise_cons.2 ⟨ha, h⟩

theorem Banded.concat (h : Banded band excludes l)
    (ha : ∀ b ∈ l, band b ≤ band a ∧ ¬ excludes b a) : Banded band excludes (l ++ [a]) := by
  refine List.pairwise_append.2 ⟨h, List.pairwise_singleton _ _, fun b hb c hc => ?_⟩
  rw [List.mem_singleton.1 hc]
  exact ha b hb

/-- Whatever comes after the first entry of a later band is of a later band too. -/
theorem Banded.lt_of_mem_dropWhile (h : Banded band excludes l) (k : ℕ) :
    ∀ b ∈ l.dropWhile fun b => !decide (k < band b), k < band b := by
  induction l with
  | nil => simp
  | cons c l ih =>
    have hc := List.pairwise_cons.1 h
    by_cases hk : k < band c
    · rw [List.dropWhile_cons_of_neg (by simp [hk])]
      intro b hb
      cases hb with
      | head => exact hk
      | tail _ hb => exact Nat.lt_of_lt_of_le hk (hc.1 b hb).1
    · rw [List.dropWhile_cons_of_pos (by simp [hk])]
      exact ih hc.2

/-- An entry that excludes nothing goes to the end of its band. -/
theorem Banded.insert (h : Banded band excludes l)
    (ha : ∀ b, ¬ excludes a b ∧ ¬ excludes b a) :
    Banded band excludes ((l.takeWhile fun b => !decide (band a < band b)) ++
      a :: l.dropWhile fun b => !decide (band a < band b)) := by
  have hlate := h.lt_of_mem_dropWhile (band a)
  have hearly : ∀ b ∈ l.takeWhile fun b => !decide (band a < band b), band b ≤ band a := by
    intro b hb
    have := List.mem_takeWhile_imp hb
    simpa using this
  refine List.pairwise_append.2 ⟨h.sublist (List.takeWhile_sublist _), ?_, ?_⟩
  · apply (h.sublist (List.dropWhile_sublist _)).cons
    intro b hb
    exact ⟨Nat.le_of_lt (hlate b hb), (ha b).1⟩
  · intro b hb c hc
    have hb' := hearly b hb
    cases hc with
    | head => exact ⟨hb', (ha b).2⟩
    | tail _ hc =>
      refine ⟨Nat.le_trans hb' (Nat.le_of_lt (hlate c hc)), ?_⟩
      rw [← List.takeWhile_append_dropWhile (p := fun b => !decide (band a < band b)) (l := l)] at h
      exact ((List.pairwise_append.1 h).2.2 b hb c hc).2

/-- An entry is replaced by one of its band that excludes nothing. -/
theorem Banded.replace {p r : List α} {b : α} (h : Banded band excludes (p ++ b :: r))
    (hband : band a = band b) (ha : ∀ b, ¬ excludes a b ∧ ¬ excludes b a) :
    Banded band excludes (p ++ a :: r) := by
  unfold Banded at h ⊢
  simp only [List.pairwise_append, List.pairwise_cons, List.mem_cons] at h ⊢
  obtain ⟨hp, ⟨hb, hr⟩, hpr⟩ := h
  refine ⟨hp, ⟨fun c hc => ⟨?_, (ha c).1⟩, hr⟩, ?_⟩
  · rw [hband]
    exact (hb c hc).1
  · intro c hc d hd
    rcases hd with rfl | hd
    · exact ⟨hband ▸ (hpr c hc b (.inl rfl)).1, (ha c).2⟩
    · exact hpr c hc d (.inr hd)

/-- The list is the entries up to a band, and then the later ones. -/
theorem Banded.eq_append (h : Banded band excludes l) (k : ℕ) :
    l = (l.filter fun b => !decide (k < band b)) ++ l.filter fun b => decide (k < band b) := by
  induction l with
  | nil => rfl
  | cons c l ih =>
    have hc := List.pairwise_cons.1 h
    by_cases hk : k < band c
    · have hlate : ∀ b ∈ l, k < band b := fun b hb => Nat.lt_of_lt_of_le hk (hc.1 b hb).1
      have hnone : l.filter (fun b => !decide (k < band b)) = [] := by
        apply List.filter_eq_nil_iff.2
        intro b hb
        simp [hlate b hb]
      have hall : l.filter (fun b => decide (k < band b)) = l := by
        apply List.filter_eq_self.2
        intro b hb
        simp [hlate b hb]
      rw [List.filter_cons_of_neg (by simp [hk]), List.filter_cons_of_pos (by simp [hk]), hnone,
        hall, List.nil_append]
    · rw [List.filter_cons_of_pos (by simp [hk]), List.filter_cons_of_neg (by simp [hk]),
        List.cons_append, ← ih hc.2]

/-- Of entries that exclude each other there is one at most. -/
theorem Banded.countP_le_one (h : Banded band excludes l) {p : α → Bool}
    (hp : ∀ a b, p a = true → p b = true → excludes a b) : l.countP p ≤ 1 := by
  induction l with
  | nil => simp
  | cons c l ih =>
    have hc := List.pairwise_cons.1 h
    have hl := ih hc.2
    cases hpc : p c with
    | false => rwa [List.countP_cons_of_neg (by simp [hpc])]
    | true =>
      have hnone : l.countP p = 0 := by
        apply List.countP_eq_zero.2
        intro b hb hpb
        exact (hc.1 b hb).2 (hp c b hpc hpb)
      rw [List.countP_cons_of_pos hpc, hnone]

end BandedList
