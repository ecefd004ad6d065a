import Mathlib.Data.List.Basic
import Mathlib.Tactic.Common

namespace RepeatFilter

/-! A filter against repeats that remembers only the item that passed last. The log has the items
that passed with their times, the newest first. -/

variable {α κ σ τ γ : Type*} (key : α → κ) (recent : τ → τ → Prop)

/-- The newest item of the log has the key and is recent, so the filter takes it for a repeat. -/
def Repeats (log : List (τ × α)) (now : τ) (k : κ) : Prop :=
  ∃ e, log.head? = some e ∧ key e.2 = k ∧ recent e.1 now

/-- The newest item of the log with the key. -/
def latest [DecidableEq κ] (log : List (τ × α)) (k : κ) : Option (τ × α) :=
  log.find? fun e => key e.2 = k

variable {key recent} {log : List (τ × α)} {e : τ × α} {now : τ} {k : κ}

theorem latest_of_head [DecidableEq κ] (hhead : log.head? = some e) (hkey : key e.2 = k) :
    latest key log k = some e := by
  cases log with
  | nil => cases hhead
  | cons d log =>
    obtain rfl := Option.some.inj hhead
    exact List.find?_cons_of_pos (by simpa using hkey)

theorem mem_of_latest [DecidableEq κ] (h : latest key log k = some e) : e ∈ log :=
  List.mem_of_find?_eq_some h

/-- What is taken for a repeat repeats the content of its sender's latest item, unless the newest
item has the key and another content. -/
theorem repeats_content_iff [DecidableEq σ] (sender : α → σ) (content : α → γ) {s : σ} {c : γ}
    (hsender : ∀ a, key a = k → sender a = s) :
    (Repeats key recent log now k → ∃ e, latest sender log s = some e ∧ content e.2 = c) ↔
      ¬∃ e, log.head? = some e ∧ key e.2 = k ∧ recent e.1 now ∧ content e.2 ≠ c := by
  constructor
  · rintro h ⟨e, hhead, hkey, hrecent, hcontent⟩
    obtain ⟨d, hlatest, hd⟩ := h ⟨e, hhead, hkey, hrecent⟩
    rw [latest_of_head hhead (hsender e.2 hkey)] at hlatest
    obtain rfl := Option.some.inj hlatest
    exact hcontent hd
  · rintro h ⟨e, hhead, hkey, hrecent⟩
    refine ⟨e, latest_of_head hhead (hsender e.2 hkey), ?_⟩
    by_contra hcontent
    exact h ⟨e, hhead, hkey, hrecent, hcontent⟩

/-- A recent item is taken for a repeat, unless another key has passed since. -/
theorem latest_repeats_iff [DecidableEq κ] {within : τ → τ → Prop}
    (hrecent : ∀ e ∈ log, within e.1 now → recent e.1 now) :
    ((∃ e, latest key log k = some e ∧ within e.1 now) → Repeats key recent log now k) ↔
      ¬∃ d e, log.head? = some d ∧ key d.2 ≠ k ∧ latest key log k = some e ∧ within e.1 now := by
  constructor
  · rintro h ⟨d, e, hhead, hother, hlatest, hwithin⟩
    obtain ⟨d', hhead', hkey, -⟩ := h ⟨e, hlatest, hwithin⟩
    rw [hhead] at hhead'
    obtain rfl := Option.some.inj hhead'
    exact hother hkey
  · rintro h ⟨e, hlatest, hwithin⟩
    have hmem := mem_of_latest hlatest
    cases hhead : log.head? with
    | none =>
      rw [List.head?_eq_none_iff.1 hhead] at hmem
      cases hmem
    | some d =>
      have hkey : key d.2 = k := by
        by_contra hother
        exact h ⟨d, e, hhead, hother, hlatest, hwithin⟩
      rw [latest_of_head hhead hkey] at hlatest
      obtain rfl := Option.some.inj hlatest
      exact ⟨d, hhead, hkey, hrecent d hmem hwithin⟩

end RepeatFilter
