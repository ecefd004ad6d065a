import Mathlib.Algebra.Group.End
import Mathlib.Algebra.Group.Prod
import Mathlib.Tactic.Abel

namespace AffineRegister

variable {M : Type*} [AddCommGroup M] (L : AddMonoid.End M)

/-- A linear register mixes an input into its state and moves on. -/
def step (s u : M) : M := L (s + u)

def run (s : M) (inputs : List M) : M := inputs.foldl (step L) s

theorem run_replicate (s u : M) (k : ℕ) :
    run L s (List.replicate k u) = (fun t => step L t u)^[k] s := by
  induction k generalizing s with
  | zero => rfl
  | succ k ih =>
    rw [List.replicate_succ, Function.iterate_succ_apply]
    exact ih (step L s u)

/-! ## Inputs told apart -/

theorem run_append (s : M) (inputs inputs' : List M) :
    run L s (inputs ++ inputs') = run L (run L s inputs) inputs' := List.foldl_append

/-- What the state and the inputs contribute to the end of a run. -/
theorem run_eq_add (s : M) (inputs : List M) :
    run L s inputs = (L ^ inputs.length) s + run L 0 inputs := by
  rw [AddMonoid.End.coe_pow]
  induction inputs generalizing s with
  | nil => exact (add_zero s).symm
  | cons u inputs ih =>
    have hstep : L (s + u) = L s + L (0 + u) := by rw [zero_add, map_add]
    have hs := ih (L (s + u))
    have hzero := ih (L (0 + u))
    rw [hstep, iterate_map_add, add_assoc, ← hzero, ← hstep] at hs
    exact hs

variable {L}

theorem step_left_injective (hL : Function.Injective L) (u : M) :
    Function.Injective fun s => step L s u := fun _ _ h => add_right_cancel (hL h)

/-- A register that forgets nothing tells states apart, whatever comes in. -/
theorem run_left_injective (hL : Function.Injective L) (inputs : List M) :
    Function.Injective fun s => run L s inputs := by
  induction inputs with
  | nil => exact Function.injective_id
  | cons u inputs ih => exact ih.comp (step_left_injective hL u)

/-- Between the same inputs before and after, only the inputs in the middle count. -/
theorem run_middle_eq_iff (hL : Function.Injective L) (s : M) (before after : List M)
    {middle middle' : List M} (hlength : middle.length = middle'.length) :
    run L s (before ++ middle ++ after) = run L s (before ++ middle' ++ after) ↔
      run L 0 middle = run L 0 middle' := by
  rw [run_append, run_append, run_append, run_append, (run_left_injective hL after).eq_iff,
    run_eq_add L _ middle, run_eq_add L _ middle', hlength, add_right_inj]

/-- Two lists that differ in some consecutive places only. -/
def DifferWithin {α : Type*} (start width : ℕ) (l l' : List α) : Prop :=
  ∀ i, l[i]? ≠ l'[i]? → start ≤ i ∧ i < start + width

namespace DifferWithin

variable {α β : Type*} {start width : ℕ} {l l' : List α}

theorem map (h : DifferWithin start width l l') (f : α → β) :
    DifferWithin start width (l.map f) (l'.map f) := by
  intro i hi
  apply h i
  intro heq
  rw [List.getElem?_map, List.getElem?_map, heq] at hi
  exact hi rfl

theorem of_forall_ne {i : ℕ} (h : ∀ j, j ≠ i → l[j]? = l'[j]?) : DifferWithin i 1 l l' := by
  intro j hj
  have hplace : j = i := by
    by_contra hne
    exact hj (h j hne)
  omega

theorem take_eq (h : DifferWithin start width l l') : l.take start = l'.take start := by
  apply List.ext_getElem?
  intro i
  rw [List.getElem?_take, List.getElem?_take]
  split
  · by_contra hne
    have hstart := (h i hne).1
    omega
  · rfl

theorem drop_eq (h : DifferWithin start width l l') :
    l.drop (start + width) = l'.drop (start + width) := by
  apply List.ext_getElem?
  intro i
  rw [List.getElem?_drop, List.getElem?_drop]
  by_contra hne
  have hend := (h _ hne).2
  omega

end DifferWithin

theorem take_append_middle {α : Type*} (start width : ℕ) (l : List α) :
    l.take start ++ (l.drop start).take width ++ l.drop (start + width) = l := by
  rw [List.append_assoc, ← List.drop_drop, List.take_append_drop, List.take_append_drop]

/-- Inputs that differ in some places lead to one end only if those places alone do. -/
theorem run_eq_iff_of_differWithin (hL : Function.Injective L) (s : M) {start width : ℕ}
    {inputs inputs' : List M} (hlength : inputs.length = inputs'.length)
    (h : DifferWithin start width inputs inputs') :
    run L s inputs = run L s inputs' ↔
      run L 0 ((inputs.drop start).take width) = run L 0 ((inputs'.drop start).take width) := by
  have hmiddle : ((inputs.drop start).take width).length =
      ((inputs'.drop start).take width).length := by
    simp [hlength]
  rw [← run_middle_eq_iff hL s (inputs.take start) (inputs.drop (start + width)) hmiddle,
    take_append_middle, h.take_eq, h.drop_eq, take_append_middle]

/-- One input that changes changes the end of the run. -/
theorem run_ne_of_change (hL : Function.Injective L) (s : M) {inputs inputs' : List M} {i : ℕ}
    (hlength : inputs.length = inputs'.length) (hi : inputs[i]? ≠ inputs'[i]?)
    (hrest : ∀ j, j ≠ i → inputs[j]? = inputs'[j]?) : run L s inputs ≠ run L s inputs' := by
  intro hrun
  rw [run_eq_iff_of_differWithin hL s hlength (.of_forall_ne hrest), List.take_one, List.take_one,
    List.head?_drop, List.head?_drop] at hrun
  rcases Nat.lt_or_ge i inputs.length with hlt | hge
  · rw [List.getElem?_eq_getElem hlt, List.getElem?_eq_getElem (hlength ▸ hlt)] at hrun hi
    exact hi (congrArg some (add_left_cancel (hL hrun)))
  · rw [List.getElem?_eq_none hge, List.getElem?_eq_none (hlength ▸ hge)] at hi
    exact hi rfl

/-! ## Inputs that leave a state alone -/

variable {p u : M}

/-- Around a state that an input leaves alone, the register is linear. -/
theorem step_sub (hp : step L p u = p) (s : M) : step L s u - p = L (s - p) := by
  calc step L s u - p = L (s + u) - L (p + u) := by
        rw [← step, ← step, hp]
    _ = L (s + u - (p + u)) := (map_sub L _ _).symm
    _ = L (s - p) := by
        congr 1
        abel

theorem iterate_step_sub (hp : step L p u = p) (k : ℕ) (s : M) :
    (fun t => step L t u)^[k] s - p = (L ^ k) (s - p) := by
  rw [AddMonoid.End.coe_pow]
  induction k generalizing s with
  | zero => rfl
  | succ k ih => rw [Function.iterate_succ_apply, Function.iterate_succ_apply, ih, step_sub hp]

/-- The states that an input brings back after some steps. -/
theorem iterate_step_eq_self_iff (hp : step L p u = p) (k : ℕ) (s : M) :
    (fun t => step L t u)^[k] s = s ↔ (L ^ k) (s - p) = s - p := by
  rw [← iterate_step_sub hp, sub_left_inj]

/-! ## Fixed points on a product -/

variable {A B : Type*} [AddCommGroup A] [AddCommGroup B] {f : AddMonoid.End (A × B)}

theorem map_eq_add (f : AddMonoid.End (A × B)) (a : A) (b : B) :
    f (a, b) = f (a, 0) + f (0, b) := by
  rw [← map_add, Prod.mk_add_mk, add_zero, zero_add]

/-- Where the second half can be solved for, it follows from the first. -/
theorem snd_eq_of_fixed (solve : B → B) (hsolve : ∀ b, solve (b - (f (0, b)).2) = b) {a : A}
    {b : B} (h : f (a, b) = (a, b)) : b = solve (f (a, 0)).2 := by
  have hsnd : (f (a, 0)).2 = b - (f (0, b)).2 := by
    rw [eq_sub_iff_add_eq, ← Prod.snd_add, ← map_eq_add, h]
  rw [hsnd, hsolve]

end AffineRegister
