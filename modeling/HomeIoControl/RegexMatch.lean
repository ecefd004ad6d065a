import Mathlib.Data.List.Infix

namespace RegexMatch

variable {α β : Type}

/-! ## Matchers -/

/-- A position in a text: the character before it and the text after it. -/
structure Cursor where
  before : Option Char
  rest : List Char

/-- The ways in which a pattern matches at a position, in the order of preference. -/
def Matcher (α : Type) := Cursor → List (α × Cursor)

instance : Monad Matcher where
  pure a := fun c => [(a, c)]
  bind m k := fun c => (m c).flatMap fun r => k r.1 r.2

/-- One character of a class. -/
def one (p : Char → Bool) : Matcher Char
  | ⟨_, []⟩ => []
  | ⟨_, d :: rest⟩ => if p d then [(d, ⟨some d, rest⟩)] else []

def literal : List Char → Matcher Unit
  | [] => pure ()
  | d :: w => do
    let _ ← one (· == d)
    literal w

/-- A fixed number of characters of a class. -/
def exactly (p : Char → Bool) : ℕ → Matcher (List Char)
  | 0 => pure []
  | n + 1 => do
    let d ← one p
    let w ← exactly p n
    pure (d :: w)

/-- Characters of a class, as many as possible first. -/
def runFrom (p : Char → Bool) (before : Option Char) : List Char → List (List Char × Cursor)
  | [] => [([], ⟨before, []⟩)]
  | d :: rest =>
    (if p d then (runFrom p (some d) rest).map fun r => (d :: r.1, r.2) else []) ++
      [([], ⟨before, d :: rest⟩)]

def run (p : Char → Bool) : Matcher (List Char) := fun c => runFrom p c.before c.rest

/-- At least one character of a class. -/
def run1 (p : Char → Bool) : Matcher (List Char) := do
  let d ← one p
  let w ← run p
  pure (d :: w)

def orElse (m m' : Matcher α) : Matcher α := fun c => m c ++ m' c

/-- The pattern is preferred to nothing. -/
def opt (m : Matcher α) : Matcher (Option α) :=
  orElse
    (do
      let a ← m
      pure (some a))
    (pure none)

def manyUpTo (m : Matcher α) : ℕ → Matcher (List α)
  | 0 => pure []
  | n + 1 =>
    orElse
      (do
        let a ← m
        let as ← manyUpTo m n
        pure (a :: as))
      (pure [])

/-- Repetitions of a pattern that takes a character each time. -/
def many (m : Matcher α) : Matcher (List α) := fun c => manyUpTo m c.rest.length c

def atLeast (m : Matcher α) : ℕ → Matcher (List α)
  | 0 => many m
  | n + 1 => do
    let a ← m
    let as ← atLeast m n
    pure (a :: as)

/-- One side of the position is a word, the other is not. -/
def wordBoundary (isWord : Char → Bool) : Matcher Unit := fun c =>
  if c.before.any isWord != c.rest.head?.any isWord then [((), c)] else []

/-! ## Searching -/

def matchAt (m : Matcher α) (c : Cursor) : Option α := (m c).head?.map Prod.fst

/-- The leftmost match. -/
def searchFrom (m : Matcher α) (before : Option Char) : List Char → Option α
  | [] => matchAt m ⟨before, []⟩
  | d :: rest =>
    match matchAt m ⟨before, d :: rest⟩ with
    | some a => some a
    | none => searchFrom m (some d) rest

def search (m : Matcher α) (s : List Char) : Option α := searchFrom m none s

/-! ## Preferred matches -/

/-- Whatever stands before the text, the preferred match of the pattern gives the value and leaves
the rest. -/
def Finds (m : Matcher α) (s : List Char) (a : α) (rest : List Char) : Prop :=
  ∀ before, ∃ before', (m ⟨before, s⟩).head? = some (a, ⟨before', rest⟩)

/-- The pattern does not match at the start of the text. -/
def Fails (m : Matcher α) (s : List Char) : Prop := ∀ before, m ⟨before, s⟩ = []

variable {m m' : Matcher α} {k : α → Matcher β} {p : Char → Bool}
  {s t u w rest : List Char} {a : α} {b : β} {d : Char}

theorem finds_pure (a : α) (s : List Char) : Finds (pure a) s a s := fun before => ⟨before, rfl⟩

theorem Finds.bind (h : Finds m s a t) (h' : Finds (k a) t b u) : Finds (m >>= k) s b u := by
  intro before
  obtain ⟨before', hm⟩ := h before
  obtain ⟨before'', hk⟩ := h' before'
  refine ⟨before'', ?_⟩
  show ((m ⟨before, s⟩).flatMap fun r => k r.1 r.2).head? = _
  obtain ⟨later, hlater⟩ := List.head?_eq_some_iff.1 hm
  rw [hlater, List.flatMap_cons, List.head?_append, hk]
  rfl

theorem Fails.bind (h : Fails m s) (k : α → Matcher β) : Fails (m >>= k) s := by
  intro before
  show ((m ⟨before, s⟩).flatMap fun r => k r.1 r.2) = []
  rw [h before]
  rfl

theorem finds_one (h : p d = true) (rest : List Char) : Finds (one p) (d :: rest) d rest := by
  intro before
  exact ⟨some d, by rw [one, if_pos h]; rfl⟩

theorem fails_one_nil (p : Char → Bool) : Fails (one p) [] := fun _ => rfl

theorem fails_one (h : p d = false) (rest : List Char) : Fails (one p) (d :: rest) := by
  intro before
  rw [one, if_neg (by rw [h]; exact Bool.false_ne_true)]

/-- There is one way in which the pattern matches. -/
def Only (m : Matcher α) (s : List Char) (a : α) (rest : List Char) : Prop :=
  ∀ before, ∃ before', m ⟨before, s⟩ = [(a, ⟨before', rest⟩)]

theorem only_pure (a : α) (s : List Char) : Only (pure a) s a s := fun before => ⟨before, rfl⟩

theorem Only.bind (h : Only m s a t) (h' : Only (k a) t b u) : Only (m >>= k) s b u := by
  intro before
  obtain ⟨before', hm⟩ := h before
  obtain ⟨before'', hk⟩ := h' before'
  refine ⟨before'', ?_⟩
  show ((m ⟨before, s⟩).flatMap fun r => k r.1 r.2) = _
  rw [hm, List.flatMap_singleton, hk]

/-- A failure after the only way in which the first pattern matches. -/
theorem Only.fails (h : Only m s a t) (hk : Fails (k a) t) : Fails (m >>= k) s := by
  intro before
  obtain ⟨before', hm⟩ := h before
  show ((m ⟨before, s⟩).flatMap fun r => k r.1 r.2) = []
  rw [hm, List.flatMap_singleton]
  exact hk before'

theorem only_one (h : p d = true) (rest : List Char) : Only (one p) (d :: rest) d rest := by
  intro before
  exact ⟨some d, by rw [one, if_pos h]⟩

theorem finds_literal (w rest : List Char) : Finds (literal w) (w ++ rest) () rest := by
  induction w with
  | nil => exact finds_pure () rest
  | cons d w ih =>
    rw [literal]
    exact Finds.bind (k := fun _ => literal w) (finds_one (beq_self_eq_true d) (w ++ rest)) ih

theorem fails_literal (h : ¬ w <+: s) : Fails (literal w) s := by
  induction w generalizing s with
  | nil => exact absurd List.nil_prefix h
  | cons d w ih =>
    cases s with
    | nil => exact (fails_one_nil _).bind _
    | cons c s =>
      rw [literal]
      by_cases hc : c = d
      · subst hc
        have hw : ¬ w <+: s := fun hw => h (List.cons_prefix_cons.2 ⟨rfl, hw⟩)
        exact (only_one (beq_self_eq_true c) s).fails (k := fun _ => literal w) (ih hw)
      · exact Fails.bind (fails_one (p := (· == d)) (beq_false_of_ne hc) s) _

/-- A text cannot start before the first place at which its last character stands. -/
theorem not_isPrefix_append {z : List Char} (hlen : u.length < z.length) (hd : d ∉ z)
    (rest : List Char) : ¬ (u ++ [d]) <+: z ++ rest := by
  rintro ⟨t, ht⟩
  have hat := congrArg (fun s => s[u.length]?) ht
  rw [List.append_assoc, List.getElem?_append_right (Nat.le_refl _), Nat.sub_self,
    List.singleton_append, List.getElem?_cons_zero, List.getElem?_append_left hlen] at hat
  exact hd (List.mem_of_getElem? hat.symm)

theorem finds_exactly (hw : ∀ c ∈ w, p c = true) (rest : List Char) :
    Finds (exactly p w.length) (w ++ rest) w rest := by
  induction w with
  | nil => exact finds_pure [] rest
  | cons d w ih =>
    obtain ⟨hd, hw⟩ := List.forall_mem_cons.1 hw
    rw [List.length_cons, exactly]
    exact (finds_one hd (w ++ rest)).bind ((ih hw).bind (finds_pure _ rest))

/-- The text goes on with no character of the class. -/
def Stops (p : Char → Bool) (rest : List Char) : Prop := rest.head?.all fun c => !p c

theorem stops_cons (h : p d = false) (rest : List Char) : Stops p (d :: rest) := by
  simp [Stops, h]

theorem finds_run (hw : ∀ c ∈ w, p c = true) (hrest : Stops p rest) :
    Finds (run p) (w ++ rest) w rest := by
  intro before
  show ∃ before', (runFrom p before (w ++ rest)).head? = _
  induction w generalizing before with
  | nil =>
    refine ⟨before, ?_⟩
    cases rest with
    | nil => rfl
    | cons d rest =>
      have hd : p d = false := by simpa [Stops] using hrest
      rw [List.nil_append, runFrom, hd]
      rfl
  | cons d w ih =>
    obtain ⟨hd, hw⟩ := List.forall_mem_cons.1 hw
    obtain ⟨before', hrun⟩ := ih hw (some d)
    refine ⟨before', ?_⟩
    rw [List.cons_append, runFrom, if_pos hd, List.head?_append, List.head?_map, hrun]
    rfl

/-- A single character of the class. -/
theorem only_run1 (h : p d = true) (hrest : Stops p rest) : Only (run1 p) (d :: rest) [d] rest := by
  have hrun : Only (run p) rest [] rest := by
    intro before
    refine ⟨before, ?_⟩
    cases rest with
    | nil => rfl
    | cons c rest =>
      have hc : p c = false := by simpa [Stops] using hrest
      show runFrom p before (c :: rest) = _
      rw [runFrom, hc]
      rfl
  unfold run1
  exact (only_one h rest).bind (hrun.bind (only_pure [d] rest))

theorem finds_run1 (hne : w ≠ []) (hw : ∀ c ∈ w, p c = true) (hrest : Stops p rest) :
    Finds (run1 p) (w ++ rest) w rest := by
  obtain ⟨d, w, rfl⟩ := List.exists_cons_of_ne_nil hne
  obtain ⟨hd, hw⟩ := List.forall_mem_cons.1 hw
  unfold run1
  exact (finds_one hd (w ++ rest)).bind ((finds_run hw hrest).bind (finds_pure _ rest))

theorem Finds.orElse_left (h : Finds m s a rest) (m' : Matcher α) :
    Finds (orElse m m') s a rest := by
  intro before
  obtain ⟨before', hm⟩ := h before
  refine ⟨before', ?_⟩
  rw [orElse, List.head?_append, hm]
  rfl

theorem Finds.orElse_right (h : Finds m' s a rest) (hm : Fails m s) :
    Finds (orElse m m') s a rest := by
  intro before
  rw [orElse, hm before]
  exact h before

theorem Fails.orElse (h : Fails m s) (h' : Fails m' s) : Fails (orElse m m') s := by
  intro before
  rw [RegexMatch.orElse, h before, h' before]
  rfl

theorem finds_opt_some (h : Finds m s a rest) : Finds (opt m) s (some a) rest := by
  have hsome : Finds (m >>= fun a => pure (some a)) s (some a) rest :=
    h.bind (finds_pure (some a) rest)
  exact hsome.orElse_left _

theorem finds_opt_none (h : Fails m s) : Finds (opt m) s none s :=
  (finds_pure none s).orElse_right (h.bind _)

theorem finds_manyUpTo_nil (h : Fails m s) (n : ℕ) : Finds (manyUpTo m n) s [] s := by
  cases n with
  | zero => exact finds_pure [] s
  | succ n => exact (finds_pure [] s).orElse_right (h.bind _)

/-- Pieces that the pattern finds one after another, as many as there are. -/
theorem finds_manyUpTo {pieces : List α} {text : α → List Char}
    (hpiece : ∀ a ∈ pieces, ∀ rest, Finds m (text a ++ rest) a rest) (hrest : Fails m rest)
    {n : ℕ} (hn : pieces.length ≤ n) :
    Finds (manyUpTo m n) (pieces.flatMap text ++ rest) pieces rest := by
  induction pieces generalizing n with
  | nil => exact finds_manyUpTo_nil hrest n
  | cons a pieces ih =>
    obtain ⟨n, rfl⟩ := Nat.exists_eq_add_one_of_ne_zero (Nat.ne_of_gt (Nat.lt_of_lt_of_le
      (Nat.succ_pos pieces.length) hn))
    obtain ⟨ha, hpieces⟩ := List.forall_mem_cons.1 hpiece
    have hlater := ih hpieces (Nat.le_of_succ_le_succ hn)
    rw [List.flatMap_cons, List.append_assoc, manyUpTo]
    exact Finds.orElse_left
      ((ha _).bind (hlater.bind (finds_pure (a :: pieces) rest))) _

theorem finds_many {pieces : List α} {text : α → List Char}
    (hpiece : ∀ a ∈ pieces, ∀ rest, Finds m (text a ++ rest) a rest)
    (hne : ∀ a ∈ pieces, text a ≠ []) (hrest : Fails m rest) :
    Finds (many m) (pieces.flatMap text ++ rest) pieces rest := by
  have hlength : pieces.length ≤ (pieces.flatMap text ++ rest).length := by
    rw [List.length_append, List.length_flatMap]
    have hsum : pieces.length ≤ (pieces.map fun a => (text a).length).sum := by
      induction pieces with
      | nil => exact Nat.le_refl 0
      | cons a pieces ih =>
        obtain ⟨ha, hnes⟩ := List.forall_mem_cons.1 hne
        have hpos := List.length_pos_of_ne_nil ha
        have hpieces := ih (List.forall_mem_cons.1 hpiece).2 hnes
        rw [List.length_cons, List.map_cons, List.sum_cons]
        omega
    omega
  exact finds_manyUpTo hpiece hrest hlength

/-! ## Where a search ends -/

theorem Finds.matchAt (h : Finds m s a rest) (before : Option Char) :
    matchAt m ⟨before, s⟩ = some a := by
  obtain ⟨before', hm⟩ := h before
  rw [RegexMatch.matchAt, hm]
  rfl

theorem Fails.matchAt (h : Fails m s) (before : Option Char) : matchAt m ⟨before, s⟩ = none := by
  rw [RegexMatch.matchAt, h before]
  rfl

/-- A search skips what stands before the match. -/
theorem search_append (hfails : ∀ w, w <:+ t → w ≠ [] → Fails m (w ++ s))
    (hfinds : Finds m s a u) : search m (t ++ s) = some a := by
  have hall : ∀ before, searchFrom m before (t ++ s) = some a := by
    induction t with
    | nil =>
      intro before
      have hmatch := hfinds.matchAt before
      cases s with
      | nil => exact hmatch
      | cons d s =>
        rw [List.nil_append, searchFrom, hmatch]
    | cons d t ih =>
      intro before
      have hhere := (hfails (d :: t) List.suffix_rfl (List.cons_ne_nil d t)).matchAt before
      rw [List.cons_append] at hhere ⊢
      rw [searchFrom, hhere]
      exact ih (fun w hw => hfails w (hw.trans (List.suffix_cons d t))) (some d)
  exact hall none

theorem search_eq_none (h : ∀ w, w <:+ s → Fails m w) : search m s = none := by
  have hall : ∀ before, searchFrom m before s = none := by
    induction s with
    | nil => exact (h [] List.suffix_rfl).matchAt
    | cons d s ih =>
      intro before
      rw [searchFrom, (h (d :: s) List.suffix_rfl).matchAt before]
      exact ih (fun w hw => h w (hw.trans (List.suffix_cons d s))) (some d)
  exact hall none

/-! ## Texts that a match needs -/

/-- A match leaves an end of the text. -/
def Consumes (m : Matcher α) : Prop := ∀ c, ∀ r ∈ m c, r.2.rest <:+ c.rest

/-- Where the pattern matches, the text has this one in it. -/
def Needs (u : List Char) (m : Matcher α) : Prop := ∀ c, ∀ r ∈ m c, u <:+: c.rest

theorem consumes_pure (a : α) : Consumes (pure a) := by
  intro c r hr
  rw [List.mem_singleton.1 hr]

theorem Consumes.bind (hm : Consumes m) (hk : ∀ a, Consumes (k a)) : Consumes (m >>= k) := by
  intro c r hr
  obtain ⟨r', hr', hr⟩ := List.mem_flatMap.1 hr
  exact (hk r'.1 r'.2 r hr).trans (hm c r' hr')

theorem mem_one {c : Cursor} {r : Char × Cursor} (h : r ∈ one p c) : c.rest = r.1 :: r.2.rest := by
  obtain ⟨before, s⟩ := c
  cases s with
  | nil => cases h
  | cons d s =>
    rw [one] at h
    split_ifs at h
    · rw [List.mem_singleton.1 h]
    · cases h

theorem consumes_one (p : Char → Bool) : Consumes (one p) := by
  intro c r hr
  rw [mem_one hr]
  exact List.suffix_cons r.1 r.2.rest

theorem consumes_run (p : Char → Bool) : Consumes (run p) := by
  rintro ⟨before, s⟩ r hr
  change r ∈ runFrom p before s at hr
  change r.2.rest <:+ s
  induction s generalizing before r with
  | nil => rw [List.mem_singleton.1 hr]
  | cons d s ih =>
    rw [runFrom] at hr
    rcases List.mem_append.1 hr with hr | hr
    · split_ifs at hr
      · obtain ⟨r', hr', rfl⟩ := List.mem_map.1 hr
        exact (ih (some d) r' hr').trans (List.suffix_cons d s)
      · cases hr
    · rw [List.mem_singleton.1 hr]

theorem consumes_run1 (p : Char → Bool) : Consumes (run1 p) := by
  unfold run1
  exact (consumes_one p).bind fun _ => (consumes_run p).bind fun _ => consumes_pure _

theorem mem_literal {c : Cursor} {r : Unit × Cursor} (h : r ∈ literal w c) :
    c.rest = w ++ r.2.rest := by
  induction w generalizing c with
  | nil => rw [List.mem_singleton.1 h, List.nil_append]
  | cons d w ih =>
    obtain ⟨r', hr', hr⟩ := List.mem_flatMap.1 h
    obtain ⟨before, s⟩ := c
    have hone := mem_one hr'
    have hd : r'.1 = d := by
      cases s with
      | nil => cases hone
      | cons e s =>
        rw [one] at hr'
        split_ifs at hr' with he
        · rw [List.mem_singleton.1 hr']
          exact eq_of_beq he
        · cases hr'
    rw [hone, hd, ih hr, List.cons_append]

theorem consumes_literal (w : List Char) : Consumes (literal w) := by
  intro c r hr
  rw [mem_literal hr]
  exact List.suffix_append w r.2.rest

theorem needs_literal (w : List Char) : Needs w (literal w) := by
  intro c r hr
  rw [mem_literal hr]
  exact (List.prefix_append w r.2.rest).isInfix

theorem Needs.bind_left (h : Needs u m) (k : α → Matcher β) : Needs u (m >>= k) := by
  intro c r hr
  obtain ⟨r', hr', -⟩ := List.mem_flatMap.1 hr
  exact h c r' hr'

theorem Needs.bind_right (hm : Consumes m) (hk : ∀ a, Needs u (k a)) : Needs u (m >>= k) := by
  intro c r hr
  obtain ⟨r', hr', hr⟩ := List.mem_flatMap.1 hr
  exact (hk r'.1 r'.2 r hr).trans (hm c r' hr').isInfix

/-- A text without one that every match needs. -/
theorem Needs.search_eq_none (h : Needs u m) (hs : ¬ u <:+: s) : search m s = none := by
  refine RegexMatch.search_eq_none fun w hw before => ?_
  refine List.eq_nil_iff_forall_not_mem.2 fun r hr => hs ?_
  exact (h ⟨before, w⟩ r hr).trans hw.isInfix

end RegexMatch
