import Mathlib.Data.List.Induction
import Mathlib.Tactic.Common

namespace HomeIoControl.CoalescingQueue

variable {α β ω : Type*}

/-- An entry writes a left value, a right value, both together, or neither. -/
inductive Entry (α β ω : Type*)
  | left (x : α)
  | right (y : β)
  | both (x : α) (y : β)
  | other (o : ω)
  deriving DecidableEq, Repr

namespace Entry

def swap : Entry α β ω → Entry β α ω
  | left x => right x
  | right y => left y
  | both x y => both y x
  | other o => other o

@[simp] theorem swap_swap (e : Entry α β ω) : e.swap.swap = e := by
  cases e <;> rfl

def isLeft : Entry α β ω → Bool
  | left _ => true
  | _ => false

def isRight : Entry α β ω → Bool
  | right _ => true
  | _ => false

def isOther : Entry α β ω → Bool
  | other _ => true
  | _ => false

/-- The value an entry writes on the left side. -/
def left? : Entry α β ω → Option α
  | left x => some x
  | both x _ => some x
  | _ => none

/-- What an observer of left values and other items sees of an entry. -/
def leftView? : Entry α β ω → Option (α ⊕ ω)
  | left x => some (.inl x)
  | right _ => none
  | both x _ => some (.inl x)
  | other o => some (.inr o)

@[simp] theorem isLeft_swap (e : Entry α β ω) : e.swap.isLeft = e.isRight := by
  cases e <;> rfl

@[simp] theorem isRight_swap (e : Entry α β ω) : e.swap.isRight = e.isLeft := by
  cases e <;> rfl

end Entry

/-! ## The queue -/

/-- Fills the first pending right item with a left value, if there is one. -/
def joinRight (x : α) : List (Entry α β ω) → Option (List (Entry α β ω))
  | [] => none
  | .right y :: q => some (.both x y :: q)
  | e :: q => (joinRight x q).map (e :: ·)

/-- Fills the first pending left item with a right value, if there is one. -/
def joinLeft (y : β) : List (Entry α β ω) → Option (List (Entry α β ω))
  | [] => none
  | .left x :: q => some (.both x y :: q)
  | e :: q => (joinLeft y q).map (e :: ·)

def enqueue (q : List (Entry α β ω)) : Entry α β ω → List (Entry α β ω)
  | .left x => (joinRight x q).getD (q ++ [.left x])
  | .right y => (joinLeft y q).getD (q ++ [.right y])
  | e => q ++ [e]

/-- The queue left behind by a sequence of requests. -/
def run (rs : List (Entry α β ω)) : List (Entry α β ω) :=
  rs.foldl enqueue []

@[simp] theorem run_nil : run ([] : List (Entry α β ω)) = [] := rfl

@[simp] theorem run_concat (rs : List (Entry α β ω)) (e : Entry α β ω) :
    run (rs ++ [e]) = enqueue (run rs) e := by
  simp [run]

@[simp] theorem enqueue_both (q : List (Entry α β ω)) (x : α) (y : β) :
    enqueue q (.both x y) = q ++ [.both x y] := rfl

@[simp] theorem enqueue_other (q : List (Entry α β ω)) (o : ω) :
    enqueue q (.other o) = q ++ [.other o] := rfl

theorem joinRight_append_right (x : α) (y : β) (p q : List (Entry α β ω))
    (hp : ∀ e ∈ p, e.isRight = false) :
    joinRight x (p ++ .right y :: q) = some (p ++ .both x y :: q) := by
  induction p with
  | nil => rfl
  | cons e p ih =>
    have he := hp e (by simp)
    have ih' := ih fun d hd => hp d (by simp [hd])
    cases e <;> simp_all [joinRight, Entry.isRight]

theorem joinRight_eq_none (x : α) (q : List (Entry α β ω))
    (hq : ∀ e ∈ q, e.isRight = false) : joinRight x q = none := by
  induction q with
  | nil => rfl
  | cons e q ih =>
    have he := hq e (by simp)
    have ih' := ih fun d hd => hq d (by simp [hd])
    cases e <;> simp_all [joinRight, Entry.isRight]

theorem joinLeft_swap (x : α) (q : List (Entry α β ω)) :
    joinLeft x (q.map Entry.swap) = (joinRight x q).map (List.map Entry.swap) := by
  induction q with
  | nil => rfl
  | cons e q ih =>
    cases e <;> simp [joinLeft, joinRight, Entry.swap, ih, Function.comp_def]

theorem joinRight_swap (y : β) (q : List (Entry α β ω)) :
    joinRight y (q.map Entry.swap) = (joinLeft y q).map (List.map Entry.swap) := by
  induction q with
  | nil => rfl
  | cons e q ih =>
    cases e <;> simp [joinLeft, joinRight, Entry.swap, ih, Function.comp_def]

theorem enqueue_swap (q : List (Entry α β ω)) (e : Entry α β ω) :
    enqueue (q.map Entry.swap) e.swap = (enqueue q e).map Entry.swap := by
  cases e with
  | left x =>
    simp only [Entry.swap, enqueue, joinLeft_swap]
    cases joinRight x q <;> simp [Entry.swap]
  | right y =>
    simp only [Entry.swap, enqueue, joinRight_swap]
    cases joinLeft y q <;> simp [Entry.swap]
  | both x y => simp [Entry.swap]
  | other o => simp [Entry.swap]

theorem run_swap (rs : List (Entry α β ω)) :
    run (rs.map Entry.swap) = (run rs).map Entry.swap := by
  induction rs using List.reverseRecOn with
  | nil => rfl
  | append_singleton rs e ih =>
    rw [List.map_append, List.map_singleton, run_concat, run_concat, ih, enqueue_swap]

/-! ## Pending items -/

def lefts (rs : List (Entry α β ω)) : ℕ := rs.countP Entry.isLeft

def rights (rs : List (Entry α β ω)) : ℕ := rs.countP Entry.isRight

/-- The entries that stay where they were requested once every left item has moved forward. -/
def dropLefts (rs : List (Entry α β ω)) : List (Entry α β ω) :=
  rs.filter fun e => !e.isLeft

/-- More right items than left ones were requested. The first right item without a partner is
`y`; before it the queue holds nothing pending, after it the requests that were not left items. -/
structure RightAhead (rs a b qa : List (Entry α β ω)) (y : β) : Prop where
  split : rs = a ++ .right y :: b
  partner : rights a = lefts (a ++ b)
  queue : run rs = qa ++ .right y :: dropLefts b
  settled_left : ∀ e ∈ qa, e.isLeft = false
  settled_right : ∀ e ∈ qa, e.isRight = false

/-- As many right items as left ones were requested, and all have met. -/
structure Settled (rs : List (Entry α β ω)) : Prop where
  balanced : rights rs = lefts rs
  settled_left : ∀ e ∈ run rs, e.isLeft = false
  settled_right : ∀ e ∈ run rs, e.isRight = false

@[simp] theorem lefts_swap (rs : List (Entry α β ω)) : lefts (rs.map Entry.swap) = rights rs := by
  simp [lefts, rights, Function.comp_def]

@[simp] theorem rights_swap (rs : List (Entry α β ω)) : rights (rs.map Entry.swap) = lefts rs := by
  simp [lefts, rights, Function.comp_def]

@[simp] theorem lefts_append (p q : List (Entry α β ω)) : lefts (p ++ q) = lefts p + lefts q := by
  simp [lefts]

@[simp] theorem rights_append (p q : List (Entry α β ω)) :
    rights (p ++ q) = rights p + rights q := by
  simp [rights]

@[simp] theorem lefts_cons (e : Entry α β ω) (q : List (Entry α β ω)) :
    lefts (e :: q) = (if e.isLeft then 1 else 0) + lefts q := by
  simp [lefts, List.countP_cons, Nat.add_comm]

@[simp] theorem rights_cons (e : Entry α β ω) (q : List (Entry α β ω)) :
    rights (e :: q) = (if e.isRight then 1 else 0) + rights q := by
  simp [rights, List.countP_cons, Nat.add_comm]

@[simp] theorem lefts_nil : lefts ([] : List (Entry α β ω)) = 0 := rfl

@[simp] theorem rights_nil : rights ([] : List (Entry α β ω)) = 0 := rfl

theorem isLeft_of_mem_dropLefts {rs : List (Entry α β ω)} {e : Entry α β ω}
    (he : e ∈ dropLefts rs) : e.isLeft = false := by
  simpa using (List.mem_filter.1 he).2

theorem Settled.swap {rs : List (Entry α β ω)} (h : Settled rs) : Settled (rs.map Entry.swap) where
  balanced := by simp [h.balanced]
  settled_left := by
    intro e he
    rw [run_swap] at he
    obtain ⟨d, hd, rfl⟩ := List.mem_map.1 he
    simpa using h.settled_right d hd
  settled_right := by
    intro e he
    rw [run_swap] at he
    obtain ⟨d, hd, rfl⟩ := List.mem_map.1 he
    simpa using h.settled_left d hd

theorem joinLeft_eq_none (y : β) (q : List (Entry α β ω))
    (hq : ∀ e ∈ q, e.isLeft = false) : joinLeft y q = none := by
  induction q with
  | nil => rfl
  | cons e q ih =>
    have he := hq e (by simp)
    have ih' := ih fun d hd => hq d (by simp [hd])
    cases e <;> simp_all [joinLeft, Entry.isLeft]

theorem exists_first_right (q : List (Entry α β ω)) (hq : 0 < rights q) :
    ∃ p y r, q = p ++ .right y :: r ∧ ∀ e ∈ p, e.isRight = false := by
  induction q with
  | nil => simp at hq
  | cons e q ih =>
    by_cases he : e.isRight
    · cases e with
      | right y => exact ⟨[], y, q, rfl, by simp⟩
      | _ => simp [Entry.isRight] at he
    · obtain ⟨p, y, r, rfl, hp⟩ := ih (by simpa [he] using hq)
      refine ⟨e :: p, y, r, rfl, ?_⟩
      intro d hd
      rcases List.mem_cons.1 hd with rfl | hd
      · simpa using he
      · exact hp d hd

theorem rights_eq_zero {q : List (Entry α β ω)} :
    rights q = 0 ↔ ∀ e ∈ q, e.isRight = false := by
  simp [rights, List.countP_eq_zero]

namespace RightAhead

variable {rs a b qa : List (Entry α β ω)} {y : β}

theorem lefts_lt_rights (h : RightAhead rs a b qa y) : lefts rs < rights rs := by
  have hp := h.partner
  rw [h.split]
  simp only [lefts_append, rights_append, lefts_cons, rights_cons, Entry.isLeft,
    Entry.isRight] at hp ⊢
  simp only [Bool.false_eq_true, if_false, if_true]
  omega

/-- Nothing on the left side is pending, so a further right item goes to the end. -/
theorem no_left (h : RightAhead rs a b qa y) : ∀ e ∈ run rs, e.isLeft = false := by
  intro e he
  rw [h.queue, List.mem_append, List.mem_cons] at he
  rcases he with he | rfl | he
  · exact h.settled_left e he
  · rfl
  · exact isLeft_of_mem_dropLefts he

theorem enqueue_of_not_left (h : RightAhead rs a b qa y) (e : Entry α β ω)
    (he : e.isLeft = false) : enqueue (run rs) e = run rs ++ [e] := by
  cases e with
  | left x => simp [Entry.isLeft] at he
  | right y' => simp [enqueue, joinLeft_eq_none y' (run rs) h.no_left]
  | both x y' => rfl
  | other o => rfl

/-- A left item joins `y` where `y` stands. -/
theorem run_left (h : RightAhead rs a b qa y) (x : α) :
    run (rs ++ [.left x]) = qa ++ .both x y :: dropLefts b := by
  rw [run_concat, h.queue, enqueue, joinRight_append_right x y qa _ h.settled_right]
  rfl

theorem concat_not_left (h : RightAhead rs a b qa y) (e : Entry α β ω) (he : e.isLeft = false) :
    RightAhead (rs ++ [e]) a (b ++ [e]) qa y where
  split := by simp [h.split]
  partner := by simpa [he] using h.partner
  queue := by
    rw [run_concat, h.enqueue_of_not_left e he, h.queue]
    simp [dropLefts, he]
  settled_left := h.settled_left
  settled_right := h.settled_right

theorem concat_left (h : RightAhead rs a b qa y) (x : α) :
    Settled (rs ++ [.left x]) ∨
      ∃ a' b' qa' y', RightAhead (rs ++ [.left x]) a' b' qa' y' := by
  have hp := h.partner
  have hrun := h.run_left x
  rcases Nat.eq_zero_or_pos (rights b) with hb | hb
  · -- `y` was the only right item without a partner
    left
    have hmem : ∀ e ∈ run (rs ++ [.left x]), e ∈ qa ∨ e = .both x y ∨ e ∈ dropLefts b := by
      intro e he
      rw [hrun] at he
      simpa using he
    refine ⟨?_, ?_, ?_⟩
    · rw [h.split]
      simp only [lefts_append] at hp
      simp only [lefts_append, rights_append, lefts_cons, rights_cons, Entry.isLeft, Entry.isRight,
        lefts_nil, rights_nil, Bool.false_eq_true, if_false, if_true]
      omega
    · intro e he
      rcases hmem e he with he | rfl | he
      · exact h.settled_left e he
      · rfl
      · exact isLeft_of_mem_dropLefts he
    · intro e he
      rcases hmem e he with he | rfl | he
      · exact h.settled_right e he
      · rfl
      · exact rights_eq_zero.1 hb e (List.mem_filter.1 he).1
  · -- the next right item of `b` becomes the first one without a partner
    right
    obtain ⟨p, y', r, rfl, hpr⟩ := exists_first_right b hb
    refine ⟨a ++ .right y :: p, r ++ [.left x], qa ++ .both x y :: dropLefts p, y',
      ?_, ?_, ?_, ?_, ?_⟩
    · simp [h.split]
    · have hp0 := rights_eq_zero.2 hpr
      simp only [lefts_append, lefts_cons, rights_append, rights_cons, Entry.isLeft,
        Entry.isRight, lefts_nil, Bool.false_eq_true, if_false, if_true] at hp ⊢
      omega
    · rw [hrun]
      simp [dropLefts, Entry.isLeft]
    · intro e he
      rw [List.mem_append, List.mem_cons] at he
      rcases he with he | rfl | he
      · exact h.settled_left e he
      · rfl
      · exact isLeft_of_mem_dropLefts he
    · intro e he
      rw [List.mem_append, List.mem_cons] at he
      rcases he with he | rfl | he
      · exact h.settled_right e he
      · rfl
      · exact hpr e (List.mem_filter.1 he).1

theorem concat (h : RightAhead rs a b qa y) (e : Entry α β ω) :
    Settled (rs ++ [e]) ∨ ∃ a' b' qa' y', RightAhead (rs ++ [e]) a' b' qa' y' := by
  by_cases he : e.isLeft
  · cases e with
    | left x => exact h.concat_left x
    | _ => simp [Entry.isLeft] at he
  · exact .inr ⟨a, b ++ [e], qa, y, h.concat_not_left e (by simpa using he)⟩

end RightAhead

namespace Settled

variable {rs : List (Entry α β ω)}

theorem concat_right (h : Settled rs) (y : β) :
    RightAhead (rs ++ [.right y]) rs [] (run rs) y where
  split := by simp
  partner := by simpa using h.balanced
  queue := by simp [enqueue, joinLeft_eq_none y (run rs) h.settled_left, dropLefts]
  settled_left := h.settled_left
  settled_right := h.settled_right

theorem concat_paired (h : Settled rs) (e : Entry α β ω) (hl : e.isLeft = false)
    (hr : e.isRight = false) : Settled (rs ++ [e]) := by
  have hq : enqueue (run rs) e = run rs ++ [e] := by
    cases e <;> simp_all [Entry.isLeft, Entry.isRight]
  refine ⟨?_, ?_, ?_⟩
  · simp [hl, hr, h.balanced]
  · rw [run_concat, hq]
    intro d hd
    rcases List.mem_append.1 hd with hd | hd
    · exact h.settled_left d hd
    · rwa [List.mem_singleton.1 hd]
  · rw [run_concat, hq]
    intro d hd
    rcases List.mem_append.1 hd with hd | hd
    · exact h.settled_right d hd
    · rwa [List.mem_singleton.1 hd]

end Settled

/-- At any time at most one side has items waiting for a partner. -/
theorem settled_or_ahead (rs : List (Entry α β ω)) :
    Settled rs ∨ (∃ a b qa y, RightAhead rs a b qa y) ∨
      ∃ a b qa x, RightAhead (rs.map Entry.swap) a b qa x := by
  induction rs using List.reverseRecOn with
  | nil => exact .inl ⟨rfl, by simp, by simp⟩
  | append_singleton rs e ih =>
    rcases ih with h | ⟨a, b, qa, y, h⟩ | ⟨a, b, qa, x, h⟩
    · cases e with
      | left x =>
        have hx := h.swap.concat_right x
        right; right
        exact ⟨_, _, _, x, by simpa [Entry.swap] using hx⟩
      | right y => exact .inr (.inl ⟨_, _, _, _, h.concat_right y⟩)
      | both x y => exact .inl (h.concat_paired _ rfl rfl)
      | other o => exact .inl (h.concat_paired _ rfl rfl)
    · rcases h.concat e with hs | hs
      · exact .inl hs
      · exact .inr (.inl hs)
    · rcases h.concat e.swap with hs | hs
      · left
        have hs' := hs.swap
        simpa [Function.comp_def] using hs'
      · right; right
        simpa using hs

/-! ## The last writer -/

/-- The sequence of left values and other items of a request list or of a queue. -/
def leftView (rs : List (Entry α β ω)) : List (α ⊕ ω) := rs.filterMap Entry.leftView?

/-- The left value written last. -/
def lastLeft (rs : List (Entry α β ω)) : Option α := (rs.filterMap Entry.left?).getLast?

/-- Whether some other item comes after the last write of a left value. -/
def otherAfterLeft (rs : List (Entry α β ω)) : Bool :=
  ((leftView rs).getLast?.map Sum.isRight).getD false

theorem filterMap_left?_eq (rs : List (Entry α β ω)) :
    rs.filterMap Entry.left? = (leftView rs).filterMap Sum.getLeft? := by
  rw [leftView, List.filterMap_filterMap]
  congr 1
  funext e
  cases e <;> rfl

theorem lastLeft_eq_of_leftView {ps qs : List (Entry α β ω)} (h : leftView ps = leftView qs) :
    lastLeft ps = lastLeft qs := by
  rw [lastLeft, lastLeft, filterMap_left?_eq, filterMap_left?_eq, h]

theorem otherAfterLeft_eq_of_leftView {ps qs : List (Entry α β ω)}
    (h : leftView ps = leftView qs) : otherAfterLeft ps = otherAfterLeft qs := by
  rw [otherAfterLeft, otherAfterLeft, h]

@[simp] theorem leftView_append (p q : List (Entry α β ω)) :
    leftView (p ++ q) = leftView p ++ leftView q := by
  simp [leftView]

@[simp] theorem leftView_nil : leftView ([] : List (Entry α β ω)) = [] := rfl

@[simp] theorem leftView_left (x : α) (q : List (Entry α β ω)) :
    leftView (.left x :: q) = .inl x :: leftView q := rfl

@[simp] theorem leftView_right (y : β) (q : List (Entry α β ω)) :
    leftView (.right y :: q) = leftView q := rfl

@[simp] theorem leftView_both (x : α) (y : β) (q : List (Entry α β ω)) :
    leftView (.both x y :: q) = .inl x :: leftView q := rfl

@[simp] theorem leftView_other (o : ω) (q : List (Entry α β ω)) :
    leftView (.other o :: q) = .inr o :: leftView q := rfl

@[simp] theorem lastLeft_append (p q : List (Entry α β ω)) :
    lastLeft (p ++ q) = (lastLeft q).or (lastLeft p) := by
  simp [lastLeft, List.getLast?_append]

theorem lastLeft_append_left (p q : List (Entry α β ω)) (x : α) :
    lastLeft (p ++ .left x :: q) = (lastLeft q).or (some x) := by
  rw [← List.singleton_append, lastLeft_append, lastLeft_append]
  cases lastLeft q <;> simp [lastLeft, Entry.left?]

theorem lastLeft_of_no_left {c : List (Entry α β ω)} (hc : ∀ e ∈ c, e.left? = none) :
    lastLeft c = none := by
  simp [lastLeft, List.filterMap_eq_nil_iff.2 hc]

theorem otherAfterLeft_append (p q : List (Entry α β ω)) :
    otherAfterLeft (p ++ q) =
      if leftView q = [] then otherAfterLeft p else otherAfterLeft q := by
  split_ifs with h
  · simp [otherAfterLeft, h]
  · obtain ⟨v, hv⟩ := Option.isSome_iff_exists.1 (List.getLast?_isSome.2 h)
    simp [otherAfterLeft, List.getLast?_append, hv]

theorem leftView_joinLeft (y : β) (q q' : List (Entry α β ω)) (h : joinLeft y q = some q') :
    leftView q' = leftView q := by
  induction q generalizing q' with
  | nil => simp [joinLeft] at h
  | cons e q ih =>
    cases e with
    | left x =>
      obtain rfl : .both x y :: q = q' := by simpa [joinLeft] using h
      rfl
    | _ =>
      obtain ⟨r, hr, rfl⟩ := by simpa [joinLeft] using h
      simp [ih r hr]

theorem leftView_enqueue_of_no_left (q : List (Entry α β ω)) (e : Entry α β ω)
    (he : e.left? = none) : leftView (enqueue q e) = leftView q ++ leftView [e] := by
  cases e with
  | left x => simp [Entry.left?] at he
  | right y =>
    rw [enqueue]
    cases hj : joinLeft y q with
    | none => simp
    | some q' => simpa using leftView_joinLeft y q q' hj
  | both x y => simp [Entry.left?] at he
  | other o => simp

/-- Requests that write no left value do not disturb the left values already queued. -/
theorem leftView_run_append (rs c : List (Entry α β ω)) (hc : ∀ e ∈ c, e.left? = none) :
    leftView (run (rs ++ c)) = leftView (run rs) ++ leftView c := by
  induction c using List.reverseRecOn with
  | nil => simp
  | append_singleton c e ih =>
    have ih' := ih fun d hd => hc d (by simp [hd])
    rw [← List.append_assoc, run_concat, leftView_enqueue_of_no_left _ e (hc e (by simp)), ih',
      leftView_append, List.append_assoc]

theorem leftView_eq_nil_iff {c : List (Entry α β ω)} (hc : ∀ e ∈ c, e.left? = none) :
    leftView c = [] ↔ c.any Entry.isOther = false := by
  rw [leftView, List.filterMap_eq_nil_iff, List.any_eq_false]
  refine forall₂_congr fun e he => ?_
  have := hc e he
  cases e <;> simp_all [Entry.leftView?, Entry.isOther, Entry.left?]

theorem otherAfterLeft_of_no_left {c : List (Entry α β ω)} (hc : ∀ e ∈ c, e.left? = none) :
    otherAfterLeft c = c.any Entry.isOther := by
  induction c using List.reverseRecOn with
  | nil => rfl
  | append_singleton c e ih =>
    have ih' := ih fun d hd => hc d (by simp [hd])
    have he := hc e (by simp)
    rw [otherAfterLeft_append, ih']
    cases e <;> simp_all [Entry.left?, Entry.isOther, otherAfterLeft]

/-- Every request list is split by the last request that writes a left value. -/
theorem exists_last_left (rs : List (Entry α β ω)) :
    (∀ e ∈ rs, e.left? = none) ∨
      ∃ pre w c, rs = pre ++ w :: c ∧ w.left? ≠ none ∧ ∀ e ∈ c, e.left? = none := by
  induction rs using List.reverseRecOn with
  | nil => exact .inl (by simp)
  | append_singleton rs e ih =>
    by_cases he : e.left? = none
    · rcases ih with h | ⟨pre, w, c, rfl, hw, hc⟩
      · left
        intro d hd
        rcases List.mem_append.1 hd with hd | hd
        · exact h d hd
        · rwa [List.mem_singleton.1 hd]
      · refine .inr ⟨pre, w, c ++ [e], by simp, hw, ?_⟩
        intro d hd
        rcases List.mem_append.1 hd with hd | hd
        · exact hc d hd
        · rwa [List.mem_singleton.1 hd]
    · exact .inr ⟨rs, e, [], rfl, he, by simp⟩

theorem leftView_run_concat_left (rs : List (Entry α β ω)) (x : α)
    (h : ∀ e ∈ run rs, e.isRight = false) :
    leftView (run (rs ++ [.left x])) = leftView (run rs) ++ [.inl x] := by
  rw [run_concat, enqueue, joinRight_eq_none x (run rs) h]
  simp

theorem right_split_unique {a b a' b' : List (Entry α β ω)} {y y' : β}
    (h : a ++ .right y :: b = a' ++ .right y' :: b') (hr : rights a = rights a') :
    a = a' ∧ y = y' ∧ b = b' := by
  induction a generalizing a' with
  | nil =>
    cases a' with
    | nil => simpa using h
    | cons d a' =>
      obtain ⟨rfl, -⟩ := by simpa using h
      simp only [rights_nil, rights_cons, Entry.isRight, if_true] at hr
      omega
  | cons d a ih =>
    cases a' with
    | nil =>
      obtain ⟨rfl, -⟩ := by simpa using h
      simp [Entry.isRight] at hr
    | cons d' a' =>
      obtain ⟨rfl, htail⟩ := by simpa using h
      obtain ⟨rfl, rfl, rfl⟩ := ih htail (by simpa using hr)
      exact ⟨rfl, rfl, rfl⟩

/-- The last left value `x` is requested on its own and joins the earlier right item `y`, so it
moves ahead of the requests `b`. -/
structure Overtakes (rs a b c : List (Entry α β ω)) (y : β) (x : α) : Prop where
  split : rs = (a ++ .right y :: b) ++ .left x :: c
  last : ∀ e ∈ c, e.left? = none
  partner : rights a = lefts (a ++ b)

/-- The last left value written by a combined request. -/
def lastBoth (b : List (Entry α β ω)) : Option α := lastLeft (dropLefts b)

/-- Whether another item comes after the last combined request. -/
def otherAfterBoth (b : List (Entry α β ω)) : Bool := otherAfterLeft (dropLefts b)

/-- No combined request that is overtaken carries a different left value. -/
def LastLeftKept (rs : List (Entry α β ω)) : Prop :=
  ∀ a b c y x, Overtakes rs a b c y x → ∀ x', lastBoth b = some x' → x' = x

/-- Other items that are overtaken are followed by one that is not. -/
def OtherAfterKept (rs : List (Entry α β ω)) : Prop :=
  ∀ a b c y x, Overtakes rs a b c y x → otherAfterBoth b = true → c.any Entry.isOther = true

theorem exists_rightAhead {rs : List (Entry α β ω)} (h : lefts rs < rights rs) :
    ∃ a b qa y, RightAhead rs a b qa y := by
  rcases settled_or_ahead rs with hs | hs | ⟨a, b, qa, x, hs⟩
  · exact absurd hs.balanced (by omega)
  · exact hs
  · have := hs.lefts_lt_rights
    simp only [lefts_swap, rights_swap] at this
    omega

theorem no_right_of_rights_le {rs : List (Entry α β ω)} (h : rights rs ≤ lefts rs) :
    ∀ e ∈ run rs, e.isRight = false := by
  rcases settled_or_ahead rs with hs | ⟨a, b, qa, y, hs⟩ | ⟨a, b, qa, x, hs⟩
  · exact hs.settled_right
  · have := hs.lefts_lt_rights
    omega
  · intro e he
    have := hs.no_left e.swap (by rw [run_swap]; exact List.mem_map_of_mem he)
    simpa using this

namespace Overtakes

variable {rs a b c : List (Entry α β ω)} {y : β} {x : α}

theorem lefts_lt_rights (h : Overtakes rs a b c y x) :
    lefts (a ++ .right y :: b) < rights (a ++ .right y :: b) := by
  have hp := h.partner
  simp only [lefts_append, rights_append, lefts_cons, rights_cons, Entry.isLeft, Entry.isRight,
    Bool.false_eq_true, if_false, if_true] at hp ⊢
  omega

/-- The moved value is seen before the overtaken combined requests. -/
theorem leftView_run (h : Overtakes rs a b c y x) :
    ∃ qa, leftView (run rs) = leftView ((qa ++ .left x :: dropLefts b) ++ c) := by
  obtain ⟨a', b', qa, y', hs⟩ := exists_rightAhead h.lefts_lt_rights
  have hr : rights a = rights a' := by
    rw [hs.partner, h.partner]
    have hl := congrArg lefts hs.split
    simpa [Entry.isLeft] using hl
  obtain ⟨rfl, rfl, rfl⟩ := right_split_unique hs.split hr
  refine ⟨qa, ?_⟩
  rw [h.split, List.append_cons, leftView_run_append _ c h.last, hs.run_left x]
  simp

theorem lastLeft_eq (h : Overtakes rs a b c y x) : lastLeft rs = some x := by
  rw [h.split, lastLeft_append_left, lastLeft_of_no_left h.last, Option.none_or]

theorem lastLeft_run (h : Overtakes rs a b c y x) :
    lastLeft (run rs) = (lastBoth b).or (some x) := by
  obtain ⟨qa, hq⟩ := h.leftView_run
  rw [lastLeft_eq_of_leftView hq, lastLeft_append, lastLeft_append_left,
    lastLeft_of_no_left h.last, Option.none_or, lastBoth]

theorem otherAfterLeft_left_cons (x : α) (q : List (Entry α β ω)) :
    otherAfterLeft (.left x :: q) = otherAfterLeft q := by
  rw [← List.singleton_append, otherAfterLeft_append]
  split_ifs with hq
  · simp [otherAfterLeft, hq]
  · rfl

theorem otherAfterLeft_append_left (p q : List (Entry α β ω)) (x : α) :
    otherAfterLeft (p ++ .left x :: q) = otherAfterLeft q := by
  rw [otherAfterLeft_append, if_neg (by simp), otherAfterLeft_left_cons]

theorem otherAfterLeft_append_of_no_left (p : List (Entry α β ω))
    {c : List (Entry α β ω)} (hc : ∀ e ∈ c, e.left? = none) :
    otherAfterLeft (p ++ c) = (otherAfterLeft p || c.any Entry.isOther) := by
  rw [otherAfterLeft_append]
  by_cases hv : leftView c = []
  · simp [hv, (leftView_eq_nil_iff hc).1 hv]
  · have hany : c.any Entry.isOther = true := by
      simpa using mt (leftView_eq_nil_iff hc).2 hv
    simp only [hv, if_false, otherAfterLeft_of_no_left hc, hany, Bool.or_true]

theorem otherAfterLeft_eq (h : Overtakes rs a b c y x) :
    otherAfterLeft rs = c.any Entry.isOther := by
  rw [h.split, otherAfterLeft_append_left, otherAfterLeft_of_no_left h.last]

theorem otherAfterLeft_run (h : Overtakes rs a b c y x) :
    otherAfterLeft (run rs) = (otherAfterBoth b || c.any Entry.isOther) := by
  obtain ⟨qa, hq⟩ := h.leftView_run
  rw [otherAfterLeft_eq_of_leftView hq, otherAfterLeft_append_of_no_left _ h.last,
    otherAfterLeft_append_left, otherAfterBoth]

end Overtakes

/-- Without an overtaking left value the queue shows the last left value where it was requested. -/
theorem leftView_run_of_not_overtaken (rs : List (Entry α β ω))
    (h : ∀ a b c y x, ¬ Overtakes rs a b c y x) :
    lastLeft (run rs) = lastLeft rs ∧ otherAfterLeft (run rs) = otherAfterLeft rs := by
  rcases exists_last_left rs with hn | ⟨pre, w, c, rfl, hw, hc⟩
  · have hv : leftView (run rs) = leftView rs := by
      simpa using leftView_run_append [] rs hn
    exact ⟨lastLeft_eq_of_leftView hv, otherAfterLeft_eq_of_leftView hv⟩
  · obtain ⟨x, hx⟩ := Option.ne_none_iff_exists'.1 hw
    -- the last writer stays at the end of the queue
    have hv : leftView (run (pre ++ [w])) = leftView (run pre) ++ [.inl x] := by
      cases w with
      | left x' =>
        obtain rfl : x' = x := by simpa [Entry.left?] using hx
        refine leftView_run_concat_left pre x' (no_right_of_rights_le ?_)
        by_contra hlt
        obtain ⟨a, b, qa, y, hs⟩ := exists_rightAhead (Nat.lt_of_not_le hlt)
        exact h a b c y x' ⟨by rw [hs.split], hc, hs.partner⟩
      | both x' y' =>
        obtain rfl : x' = x := by simpa [Entry.left?] using hx
        simp
      | right y' => simp [Entry.left?] at hx
      | other o => simp [Entry.left?] at hx
    have hq : leftView (run (pre ++ w :: c)) = leftView ((run pre ++ [.left x]) ++ c) := by
      rw [← List.singleton_append, ← List.append_assoc, leftView_run_append _ c hc, hv]
      simp
    have hr : leftView (pre ++ w :: c) = leftView ((pre ++ [.left x]) ++ c) := by
      cases w <;> simp_all [Entry.left?]
    constructor
    · rw [lastLeft_eq_of_leftView hq, lastLeft_eq_of_leftView hr, List.append_assoc,
        List.append_assoc, List.singleton_append, lastLeft_append_left, lastLeft_append_left]
    · rw [otherAfterLeft_eq_of_leftView hq, otherAfterLeft_eq_of_leftView hr, List.append_assoc,
        List.append_assoc, List.singleton_append, Overtakes.otherAfterLeft_append_left,
        Overtakes.otherAfterLeft_append_left]

theorem lastLeft_run_iff (rs : List (Entry α β ω)) :
    lastLeft (run rs) = lastLeft rs ↔ LastLeftKept rs := by
  constructor
  · intro heq a b c y x h x' hx'
    rw [h.lastLeft_run, h.lastLeft_eq, hx'] at heq
    simpa using heq
  · intro hkept
    by_cases h : ∃ a b c y x, Overtakes rs a b c y x
    · obtain ⟨a, b, c, y, x, h⟩ := h
      rw [h.lastLeft_run, h.lastLeft_eq]
      cases hb : lastBoth b with
      | none => rfl
      | some x' => simp [hkept a b c y x h x' hb]
    · push Not at h
      exact (leftView_run_of_not_overtaken rs h).1

theorem otherAfterLeft_run_iff (rs : List (Entry α β ω)) :
    otherAfterLeft (run rs) = otherAfterLeft rs ↔ OtherAfterKept rs := by
  constructor
  · intro heq a b c y x h hb
    rw [h.otherAfterLeft_run, h.otherAfterLeft_eq, hb] at heq
    simpa using heq.symm
  · intro hkept
    by_cases h : ∃ a b c y x, Overtakes rs a b c y x
    · obtain ⟨a, b, c, y, x, h⟩ := h
      rw [h.otherAfterLeft_run, h.otherAfterLeft_eq]
      cases hb : otherAfterBoth b with
      | false => simp
      | true => simp [hkept a b c y x h hb]
    · push Not at h
      exact (leftView_run_of_not_overtaken rs h).2

/-! ## The same for right values, with the sides exchanged -/

def lastRight (rs : List (Entry α β ω)) : Option β := lastLeft (rs.map Entry.swap)

def LastRightKept (rs : List (Entry α β ω)) : Prop := LastLeftKept (rs.map Entry.swap)

theorem lastRight_append (p q : List (Entry α β ω)) :
    lastRight (p ++ q) = (lastRight q).or (lastRight p) := by
  simp [lastRight]

theorem lastRight_run_iff (rs : List (Entry α β ω)) :
    lastRight (run rs) = lastRight rs ↔ LastRightKept rs := by
  rw [lastRight, ← run_swap]
  exact lastLeft_run_iff (rs.map Entry.swap)

end HomeIoControl.CoalescingQueue
