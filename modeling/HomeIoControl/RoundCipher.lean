import Mathlib.Algebra.Group.End

/-! ## Ciphers in rounds

A block is substituted and mixed in every round, and a key is added between the rounds. The last
round does not mix. -/

/-- What the rounds are made of. -/
structure RoundCipher (Key α : Type*) where
  substitute : Equiv.Perm α
  mix : Equiv.Perm α
  addKey : Key → Equiv.Perm α

namespace RoundCipher

variable {Key α : Type*} (c : RoundCipher Key α)

def round (s : α) (k : Key) : α := c.addKey k (c.mix (c.substitute s))

def invRound (s : α) (k : Key) : α := c.mix.symm ((c.addKey k).symm (c.substitute.symm s))

def encrypt (first : Key) (keys : List Key) (last : Key) (block : α) : α :=
  c.addKey last (c.substitute (keys.foldl c.round (c.addKey first block)))

/-- The keys are taken in the reverse order. -/
def decrypt (first : Key) (keys : List Key) (last : Key) (block : α) : α :=
  (c.addKey first).symm (c.substitute.symm
    (keys.reverse.foldl c.invRound ((c.addKey last).symm block)))

/-- An inverse round takes a substituted block back over the round before. -/
theorem invRound_substitute_round (s : α) (k : Key) :
    c.invRound (c.substitute (c.round s k)) k = c.substitute s := by
  simp [round, invRound]

theorem round_substitute_invRound (s : α) (k : Key) :
    c.round (c.substitute.symm (c.invRound s k)) k = c.substitute.symm s := by
  simp [round, invRound]

theorem foldl_invRound (keys : List Key) (s : α) :
    keys.reverse.foldl c.invRound (c.substitute (keys.foldl c.round s)) = c.substitute s := by
  induction keys generalizing s with
  | nil => rfl
  | cons k keys ih =>
    rw [List.foldl_cons, List.reverse_cons, List.foldl_append, ih, List.foldl_cons, List.foldl_nil,
      c.invRound_substitute_round]

theorem foldl_round (keys : List Key) (s : α) :
    keys.foldl c.round (c.substitute.symm (keys.reverse.foldl c.invRound s)) =
      c.substitute.symm s := by
  induction keys generalizing s with
  | nil => rfl
  | cons k keys ih =>
    rw [List.reverse_cons, List.foldl_append, List.foldl_cons, List.foldl_cons, List.foldl_nil,
      c.round_substitute_invRound, ih]

theorem decrypt_encrypt (first : Key) (keys : List Key) (last : Key) (block : α) :
    c.decrypt first keys last (c.encrypt first keys last block) = block := by
  rw [decrypt, encrypt, Equiv.symm_apply_apply, c.foldl_invRound, Equiv.symm_apply_apply,
    Equiv.symm_apply_apply]

theorem encrypt_decrypt (first : Key) (keys : List Key) (last : Key) (block : α) :
    c.encrypt first keys last (c.decrypt first keys last block) = block := by
  rw [decrypt, encrypt, Equiv.apply_symm_apply, c.foldl_round, Equiv.apply_symm_apply,
    Equiv.apply_symm_apply]

end RoundCipher
