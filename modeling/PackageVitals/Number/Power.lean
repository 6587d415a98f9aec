/-!
# Powers of two and ten

Binary and decimal numbers are related by exact arithmetic on the powers of
their bases.
-/

namespace PackageVitals

/-- The power of two with the given exponent. -/
def twoTo (n : Nat) : Nat :=
  Nat.pow 2 n

/-- The power of ten with the given exponent. -/
def tenTo (n : Nat) : Nat :=
  Nat.pow 10 n

theorem twoTo_succ (n : Nat) : twoTo (n + 1) = twoTo n * 2 := rfl

theorem tenTo_succ (n : Nat) : tenTo (n + 1) = tenTo n * 10 := rfl

theorem twoTo_pos (n : Nat) : 0 < twoTo n := by
  induction n with
  | zero => decide
  | succ n ih => rw [twoTo_succ]; omega

theorem tenTo_pos (n : Nat) : 0 < tenTo n := by
  induction n with
  | zero => decide
  | succ n ih => rw [tenTo_succ]; omega

end PackageVitals
