/-!
# Ranges of code points

The character classes of this library are those of the Unicode standard,
version 14. Each is written as the list of its maximal runs of code
points, and membership is a walk along the list: the tables are short
enough that nothing faster is needed, and a list is what a proof can
follow.
-/

namespace PackageVitals.Text

/-- **A character class**: closed intervals of code points. -/
abbrev Ranges := List (Nat × Nat)

/-- Whether a character lies in one of the intervals. -/
def Ranges.has (table : Ranges) (c : Char) : Bool :=
  table.any fun r => r.1 ≤ c.toNat && c.toNat ≤ r.2

@[simp] theorem Ranges.has_nil (c : Char) : Ranges.has [] c = false := rfl

theorem Ranges.has_iff (table : Ranges) (c : Char) :
    table.has c = true ↔ ∃ r ∈ table, r.1 ≤ c.toNat ∧ c.toNat ≤ r.2 := by
  simp [Ranges.has]

end PackageVitals.Text
