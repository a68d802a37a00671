/-!
# Ranges of characters

A property of characters is given as a table of closed ranges of their numbers.

## Main definitions

* `Ranges`: a table
* `Ranges.contains`: the look-up
-/

namespace CauseTrail.Text

/-- Closed ranges of character numbers. -/
abbrev Ranges := List (Nat × Nat)

/-- Whether a number lies in one of the ranges. -/
def Ranges.contains (rs : Ranges) (n : Nat) : Bool :=
  rs.any fun r => decide (r.1 ≤ n ∧ n ≤ r.2)

end CauseTrail.Text
