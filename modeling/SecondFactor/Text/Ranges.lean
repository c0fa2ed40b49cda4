/-!
# Ranges

Sets of code points are written as lists of ranges.
-/

namespace SecondFactor.Ranges

/-- Whether a number lies in one of some ranges, each given by its first and last member. -/
def contain (ranges : List (Nat × Nat)) (n : Nat) : Bool :=
  ranges.any fun r => r.1 ≤ n && n ≤ r.2

end SecondFactor.Ranges
