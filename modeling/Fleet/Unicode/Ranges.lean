/-!
# Ranges of code points

A set of code points as a list of closed ranges.
-/

namespace Fleet.Unicode

/-- A set of code points, as closed ranges. -/
abbrev Ranges := List (Nat × Nat)

/-- The code point `n` lies in one of the ranges. -/
def Ranges.contains (rs : Ranges) (n : Nat) : Bool :=
  rs.any fun r => r.1 ≤ n && n ≤ r.2

end Fleet.Unicode
