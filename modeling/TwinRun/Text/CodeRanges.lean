/-!
Sets of characters, given by ranges of their code points.
-/

namespace TwinRun

/-- Ranges of code points, the last one of each included. -/
abbrev CodeRanges := List (Nat × Nat)

def CodeRanges.contains (rs : CodeRanges) (c : Char) : Bool :=
  rs.any fun r => r.1 ≤ c.toNat && c.toNat ≤ r.2

end TwinRun
