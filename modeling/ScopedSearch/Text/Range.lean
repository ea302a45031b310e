/-!
# Ranges of code points

Character classes that Unicode defines by table are lists of closed ranges of code points.
-/

namespace ScopedSearch.Text

/-- A closed range of code points. -/
abbrev CodeRange := Nat × Nat

/-- The character lies in one of the ranges. -/
def inRanges (ranges : List CodeRange) (c : Char) : Bool :=
  ranges.any fun range => range.1 ≤ c.toNat && c.toNat ≤ range.2

end ScopedSearch.Text
