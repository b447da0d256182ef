/-!
# Sets of characters

A set of characters is given by ranges of code points, as the properties of a character standard
are. The tables that use it name the property they hold.
-/

namespace EditorPane

/-- The characters whose code point lies in one of the ranges, ends included. -/
structure CharSet where
  ranges : List (Nat × Nat)

namespace CharSet

/-- `c` belongs to the set. -/
def contains (s : CharSet) (c : Char) : Bool :=
  s.ranges.any fun r => r.1 ≤ c.toNat && c.toNat ≤ r.2

end CharSet

end EditorPane
