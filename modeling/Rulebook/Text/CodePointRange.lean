/-!
Ranges of code points, in which the properties of characters are listed.
-/

namespace Rulebook.Text

/-- The code points from one to another, both included. -/
structure CodePointRange where
  first : Nat
  last : Nat
deriving DecidableEq, Repr

namespace CodePointRange

def contains (r : CodePointRange) (n : Nat) : Bool := r.first ≤ n && n ≤ r.last

def anyContains (ranges : List CodePointRange) (c : Char) : Bool :=
  ranges.any (·.contains c.toNat)

end CodePointRange

end Rulebook.Text
