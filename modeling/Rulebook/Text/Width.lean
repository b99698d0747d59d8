import Rulebook.Text.Width.Context

/-!
How many columns a text takes.
-/

namespace Rulebook.Text

namespace Width

/-- The columns of characters, and what a character before them is followed by. -/
def measure : List Char → Step
  | [] => .plain 0
  | c :: cs =>
    let after := measure cs
    let here := step c after.context
    ⟨here.columns + after.columns, here.context⟩

end Width

def width (s : String) : Nat := (Width.measure s.toList).columns.toNat

end Rulebook.Text
