import Rulebook.Text.Alphanumeric.Table

/-!
Letters and numbers of all scripts.
-/

namespace Rulebook.Text

def isAlphanumeric (c : Char) : Bool := CodePointRange.anyContains Alphanumeric.ranges c

end Rulebook.Text
