import Rulebook.Text.CodePointRange

/-!
Blank characters, and texts without those around them.
-/

namespace Rulebook.Text

namespace Blank

def ranges : List CodePointRange := [
  ⟨0x9, 0xD⟩, ⟨0x20, 0x20⟩, ⟨0x85, 0x85⟩, ⟨0xA0, 0xA0⟩, ⟨0x1680, 0x1680⟩, ⟨0x2000, 0x200A⟩,
  ⟨0x2028, 0x2029⟩, ⟨0x202F, 0x202F⟩, ⟨0x205F, 0x205F⟩, ⟨0x3000, 0x3000⟩]

end Blank

def isBlank (c : Char) : Bool := CodePointRange.anyContains Blank.ranges c

def trimmed (cs : List Char) : List Char :=
  ((cs.dropWhile isBlank).reverse.dropWhile isBlank).reverse

end Rulebook.Text
