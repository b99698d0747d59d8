import Rulebook.Text.Joining.Table

/-!
Letters that join with the letters next to them, so that a few of them take one column.
-/

namespace Rulebook.Text.Joining

/-! ## Arabic -/

def lamRanges : List CodePointRange := [
  ⟨0x644, 0x644⟩, ⟨0x6B5, 0x6B8⟩, ⟨0x76A, 0x76A⟩, ⟨0x8A6, 0x8A6⟩, ⟨0x8C7, 0x8C7⟩]

def alefRanges : List CodePointRange := [
  ⟨0x622, 0x623⟩, ⟨0x625, 0x625⟩, ⟨0x627, 0x627⟩, ⟨0x671, 0x673⟩, ⟨0x675, 0x675⟩, ⟨0x773, 0x774⟩,
  ⟨0x870, 0x882⟩]

def isLam (c : Char) : Bool := CodePointRange.anyContains lamRanges c

def isAlef (c : Char) : Bool := CodePointRange.anyContains alefRanges c

/-- Whether a character without a column keeps the letters around it from joining. -/
def isBarrier (c : Char) : Bool := CodePointRange.anyContains barrierRanges c

/-! ## Other scripts -/

def ignoredMarkRanges : List CodePointRange := [
  ⟨0x34F, 0x34F⟩, ⟨0x17B4, 0x17B5⟩, ⟨0x180B, 0x180D⟩, ⟨0x180F, 0x180F⟩, ⟨0xFE00, 0xFE0F⟩,
  ⟨0xE0100, 0xE01EF⟩]

def isIgnoredMark (c : Char) : Bool := CodePointRange.anyContains ignoredMarkRanges c

def isTifinaghConsonant (c : Char) : Bool :=
  CodePointRange.anyContains [⟨0x2D31, 0x2D65⟩, ⟨0x2D6F, 0x2D6F⟩] c

def khmerSubscriptRanges : List CodePointRange := [
  ⟨0x1780, 0x1782⟩, ⟨0x1784, 0x1787⟩, ⟨0x1789, 0x178C⟩, ⟨0x178E, 0x1793⟩, ⟨0x1795, 0x1798⟩,
  ⟨0x179B, 0x179D⟩, ⟨0x17A0, 0x17A0⟩, ⟨0x17A2, 0x17A2⟩, ⟨0x17A7, 0x17A7⟩, ⟨0x17AB, 0x17AC⟩,
  ⟨0x17AF, 0x17AF⟩]

def isKhmerSubscript (c : Char) : Bool := CodePointRange.anyContains khmerSubscriptRanges c

def lisuFirstTones : CodePointRange := ⟨0xA4F8, 0xA4FB⟩

def lisuSecondTones : CodePointRange := ⟨0xA4FC, 0xA4FD⟩

end Rulebook.Text.Joining
