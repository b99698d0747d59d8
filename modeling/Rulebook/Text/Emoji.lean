import Rulebook.Text.Emoji.Table

/-!
Emoji: which characters are pictures, and the characters that sequences of pictures are made of.
-/

namespace Rulebook.Text.Emoji

def isPicture (c : Char) : Bool := CodePointRange.anyContains pictureRanges c

/-- Whether a selector after a character chooses between text and picture. -/
def isSelectable (c : Char) : Bool := CodePointRange.anyContains selectableRanges c

def takesTone (c : Char) : Bool := CodePointRange.anyContains toneBaseRanges c

def squaredIdeographs : CodePointRange := ⟨0x1F200, 0x1F2FF⟩

/-- Whether a picture becomes narrow text before the selector of text. -/
def narrowsAsText (c : Char) : Bool :=
  isSelectable c && isPicture c && !squaredIdeographs.contains c.toNat

/-! ## Parts of sequences -/

def tones : CodePointRange := ⟨0x1F3FB, 0x1F3FF⟩

/-- Regional indicators, of which two make a flag. -/
def indicators : CodePointRange := ⟨0x1F1E6, 0x1F1FF⟩

def tagLetters : CodePointRange := ⟨0xE0061, 0xE007A⟩

def tagDigits : CodePointRange := ⟨0xE0030, 0xE0039⟩

def tagEnd : Nat := 0xE007F

def blackFlag : Nat := 0x1F3F4

/-- The mark that makes a key of a digit. -/
def keycap : Nat := 0x20E3

def joiner : Nat := 0x200D

def textSelector : Nat := 0xFE0E

def pictureSelector : Nat := 0xFE0F

end Rulebook.Text.Emoji
