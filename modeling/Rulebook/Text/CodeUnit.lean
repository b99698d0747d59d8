/-!
UTF-16: the code units of a character and of a text, and the character of a surrogate pair.
Characters up to U+FFFF have one unit, all others a high and a low surrogate.
-/

namespace Rulebook.Text

abbrev CodeUnit := UInt16

namespace CodeUnit

def isHighSurrogate (u : CodeUnit) : Bool := 0xD800 ≤ u && u < 0xDC00

def isLowSurrogate (u : CodeUnit) : Bool := 0xDC00 ≤ u && u < 0xE000

def ofChar (c : Char) : List CodeUnit :=
  if c.toNat < 0x10000 then [UInt16.ofNat c.toNat]
  else
    let n := c.toNat - 0x10000
    [UInt16.ofNat (0xD800 + n / 0x400), UInt16.ofNat (0xDC00 + n % 0x400)]

def ofChars (s : List Char) : List CodeUnit := s.flatMap ofChar

def toChar (u : CodeUnit) : Char := Char.ofNat u.toNat

def pairToChar (high low : CodeUnit) : Char :=
  Char.ofNat (0x10000 + (high.toNat - 0xD800) * 0x400 + (low.toNat - 0xDC00))

end CodeUnit

end Rulebook.Text
