import Rulebook.Text.CodeUnit
import Rulebook.Text.Hex

/-!
JSON texts as they are spelled. A `Tree` keeps what the grammar of JSON sees: the digits of a
number, the pieces of a string, every member of an object in its order, also a repeated one. What a
number is worth and which escapes may stand together is decided by those who read the tree.

The reader works on the characters that are left and returns what is left after it. It is strict:
blanks are space, tab, line feed and carriage return, control characters do not stand in strings,
and nothing but blanks follows the value.
-/

namespace Rulebook.Json

open Rulebook.Text

/-- A piece of a string as it is spelled: a character, or the code unit of a `\u` escape. -/
inductive Piece where
  | char (c : Char)
  | unit (u : CodeUnit)
deriving DecidableEq, Repr, Inhabited

structure Exponent where
  negative : Bool
  digits : List Nat
deriving DecidableEq, Repr, Inhabited

/-- A number as it is spelled; `fraction` is empty where there is no decimal point. -/
structure Numeral where
  negative : Bool
  whole : List Nat
  fraction : List Nat
  exponent : Option Exponent
deriving DecidableEq, Repr, Inhabited

inductive Tree where
  | null
  | bool (b : Bool)
  | number (n : Numeral)
  | string (s : List Piece)
  | array (items : List Tree)
  | object (members : List (List Piece × Tree))
deriving Repr, Inhabited

/-! ## Blanks and words -/

def isBlank (c : Char) : Bool := c == ' ' || c == '\t' || c == '\n' || c == '\r'

def skipBlanks (cs : List Char) : List Char := cs.dropWhile isBlank

def afterWord? : List Char → List Char → Option (List Char)
  | [], cs => some cs
  | _ :: _, [] => none
  | w :: ws, c :: cs => if w = c then afterWord? ws cs else none

/-! ## Strings -/

def shortEscape? (letter : Char) : Option Char :=
  if letter = '"' then some '"'
  else if letter = '\\' then some '\\'
  else if letter = '/' then some '/'
  else if letter = 'b' then some '\x08'
  else if letter = 'f' then some '\x0c'
  else if letter = 'n' then some '\n'
  else if letter = 'r' then some '\r'
  else if letter = 't' then some '\t'
  else none

/-- Reads a string after its opening quote; `before` holds the pieces read so far, last first. -/
def readString (before : List Piece) : List Char → Option (List Piece × List Char)
  | [] => none
  | '"' :: rest => some (before.reverse, rest)
  | '\\' :: 'u' :: a :: b :: c :: d :: rest =>
    match Hex.four? a b c d with
    | some n => readString (.unit (UInt16.ofNat n) :: before) rest
    | none => none
  | '\\' :: letter :: rest =>
    match shortEscape? letter with
    | some c => readString (.char c :: before) rest
    | none => none
  | c :: rest =>
    if c.toNat < 0x20 ∨ c = '\\' then none else readString (.char c :: before) rest

/-! ## Numbers -/

def isDigit (c : Char) : Bool := '0' ≤ c && c ≤ '9'

def digitValue (c : Char) : Nat := c.toNat - 48

def readDigits (cs : List Char) : List Nat × List Char :=
  ((cs.takeWhile isDigit).map digitValue, cs.dropWhile isDigit)

/-- The digits before the point: one zero, or digits that start with another one. -/
def readWhole : List Char → Option (List Nat × List Char)
  | [] => none
  | '0' :: rest => if rest.head?.any isDigit then none else some ([0], rest)
  | c :: rest => if isDigit c then some (readDigits (c :: rest)) else none

def readDigits? (cs : List Char) : Option (List Nat × List Char) :=
  match readDigits cs with
  | ([], _) => none
  | digits => some digits

def readFraction : List Char → Option (List Nat × List Char)
  | '.' :: rest => readDigits? rest
  | cs => some ([], cs)

def readSign : List Char → Bool × List Char
  | '+' :: rest => (false, rest)
  | '-' :: rest => (true, rest)
  | cs => (false, cs)

def readExponent : List Char → Option (Option Exponent × List Char)
  | [] => some (none, [])
  | c :: rest =>
    if c = 'e' ∨ c = 'E' then do
      let (negative, rest) := readSign rest
      let (digits, rest) ← readDigits? rest
      return (some ⟨negative, digits⟩, rest)
    else some (none, c :: rest)

def readNumeral (cs : List Char) : Option (Numeral × List Char) := do
  let (negative, cs) := match cs with
    | '-' :: rest => (true, rest)
    | cs => (false, cs)
  let (whole, cs) ← readWhole cs
  let (fraction, cs) ← readFraction cs
  let (exponent, cs) ← readExponent cs
  return (⟨negative, whole, fraction, exponent⟩, cs)

/-! ## Values -/

mutual

/-- Reads a value, blanks before it included. Every step into a value spends one unit of `fuel`. -/
def readTree (fuel : Nat) (cs : List Char) : Option (Tree × List Char) :=
  match fuel with
  | 0 => none
  | fuel + 1 =>
    match skipBlanks cs with
    | [] => none
    | '"' :: rest => (readString [] rest).map fun (s, rest) => (.string s, rest)
    | '[' :: rest =>
      match skipBlanks rest with
      | ']' :: rest => some (.array [], rest)
      | rest => readItems fuel [] rest
    | '{' :: rest =>
      match skipBlanks rest with
      | '}' :: rest => some (.object [], rest)
      | rest => readMembers fuel [] rest
    | 'n' :: rest => (afterWord? ['u', 'l', 'l'] rest).map fun rest => (.null, rest)
    | 't' :: rest => (afterWord? ['r', 'u', 'e'] rest).map fun rest => (.bool true, rest)
    | 'f' :: rest => (afterWord? ['a', 'l', 's', 'e'] rest).map fun rest => (.bool false, rest)
    | rest => (readNumeral rest).map fun (n, rest) => (.number n, rest)

def readItems (fuel : Nat) (before : List Tree) (cs : List Char) : Option (Tree × List Char) :=
  match fuel with
  | 0 => none
  | fuel + 1 =>
    match readTree fuel cs with
    | none => none
    | some (item, rest) =>
      match skipBlanks rest with
      | ',' :: rest => readItems fuel (item :: before) rest
      | ']' :: rest => some (.array (item :: before).reverse, rest)
      | _ => none

def readMembers (fuel : Nat) (before : List (List Piece × Tree)) (cs : List Char) :
    Option (Tree × List Char) :=
  match fuel with
  | 0 => none
  | fuel + 1 =>
    match skipBlanks cs with
    | '"' :: rest =>
      match readString [] rest with
      | none => none
      | some (name, rest) =>
        match skipBlanks rest with
        | ':' :: rest =>
          match readTree fuel rest with
          | none => none
          | some (value, rest) =>
            match skipBlanks rest with
            | ',' :: rest => readMembers fuel ((name, value) :: before) rest
            | '}' :: rest => some (.object ((name, value) :: before).reverse, rest)
            | _ => none
        | _ => none
    | _ => none

end

/-- Reads a text that is one value. The fuel never runs out before the text does: between two steps
that spend it at least one character is read. -/
def Tree.ofChars? (cs : List Char) : Option Tree :=
  match readTree (2 * cs.length + 2) cs with
  | some (tree, rest) => if (skipBlanks rest).isEmpty then some tree else none
  | none => none

def Tree.ofText? (text : String) : Option Tree := Tree.ofChars? text.toList

/-! ## What a string spells -/

/-- The characters that the pieces spell; `before` holds those found so far, last first. A high
surrogate stands directly before a low one, and no low one stands alone. -/
def spelled? (before : List Char) : List Piece → Option (List Char)
  | [] => some before.reverse
  | .char c :: rest => spelled? (c :: before) rest
  | .unit u :: rest =>
    if u.isHighSurrogate then
      match rest with
      | .unit v :: rest =>
        if v.isLowSurrogate then spelled? (CodeUnit.pairToChar u v :: before) rest else none
      | _ => none
    else if u.isLowSurrogate then none
    else spelled? (u.toChar :: before) rest

def text? (pieces : List Piece) : Option String := (spelled? [] pieces).map String.ofList

end Rulebook.Json
