import Rulebook.Json.Value

/-!
JSON texts of values: compact, without blanks, or laid out with one item per line. The members of
an object are written in the order of its list.

Quotes, backslashes and control characters are escaped, everything else stands for itself.
-/

namespace Rulebook.Json

open Rulebook.Text

def escapeChar (c : Char) : List Char :=
  if c = '"' then ['\\', '"']
  else if c = '\\' then ['\\', '\\']
  else if c = '\x08' then ['\\', 'b']
  else if c = '\x0c' then ['\\', 'f']
  else if c = '\n' then ['\\', 'n']
  else if c = '\r' then ['\\', 'r']
  else if c = '\t' then ['\\', 't']
  else if c.toNat < 0x20 then '\\' :: 'u' :: Hex.four Hex.lower c.toNat
  else [c]

def quoted (s : String) : List Char := '"' :: (s.toList.flatMap escapeChar ++ ['"'])

def separated (separator : List Char) (texts : List (List Char)) : List Char :=
  (texts.intersperse separator).flatten

/-! ## Compact -/

mutual

def Value.compactChars : Value → List Char
  | .null => ['n', 'u', 'l', 'l']
  | .bool true => ['t', 'r', 'u', 'e']
  | .bool false => ['f', 'a', 'l', 's', 'e']
  | .number n => n.chars
  | .string s => quoted s
  | .array items => '[' :: (separated [','] (compactItems items) ++ [']'])
  | .object members => '{' :: (separated [','] (compactMembers members) ++ ['}'])

def Value.compactItems : List Value → List (List Char)
  | [] => []
  | value :: rest => value.compactChars :: compactItems rest

def Value.compactMembers : List (String × Value) → List (List Char)
  | [] => []
  | (name, value) :: rest => (quoted name ++ ':' :: value.compactChars) :: compactMembers rest

end

def Value.compact (v : Value) : String := String.ofList v.compactChars

/-! ## One item per line -/

/-- A line break and the blanks before an item that is nested `depth` deep. -/
def lineBreak (depth : Nat) : List Char := '\n' :: List.replicate (2 * depth) ' '

/-- Items between brackets, each on a line of its own; nothing stands between the brackets of an
empty list. -/
def block (opening closing : Char) (depth : Nat) (items : List (List Char)) : List Char :=
  if items.isEmpty then [opening, closing]
  else
    opening :: (lineBreak (depth + 1) ++ separated (',' :: lineBreak (depth + 1)) items
      ++ lineBreak depth ++ [closing])

mutual

def Value.prettyChars (depth : Nat) : Value → List Char
  | .null => ['n', 'u', 'l', 'l']
  | .bool true => ['t', 'r', 'u', 'e']
  | .bool false => ['f', 'a', 'l', 's', 'e']
  | .number n => n.chars
  | .string s => quoted s
  | .array items => block '[' ']' depth (prettyItems (depth + 1) items)
  | .object members => block '{' '}' depth (prettyMembers (depth + 1) members)

def Value.prettyItems (depth : Nat) : List Value → List (List Char)
  | [] => []
  | value :: rest => value.prettyChars depth :: prettyItems depth rest

def Value.prettyMembers (depth : Nat) : List (String × Value) → List (List Char)
  | [] => []
  | (name, value) :: rest =>
    (quoted name ++ ':' :: ' ' :: value.prettyChars depth) :: prettyMembers depth rest

end

def Value.pretty (v : Value) : String := String.ofList (v.prettyChars 0)

end Rulebook.Json
