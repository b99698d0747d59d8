import Rulebook.Text.CodeUnit
import Rulebook.Text.Hex

/-!
How a Java source is read, in two phases. First every escape of a code unit becomes its unit: a
backslash behind an even number of backslashes, the letter `u`, and four digits. Then the units are
cut into tokens: words, marks, and literals between quotes. Outside literals nothing is known but
ASCII words, the marks of declarations and calls, and blanks; everything else is an error.
-/

namespace Rulebook.Java

open Rulebook.Text

/-! ## Escapes of code units -/

/-- The unit that a `u` with four digits at the start of a text stands for. -/
def escapedUnit? : List Char → Option CodeUnit
  | 'u' :: a :: b :: c :: d :: _ => (Hex.four? a b c d).map UInt16.ofNat
  | _ => none

def backslash : CodeUnit := 0x5C

def quote : CodeUnit := 0x22

/-- The units of a text behind an odd or an even number of backslashes in a row. -/
def unitsAfter (odd : Bool) : List Char → List CodeUnit
  | [] => []
  | c :: rest =>
    if c = '\\' then
      match (if odd then none else escapedUnit? rest) with
      | some u => u :: unitsAfter false (rest.drop 5)
      | none => backslash :: unitsAfter (!odd) rest
    else CodeUnit.ofChar c ++ unitsAfter false rest
termination_by s => s.length

def units (s : String) : List CodeUnit := unitsAfter false s.toList

/-! ## Literals -/

inductive LexicalError where
  /-- A unit that starts no token. -/
  | unexpected (u : CodeUnit)
  /-- A backslash in a literal before a unit that it gives no meaning to. -/
  | unknownEscape (u : CodeUnit)
  | lineEndInLiteral
  /-- The source ends inside a literal. -/
  | openLiteral
deriving DecidableEq, Repr

def isLineEnd (u : CodeUnit) : Bool := u == 0x0A || u == 0x0D

def shortValue? (u : CodeUnit) : Option CodeUnit :=
  List.lookup u [(0x22, 0x22), (0x5C, 0x5C), (0x62, 0x08), (0x74, 0x09), (0x6E, 0x0A), (0x66, 0x0C),
    (0x72, 0x0D)]

/-- A literal that is being read: its value so far, and whether a backslash comes before the next
unit. -/
structure OpenLiteral where
  value : List CodeUnit
  escaped : Bool
deriving DecidableEq, Repr

namespace OpenLiteral

def empty : OpenLiteral := ⟨[], false⟩

def next (l : OpenLiteral) (u : CodeUnit) : Except LexicalError (Option OpenLiteral) :=
  if l.escaped then
    -- The backslash before has no value of its own.
    match shortValue? u with
    | some v => .ok (some ⟨l.value ++ [v], false⟩)
    | none => .error (.unknownEscape u)
  else if u = quote then .ok none
  else if u = backslash then .ok (some ⟨l.value, true⟩)
  else if isLineEnd u then .error .lineEndInLiteral
  else .ok (some ⟨l.value ++ [u], false⟩)

def close (l : OpenLiteral) : List CodeUnit → Except LexicalError (List CodeUnit × List CodeUnit)
  | [] => .error .openLiteral
  | u :: rest =>
    match l.next u with
    | .error e => .error e
    | .ok none => .ok (l.value, rest)
    | .ok (some l) => l.close rest

end OpenLiteral

def readLiteral : List CodeUnit → Except LexicalError (List CodeUnit × List CodeUnit)
  | [] => .error .openLiteral
  | u :: rest => if u = quote then OpenLiteral.empty.close rest else .error (.unexpected u)

/-! ## Tokens -/

inductive Token where
  /-- A keyword or an identifier. -/
  | word (units : List CodeUnit)
  | mark (unit : CodeUnit)
  /-- A literal, by its value. -/
  | text (value : List CodeUnit)
deriving DecidableEq, Repr

def isBlank (u : CodeUnit) : Bool := u == 0x20 || u == 0x09 || u == 0x0C || isLineEnd u

def startsWord (u : CodeUnit) : Bool :=
  (0x41 ≤ u && u ≤ 0x5A) || (0x61 ≤ u && u ≤ 0x7A) || u == 0x5F || u == 0x24

def continuesWord (u : CodeUnit) : Bool := startsWord u || (0x30 ≤ u && u ≤ 0x39)

/-- One of `( ) { } [ ] ; , . @ =`. -/
def isMark (u : CodeUnit) : Bool :=
  [0x28, 0x29, 0x7B, 0x7D, 0x5B, 0x5D, 0x3B, 0x2C, 0x2E, 0x40, 0x3D].contains u

inductive Mode where
  | between
  | word (units : List CodeUnit)
  | literal (l : OpenLiteral)
deriving DecidableEq, Repr

namespace Mode

def start (u : CodeUnit) : Except LexicalError (List Token × Mode) :=
  if isBlank u then .ok ([], .between)
  else if u = quote then .ok ([], .literal .empty)
  else if startsWord u then .ok ([], .word [u])
  else if isMark u then .ok ([.mark u], .between)
  else .error (.unexpected u)

/-- What a unit does: the tokens that end with it, and what comes next. A word ends where a unit
does not go on with it. -/
def next (u : CodeUnit) : Mode → Except LexicalError (List Token × Mode)
  | .between => start u
  | .word w =>
    if continuesWord u then .ok ([], .word (w ++ [u]))
    else (start u).map fun (tokens, mode) => (.word w :: tokens, mode)
  | .literal l =>
    match l.next u with
    | .error e => .error e
    | .ok none => .ok ([.text l.value], .between)
    | .ok (some l) => .ok ([], .literal l)

def run (mode : Mode) : List CodeUnit → Except LexicalError (List Token × Mode)
  | [] => .ok ([], mode)
  | u :: rest => do
    let (tokens, mode) ← mode.next u
    let (others, mode) ← mode.run rest
    return (tokens ++ others, mode)

def finish : Mode → Except LexicalError (List Token)
  | .between => .ok []
  | .word w => .ok [.word w]
  | .literal _ => .error .openLiteral

end Mode

def tokens (source : String) : Except LexicalError (List Token) := do
  let (tokens, mode) ← Mode.between.run (units source)
  let last ← mode.finish
  return tokens ++ last

end Rulebook.Java
