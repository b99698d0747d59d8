import Rulebook.Text.CodeUnit
import Rulebook.Text.Hex

/-!
Java string literals. A text is written between double quotes in printable ASCII alone: quotes,
backslashes and five control characters have short escapes, everything else outside the range from
space to tilde becomes a `\u` escape with four upper-case digits per UTF-16 code unit.
-/

namespace Rulebook.Java

open Rulebook.Text

def unitEscape (u : CodeUnit) : List Char := '\\' :: 'u' :: Hex.four Hex.upper u.toNat

def shortEscape? (c : Char) : Option Char :=
  if c = '"' then some '"'
  else if c = '\\' then some '\\'
  else if c = '\x08' then some 'b'
  else if c = '\t' then some 't'
  else if c = '\n' then some 'n'
  else if c = '\x0c' then some 'f'
  else if c = '\r' then some 'r'
  else none

/-- A character that stands for itself in a literal unless it has a short escape. -/
def isPrintable (c : Char) : Bool := ' ' ≤ c && c ≤ '~'

def escapeChar (c : Char) : List Char :=
  match shortEscape? c with
  | some letter => ['\\', letter]
  | none => if isPrintable c then [c] else (CodeUnit.ofChar c).flatMap unitEscape

def escapeChars (s : List Char) : List Char := s.flatMap escapeChar

def escape (s : String) : String := String.ofList (escapeChars s.toList)

def literalChars (s : List Char) : List Char := '"' :: (escapeChars s ++ ['"'])

def literal (s : String) : String := "\"" ++ escape s ++ "\""

@[simp] theorem escapeChars_nil : escapeChars [] = [] := rfl

@[simp] theorem escapeChars_cons (c : Char) (s : List Char) :
    escapeChars (c :: s) = escapeChar c ++ escapeChars s :=
  List.flatMap_cons

@[simp] theorem escapeChars_append (s t : List Char) :
    escapeChars (s ++ t) = escapeChars s ++ escapeChars t :=
  List.flatMap_append

@[simp] theorem toList_escape (s : String) : (escape s).toList = escapeChars s.toList :=
  String.toList_ofList

@[simp] theorem toList_literal (s : String) : (literal s).toList = literalChars s.toList := by
  simp [literal, literalChars]

@[simp] theorem escape_append (s t : String) : escape (s ++ t) = escape s ++ escape t := by
  rw [escape, String.toList_append, escapeChars_append, String.ofList_append]
  rfl

end Rulebook.Java
