import Rulebook.Json.Value
import Rulebook.Manifest.Defect

/-!
Fields of a manifest. A manifest is an untyped tree of JSON; its fields are read by name. A field
that is `null` counts as absent. A text may also be given as a number or a truth value, which then
stands for its JSON text.
-/

namespace Rulebook.Manifest

open Rulebook.Json (Value Members)

def scalarText? : Value → Option String
  | .string s => some s
  | .number n => some n.text
  | .bool true => some "true"
  | .bool false => some "false"
  | .null => none
  | .array _ => none
  | .object _ => none

/-- The value of a field, unless it is absent or `null`. -/
def present? (fields : Members) (name : String) : Option Value :=
  match fields.get? name with
  | some .null => none
  | value => value

def textAt (path : FieldPath) (value : Value) : Except Defect String :=
  match scalarText? value with
  | some text => .ok text
  | none => .error (.invalid path .text)

/-- The texts of the items of a list, the first of them being number `index`. -/
def textsAt (name : String) (index : Nat) : List Value → Except Defect (List String)
  | [] => .ok []
  | value :: rest => do
    let text ← textAt [.name name, .index index] value
    let texts ← textsAt name (index + 1) rest
    return text :: texts

def requiredText (fields : Members) (name : String) : Except Defect String :=
  match present? fields name with
  | none => .error (.missing name)
  | some value => textAt [.name name] value

def optionalTexts (fields : Members) (name : String) : Except Defect (Option (List String)) :=
  match present? fields name with
  | none => .ok none
  | some (.array items) => (textsAt name 0 items).map some
  | some _ => .error (.invalid [.name name] .textArray)

/-! ## Constants -/

def isLetter (c : Char) : Bool := ('a' ≤ c && c ≤ 'z') || ('A' ≤ c && c ≤ 'Z')

def isDigit (c : Char) : Bool := '0' ≤ c && c ≤ '9'

def startsName (c : Char) : Bool := isLetter c || c == '_'

def continuesName (c : Char) : Bool := startsName c || isDigit c

/-- Whether a text is the name of a constant: ASCII letters, digits and underscores, and no digit in
front. -/
def isConstantName (s : String) : Bool :=
  match s.toList with
  | [] => false
  | c :: rest => startsName c && rest.all continuesName

def constantAt (path : FieldPath) (text : String) : Except Defect String :=
  if isConstantName text then .ok text else .error (.invalid path .constantName)

end Rulebook.Manifest
