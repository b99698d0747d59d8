/-!
What can be wrong with a rule's manifest: something required is missing, or something has the wrong
form. Every defect tells where in the manifest it is.
-/

namespace Rulebook

inductive PathStep where
  | name (name : String)
  | index (index : Nat)
deriving DecidableEq, Repr, Inhabited

abbrev FieldPath := List PathStep

namespace FieldPath

def stepText : PathStep → String
  | .name name => "." ++ name
  | .index index => "[" ++ toString index ++ "]"

/-- The path as it is shown: names after points, indices in brackets. -/
def text : FieldPath → String
  | [] => ""
  | .name name :: rest => name ++ String.join (rest.map stepText)
  | steps => String.join (steps.map stepText)

end FieldPath

inductive Expected where
  | text
  | object
  | textArray
  | objectArray
  | constantName
deriving DecidableEq, Repr, Inhabited

namespace Expected

def description : Expected → String
  | .text => "a string"
  | .object => "an object"
  | .textArray => "an array of strings"
  | .objectArray => "an array of objects"
  | .constantName => "a constant name"

end Expected

inductive Defect where
  | missing (name : String)
  | missingInParameter (index : Nat) (name : String)
  | invalid (path : FieldPath) (expected : Expected)
deriving DecidableEq, Repr, Inhabited

namespace Defect

/-- The field that a defect names: for a parameter that lacks a field, the field alone. -/
def field : Defect → String
  | .missing name => name
  | .missingInParameter _ name => name
  | .invalid path _ => path.text

def description : Defect → String
  | .missing name => "missing required field `" ++ name ++ "`"
  | .missingInParameter index name =>
    "parameter #" ++ toString index ++ " is missing required field `" ++ name ++ "`"
  | .invalid path expected => "field `" ++ path.text ++ "` must be " ++ expected.description

end Defect

structure MalformedRule where
  rule : String
  defect : Defect
deriving DecidableEq, Repr, Inhabited

namespace MalformedRule

def message (m : MalformedRule) : String := "rule " ++ m.rule ++ ": " ++ m.defect.description

end MalformedRule

end Rulebook
