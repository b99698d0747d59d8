import Rulebook.Json.Number

/-!
JSON values. The members of an object are a list of name and value; an object that was read lists
every name once, in ascending order by code point, with the last value its text gave it.
-/

namespace Rulebook.Json

inductive Value where
  | null
  | bool (b : Bool)
  | number (n : Number)
  | string (s : String)
  | array (items : List Value)
  | object (members : List (String × Value))
deriving Repr, Inhabited

abbrev Members := List (String × Value)

namespace Members

def get? (members : Members) (name : String) : Option Value := List.lookup name members

def insert (name : String) (value : Value) : Members → Members
  | [] => [(name, value)]
  | (other, held) :: rest =>
    if name < other then (name, value) :: (other, held) :: rest
    else if name = other then (name, value) :: rest
    else (other, held) :: insert name value rest

/-- The members in ascending order, the last value of a name taking the place of the others. -/
def ofList (entries : List (String × Value)) : Members :=
  entries.foldl (fun members entry => insert entry.1 entry.2 members) []

/-- Both lists of members, the values of the second one taking the place of those of the first. -/
def merge (members overrides : Members) : Members :=
  overrides.foldl (fun members entry => insert entry.1 entry.2 members) members

end Members

/-! ## Reading -/

mutual

/-- The value that a tree spells. Nothing, if it is nested deeper than `depth`, a number is beyond
the largest one, or a surrogate stands alone. -/
def Value.ofTree? (depth : Nat) : Tree → Option Value
  | .null => some .null
  | .bool b => some (.bool b)
  | .number n => (Number.ofNumeral? n).map .number
  | .string s => (text? s).map .string
  | .array items =>
    match depth with
    | 0 => none
    | depth + 1 => (ofTrees? depth items).map .array
  | .object members =>
    match depth with
    | 0 => none
    | depth + 1 => (ofMembers? depth members).map fun entries => .object (Members.ofList entries)

def Value.ofTrees? (depth : Nat) : List Tree → Option (List Value)
  | [] => some []
  | tree :: rest =>
    match ofTree? depth tree with
    | none => none
    | some value => (ofTrees? depth rest).map (value :: ·)

def Value.ofMembers? (depth : Nat) : List (List Piece × Tree) → Option (List (String × Value))
  | [] => some []
  | (name, tree) :: rest =>
    match text? name, ofTree? depth tree with
    | some name, some value => (ofMembers? depth rest).map ((name, value) :: ·)
    | _, _ => none

end

def depthLimit : Nat := 127

def Value.ofText? (text : String) : Option Value :=
  (Tree.ofText? text).bind (Value.ofTree? depthLimit)

end Rulebook.Json
