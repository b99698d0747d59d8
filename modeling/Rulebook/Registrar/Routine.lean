/-!
Names of the routines that register rules, one per rule. A name is made from the rule's name, every
character that cannot stand in an identifier replaced by an underscore. Where an earlier rule has
taken a name already, the next one gets the suffix `_2`, or the least number that is still free.
-/

namespace Rulebook.Registrar

def isIdentifierChar (c : Char) : Bool :=
  ('a' ≤ c && c ≤ 'z') || ('A' ≤ c && c ≤ 'Z') || ('0' ≤ c && c ≤ '9') || c == '_'

def identifierPart (name : String) : String :=
  String.ofList (name.toList.map fun c => if isIdentifierChar c then c else '_')

def baseName (ruleName : String) : String := "register" ++ identifierPart ruleName

def numberedName (base : String) (n : Nat) : String := base ++ "_" ++ toString n

/-- The first numbered name from `n` on that is not taken, among `tries` of them. -/
def firstFree (taken : List String) (base : String) (n : Nat) : Nat → String
  | 0 => numberedName base n
  | tries + 1 =>
    if taken.contains (numberedName base n) then firstFree taken base (n + 1) tries
    else numberedName base n

/-- The name of a routine next to those that are taken. Among one more number than there are taken
names one is free. -/
def freeName (taken : List String) (base : String) : String :=
  if taken.contains base then firstFree taken base 2 taken.length else base

def namesFrom (taken : List String) : List String → List String
  | [] => []
  | ruleName :: rest =>
    let name := freeName taken (baseName ruleName)
    name :: namesFrom (name :: taken) rest

def routineNames (ruleNames : List String) : List String := namesFrom [] ruleNames

end Rulebook.Registrar
