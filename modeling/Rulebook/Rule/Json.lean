import Rulebook.Json.Printer
import Rulebook.Rule.Basic

/-!
Rules as JSON. A rule is written as an object with its fields in a fixed order. A text is read as a
rule when it spells one:

* a record is an object or an array. As an object it has every field once, in any order; a
  `remediation` may be left out; members with other names are passed over, whatever they hold. As an
  array it has exactly its fields in their order.
* a text is a string and nothing else, a list is an array, and a `remediation` may be `null`.
-/

namespace Rulebook

open Rulebook.Json (Tree Value)

/-! ## Writing -/

namespace Parameter

def fieldNames : List String := ["name", "description", "type", "defaultValue"]

def toJson (p : Parameter) : Value :=
  .object [
    ("name", .string p.name),
    ("description", .string p.description),
    ("type", .string p.type),
    ("defaultValue", .string p.defaultValue)]

end Parameter

namespace Remediation

def fieldNames : List String := ["cost"]

def toJson (r : Remediation) : Value := .object [("cost", .string r.cost)]

end Remediation

namespace Rule

def fieldNames : List String :=
  ["name", "title", "htmlDocumentation", "type", "defaultSeverity", "tags", "cleanCodeAttribute",
    "scope", "parameters", "remediation", "compatibleLanguages", "qualityProfiles"]

def textsToJson (texts : List String) : Value := .array (texts.map .string)

def toJson (rule : Rule) : Value :=
  .object [
    ("name", .string rule.name),
    ("title", .string rule.title),
    ("htmlDocumentation", .string rule.htmlDocumentation),
    ("type", .string rule.type),
    ("defaultSeverity", .string rule.defaultSeverity),
    ("tags", textsToJson rule.tags.toList),
    ("cleanCodeAttribute", .string rule.cleanCodeAttribute),
    ("scope", .string rule.scope),
    ("parameters", .array (rule.parameters.map Parameter.toJson)),
    ("remediation", match rule.remediation with
      | some remediation => remediation.toJson
      | none => .null),
    ("compatibleLanguages", textsToJson rule.compatibleLanguages),
    ("qualityProfiles", textsToJson rule.qualityProfiles)]

def compactText (rule : Rule) : String := rule.toJson.compact

def dataText (rule : Rule) : String := rule.toJson.pretty ++ "\n"

end Rule

/-! ## Reading -/

namespace Record

/-- The members of an object with their names read, or nothing if a name spells no text. -/
def named? : List (List Json.Piece × Tree) → Option (List (String × Tree))
  | [] => some []
  | (name, tree) :: rest =>
    match Json.text? name, named? rest with
    | some name, some rest => some ((name, tree) :: rest)
    | _, _ => none

/-- What the members hold for a field: nothing, or the one tree of that name. A name that is there
twice fails. -/
def slot? (members : List (String × Tree)) (name : String) : Option (Option Tree) :=
  match members.filter (·.1 = name) with
  | [] => some none
  | [(_, tree)] => some (some tree)
  | _ => none

def slots? (names : List String) : Tree → Option (List (Option Tree))
  | .array items => if items.length = names.length then some (items.map some) else none
  | .object members => (named? members).bind fun members => names.mapM (slot? members)
  | _ => none

def text? : Tree → Option String
  | .string pieces => Json.text? pieces
  | _ => none

def list? (item? : Tree → Option α) : Tree → Option (List α)
  | .array items => items.mapM item?
  | _ => none

/-- A field that may be left out or `null`. -/
def optional? (value? : Tree → Option α) : Option Tree → Option (Option α)
  | none => some none
  | some .null => some none
  | some tree => (value? tree).map some

end Record

open Record

def Parameter.ofTree? (tree : Tree) : Option Parameter := do
  match ← slots? fieldNames tree with
  | [some name, some description, some type, some defaultValue] =>
    return {
      name := ← text? name
      description := ← text? description
      type := ← text? type
      defaultValue := ← text? defaultValue }
  | _ => none

def Remediation.ofTree? (tree : Tree) : Option Remediation := do
  match ← slots? fieldNames tree with
  | [some cost] => return { cost := ← text? cost }
  | _ => none

def Rule.ofTree? (tree : Tree) : Option Rule := do
  match ← slots? fieldNames tree with
  | [some name, some title, some htmlDocumentation, some type, some defaultSeverity, some tags,
      some cleanCodeAttribute, some scope, some parameters, remediation, some compatibleLanguages,
      some qualityProfiles] =>
    return {
      name := ← text? name
      title := ← text? title
      htmlDocumentation := ← text? htmlDocumentation
      type := ← text? type
      defaultSeverity := ← text? defaultSeverity
      tags := TagSet.ofList (← list? text? tags)
      cleanCodeAttribute := ← text? cleanCodeAttribute
      scope := ← text? scope
      parameters := ← list? Parameter.ofTree? parameters
      remediation := ← optional? Remediation.ofTree? remediation
      compatibleLanguages := ← list? text? compatibleLanguages
      qualityProfiles := ← list? text? qualityProfiles }
  | _ => none

def Rule.ofText? (text : String) : Option Rule := (Tree.ofText? text).bind ofTree?

end Rulebook
