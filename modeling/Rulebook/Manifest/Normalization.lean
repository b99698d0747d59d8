import Rulebook.Manifest.Fields
import Rulebook.Rule.Basic
import Rulebook.Text.Uppercase

/-!
From a raw rule, as a catalog delivers it, to a canonical one. This is the only place that reads a
manifest: it checks every field, in a fixed order, reports the first defect, and puts defaults in
the place of fields that are absent.

* without a `code.attribute` the attribute is `CONVENTIONAL`;
* without `compatibleLanguages` a rule is compatible with the language it was fetched for;
* `tags`, `parameters` and `defaultQualityProfiles` are empty without a value;
* a `remediation` without a constant cost is none.
-/

namespace Rulebook

open Rulebook.Json (Value Members)

structure RawRule where
  key : String
  manifest : Value
  documentation : Option String
deriving Repr, Inhabited

namespace Manifest

def defaultAttribute : String := "CONVENTIONAL"

def normalizeSeverity (severity : String) : String := Text.upper severity

/-- The catalog's `Tests` is the scope `TEST`; all others are written in upper case. -/
def normalizeScope (scope : String) : String :=
  if scope = "Tests" then "TEST" else Text.upper scope

/-! ## Fields with a form of their own -/

def membersOf : Value → Except Defect Members
  | .object members => .ok members
  | _ => .error (.invalid [.name "manifest"] .object)

def documentationOf (raw : RawRule) : Except Defect String :=
  match raw.documentation with
  | some text => .ok text
  | none => .error (.missing "htmlDocumentation")

/-- The attribute in `code`, where both `code` and its `attribute` may be absent. -/
def attributeOf (fields : Members) : Except Defect String :=
  match present? fields "code" with
  | none => .ok defaultAttribute
  | some (.object code) =>
    match present? code "attribute" with
    | none => .ok defaultAttribute
    | some value => do
      let path := [.name "code", .name "attribute"]
      constantAt path (← textAt path value)
  | some _ => .error (.invalid [.name "code"] .object)

def parameterPath (index : Nat) (name : String) : FieldPath :=
  [.name "parameters", .index index, .name name]

def parameterText (index : Nat) (entry : Members) (name : String) : Except Defect String :=
  match present? entry name with
  | none => .error (.missingInParameter index name)
  | some value => textAt (parameterPath index name) value

def parameterOf (index : Nat) : Value → Except Defect Parameter
  | .object entry => do
    let name ← parameterText index entry "name"
    let description ← parameterText index entry "description"
    let type ← parameterText index entry "type"
    let type ← constantAt (parameterPath index "type") type
    let defaultValue ← parameterText index entry "defaultValue"
    return { name, description, type, defaultValue }
  | _ => .error (.invalid [.name "parameters", .index index] .object)

def parametersFrom (index : Nat) : List Value → Except Defect (List Parameter)
  | [] => .ok []
  | entry :: rest => do
    let parameter ← parameterOf index entry
    let parameters ← parametersFrom (index + 1) rest
    return parameter :: parameters

def parametersOf (fields : Members) : Except Defect (List Parameter) :=
  match present? fields "parameters" with
  | none => .ok []
  | some (.array entries) => parametersFrom 0 entries
  | some _ => .error (.invalid [.name "parameters"] .objectArray)

def costOf? : Value → Option String
  | .object remediation => (Members.get? remediation "constantCost").bind scalarText?
  | _ => none

/-- Only a constant cost is kept; remediation of any other shape is dropped. -/
def remediationOf (fields : Members) : Option Remediation :=
  ((present? fields "remediation").bind costOf?).map fun cost => { cost }

def dropsRemediation (fields : Members) : Bool :=
  match present? fields "remediation" with
  | none => false
  | some value => (costOf? value).isNone

/-! ## The whole rule -/

structure Description where
  type : String
  defaultSeverity : String
  scope : String
  title : String
  htmlDocumentation : String
  tags : TagSet
  cleanCodeAttribute : String
  parameters : List Parameter
deriving Repr

def descriptionOf (raw : RawRule) (fields : Members) : Except Defect Description := do
  let type ← requiredText fields "type"
  let type ← constantAt [.name "type"] type
  let severity ← requiredText fields "defaultSeverity"
  let defaultSeverity ← constantAt [.name "defaultSeverity"] (normalizeSeverity severity)
  let scope ← requiredText fields "scope"
  let scope ← constantAt [.name "scope"] (normalizeScope scope)
  let title ← requiredText fields "title"
  let htmlDocumentation ← documentationOf raw
  let tags ← optionalTexts fields "tags"
  let cleanCodeAttribute ← attributeOf fields
  let parameters ← parametersOf fields
  return {
    type, defaultSeverity, scope, title, htmlDocumentation, cleanCodeAttribute, parameters
    tags := TagSet.ofList (tags.getD []) }

def ruleOf (language : String) (raw : RawRule) : Except Defect Rule := do
  let fields ← membersOf raw.manifest
  let description ← descriptionOf raw fields
  let compatibleLanguages ← optionalTexts fields "compatibleLanguages"
  let qualityProfiles ← optionalTexts fields "defaultQualityProfiles"
  return {
    name := raw.key
    title := description.title
    htmlDocumentation := description.htmlDocumentation
    type := description.type
    defaultSeverity := description.defaultSeverity
    tags := description.tags
    cleanCodeAttribute := description.cleanCodeAttribute
    scope := description.scope
    parameters := description.parameters
    remediation := remediationOf fields
    compatibleLanguages := compatibleLanguages.getD [language]
    qualityProfiles := qualityProfiles.getD [] }

end Manifest

namespace RawRule

def normalize (language : String) (raw : RawRule) : Except MalformedRule Rule :=
  (Manifest.ruleOf language raw).mapError (⟨raw.key, ·⟩)

/-- Whether a raw rule has remediation that is dropped, and what is read before it is sound. -/
def losesRemediation (raw : RawRule) : Bool :=
  match Manifest.membersOf raw.manifest with
  | .error _ => false
  | .ok fields =>
    (Manifest.descriptionOf raw fields).toBool && Manifest.dropsRemediation fields

/-- The canonical rules of a list, or the error of the first malformed one. -/
def normalizeAll (language : String) : List RawRule → Except MalformedRule (List Rule)
  | [] => .ok []
  | raw :: rest => do
    let rule ← raw.normalize language
    let rules ← normalizeAll language rest
    return rule :: rules

end RawRule

end Rulebook
