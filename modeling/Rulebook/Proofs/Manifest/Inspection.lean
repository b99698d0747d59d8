import Rulebook.Manifest.Normalization
import Rulebook.Proofs.Outcome

/-!
Inspection of a manifest: all of its defects, in the order in which fields are read, with nothing
left out behind the first one. Reading a rule gives the first of them, and a canonical rule if there
is none.
-/

namespace Rulebook

open Rulebook.Json (Value Members)

namespace Manifest

/-! ## All defects -/

def textDefects (path : FieldPath) (missing : Defect) : Option Value → List Defect
  | none => [missing]
  | some value => if (scalarText? value).isSome then [] else [.invalid path .text]

def constantDefects (path : FieldPath) (nameOf : String → String) (value : Value) : List Defect :=
  match scalarText? value with
  | none => [.invalid path .text]
  | some text => if isConstantName (nameOf text) then [] else [.invalid path .constantName]

def requiredConstantDefects (path : FieldPath) (missing : Defect) (nameOf : String → String) :
    Option Value → List Defect
  | none => [missing]
  | some value => constantDefects path nameOf value

def textsDefects (name : String) : Option Value → List Defect
  | none => []
  | some (.array items) => items.zipIdx.flatMap fun (item, index) =>
    if (scalarText? item).isSome then [] else [.invalid [.name name, .index index] .text]
  | some _ => [.invalid [.name name] .textArray]

def documentationDefects : Option String → List Defect
  | none => [.missing "htmlDocumentation"]
  | some _ => []

def codeDefects : Option Value → List Defect
  | none => []
  | some (.object code) =>
    match present? code "attribute" with
    | none => []
    | some value => constantDefects [.name "code", .name "attribute"] id value
  | some _ => [.invalid [.name "code"] .object]

def entryDefects (index : Nat) : Value → List Defect
  | .object entry => List.flatten [
    textDefects (parameterPath index "name") (.missingInParameter index "name")
      (present? entry "name"),
    textDefects (parameterPath index "description") (.missingInParameter index "description")
      (present? entry "description"),
    requiredConstantDefects (parameterPath index "type") (.missingInParameter index "type") id
      (present? entry "type"),
    textDefects (parameterPath index "defaultValue") (.missingInParameter index "defaultValue")
      (present? entry "defaultValue")]
  | _ => [.invalid [.name "parameters", .index index] .object]

def parametersDefects : Option Value → List Defect
  | none => []
  | some (.array entries) => entries.zipIdx.flatMap fun (entry, index) => entryDefects index entry
  | some _ => [.invalid [.name "parameters"] .objectArray]

def descriptionDefects (documentation : Option String) (fields : Members) : List Defect :=
  List.flatten [
    requiredConstantDefects [.name "type"] (.missing "type") id (present? fields "type"),
    requiredConstantDefects [.name "defaultSeverity"] (.missing "defaultSeverity") Text.upper
      (present? fields "defaultSeverity"),
    requiredConstantDefects [.name "scope"] (.missing "scope")
      (fun scope => if scope = "Tests" then "TEST" else Text.upper scope) (present? fields "scope"),
    textDefects [.name "title"] (.missing "title") (present? fields "title"),
    documentationDefects documentation,
    textsDefects "tags" (present? fields "tags"),
    codeDefects (present? fields "code"),
    parametersDefects (present? fields "parameters")]

/-- All defects of a raw rule. Without an object there are no fields to look at. -/
def defectsOf (raw : RawRule) : List Defect :=
  match raw.manifest with
  | .object fields => List.flatten [
    descriptionDefects raw.documentation fields,
    textsDefects "compatibleLanguages" (present? fields "compatibleLanguages"),
    textsDefects "defaultQualityProfiles" (present? fields "defaultQualityProfiles")]
  | _ => [.invalid [.name "manifest"] .object]

/-! ## Texts and constants -/

theorem textAt_reports (path : FieldPath) (value : Value) :
    Reports (textAt path value)
      (if (scalarText? value).isSome then [] else [.invalid path .text]) := by
  unfold textAt
  cases scalarText? value with
  | none => exact .error _
  | some text => exact .ok text

theorem constantAt_reports (path : FieldPath) (text : String) :
    Reports (constantAt path text)
      (if isConstantName text then [] else [.invalid path .constantName]) := by
  unfold constantAt
  by_cases h : isConstantName text
  · rw [if_pos h, if_pos h]
    exact .ok text
  · rw [if_neg h, if_neg h]
    exact .error _

def required (path : FieldPath) (missing : Defect) : Option Value → Except Defect String
  | none => .error missing
  | some value => textAt path value

theorem requiredText_eq (fields : Members) (name : String) :
    requiredText fields name = required [.name name] (.missing name) (present? fields name) := by
  unfold requiredText
  cases present? fields name with
  | none => rfl
  | some value => rfl

theorem parameterText_eq (index : Nat) (entry : Members) (name : String) :
    parameterText index entry name =
      required (parameterPath index name) (.missingInParameter index name)
        (present? entry name) := by
  unfold parameterText
  cases present? entry name with
  | none => rfl
  | some value => rfl

theorem required_reports (path : FieldPath) (missing : Defect) (value : Option Value) :
    Reports (required path missing value) (textDefects path missing value) := by
  cases value with
  | none => exact .error missing
  | some value => exact textAt_reports path value

section Constants

variable {β : Type} {path : FieldPath} {nameOf : String → String} {f : String → Except Defect β}
  {groups : List (List Defect)}

theorem constant_reports {value : Value} :
    Reports (textAt path value >>= fun text => constantAt path (nameOf text))
      (constantDefects path nameOf value) := by
  -- Without a text there is no name to look at, so a value has one of both defects at most.
  unfold textAt constantDefects
  cases scalarText? value with
  | none => exact .error _
  | some text => exact constantAt_reports path (nameOf text)

theorem requiredConstant_reports {missing : Defect} {value : Option Value}
    (hf : ∀ name, Reports (f name) groups.flatten) :
    Reports (required path missing value >>= fun text => constantAt path (nameOf text) >>= f)
      (requiredConstantDefects path missing nameOf value :: groups).flatten := by
  rw [← bind_assoc]
  refine .bind_flatten ?_ hf
  cases value with
  | none => exact .error missing
  | some value => exact constant_reports

end Constants

/-! ## Lists of texts -/

theorem textsAt_reports (name : String) (index : Nat) (items : List Value) :
    Reports (textsAt name index items) ((items.zipIdx index).flatMap fun (item, i) =>
      if (scalarText? item).isSome then [] else [.invalid [.name name, .index i] .text]) := by
  induction items generalizing index with
  | nil => exact .ok []
  | cons item rest ih =>
    rw [List.zipIdx_cons, List.flatMap_cons]
    exact (textAt_reports [.name name, .index index] item).bind fun text _ =>
      (ih (index + 1)).map (text :: ·)

theorem optionalTexts_reports (fields : Members) (name : String) :
    Reports (optionalTexts fields name) (textsDefects name (present? fields name)) := by
  unfold optionalTexts
  cases present? fields name with
  | none => exact .ok none
  | some value =>
    cases value with
    | array items => exact (textsAt_reports name 0 items).map some
    | _ => exact .error _

/-! ## The attribute and the parameters -/

theorem attributeOf_reports (fields : Members) :
    Reports (attributeOf fields) (codeDefects (present? fields "code")) := by
  unfold attributeOf codeDefects
  cases present? fields "code" with
  | none => exact .ok defaultAttribute
  | some value =>
    cases value with
    | object code =>
      show Reports (match present? code "attribute" with | none => _ | some value => _)
        (match present? code "attribute" with | none => _ | some value => _)
      cases present? code "attribute" with
      | none => exact .ok defaultAttribute
      | some attributeValue => exact constant_reports
    | _ => exact .error _

theorem parameterOf_reports (index : Nat) (entry : Value) :
    Reports (parameterOf index entry) (entryDefects index entry) := by
  cases entry with
  | object entry =>
    unfold parameterOf entryDefects
    simp only [parameterText_eq]
    refine .bind_flatten (required_reports _ _ _) fun name => ?_
    refine .bind_flatten (required_reports _ _ _) fun description => ?_
    refine requiredConstant_reports fun type => ?_
    refine .bind_flatten (required_reports _ _ _) fun defaultValue => ?_
    exact .ok _
  | _ => exact .error _

theorem parametersFrom_reports (index : Nat) (entries : List Value) :
    Reports (parametersFrom index entries)
      ((entries.zipIdx index).flatMap fun (entry, i) => entryDefects i entry) := by
  induction entries generalizing index with
  | nil => exact .ok []
  | cons entry rest ih =>
    rw [List.zipIdx_cons, List.flatMap_cons]
    exact (parameterOf_reports index entry).bind fun parameter _ =>
      (ih (index + 1)).map (parameter :: ·)

theorem parametersOf_reports (fields : Members) :
    Reports (parametersOf fields) (parametersDefects (present? fields "parameters")) := by
  unfold parametersOf
  cases present? fields "parameters" with
  | none => exact .ok []
  | some value =>
    cases value with
    | array entries => exact parametersFrom_reports 0 entries
    | _ => exact .error _

/-! ## The whole rule -/

theorem documentationOf_reports (raw : RawRule) :
    Reports (documentationOf raw) (documentationDefects raw.documentation) := by
  unfold documentationOf
  cases raw.documentation with
  | none => exact .error _
  | some text => exact .ok text

theorem descriptionOf_reports (raw : RawRule) (fields : Members) :
    Reports (descriptionOf raw fields) (descriptionDefects raw.documentation fields) := by
  unfold descriptionOf descriptionDefects
  simp only [requiredText_eq]
  refine requiredConstant_reports fun type => ?_
  refine requiredConstant_reports fun defaultSeverity => ?_
  refine requiredConstant_reports fun scope => ?_
  refine .bind_flatten (required_reports _ _ _) fun title => ?_
  refine .bind_flatten (documentationOf_reports raw) fun htmlDocumentation => ?_
  refine .bind_flatten (optionalTexts_reports fields "tags") fun tags => ?_
  refine .bind_flatten (attributeOf_reports fields) fun cleanCodeAttribute => ?_
  refine .bind_flatten (parametersOf_reports fields) fun parameters => ?_
  exact .ok _

theorem ruleOf_reports (language : String) (raw : RawRule) :
    Reports (ruleOf language raw) (defectsOf raw) := by
  unfold ruleOf defectsOf
  cases raw.manifest with
  | object fields =>
    show Reports (descriptionOf raw fields >>= _) _
    refine .bind_flatten (descriptionOf_reports raw fields) fun description => ?_
    refine .bind_flatten (optionalTexts_reports fields "compatibleLanguages") fun languages => ?_
    refine .bind_flatten (optionalTexts_reports fields "defaultQualityProfiles") fun profiles => ?_
    exact .ok _
  | _ => exact .error _

end Manifest

namespace RawRule

open Manifest (defectsOf)

def malformations (raw : RawRule) : List MalformedRule := (defectsOf raw).map (⟨raw.key, ·⟩)

theorem normalize_reports (language : String) (raw : RawRule) :
    Reports (raw.normalize language) raw.malformations := by
  have hrule := Manifest.ruleOf_reports language raw
  unfold Reports at hrule ⊢
  rw [malformations, List.head?_map, ← hrule, normalize]
  cases Manifest.ruleOf language raw with
  | error d => rfl
  | ok rule => rfl

theorem normalizeAll_reports (language : String) (raws : List RawRule) :
    Reports (normalizeAll language raws) (raws.flatMap malformations) := by
  induction raws with
  | nil => exact .ok []
  | cons raw rest ih =>
    rw [List.flatMap_cons]
    exact (normalize_reports language raw).bind fun rule _ => ih.map (rule :: ·)

/-- A raw rule is malformed by the first of its defects, and has a canonical form if there is none.
The same holds for a list of raw rules, where the defects of a rule come before those of the
next. -/
theorem normalize_eq_first_defect (language : String) :
    (∀ (raw : RawRule) (m : MalformedRule), raw.normalize language = .error m ↔
      ∃ d, (defectsOf raw).head? = some d ∧ m = ⟨raw.key, d⟩) ∧
    (∀ raw : RawRule, (∃ rule, raw.normalize language = .ok rule) ↔ defectsOf raw = []) ∧
    (∀ (raws : List RawRule) (m : MalformedRule), normalizeAll language raws = .error m ↔
      (raws.flatMap malformations).head? = some m) ∧
    (∀ raws : List RawRule, (∃ rules, normalizeAll language raws = .ok rules) ↔
      ∀ raw ∈ raws, defectsOf raw = []) := by
  refine ⟨fun raw m => ?_, fun raw => ?_, fun raws m => ?_, fun raws => ?_⟩
  · rw [(normalize_reports language raw).eq_error_iff, malformations, List.head?_map,
      Option.map_eq_some_iff]
    constructor
    · rintro ⟨d, hd, rfl⟩
      exact ⟨d, hd, rfl⟩
    · rintro ⟨d, hd, rfl⟩
      exact ⟨d, hd, rfl⟩
  · rw [(normalize_reports language raw).exists_eq_ok_iff, malformations, List.map_eq_nil_iff]
  · exact (normalizeAll_reports language raws).eq_error_iff
  · rw [(normalizeAll_reports language raws).exists_eq_ok_iff, List.flatMap_eq_nil_iff]
    simp only [malformations, List.map_eq_nil_iff]

/-- Every defect is in the list, in the order of the fields. -/
example : defectsOf ⟨"S1", .object [("code", .null), ("defaultSeverity", .string "very high"),
      ("parameters", .array [.null, .object [("type", .string "1"), ("name", .string "max")]]),
      ("scope", .string "Tests"), ("tags", .array [.string "a", .null, .array []]),
      ("title", .object []), ("type", .string "BUG")], none⟩ = [
    .invalid [.name "defaultSeverity"] .constantName,
    .invalid [.name "title"] .text,
    .missing "htmlDocumentation",
    .invalid [.name "tags", .index 1] .text,
    .invalid [.name "tags", .index 2] .text,
    .invalid [.name "parameters", .index 0] .object,
    .missingInParameter 1 "description",
    .invalid [.name "parameters", .index 1, .name "type"] .constantName,
    .missingInParameter 1 "defaultValue"] := rfl

end RawRule

end Rulebook
