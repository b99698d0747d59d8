import Rulebook.Proofs.Manifest.Contents

/-!
Constants of canonical rules are names of constants: a manifest that says anything else is
malformed.
-/

namespace Rulebook

open Rulebook.Json (Value Members)
open Rulebook.Manifest (isConstantName)

structure Rule.NamesConstants (rule : Rule) : Prop where
  type : isConstantName rule.type
  defaultSeverity : isConstantName rule.defaultSeverity
  cleanCodeAttribute : isConstantName rule.cleanCodeAttribute
  scope : isConstantName rule.scope
  parameters : ∀ p ∈ rule.parameters, isConstantName p.type

namespace Manifest

theorem constantAt_eq_ok {path : FieldPath} {text name : String} :
    constantAt path text = .ok name ↔ text = name ∧ isConstantName name := by
  unfold constantAt
  by_cases htext : isConstantName text
  · rw [if_pos htext, Except.ok.injEq]
    exact ⟨fun h => ⟨h, h ▸ htext⟩, And.left⟩
  · rw [if_neg htext]
    refine ⟨nofun, ?_⟩
    rintro ⟨rfl, h⟩
    exact absurd h htext

theorem isConstantName_of_constantAt {path : FieldPath} {text name : String}
    (h : constantAt path text = .ok name) : isConstantName name := (constantAt_eq_ok.1 h).2

theorem isConstantName_of_attributeOf {fields : Members} {name : String}
    (h : attributeOf fields = .ok name) : isConstantName name := by
  have hdefault : isConstantName defaultAttribute := by decide
  unfold attributeOf at h
  split at h
  · cases h
    exact hdefault
  · split at h
    · cases h
      exact hdefault
    · obtain ⟨text, -, h⟩ := bind_eq_ok.1 h
      exact isConstantName_of_constantAt h
  · cases h

theorem isConstantName_of_parameterOf {index : Nat} {entry : Value} {p : Parameter}
    (h : parameterOf index entry = .ok p) : isConstantName p.type := by
  unfold parameterOf at h
  split at h
  · obtain ⟨name, -, h⟩ := bind_eq_ok.1 h
    obtain ⟨description, -, h⟩ := bind_eq_ok.1 h
    obtain ⟨text, -, h⟩ := bind_eq_ok.1 h
    obtain ⟨type, htype, h⟩ := bind_eq_ok.1 h
    obtain ⟨defaultValue, -, h⟩ := bind_eq_ok.1 h
    cases h
    exact isConstantName_of_constantAt htype
  · cases h

theorem isConstantName_of_parametersFrom {entries : List Value} {index : Nat}
    {parameters : List Parameter} (h : parametersFrom index entries = .ok parameters) :
    ∀ p ∈ parameters, isConstantName p.type := by
  induction entries generalizing index parameters with
  | nil =>
    cases h
    exact fun p hp => absurd hp List.not_mem_nil
  | cons entry rest ih =>
    obtain ⟨first, hfirst, h⟩ := bind_eq_ok.1 h
    obtain ⟨others, hothers, h⟩ := bind_eq_ok.1 h
    cases h
    intro p hp
    rcases List.mem_cons.1 hp with rfl | hp
    · exact isConstantName_of_parameterOf hfirst
    · exact ih hothers p hp

theorem isConstantName_of_parametersOf {fields : Members} {parameters : List Parameter}
    (h : parametersOf fields = .ok parameters) : ∀ p ∈ parameters, isConstantName p.type := by
  unfold parametersOf at h
  split at h
  · cases h
    exact fun p hp => absurd hp List.not_mem_nil
  · exact isConstantName_of_parametersFrom h
  · cases h

theorem namesConstants_of_ruleOf {language : String} {raw : RawRule} {rule : Rule}
    (h : ruleOf language raw = .ok rule) : rule.NamesConstants := by
  obtain ⟨fields, -, hread⟩ := readFrom_of_ruleOf h
  obtain ⟨typeText, -, htype⟩ := bind_eq_ok.1 hread.type
  obtain ⟨severityText, -, hseverity⟩ := bind_eq_ok.1 hread.defaultSeverity
  obtain ⟨scopeText, -, hscope⟩ := bind_eq_ok.1 hread.scope
  exact {
    type := isConstantName_of_constantAt htype
    defaultSeverity := isConstantName_of_constantAt hseverity
    cleanCodeAttribute := isConstantName_of_attributeOf hread.cleanCodeAttribute
    scope := isConstantName_of_constantAt hscope
    parameters := isConstantName_of_parametersOf hread.parameters }

end Manifest

namespace RawRule

theorem namesConstants_of_normalizeAll {language : String} {raws : List RawRule}
    {rules : List Rule} (h : normalizeAll language raws = .ok rules) :
    ∀ rule ∈ rules, rule.NamesConstants := by
  induction normalizeAll_eq_ok.1 h with
  | nil => exact List.forall_mem_nil _
  | cons hfirst hrest ih =>
    refine List.forall_mem_cons.2 ⟨?_, ih (normalizeAll_eq_ok.2 hrest)⟩
    exact Manifest.namesConstants_of_ruleOf (ruleOf_of_normalize hfirst)

end RawRule

end Rulebook
