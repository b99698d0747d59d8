import Mathlib.Data.List.Forall2
import Rulebook.Manifest.Normalization
import Rulebook.Proofs.Outcome

/-!
Reading a rule is reading its fields, every one on its own: what one of them says depends on no
other, and only the first defect depends on their order.
-/

namespace Rulebook

open Rulebook.Json (Value Members)
open Rulebook.Manifest

/-! ## Members and lists of texts -/

namespace Manifest

theorem present?_of_get? {fields : Members} {name : String} {value : Value}
    (h : fields.get? name = some value) (hnull : value ≠ .null) :
    present? fields name = some value := by
  unfold present?
  rw [h]
  cases value with
  | null => exact absurd rfl hnull
  | _ => rfl

theorem textAt_eq_ok {path : FieldPath} {value : Value} {text : String} :
    textAt path value = .ok text ↔ scalarText? value = some text := by
  unfold textAt
  cases scalarText? value with
  | none => exact ⟨nofun, nofun⟩
  | some found => rw [Except.ok.injEq, Option.some.injEq]

/-- A list of texts is one text for every item. -/
theorem textsAt_eq_ok {name : String} {index : Nat} {items : List Value} {texts : List String} :
    textsAt name index items = .ok texts ↔
      List.Forall₂ (fun item text => scalarText? item = some text) items texts := by
  induction items generalizing index texts with
  | nil =>
    rw [List.forall₂_nil_left_iff]
    exact ⟨fun h => by cases h; rfl, fun h => by rw [h]; rfl⟩
  | cons item rest ih =>
    rw [textsAt, List.forall₂_cons_left_iff, bind_eq_ok]
    constructor
    · rintro ⟨text, htext, h⟩
      obtain ⟨others, hothers, heq⟩ := bind_eq_ok.1 h
      cases heq
      exact ⟨text, others, textAt_eq_ok.1 htext, ih.1 hothers, rfl⟩
    · rintro ⟨text, others, htext, hothers, rfl⟩
      exact ⟨text, textAt_eq_ok.2 htext, bind_eq_ok.2 ⟨others, ih.2 hothers, rfl⟩⟩

end Manifest

/-! ## Rules -/

/-- Every part of the rule is what its own field says. -/
structure Rule.ReadFrom (rule : Rule) (language : String) (raw : RawRule) (fields : Members) :
    Prop where
  name : raw.key = rule.name
  title : requiredText fields "title" = .ok rule.title
  htmlDocumentation : documentationOf raw = .ok rule.htmlDocumentation
  type : requiredText fields "type" >>= constantAt [.name "type"] = .ok rule.type
  defaultSeverity : (requiredText fields "defaultSeverity" >>= fun severity =>
    constantAt [.name "defaultSeverity"] (normalizeSeverity severity)) = .ok rule.defaultSeverity
  tags : (optionalTexts fields "tags").map (fun tags => TagSet.ofList (tags.getD [])) =
    .ok rule.tags
  cleanCodeAttribute : attributeOf fields = .ok rule.cleanCodeAttribute
  scope : (requiredText fields "scope" >>= fun scope =>
    constantAt [.name "scope"] (normalizeScope scope)) = .ok rule.scope
  parameters : parametersOf fields = .ok rule.parameters
  remediation : remediationOf fields = rule.remediation
  compatibleLanguages : (optionalTexts fields "compatibleLanguages").map (·.getD [language]) =
    .ok rule.compatibleLanguages
  qualityProfiles : (optionalTexts fields "defaultQualityProfiles").map (·.getD []) =
    .ok rule.qualityProfiles

namespace Manifest

variable {language : String} {raw : RawRule} {rule : Rule} {fields : Members}

theorem readFrom_of_ruleOf (h : ruleOf language raw = .ok rule) :
    ∃ fields, raw.manifest = .object fields ∧ rule.ReadFrom language raw fields := by
  obtain ⟨fields, hfields, h⟩ := bind_eq_ok.1 h
  have hmanifest : raw.manifest = .object fields := by
    unfold membersOf at hfields
    split at hfields
    · cases hfields
      assumption
    · cases hfields
  refine ⟨fields, hmanifest, ?_⟩
  -- The steps come in the order in which defects are looked for, the parts in that of the rule.
  obtain ⟨description, hdescription, h⟩ := bind_eq_ok.1 h
  obtain ⟨languages, hlanguages, h⟩ := bind_eq_ok.1 h
  obtain ⟨profiles, hprofiles, h⟩ := bind_eq_ok.1 h
  cases h
  obtain ⟨typeText, htypeText, hd⟩ := bind_eq_ok.1 hdescription
  obtain ⟨type, htype, hd⟩ := bind_eq_ok.1 hd
  obtain ⟨severityText, hseverityText, hd⟩ := bind_eq_ok.1 hd
  obtain ⟨severity, hseverity, hd⟩ := bind_eq_ok.1 hd
  obtain ⟨scopeText, hscopeText, hd⟩ := bind_eq_ok.1 hd
  obtain ⟨scope, hscope, hd⟩ := bind_eq_ok.1 hd
  obtain ⟨title, htitle, hd⟩ := bind_eq_ok.1 hd
  obtain ⟨documentation, hdocumentation, hd⟩ := bind_eq_ok.1 hd
  obtain ⟨tags, htags, hd⟩ := bind_eq_ok.1 hd
  obtain ⟨cleanCode, hcleanCode, hd⟩ := bind_eq_ok.1 hd
  obtain ⟨parameters, hparameters, hd⟩ := bind_eq_ok.1 hd
  cases hd
  exact {
    name := rfl
    title := htitle
    htmlDocumentation := hdocumentation
    type := bind_eq_ok.2 ⟨typeText, htypeText, htype⟩
    defaultSeverity := bind_eq_ok.2 ⟨severityText, hseverityText, hseverity⟩
    tags := map_eq_ok.2 ⟨tags, htags, rfl⟩
    cleanCodeAttribute := hcleanCode
    scope := bind_eq_ok.2 ⟨scopeText, hscopeText, hscope⟩
    parameters := hparameters
    remediation := rfl
    compatibleLanguages := map_eq_ok.2 ⟨languages, hlanguages, rfl⟩
    qualityProfiles := map_eq_ok.2 ⟨profiles, hprofiles, rfl⟩ }

theorem descriptionOf_of_readFrom (h : rule.ReadFrom language raw fields) :
    descriptionOf raw fields = .ok {
      type := rule.type
      defaultSeverity := rule.defaultSeverity
      scope := rule.scope
      title := rule.title
      htmlDocumentation := rule.htmlDocumentation
      tags := rule.tags
      cleanCodeAttribute := rule.cleanCodeAttribute
      parameters := rule.parameters } := by
  obtain ⟨typeText, htypeText, htype⟩ := bind_eq_ok.1 h.type
  obtain ⟨severityText, hseverityText, hseverity⟩ := bind_eq_ok.1 h.defaultSeverity
  obtain ⟨scopeText, hscopeText, hscope⟩ := bind_eq_ok.1 h.scope
  obtain ⟨tags, htags, hset⟩ := map_eq_ok.1 h.tags
  refine bind_eq_ok.2 ⟨typeText, htypeText, bind_eq_ok.2 ⟨rule.type, htype, ?_⟩⟩
  refine bind_eq_ok.2 ⟨severityText, hseverityText, ?_⟩
  refine bind_eq_ok.2 ⟨rule.defaultSeverity, hseverity, ?_⟩
  refine bind_eq_ok.2 ⟨scopeText, hscopeText, bind_eq_ok.2 ⟨rule.scope, hscope, ?_⟩⟩
  refine bind_eq_ok.2 ⟨rule.title, h.title, ?_⟩
  refine bind_eq_ok.2 ⟨rule.htmlDocumentation, h.htmlDocumentation, ?_⟩
  refine bind_eq_ok.2 ⟨tags, htags, ?_⟩
  refine bind_eq_ok.2 ⟨rule.cleanCodeAttribute, h.cleanCodeAttribute, ?_⟩
  refine bind_eq_ok.2 ⟨rule.parameters, h.parameters, ?_⟩
  rw [← hset]
  rfl

theorem ruleOf_of_readFrom (hmanifest : raw.manifest = .object fields)
    (h : rule.ReadFrom language raw fields) : ruleOf language raw = .ok rule := by
  obtain ⟨languages, hlanguages, hcompatible⟩ := map_eq_ok.1 h.compatibleLanguages
  obtain ⟨profiles, hprofiles, hassigned⟩ := map_eq_ok.1 h.qualityProfiles
  refine bind_eq_ok.2 ⟨fields, by rw [hmanifest]; rfl, ?_⟩
  refine bind_eq_ok.2 ⟨_, descriptionOf_of_readFrom h, ?_⟩
  refine bind_eq_ok.2 ⟨languages, hlanguages, bind_eq_ok.2 ⟨profiles, hprofiles, ?_⟩⟩
  rw [h.name, h.remediation, hcompatible, hassigned]
  rfl

end Manifest

namespace RawRule

theorem ruleOf_of_normalize {language : String} {raw : RawRule} {rule : Rule}
    (h : raw.normalize language = .ok rule) : Manifest.ruleOf language raw = .ok rule := by
  unfold normalize at h
  cases hrule : Manifest.ruleOf language raw with
  | error d =>
    rw [hrule] at h
    cases h
  | ok r =>
    rw [hrule] at h
    cases h
    rfl

theorem normalizeAll_eq_mapM (language : String) (raws : List RawRule) :
    normalizeAll language raws = raws.mapM (normalize language) := by
  induction raws with
  | nil => rfl
  | cons raw rest ih =>
    rw [normalizeAll, List.mapM_cons, ih]

theorem normalizeAll_eq_ok {language : String} {raws : List RawRule} {rules : List Rule} :
    normalizeAll language raws = .ok rules ↔
      List.Forall₂ (fun raw rule => raw.normalize language = .ok rule) raws rules := by
  rw [normalizeAll_eq_mapM]
  exact mapM_eq_ok

end RawRule

end Rulebook
