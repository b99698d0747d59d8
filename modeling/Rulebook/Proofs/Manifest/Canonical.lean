import Rulebook.Proofs.Manifest.Constants
import Rulebook.Proofs.Rule.RoundTrip
import Rulebook.Proofs.Text.Uppercase

/-!
Canonical rules are those that normalization leaves as they are. It gives no others, and it gives
each of them for every raw rule that spells it out.
-/

namespace Rulebook

open Rulebook.Json (Value Members)
open Rulebook.Text (isSmallLetter)

/-! ## Names in upper case -/

namespace Manifest

def startsUpperName (c : Char) : Bool := ('A' ≤ c && c ≤ 'Z') || c == '_'

def continuesUpperName (c : Char) : Bool := startsUpperName c || isDigit c

def isUpperName (s : String) : Bool :=
  match s.toList with
  | [] => false
  | c :: rest => startsUpperName c && rest.all continuesUpperName

theorem startsUpperName_iff {c : Char} : startsUpperName c ↔ startsName c ∧ ¬ isSmallLetter c := by
  simp only [startsUpperName, startsName, isLetter, Text.isSmallLetter_iff, Bool.or_eq_true,
    Bool.and_eq_true, decide_eq_true_eq, beq_iff_eq, Char.le_def, UInt32.le_iff_toNat_le,
    ← Char.toNat_inj]
  show (0x41 ≤ c.toNat ∧ c.toNat ≤ 0x5A ∨ c.toNat = 0x5F) ↔
    ((0x61 ≤ c.toNat ∧ c.toNat ≤ 0x7A ∨ 0x41 ≤ c.toNat ∧ c.toNat ≤ 0x5A) ∨ c.toNat = 0x5F) ∧ _
  omega

theorem continuesUpperName_iff {c : Char} :
    continuesUpperName c ↔ continuesName c ∧ ¬ isSmallLetter c := by
  have hdigit (h : isDigit c) : ¬ isSmallLetter c := by
    rw [isDigit, Bool.and_eq_true, decide_eq_true_eq, decide_eq_true_eq, Char.le_def, Char.le_def,
      UInt32.le_iff_toNat_le, UInt32.le_iff_toNat_le] at h
    have hle : c.toNat ≤ 0x39 := h.2
    rw [Text.isSmallLetter_iff]
    omega
  rw [continuesUpperName, continuesName, Bool.or_eq_true, Bool.or_eq_true, startsUpperName_iff,
    or_and_right, and_iff_left_of_imp hdigit]

/-- Names in upper case are the names without small letters. -/
theorem isUpperName_iff {s : String} :
    isUpperName s ↔ isConstantName s ∧ ∀ c ∈ s.toList, ¬ isSmallLetter c := by
  unfold isUpperName isConstantName
  cases s.toList with
  | nil => simp
  | cons c rest =>
    rw [Bool.and_eq_true, Bool.and_eq_true, List.all_eq_true, List.all_eq_true,
      List.forall_mem_cons, startsUpperName_iff]
    simp only [continuesUpperName_iff]
    constructor
    · rintro ⟨⟨hc, hsmall⟩, hrest⟩
      exact ⟨⟨hc, fun d hd => (hrest d hd).1⟩, hsmall, fun d hd => (hrest d hd).2⟩
    · rintro ⟨⟨hc, hrest⟩, hsmall, hothers⟩
      exact ⟨⟨hc, hsmall⟩, fun d hd => ⟨hrest d hd, hothers d hd⟩⟩

theorem lt_of_continuesUpperName {c : Char} (h : continuesUpperName c) : c.toNat < 0x61 := by
  simp only [continuesUpperName, startsUpperName, isDigit, Bool.or_eq_true, Bool.and_eq_true,
    decide_eq_true_eq, beq_iff_eq, Char.le_def, UInt32.le_iff_toNat_le] at h
  rcases h with (⟨-, hle⟩ | rfl) | ⟨-, hle⟩
  · exact Nat.lt_of_le_of_lt hle (by decide)
  · decide
  · exact Nat.lt_of_le_of_lt hle (by decide)

theorem lt_of_isUpperName {s : String} (h : isUpperName s) : ∀ c ∈ s.toList, c.toNat < 0x61 := by
  unfold isUpperName at h
  split at h
  · cases h
  · next c rest heq =>
    rw [Bool.and_eq_true, List.all_eq_true] at h
    rw [heq, List.forall_mem_cons]
    have hc : continuesUpperName c := by rw [continuesUpperName, h.1, Bool.true_or]
    exact ⟨lt_of_continuesUpperName hc, fun d hd => lt_of_continuesUpperName (h.2 d hd)⟩

theorem isUpperName_of_upper {s : String} (h : isConstantName (Text.upper s)) :
    isUpperName (Text.upper s) :=
  isUpperName_iff.2 ⟨h, fun _ => Text.not_isSmallLetter_of_mem_upper⟩

theorem isUpperName_normalizeScope {s : String} (h : isConstantName (normalizeScope s)) :
    isUpperName (normalizeScope s) := by
  unfold normalizeScope at h ⊢
  split
  · decide
  · next hs =>
    rw [if_neg hs] at h
    exact isUpperName_of_upper h

theorem normalizeSeverity_of_isUpperName {s : String} (h : isUpperName s) :
    normalizeSeverity s = s := Text.upper_eq_self (lt_of_isUpperName h)

theorem normalizeScope_of_isUpperName {s : String} (h : isUpperName s) : normalizeScope s = s := by
  -- The one scope that is renamed has small letters.
  have hs : s ≠ "Tests" := by
    rintro rfl
    exact absurd h (by decide)
  rw [normalizeScope, if_neg hs]
  exact Text.upper_eq_self (lt_of_isUpperName h)

end Manifest

/-! ## Canonical rules -/

/-- What a rule's constants look like after normalization. -/
structure Rule.IsCanonical (rule : Rule) : Prop where
  type : Manifest.isConstantName rule.type
  cleanCodeAttribute : Manifest.isConstantName rule.cleanCodeAttribute
  parameters : ∀ p ∈ rule.parameters, Manifest.isConstantName p.type
  defaultSeverity : Manifest.isUpperName rule.defaultSeverity
  scope : Manifest.isUpperName rule.scope

namespace Manifest

theorem isCanonical_of_ruleOf {language : String} {raw : RawRule} {rule : Rule}
    (h : ruleOf language raw = .ok rule) : rule.IsCanonical := by
  obtain ⟨fields, -, hread⟩ := readFrom_of_ruleOf h
  obtain ⟨severity, -, hseverity⟩ := bind_eq_ok.1 hread.defaultSeverity
  obtain ⟨scope, -, hscope⟩ := bind_eq_ok.1 hread.scope
  obtain ⟨heqSeverity, hnameSeverity⟩ := constantAt_eq_ok.1 hseverity
  obtain ⟨heqScope, hnameScope⟩ := constantAt_eq_ok.1 hscope
  have hnames := namesConstants_of_ruleOf h
  refine ⟨hnames.type, hnames.cleanCodeAttribute, hnames.parameters, ?_, ?_⟩
  · rw [← heqSeverity] at hnameSeverity ⊢
    exact isUpperName_of_upper hnameSeverity
  · rw [← heqScope] at hnameScope ⊢
    exact isUpperName_normalizeScope hnameScope

end Manifest

/-! ## Manifests that spell out a rule -/

namespace Manifest

def textArray (texts : List String) : Value := .array (texts.map .string)

structure SpellsParameter (entry : Members) (p : Parameter) : Prop where
  name : entry.get? "name" = some (.string p.name)
  description : entry.get? "description" = some (.string p.description)
  type : entry.get? "type" = some (.string p.type)
  defaultValue : entry.get? "defaultValue" = some (.string p.defaultValue)

/-- A manifest that says all that a rule is, key and documentation apart; further members are not
looked at. Tags may stand in any order, and more than once. -/
structure SpellsOut (fields : Members) (rule : Rule) : Prop where
  title : fields.get? "title" = some (.string rule.title)
  type : fields.get? "type" = some (.string rule.type)
  defaultSeverity : fields.get? "defaultSeverity" = some (.string rule.defaultSeverity)
  scope : fields.get? "scope" = some (.string rule.scope)
  tags : ∃ tags, fields.get? "tags" = some (textArray tags) ∧ ∀ tag, tag ∈ tags ↔ tag ∈ rule.tags
  code : ∃ code : Members, fields.get? "code" = some (.object code) ∧
    code.get? "attribute" = some (.string rule.cleanCodeAttribute)
  parameters : ∃ entries, fields.get? "parameters" = some (.array (entries.map .object)) ∧
    List.Forall₂ SpellsParameter entries rule.parameters
  remediation : match rule.remediation with
    | none => ∀ members : Members, fields.get? "remediation" = some (.object members) →
      members.get? "constantCost" = none
    | some remediation => ∃ members : Members, fields.get? "remediation" = some (.object members) ∧
      members.get? "constantCost" = some (.string remediation.cost)
  compatibleLanguages : fields.get? "compatibleLanguages" =
    some (textArray rule.compatibleLanguages)
  qualityProfiles : fields.get? "defaultQualityProfiles" = some (textArray rule.qualityProfiles)

end Manifest

structure RawRule.Spells (raw : RawRule) (rule : Rule) : Prop where
  key : raw.key = rule.name
  documentation : raw.documentation = some rule.htmlDocumentation
  manifest : ∃ fields, raw.manifest = .object fields ∧ Manifest.SpellsOut fields rule

/-! ## Reading what is spelled out -/

namespace Manifest

section Fields

variable {fields : Members} {name text : String} {texts : List String}

theorem requiredText_of_get? (h : fields.get? name = some (.string text)) :
    requiredText fields name = .ok text := by
  unfold requiredText present?
  rw [h]
  rfl

@[simp] theorem textsAt_map_string (name : String) (index : Nat) (texts : List String) :
    textsAt name index (texts.map .string) = .ok texts := by
  rw [textsAt_eq_ok, List.forall₂_map_left_iff, List.forall₂_same]
  exact fun text _ => rfl

theorem optionalTexts_of_get? (h : fields.get? name = some (textArray texts)) :
    optionalTexts fields name = .ok (some texts) := by
  unfold optionalTexts
  rw [present?_of_get? h nofun]
  show (textsAt name 0 (texts.map .string)).map some = _
  rw [textsAt_map_string]
  rfl

end Fields

section Parts

variable {fields : Members} {rule : Rule}

theorem attributeOf_of_spellsOut (h : SpellsOut fields rule)
    (hname : isConstantName rule.cleanCodeAttribute) :
    attributeOf fields = .ok rule.cleanCodeAttribute := by
  obtain ⟨code, hcode, hattribute⟩ := h.code
  unfold attributeOf present?
  rw [hcode]
  dsimp only
  rw [hattribute]
  exact constantAt_eq_ok.2 ⟨rfl, hname⟩

theorem parameterText_of_get? {entry : Members} {name text : String} (index : Nat)
    (h : entry.get? name = some (.string text)) : parameterText index entry name = .ok text := by
  unfold parameterText present?
  rw [h]
  rfl

theorem parameterOf_of_spellsParameter {entry : Members} {p : Parameter} (index : Nat)
    (h : SpellsParameter entry p) (hname : isConstantName p.type) :
    parameterOf index (.object entry) = .ok p := by
  refine bind_eq_ok.2 ⟨p.name, parameterText_of_get? index h.name, ?_⟩
  refine bind_eq_ok.2 ⟨p.description, parameterText_of_get? index h.description, ?_⟩
  refine bind_eq_ok.2 ⟨p.type, parameterText_of_get? index h.type, ?_⟩
  refine bind_eq_ok.2 ⟨p.type, constantAt_eq_ok.2 ⟨rfl, hname⟩, ?_⟩
  exact bind_eq_ok.2 ⟨p.defaultValue, parameterText_of_get? index h.defaultValue, rfl⟩

theorem parametersFrom_of_forall₂ {entries : List Members} {parameters : List Parameter}
    (index : Nat) (h : List.Forall₂ SpellsParameter entries parameters)
    (hnames : ∀ p ∈ parameters, isConstantName p.type) :
    parametersFrom index (entries.map .object) = .ok parameters := by
  induction h generalizing index with
  | nil => rfl
  | @cons entry p entries parameters hentry _ ih =>
    rw [List.forall_mem_cons] at hnames
    have hp := parameterOf_of_spellsParameter index hentry hnames.1
    exact bind_eq_ok.2 ⟨p, hp, bind_eq_ok.2 ⟨parameters, ih (index + 1) hnames.2, rfl⟩⟩

theorem parametersOf_of_spellsOut (h : SpellsOut fields rule)
    (hnames : ∀ p ∈ rule.parameters, isConstantName p.type) :
    parametersOf fields = .ok rule.parameters := by
  obtain ⟨entries, hentries, hspells⟩ := h.parameters
  unfold parametersOf present?
  rw [hentries]
  exact parametersFrom_of_forall₂ 0 hspells hnames

theorem remediationOf_of_spellsOut (h : SpellsOut fields rule) :
    remediationOf fields = rule.remediation := by
  have hremediation := h.remediation
  unfold remediationOf present?
  cases hrule : rule.remediation with
  | none =>
    rw [hrule] at hremediation
    cases hvalue : fields.get? "remediation" with
    | none => rfl
    | some value =>
      cases value with
      | object members =>
        have hcost := hremediation members hvalue
        show ((Members.get? members "constantCost").bind scalarText?).map _ = _
        rw [hcost]
        rfl
      | _ => rfl
  | some remediation =>
    rw [hrule] at hremediation
    obtain ⟨members, hmembers, hcost⟩ := hremediation
    rw [hmembers]
    show ((members.get? "constantCost").bind scalarText?).map _ = _
    rw [hcost]
    rfl

end Parts

end Manifest

namespace RawRule

/-- Whatever language a rule is fetched for, it is what its raw rule spells out. -/
theorem normalize_of_spells {raw : RawRule} {rule : Rule} (language : String)
    (hcanonical : rule.IsCanonical) (h : raw.Spells rule) : raw.normalize language = .ok rule := by
  obtain ⟨fields, hmanifest, hspells⟩ := h.manifest
  obtain ⟨tags, htags, hmembers⟩ := hspells.tags
  -- A constant in upper case stays as it is when it is put into upper case.
  have hseverity : Manifest.constantAt [.name "defaultSeverity"]
      (Manifest.normalizeSeverity rule.defaultSeverity) = .ok rule.defaultSeverity :=
    Manifest.constantAt_eq_ok.2 ⟨Manifest.normalizeSeverity_of_isUpperName
      hcanonical.defaultSeverity, (Manifest.isUpperName_iff.1 hcanonical.defaultSeverity).1⟩
  have hscope : Manifest.constantAt [.name "scope"] (Manifest.normalizeScope rule.scope) =
      .ok rule.scope :=
    Manifest.constantAt_eq_ok.2 ⟨Manifest.normalizeScope_of_isUpperName hcanonical.scope,
      (Manifest.isUpperName_iff.1 hcanonical.scope).1⟩
  have hread : rule.ReadFrom language raw fields := {
    name := h.key
    title := Manifest.requiredText_of_get? hspells.title
    htmlDocumentation := by rw [Manifest.documentationOf, h.documentation]
    type := bind_eq_ok.2 ⟨rule.type, Manifest.requiredText_of_get? hspells.type,
      Manifest.constantAt_eq_ok.2 ⟨rfl, hcanonical.type⟩⟩
    defaultSeverity := bind_eq_ok.2
      ⟨rule.defaultSeverity, Manifest.requiredText_of_get? hspells.defaultSeverity, hseverity⟩
    tags := map_eq_ok.2 ⟨_, Manifest.optionalTexts_of_get? htags,
      TagSet.ofList_eq_of_mem_iff hmembers⟩
    cleanCodeAttribute := Manifest.attributeOf_of_spellsOut hspells hcanonical.cleanCodeAttribute
    scope := bind_eq_ok.2 ⟨rule.scope, Manifest.requiredText_of_get? hspells.scope, hscope⟩
    parameters := Manifest.parametersOf_of_spellsOut hspells hcanonical.parameters
    remediation := Manifest.remediationOf_of_spellsOut hspells
    compatibleLanguages := map_eq_ok.2
      ⟨_, Manifest.optionalTexts_of_get? hspells.compatibleLanguages, rfl⟩
    qualityProfiles := map_eq_ok.2
      ⟨_, Manifest.optionalTexts_of_get? hspells.qualityProfiles, rfl⟩ }
  rw [normalize, Manifest.ruleOf_of_readFrom hmanifest hread]
  rfl

end RawRule

/-! ## Spelling a rule out -/

namespace Manifest

def parameterMembers (p : Parameter) : Members := [
  ("defaultValue", .string p.defaultValue), ("description", .string p.description),
  ("name", .string p.name), ("type", .string p.type)]

def remediationMembers : Option Remediation → Members
  | none => []
  | some remediation => [("remediation", .object [("constantCost", .string remediation.cost)])]

def ruleMembers (rule : Rule) : Members := [
    ("code", .object [("attribute", .string rule.cleanCodeAttribute)]),
    ("compatibleLanguages", textArray rule.compatibleLanguages),
    ("defaultQualityProfiles", textArray rule.qualityProfiles),
    ("defaultSeverity", .string rule.defaultSeverity),
    ("parameters", .array ((rule.parameters.map parameterMembers).map .object))] ++
  remediationMembers rule.remediation ++ [
    ("scope", .string rule.scope), ("tags", textArray rule.tags.toList),
    ("title", .string rule.title), ("type", .string rule.type)]

theorem spellsOut_ruleMembers (rule : Rule) : SpellsOut (ruleMembers rule) rule := by
  have hparameters : List.Forall₂ SpellsParameter (rule.parameters.map parameterMembers)
      rule.parameters := by
    rw [List.forall₂_map_left_iff, List.forall₂_same]
    exact fun p _ => ⟨rfl, rfl, rfl, rfl⟩
  obtain ⟨name, title, documentation, type, severity, tags, attributeName, scope, parameters,
    remediation, languages, profiles⟩ := rule
  cases remediation with
  | none => exact {
      title := rfl, type := rfl, defaultSeverity := rfl, scope := rfl
      tags := ⟨tags.toList, rfl, fun _ => TagSet.mem_toList⟩
      code := ⟨_, rfl, rfl⟩
      parameters := ⟨_, rfl, hparameters⟩
      remediation := nofun
      compatibleLanguages := rfl, qualityProfiles := rfl }
  | some remediation => exact {
      title := rfl, type := rfl, defaultSeverity := rfl, scope := rfl
      tags := ⟨tags.toList, rfl, fun _ => TagSet.mem_toList⟩
      code := ⟨_, rfl, rfl⟩
      parameters := ⟨_, rfl, hparameters⟩
      remediation := ⟨_, rfl, rfl⟩
      compatibleLanguages := rfl, qualityProfiles := rfl }

end Manifest

def Rule.raw (rule : Rule) : RawRule :=
  ⟨rule.name, .object (Manifest.ruleMembers rule), some rule.htmlDocumentation⟩

theorem Rule.spells_raw (rule : Rule) : rule.raw.Spells rule :=
  ⟨rfl, rfl, Manifest.ruleMembers rule, rfl, Manifest.spellsOut_ruleMembers rule⟩

namespace RawRule

theorem isCanonical_of_normalize {language : String} {raw : RawRule} {rule : Rule}
    (h : raw.normalize language = .ok rule) : rule.IsCanonical :=
  Manifest.isCanonical_of_ruleOf (ruleOf_of_normalize h)

/-- Normalization is a retraction onto the canonical rules: all of its results are canonical, and a
canonical rule that is spelled out, as every one can be, is its own result for every language. So
normalizing again changes nothing, and the canonical rules are the possible results. -/
theorem normalize_is_retraction :
    (∀ (language : String) (raw : RawRule) (rule : Rule), raw.normalize language = .ok rule →
      rule.IsCanonical) ∧
    (∀ (language : String) (raw : RawRule) (rule : Rule), rule.IsCanonical → raw.Spells rule →
      raw.normalize language = .ok rule) ∧
    (∀ rule : Rule, rule.raw.Spells rule) ∧
    (∀ (first second : String) (raw again : RawRule) (rule : Rule),
      raw.normalize first = .ok rule → again.Spells rule →
      again.normalize second = raw.normalize first) ∧
    (∀ rule : Rule, rule.IsCanonical ↔
      ∃ (language : String) (raw : RawRule), raw.normalize language = .ok rule) := by
  refine ⟨fun language raw rule => isCanonical_of_normalize,
    fun language raw rule => normalize_of_spells language, Rule.spells_raw,
    fun first second raw again rule h hagain => ?_, fun rule => ⟨fun hcanonical => ?_, ?_⟩⟩
  · rw [h, normalize_of_spells second (isCanonical_of_normalize h) hagain]
  · -- A canonical rule is the result for the raw rule that spells it out.
    exact ⟨"", rule.raw, normalize_of_spells "" hcanonical rule.spells_raw⟩
  · rintro ⟨language, raw, h⟩
    exact isCanonical_of_normalize h

/-- A severity with a dotless `ı`, a scope with a sharp `ß`, numbers and truth values in the place
of texts, and no languages: all of it is settled by normalizing once. -/
def irregular : RawRule := ⟨"S1", .object [
  ("defaultSeverity", .string "crıtical"), ("parameters", .array [.object [
    ("defaultValue", .number (.integer 3)), ("description", .string ""), ("name", .string "max"),
    ("type", .string "integer")]]),
  ("scope", .string "straße"), ("tags", .array [.string "b", .bool true, .string "b"]),
  ("title", .bool false), ("type", .string "Bug")], some "<p>"⟩

def regular : Rule := {
  name := "S1", title := "false", htmlDocumentation := "<p>", type := "Bug"
  defaultSeverity := "CRITICAL", tags := TagSet.ofList ["b", "true"]
  cleanCodeAttribute := "CONVENTIONAL", scope := "STRASSE"
  parameters := [⟨"max", "", "integer", "3"⟩], remediation := none
  compatibleLanguages := ["js"], qualityProfiles := [] }

theorem normalize_is_retraction_irregular :
    irregular.normalize "js" = .ok regular ∧ regular.IsCanonical ∧
    regular.raw.normalize "java" = .ok regular := by
  obtain ⟨hcanonical, hfixed, hspells, -, -⟩ := normalize_is_retraction
  have h : irregular.normalize "js" = .ok regular := rfl
  have hregular := hcanonical "js" irregular regular h
  exact ⟨h, hregular, hfixed "java" regular.raw regular hregular (hspells regular)⟩

end RawRule

end Rulebook
