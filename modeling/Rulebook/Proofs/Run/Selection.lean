import Rulebook.Proofs.Registrar.Distinction
import Rulebook.Proofs.Run.Files
import Rulebook.Proofs.Run.Transcript

/-!
Which raw rules registrars create and activate, told from the manifests alone. The languages of a
rule are judged where its registrars are made, but its own language takes their place where the rule
is made canonical, and the target language comes from the request; the profile is looked up in a
list that has been made of scalars before.
-/

namespace Rulebook

open Rulebook.Json (Value Members)
open Rulebook.Manifest

/-! ## Members of manifests -/

namespace RawRule

def member? (raw : RawRule) (name : String) : Option Value :=
  match raw.manifest with
  | .object fields => Members.get? fields name
  | _ => none

def lists (raw : RawRule) (name text : String) : Bool :=
  match raw.member? name with
  | some (.array items) => items.any fun item => scalarText? item == some text
  | _ => false

def leavesOut (raw : RawRule) (name : String) : Bool :=
  match raw.member? name with
  | none => true
  | some .null => true
  | _ => false

/-- Whether the manifest makes a rule that was fetched for a language one of a target language. -/
def targets (raw : RawRule) (language target : String) : Bool :=
  raw.lists "compatibleLanguages" target
    || (raw.leavesOut "compatibleLanguages" && language == target)

end RawRule

/-! ## Lists of canonical rules -/

section Lists

variable {raw : RawRule} {fields : Members} {language : String} {rule : Rule}

theorem contains_of_forall₂ {items : List Value} {texts : List String}
    (h : List.Forall₂ (fun item text => scalarText? item = some text) items texts)
    (text : String) :
    texts.contains text = items.any fun item => scalarText? item == some text := by
  induction h with
  | nil => rfl
  | cons hfirst _ ih =>
    rw [List.contains_cons, List.any_cons, hfirst, Option.some_beq_some, Bool.beq_comm, ih]

/-- A list that is left out is the default, and every other one has the texts of its items. -/
theorem contains_of_optionalTexts (hmanifest : raw.manifest = .object fields) {name : String}
    {texts : Option (List String)} (h : optionalTexts fields name = .ok texts)
    (default : List String) (text : String) :
    (texts.getD default).contains text =
      (raw.lists name text || (raw.leavesOut name && default.contains text)) := by
  have hmember : raw.member? name = fields.get? name := by
    rw [RawRule.member?, hmanifest]
  unfold RawRule.lists RawRule.leavesOut
  rw [hmember]
  unfold optionalTexts present? at h
  cases hvalue : fields.get? name with
  | none =>
    rw [hvalue] at h
    cases h
    rfl
  | some value =>
    rw [hvalue] at h
    cases value with
    | null =>
      cases h
      rfl
    -- A list that is there is not the default, not even if it is empty.
    | array items =>
      obtain ⟨found, hfound, rfl⟩ := map_eq_ok.1 h
      exact (contains_of_forall₂ (textsAt_eq_ok.1 hfound) text).trans (Bool.or_false _).symm
    | _ => cases h

theorem Rule.isCompatibleWith_of_normalize (h : raw.normalize language = .ok rule)
    (target : String) : rule.isCompatibleWith target = raw.targets language target := by
  obtain ⟨fields, hmanifest, hread⟩ := readFrom_of_ruleOf (RawRule.ruleOf_of_normalize h)
  obtain ⟨languages, hlanguages, heq⟩ := map_eq_ok.1 hread.compatibleLanguages
  rw [Rule.isCompatibleWith, ← heq, contains_of_optionalTexts hmanifest hlanguages, RawRule.targets,
    List.contains_cons, List.contains_nil, Bool.or_false, Bool.beq_comm]

theorem Rule.isInProfile_of_normalize (h : raw.normalize language = .ok rule) (profile : String) :
    rule.isInProfile profile = raw.lists "defaultQualityProfiles" profile := by
  obtain ⟨fields, hmanifest, hread⟩ := readFrom_of_ruleOf (RawRule.ruleOf_of_normalize h)
  obtain ⟨profiles, hprofiles, heq⟩ := map_eq_ok.1 hread.qualityProfiles
  rw [Rule.isInProfile, ← heq, contains_of_optionalTexts hmanifest hprofiles, List.contains_nil,
    Bool.and_false, Bool.or_false]

end Lists

/-! ## What a run selects -/

namespace Run

open Rulebook.Java (renderLines renderLines_append_eq)
open Rulebook.Registrar

/-- What a run for registrars did for one language: what the source answered, and what the
repository and the profile were written as. -/
structure RegistrarVisit where
  language : String
  raws : List RawRule
  repository : String
  profile : String

namespace RegistrarVisit

def steps (settings : RegistrarSettings) (target : Path) (visit : RegistrarVisit) : List Step :=
  let key := settings.repositoryKey.getD visit.language
  let place (className : String) : Path :=
    (target.join (.ofText visit.language)).join (.ofText (className ++ ".java"))
  [ .fetched visit.language visit.raws,
    .wrote (place (repositoryClassName key)) visit.repository,
    .wrote (place (profileClassName key)) visit.profile]

def created (settings : RegistrarSettings) (visit : RegistrarVisit) : List RawRule :=
  visit.raws.filter
    (·.targets visit.language (settings.compatibleLanguage.getD visit.language))

def activated (settings : RegistrarSettings) (visit : RegistrarVisit) : List RawRule :=
  (visit.created settings).filter (·.lists "defaultQualityProfiles" settings.profileName)

/-- Behind the lines that name the classes, the repository creates and the profile activates what it
should, in the order of the source. Both are what they would be without all other raw rules. -/
structure Selects (settings : RegistrarSettings) (visit : RegistrarVisit) : Prop where
  creates : ∃ body,
    visit.repository = renderLines (repositoryHead (settings.options visit.language)) ++ body ∧
    said .creation (statements body) =
      (visit.created settings).map fun raw => [unitsOf raw.key]
  activates : ∃ body,
    visit.profile = renderLines (profileHead (settings.options visit.language)) ++ body ∧
    said .activation (statements body) = (visit.activated settings).map fun raw =>
      [unitsOf (settings.repositoryKey.getD visit.language), unitsOf raw.key]
  alone : ∃ rules, RawRule.normalizeAll visit.language (visit.created settings) = .ok rules ∧
    visit.repository = (emit rules (settings.options visit.language)).repository.contents ∧
    visit.profile = (emit rules (settings.options visit.language)).profile.contents
  /-- Without another target language no raw rule is dropped that leaves its languages out. -/
  keeps : settings.compatibleLanguage = none → ∀ raw ∈ visit.raws,
    raw.leavesOut "compatibleLanguages" → raw ∈ visit.created settings
  /-- A raw rule for no language is dropped. -/
  drops : ∀ raw ∈ visit.raws, raw.member? "compatibleLanguages" = some (.array []) →
    raw ∉ visit.created settings

end RegistrarVisit

section Visits

variable {settings : RegistrarSettings} {visit : Visit}

def Visit.registrars (settings : RegistrarSettings) (visit : Visit) : RegistrarVisit where
  language := visit.language
  raws := visit.raws
  repository :=
    renderLines (repositoryLines visit.rules (settings.options visit.language))
  profile := renderLines (profileLines visit.rules (settings.options visit.language))

/-- Canonical rules are selected as their raw ones are. -/
theorem forall₂_created (h : visit.IsSound) :
    List.Forall₂ (fun raw rule => raw.normalize visit.language = .ok rule)
      ((visit.registrars settings).created settings)
      (compatibleRules visit.rules (settings.options visit.language).targetLanguage) :=
  forall₂_filter (RawRule.normalizeAll_eq_ok.1 h) fun _ _ hrule =>
    (Rule.isCompatibleWith_of_normalize hrule _).symm

theorem forall₂_activated (h : visit.IsSound) :
    List.Forall₂ (fun raw rule => raw.normalize visit.language = .ok rule)
      ((visit.registrars settings).activated settings)
      (activatedRules visit.rules (settings.options visit.language)) :=
  forall₂_filter (forall₂_created h) fun _ _ hrule =>
    (Rule.isInProfile_of_normalize hrule _).symm

theorem key_eq_name {language : String} {raw : RawRule} {rule : Rule}
    (h : raw.normalize language = .ok rule) : unitsOf raw.key = unitsOf rule.name := by
  rw [RawRule.name_of_normalize h]

theorem creates_of_isSound (h : visit.IsSound) :
    said .creation (statements (renderLines
      (repositoryClassBody visit.rules (settings.options visit.language)))) =
      ((visit.registrars settings).created settings).map fun raw => [unitsOf raw.key] := by
  rw [creations_repositoryClassBody (RawRule.namesConstants_of_normalizeAll h)]
  symm
  apply map_eq_of_forall₂ (forall₂_created h)
  intro raw rule hrule
  rw [key_eq_name hrule]

theorem activates_of_isSound (h : visit.IsSound) :
    said .activation (statements (renderLines
      (profileClassBody visit.rules (settings.options visit.language)))) =
      ((visit.registrars settings).activated settings).map fun raw =>
        [unitsOf (settings.repositoryKey.getD visit.language), unitsOf raw.key] := by
  rw [activations_profileClassBody]
  symm
  apply map_eq_of_forall₂ (forall₂_activated h)
  intro raw rule hrule
  rw [key_eq_name hrule]
  rfl

theorem RegistrarVisit.mem_created_of_leavesOut {visit : RegistrarVisit}
    (h : settings.compatibleLanguage = none) {raw : RawRule} (hraw : raw ∈ visit.raws)
    (hout : raw.leavesOut "compatibleLanguages") : raw ∈ visit.created settings := by
  refine List.mem_filter.2 ⟨hraw, ?_⟩
  -- The target language is that of the visit, which the rule has by default.
  rw [RawRule.targets, hout, h, Option.getD_none, beq_self_eq_true, Bool.and_self, Bool.or_true]

theorem RegistrarVisit.not_mem_created_of_empty {visit : RegistrarVisit} {raw : RawRule}
    (h : raw.member? "compatibleLanguages" = some (.array [])) : raw ∉ visit.created settings := by
  intro hraw
  obtain ⟨-, htargets⟩ := List.mem_filter.1 hraw
  rw [RawRule.targets, RawRule.lists, RawRule.leavesOut, h] at htargets
  cases htargets

theorem selects_of_isSound (h : visit.IsSound) : (visit.registrars settings).Selects settings where
  creates := by
    refine ⟨_, ?_, creates_of_isSound h⟩
    simp only [Visit.registrars, repositoryLines_eq, renderLines_append_eq]
  activates := by
    refine ⟨_, ?_, activates_of_isSound h⟩
    simp only [Visit.registrars, profileLines_eq, renderLines_append_eq]
  alone := by
    refine ⟨_, RawRule.normalizeAll_eq_ok.2 (forall₂_created h), ?_, ?_⟩
    · exact congrArg (·.repository.contents) (emit_compatibleRules visit.rules _).symm
    · exact congrArg (·.profile.contents) (emit_compatibleRules visit.rules _).symm
  keeps := fun hnone raw hraw => RegistrarVisit.mem_created_of_leavesOut hnone hraw
  drops := fun raw _ => RegistrarVisit.not_mem_created_of_empty

end Visits

open Rulebook.Catalog (Source)
open Rulebook.Log (Logger)

/-- A run for registrars that succeeds has done nothing but visit its languages in their order, with
whatever the source answered each time, and has selected from every answer what the manifests
say. -/
theorem run_selects {σ : Type} {source : Source (StateM σ)} {sink : Sink (StateM σ)}
    {settings : RegistrarSettings} {languages : List String} {target : Path} {s : σ}
    {summaries : List Summary}
    (h : ((Request.run ⟨.registrars settings, languages, target⟩ source sink Logger.silent).run
      s).1 = .ok summaries) :
    ∃ visits : List RegistrarVisit, visits.map (·.language) = languages ∧
      ((Request.transcript ⟨.registrars settings, languages, target⟩ source sink).run s).1 =
        (.ok summaries, visits.flatMap (·.steps settings target)) ∧
      ∀ visit ∈ visits, visit.Selects settings := by
  obtain ⟨visits, hlanguages, hsound, -, htranscript⟩ := transcript_of_run h
  refine ⟨visits.map (·.registrars settings), ?_, ?_, ?_⟩
  · rw [List.map_map]
    exact hlanguages
  · rw [htranscript, List.flatMap_map]
    rfl
  · intro visit hvisit
    obtain ⟨sound, hmem, rfl⟩ := List.mem_map.1 hvisit
    exact selects_of_isSound (hsound sound hmem)

def manifestWith (members : Members) : Value := .object (Members.merge members [
  ("defaultSeverity", .string "Major"), ("scope", .string "Main"), ("title", .string ""),
  ("type", .string "BUG")])

/-- Languages that are left out, null, empty, another number, and given as a number. -/
def variedRaws : List RawRule := [
  ⟨"S1", manifestWith [("defaultQualityProfiles", .array [.bool true])], some ""⟩,
  ⟨"S2", manifestWith [("compatibleLanguages", .null)], some ""⟩,
  ⟨"S3", manifestWith [("compatibleLanguages", .array [])], some ""⟩,
  ⟨"S4", manifestWith [("compatibleLanguages", .array [.string "8"])], some ""⟩,
  ⟨"S5", manifestWith [("compatibleLanguages", .array [.string "js", .number (.integer 7)])],
    some ""⟩]

/-- A source that has fewer raw rules every time. -/
def dwindlingSource : Source (StateM Nat) where
  fetch _ _ := fun n => (.ok (variedRaws.drop n), n + 4)

/-- A sink that takes everything, and puts the source back. -/
def rewindingSink : Sink (StateM Nat) where
  write _ _ _ := fun n => (.ok (), n - 1)

def variedSettings : RegistrarSettings where
  packageName := "a\n"
  profileName := "true"

theorem run_selects_varied :
    ∃ first second : RegistrarVisit,
      (first.raws = variedRaws ∧ first.Selects variedSettings ∧
        (first.created variedSettings).map (·.key) = ["S1", "S2", "S5"] ∧
        (first.activated variedSettings).map (·.key) = ["S1"]) ∧
      second.raws = variedRaws.drop 2 ∧ second.Selects variedSettings ∧
        (second.created variedSettings).map (·.key) = ["S5"] := by
  -- The source moves on by four, and two files put it back by two: the second answer lacks two.
  have h : ((Request.run ⟨.registrars variedSettings, ["7", "7"], .ofText "out"⟩
      dwindlingSource rewindingSink Logger.silent).run 0).1 = .ok _ := rfl
  obtain ⟨visits, hlanguages, htranscript, hselects⟩ := run_selects h
  obtain ⟨first, rest, rfl, hfirst, hrest⟩ := List.map_eq_cons_iff.1 hlanguages
  obtain ⟨second, others, rfl, hsecond, hothers⟩ := List.map_eq_cons_iff.1 hrest
  -- The transcript tells what the source has answered.
  have hsteps : [.fetched "7" variedRaws, .wrote _ _, .wrote _ _,
      .fetched "7" (variedRaws.drop 2), .wrote _ _, .wrote _ _] =
    (first :: second :: others).flatMap (·.steps variedSettings (.ofText "out")) :=
    congrArg Prod.snd htranscript
  rw [List.flatMap_cons, List.flatMap_cons, RegistrarVisit.steps, RegistrarVisit.steps] at hsteps
  obtain ⟨hanswer, hsteps⟩ := List.cons.inj hsteps
  have hraws : first.raws = variedRaws := (Step.fetched.inj hanswer).2.symm
  have hagain : second.raws = variedRaws.drop 2 := by
    have hthird := (List.cons.inj (List.cons.inj (List.cons.inj hsteps).2).2).1
    exact (Step.fetched.inj hthird).2.symm
  refine ⟨first, second, ⟨hraws, hselects first (by simp), ?_, ?_⟩, hagain,
    hselects second (by simp), ?_⟩
  · rw [RegistrarVisit.created, hraws, hfirst]
    rfl
  · rw [RegistrarVisit.activated, RegistrarVisit.created, hraws, hfirst]
    rfl
  · rw [RegistrarVisit.created, hagain, hsecond]
    rfl

end Run

end Rulebook
