import Rulebook.Proofs.Registrar.Agreement
import Rulebook.Proofs.Registrar.RoutineSearch

/-!
Two lists of rules have the same registrars if and only if the rules that are compatible with the
target language agree, one by one, in everything that is emitted of them. All other rules may be
what they like, and of languages and quality profiles no more counts than the two memberships.
-/

set_option maxRecDepth 4000

namespace Rulebook.Registrar

open Rulebook.Java
open Rulebook.Java.Token (ofText spaced)
open Rulebook.Manifest (isConstantName)
open Rulebook.Text (CodeUnit)

/-! ## What is emitted of a rule -/

structure SameCreation (rule other : Rule) : Prop where
  name : rule.name = other.name
  title : rule.title = other.title
  type : rule.type = other.type
  defaultSeverity : rule.defaultSeverity = other.defaultSeverity
  tags : rule.tags = other.tags
  cleanCodeAttribute : rule.cleanCodeAttribute = other.cleanCodeAttribute
  scope : rule.scope = other.scope
  htmlDocumentation : rule.htmlDocumentation = other.htmlDocumentation
  remediation : rule.remediation = other.remediation
  parameters : rule.parameters = other.parameters

/-- Both rules are created alike, and the profile has both of them or none. -/
structure SameEmission (profile : String) (rule other : Rule) : Prop
    extends SameCreation rule other where
  inProfile : rule.qualityProfiles.contains profile = other.qualityProfiles.contains profile

/-! ## Rules that are emitted alike -/

theorem SameCreation.routineLines_eq {rule other : Rule} (h : SameCreation rule other)
    (routine : String) : routineLines rule routine = routineLines other routine := by
  unfold routineLines
  rw [h.name, h.title, h.type, h.defaultSeverity, h.tags, h.cleanCodeAttribute, h.scope,
    h.htmlDocumentation, h.remediation, h.parameters]

theorem routines_congr {rules others : List Rule} (h : List.Forall₂ SameCreation rules others)
    (names : List String) :
    (rules.zip names).flatMap (fun (rule, routine) => Line.blank :: routineLines rule routine) =
      (others.zip names).flatMap
        (fun (rule, routine) => Line.blank :: routineLines rule routine) := by
  apply flatMap_zip_eq_of_forall₂ h
  intro rule other hsame routine
  show Line.blank :: routineLines rule routine = Line.blank :: routineLines other routine
  rw [hsame.routineLines_eq]

/-- Whatever the other rules are, they leave the registrars as they are. -/
theorem emit_congr {rules others : List Rule} {options : Options}
    (h : List.Forall₂ (SameEmission options.profileName)
      (compatibleRules rules options.targetLanguage)
      (compatibleRules others options.targetLanguage)) :
    emit rules options = emit others options := by
  -- The routines are named by the names alone, so they are called alike.
  have hnames : (compatibleRules rules options.targetLanguage).map (·.name) =
      (compatibleRules others options.targetLanguage).map (·.name) :=
    map_eq_of_forall₂ h fun rule other hsame => hsame.name
  have hroutines := routines_congr (h.imp fun _ _ hsame => hsame.toSameCreation)
  have hactivated : (activatedRules rules options).map (·.name) =
      (activatedRules others options).map (·.name) :=
    map_eq_of_forall₂ (forall₂_filter h fun rule other hsame => hsame.inProfile)
      fun rule other hsame => hsame.name
  have hactivations := congrArg (List.map (activationLine options.repositoryKey)) hactivated
  rw [List.map_map, List.map_map] at hactivations
  have hrepository : repositoryLines rules options = repositoryLines others options := by
    simp only [repositoryLines, hnames, hroutines]
  have hprofile : profileLines rules options = profileLines others options := by
    rw [profileLines, profileLines]
    exact congrArg (headerLines options.packageName profileImports ++ profileOpening options
      ++ paragraph · ++ _) hactivations
  -- Apart from the lines there are only the two counts.
  have hactivatedCount := congrArg List.length hactivated
  rw [List.length_map, List.length_map] at hactivatedCount
  rw [emit, emit, repositoryFile, repositoryFile, profileFile, profileFile, hrepository, hprofile,
    h.length_eq, hactivatedCount]

theorem SameEmission.refl (profile : String) (rule : Rule) : SameEmission profile rule rule :=
  ⟨⟨rfl, rfl, rfl, rfl, rfl, rfl, rfl, rfl, rfl, rfl⟩, rfl⟩

/-- The rules that are emitted have the same registrars without the others. -/
@[simp] theorem emit_compatibleRules (rules : List Rule) (options : Options) :
    emit (compatibleRules rules options.targetLanguage) options = emit rules options := by
  apply emit_congr
  have hself : compatibleRules (compatibleRules rules options.targetLanguage)
      options.targetLanguage = compatibleRules rules options.targetLanguage := by
    rw [compatibleRules, compatibleRules, List.filter_filter]
    simp only [Bool.and_self]
  rw [hself, List.forall₂_same]
  exact fun rule _ => SameEmission.refl options.profileName rule

/-! ## Lines that are written alike -/

theorem text_of_render {before after value other : String}
    (h : Line.render [.code before, .text value, .code after] =
      Line.render [.code before, .text other, .code after]) : value = other := by
  rw [render_cons, render_cons, render_cons (.code before), render_cons (.text other),
    String.append_right_inj, String.append_left_inj] at h
  exact literal_injective h

theorem word_of_render {before after name other : String}
    (h : (Line.ofCode (before ++ name ++ after)).render =
      (Line.ofCode (before ++ other ++ after)).render) : name = other := by
  rw [render_ofCode, render_ofCode, String.append_left_inj, String.append_right_inj] at h
  exact h

theorem intersperse_injective {α : Type} (a : α) : Function.Injective (List.intersperse a) := by
  intro xs ys h
  apply List.ext_getElem?
  intro i
  -- The separators have the odd places.
  have hplace := congrArg (fun l : List α => l[2 * i]?) h
  rwa [List.getElem?_intersperse_two_mul, List.getElem?_intersperse_two_mul] at hplace

theorem tagTokens_injective : Function.Injective tagTokens := by
  intro tags others h
  have hmap : tags.toList.map ofText = others.toList.map ofText :=
    intersperse_injective (Token.mark 0x2C) h
  have hlist : tags.toList = others.toList := by
    refine List.map_injective_iff.2 (fun s t hst => ?_) hmap
    exact unitsOf_injective (Token.text.inj hst)
  cases tags
  cases others
  cases hlist
  rfl

/-- A comma in a tag is in its literal, so the line of the tags is cut at the commas between. -/
theorem tags_of_render {tags others : TagSet}
    (h : Line.render (.code "      .setTags(" :: tagFragments tags ++ [.code ")"]) =
      Line.render (.code "      .setTags(" :: tagFragments others ++ [.code ")"])) :
    tags = others := by
  have hspells (tags : TagSet) : LineSpells
      (.code "      .setTags(" :: tagFragments tags ++ [.code ")"])
      (spaced ". setTags (" ++ (tagTokens tags ++ spaced ")")) :=
    .code_cons (.ofParts rfl) (tags_spell (.ofCode parenthesis_spells))
  have htokens := lineTokens?_of_lineSpells (hspells tags)
  rw [h, lineTokens?_of_lineSpells (hspells others), Option.some.injEq, List.append_cancel_left_eq,
    List.append_cancel_right_eq] at htokens
  exact tagTokens_injective htokens.symm

/-- Lines whose code differs from the start on are not written alike. -/
theorem render_ne {cs ds : List Char} (h : (cs.isPrefixOf ds || ds.isPrefixOf cs) = false)
    (line other : Line) : Line.render (.code (String.ofList cs) :: line) ≠
      Line.render (.code (String.ofList ds) :: other) := by
  intro heq
  have hchars := congrArg String.toList heq
  rw [toList_render_cons, toList_render_cons, Fragment.render, Fragment.render,
    String.toList_ofList, String.toList_ofList] at hchars
  rw [Bool.or_eq_false_iff] at h
  rcases List.prefix_or_prefix_of_prefix (List.prefix_append cs _)
    (hchars ▸ List.prefix_append ds _) with hprefix | hprefix
  · exact absurd (List.isPrefixOf_iff_prefix.2 hprefix) (by rw [h.1]; exact Bool.false_ne_true)
  · exact absurd (List.isPrefixOf_iff_prefix.2 hprefix) (by rw [h.2]; exact Bool.false_ne_true)

/-! ## Routines that are written alike -/

def methodEnd : Line := Line.ofCode "  \x7d"

theorem parameters_of_render {ps qs : List Parameter} {rest rest' : List String}
    (h : (ps.flatMap parameterLines).map Line.render ++ methodEnd.render :: rest =
      (qs.flatMap parameterLines).map Line.render ++ methodEnd.render :: rest') :
    ps = qs ∧ rest = rest' := by
  induction ps generalizing qs with
  | nil =>
    cases qs with
    | nil => exact ⟨rfl, (List.cons.inj h).2⟩
    | cons q qs =>
      -- One routine ends where the other one has a parameter.
      exact absurd (List.cons.inj h).1 (render_ne rfl _ _)
  | cons p ps ih =>
    cases qs with
    | nil => exact absurd (List.cons.inj h).1 (render_ne rfl _ _)
    | cons q qs =>
      simp only [List.flatMap_cons, parameterLines, List.map_cons, List.cons_append,
        List.nil_append, List.cons.injEq] at h
      obtain ⟨hname, hdescription, hdefault, htype, hothers⟩ := h
      obtain ⟨rfl, hrest⟩ := ih hothers
      cases p
      cases q
      rw [List.cons.injEq, Parameter.mk.injEq]
      exact ⟨⟨⟨text_of_render hname, text_of_render hdescription, word_of_render htype,
        text_of_render hdefault⟩, rfl⟩, hrest⟩

/-- Remediation is followed by parameters or the end of the routine, and is like neither. -/
theorem remediation_of_render {remediation remediation' : Option Remediation}
    {ps qs : List Parameter} {rest rest' : List String}
    (h : (remediationLines remediation).map Line.render ++
        ((ps.flatMap parameterLines).map Line.render ++ methodEnd.render :: rest) =
      (remediationLines remediation').map Line.render ++
        ((qs.flatMap parameterLines).map Line.render ++ methodEnd.render :: rest')) :
    remediation = remediation' ∧ ps = qs ∧ rest = rest' := by
  cases remediation with
  | none =>
    cases remediation' with
    | none => exact ⟨rfl, parameters_of_render h⟩
    -- What stands there instead is a parameter or the end of the routine.
    | some cost =>
      cases ps with
      | nil => exact absurd (List.cons.inj h).1 (render_ne rfl _ _)
      | cons p ps => exact absurd (List.cons.inj h).1 (render_ne rfl _ _)
  | some cost =>
    cases remediation' with
    | none =>
      cases qs with
      | nil => exact absurd (List.cons.inj h).1 (render_ne rfl _ _)
      | cons q qs => exact absurd (List.cons.inj h).1 (render_ne rfl _ _)
    | some cost' =>
      obtain ⟨hcost, hrest⟩ := List.cons.inj h
      cases cost
      cases cost'
      rw [Option.some.injEq, Remediation.mk.injEq]
      exact ⟨text_of_render hcost, parameters_of_render hrest⟩

/-- A routine says where it ends, so no routine is the start of another one. -/
theorem routine_of_render {rule other : Rule} {routine routine' : String}
    {rest rest' : List String}
    (h : (routineLines rule routine).map Line.render ++ rest =
      (routineLines other routine').map Line.render ++ rest') :
    SameCreation rule other ∧ rest = rest' := by
  simp only [routineLines, List.map_append, List.map_cons, List.map_nil, List.append_assoc,
    List.cons_append, List.nil_append, List.cons.injEq] at h
  -- The first line has the name of the routine, which need not be the same.
  obtain ⟨-, hname, htitle, htype, hseverity, htags, hattribute, hscope, hdocumentation, h⟩ := h
  obtain ⟨hremediation, hparameters, hrest⟩ := remediation_of_render h
  refine ⟨?_, hrest⟩
  exact {
    name := text_of_render hname
    title := text_of_render htitle
    type := word_of_render htype
    defaultSeverity := word_of_render hseverity
    tags := tags_of_render htags
    cleanCodeAttribute := word_of_render hattribute
    scope := word_of_render hscope
    htmlDocumentation := text_of_render hdocumentation
    remediation := hremediation
    parameters := hparameters }

theorem routines_of_render {pairs others : List (Rule × String)}
    (hlength : pairs.length = others.length)
    (h : (pairs.flatMap fun (rule, routine) => Line.blank :: routineLines rule routine).map
        Line.render =
      (others.flatMap fun (rule, routine) => Line.blank :: routineLines rule routine).map
        Line.render) :
    List.Forall₂ (fun pair other => SameCreation pair.1 other.1) pairs others := by
  induction pairs generalizing others with
  | nil =>
    rw [List.length_eq_zero_iff.1 hlength.symm]
    exact .nil
  | cons pair pairs ih =>
    cases others with
    | nil => cases hlength
    | cons other others =>
      rw [List.flatMap_cons, List.flatMap_cons, List.map_append, List.map_append] at h
      obtain ⟨hsame, hrest⟩ := routine_of_render (List.cons.inj h).2
      exact .cons hsame (ih (Nat.succ.inj hlength) hrest)

/-! ## Classes that are written alike -/

/-- Paragraphs of as many lines end alike. -/
theorem exists_paragraph_eq_append {lines others : List Line}
    (h : lines.length = others.length) :
    ∃ ending, paragraph lines = lines ++ ending ∧ paragraph others = others ++ ending := by
  cases lines with
  | nil =>
    rw [List.length_eq_zero_iff.1 h.symm]
    exact ⟨[], rfl, rfl⟩
  | cons line lines =>
    cases others with
    | nil => cases h
    | cons other others => exact ⟨[Line.blank], rfl, rfl⟩

section Classes

variable {rules others : List Rule} {options : Options}

theorem map_render_repositoryClassBody (hrules : ∀ rule ∈ rules, rule.NamesConstants)
    (hothers : ∀ rule ∈ others, rule.NamesConstants)
    (h : (repositoryFile rules options).contents = (repositoryFile others options).contents) :
    (repositoryClassBody rules options).map Line.render =
      (repositoryClassBody others options).map Line.render := by
  simp only [repositoryFile, repositoryLines_eq] at h
  exact map_render_of_renderLines (single_repositoryClassBody hrules)
    (single_repositoryClassBody hothers) (renderLines_of_append h)

theorem sameCreation_of_repository (hrules : ∀ rule ∈ rules, rule.NamesConstants)
    (hothers : ∀ rule ∈ others, rule.NamesConstants)
    (hcount : (compatibleRules rules options.targetLanguage).length =
      (compatibleRules others options.targetLanguage).length)
    (h : (repositoryFile rules options).contents = (repositoryFile others options).contents) :
    List.Forall₂ SameCreation (compatibleRules rules options.targetLanguage)
      (compatibleRules others options.targetLanguage) := by
  have hbody := map_render_repositoryClassBody hrules hothers h
  simp only [repositoryClassBody, List.map_append, List.append_cancel_right_eq] at hbody
  generalize compatibleRules rules options.targetLanguage = compatible at hbody hcount ⊢
  generalize compatibleRules others options.targetLanguage = compatible' at hbody hcount ⊢
  have hnames : (routineNames (compatible.map (·.name))).length =
      (routineNames (compatible'.map (·.name))).length := by
    simp [hcount]
  have hcalls : ((routineNames (compatible.map (·.name))).map callLine).length =
      ((routineNames (compatible'.map (·.name))).map callLine).length := by
    simp [hcount]
  -- There are as many calls on both sides, so the routines start on the same line.
  obtain ⟨ending, hparagraph, hparagraph'⟩ := exists_paragraph_eq_append hcalls
  rw [hparagraph, hparagraph'] at hbody
  have hroutines := List.append_inj_right hbody (by
    simp only [List.length_append, List.length_map, hnames])
  have hpairs := routines_of_render (by rw [List.length_zip, List.length_zip, hnames, hcount])
    hroutines
  -- Each pair is a rule with its routine, and the rules of all pairs are the list itself.
  have hsame := (List.forall₂_map_left_iff (f := Prod.fst)).2 (List.forall₂_map_right_iff.2 hpairs)
  simpa using hsame

theorem activated_of_profile (hcount : (activatedRules rules options).length =
      (activatedRules others options).length)
    (h : (profileFile rules options).contents = (profileFile others options).contents) :
    (activatedRules rules options).map (·.name) = (activatedRules others options).map (·.name) := by
  simp only [profileFile, profileLines_eq] at h
  have hbody := map_render_of_renderLines (single_profileClassBody rules options)
    (single_profileClassBody others options) (renderLines_of_append h)
  have hactivations : ((activatedRules rules options).map fun rule =>
        activationLine options.repositoryKey rule.name).length =
      ((activatedRules others options).map fun rule =>
        activationLine options.repositoryKey rule.name).length := by
    rw [List.length_map, List.length_map, hcount]
  obtain ⟨ending, hparagraph, hparagraph'⟩ := exists_paragraph_eq_append hactivations
  rw [profileClassBody, profileClassBody, hparagraph, hparagraph'] at hbody
  simp only [List.map_append, List.append_cancel_right_eq, List.append_cancel_left_eq] at hbody
  -- All lines are of one repository, so a line is told by the name of its rule.
  have hinjective : Function.Injective fun name =>
      (activationLine options.repositoryKey name).render := by
    intro name other hsame
    simp only [activationLine, render_cons, String.append_right_inj, String.append_left_inj]
      at hsame
    exact literal_injective hsame
  apply List.map_injective_iff.2 hinjective
  rw [List.map_map, List.map_map] at hbody ⊢
  exact hbody

/-- Among rules with names of their own, a rule is in the profile if its name is activated. -/
theorem isInProfile_iff (hnames : ((compatibleRules rules options.targetLanguage).map
      (·.name)).Nodup) {rule : Rule} (hrule : rule ∈ compatibleRules rules options.targetLanguage) :
    rule.isInProfile options.profileName ↔
      rule.name ∈ (activatedRules rules options).map (·.name) := by
  constructor
  · intro h
    exact List.mem_map_of_mem (List.mem_filter.2 ⟨hrule, h⟩)
  · intro h
    obtain ⟨other, hother, hname⟩ := List.mem_map.1 h
    obtain ⟨hother, hprofile⟩ := List.mem_filter.1 hother
    rw [← List.inj_on_of_nodup_map hnames hother hrule hname]
    exact hprofile

theorem sameEmission_of_emit (hrules : ∀ rule ∈ rules, rule.NamesConstants)
    (hothers : ∀ rule ∈ others, rule.NamesConstants) (hnames : (rules.map (·.name)).Nodup)
    (h : emit rules options = emit others options) :
    List.Forall₂ (SameEmission options.profileName)
      (compatibleRules rules options.targetLanguage)
      (compatibleRules others options.targetLanguage) := by
  obtain ⟨hrepository, hprofile, hemitted, hactivated⟩ := Registrars.mk.inj h
  have hcreation := sameCreation_of_repository hrules hothers hemitted
    (congrArg SourceFile.contents hrepository)
  have hactive := activated_of_profile hactivated (congrArg SourceFile.contents hprofile)
  -- The names of the other list are the same, so they are distinct as well.
  have hcompatible : ((compatibleRules rules options.targetLanguage).map (·.name)).Nodup :=
    hnames.sublist (List.filter_sublist.map _)
  have hcompatible' := hcompatible
  rw [map_eq_of_forall₂ hcreation fun rule other hsame => hsame.name] at hcompatible'
  obtain ⟨hlength, hpairs⟩ := List.forall₂_iff_zip.1 hcreation
  refine List.forall₂_iff_zip.2 ⟨hlength, fun {rule other} hpair => ⟨hpairs hpair, ?_⟩⟩
  obtain ⟨hrule, hother⟩ := List.of_mem_zip hpair
  rw [Bool.eq_iff_iff]
  apply (isInProfile_iff hcompatible hrule).trans
  rw [hactive, (hpairs hpair).name]
  exact (isInProfile_iff hcompatible' hother).symm

end Classes

/-- Two lists of rules have the same registrars if and only if the rules that are compatible with
the target language agree one by one in all that is emitted of them and in whether the profile has
them. So other rules may be put in, left out or changed anywhere without any effect, also if their
names would collide, and so may entries of languages and profiles; whatever else differs shows. -/
theorem emit_eq_iff {rules others : List Rule} {options : Options}
    (hrules : ∀ rule ∈ rules, rule.NamesConstants) (hothers : ∀ rule ∈ others, rule.NamesConstants)
    (hnames : (rules.map (·.name)).Nodup) :
    emit rules options = emit others options ↔
      List.Forall₂ (SameEmission options.profileName)
        (rules.filter (·.compatibleLanguages.contains options.targetLanguage))
        (others.filter (·.compatibleLanguages.contains options.targetLanguage)) :=
  ⟨sameEmission_of_emit hrules hothers hnames, emit_congr⟩

def fullRule (tags languages profiles : List String) : Rule := {
  name := "S-1", title := "No \"x\"", htmlDocumentation := "<p>\n", type := "CODE_SMELL"
  defaultSeverity := "MAJOR", tags := .ofList tags, cleanCodeAttribute := "CLEAR", scope := "MAIN"
  parameters :=
    [{ name := "max", description := "At most", type := "INTEGER", defaultValue := "3" }]
  remediation := some { cost := "5min" }
  compatibleLanguages := languages, qualityProfiles := profiles }

theorem namesConstants_fullRule (tags languages profiles : List String) :
    (fullRule tags languages profiles).NamesConstants := by
  have hnames : isConstantName "CODE_SMELL" ∧ isConstantName "MAJOR" ∧ isConstantName "CLEAR" ∧
      isConstantName "MAIN" ∧ isConstantName "INTEGER" := by decide
  exact ⟨hnames.1, hnames.2.1, hnames.2.2.1, hnames.2.2.2.1,
    List.forall_mem_singleton.2 hnames.2.2.2.2⟩

def pairedRules (tags profiles : List String) : List Rule :=
  [fullRule tags ["js", "java"] profiles, plainRule "S_1" ["js"] []]

/-- Those two rules with repeated and reordered entries, among incompatible ones whose names
make the same identifier. -/
def crowdedRules : List Rule := [
  plainRule "S_1" ["java"] ["way"],
  fullRule ["b", "a", "b"] ["java", "js", "js"] ["other", "way"],
  fullRule [] ["java"] [],
  plainRule "S_1" ["c", "js"] ["other"]]

theorem emit_eq_iff_crowded :
    let rules := pairedRules ["a", "b"] ["way"]
    emit rules mixedOptions = emit crowdedRules mixedOptions ∧
    emit rules mixedOptions ≠ emit (pairedRules ["a", "b"] []) mixedOptions ∧
    emit rules mixedOptions ≠ emit (pairedRules ["a"] ["way"]) mixedOptions := by
  intro rules
  have hpaired : ∀ tags profiles, ∀ rule ∈ pairedRules tags profiles, rule.NamesConstants := by
    intro tags profiles
    exact List.forall_mem_cons.2 ⟨namesConstants_fullRule _ _ _,
      List.forall_mem_singleton.2 (namesConstants_plainRule _ _ _)⟩
  have hcrowded : ∀ rule ∈ crowdedRules, rule.NamesConstants := by
    simp only [crowdedRules, List.forall_mem_cons]
    exact ⟨namesConstants_plainRule _ _ _, namesConstants_fullRule _ _ _,
      namesConstants_fullRule _ _ _, namesConstants_plainRule _ _ _, List.forall_mem_nil _⟩
  have hnames : (rules.map (·.name)).Nodup := by decide
  refine ⟨?_, fun h => ?_, fun h => ?_⟩
  · apply (emit_eq_iff (hpaired _ _) hcrowded hnames).2
    exact .cons ⟨⟨rfl, rfl, rfl, rfl, by decide, rfl, rfl, rfl, rfl, rfl⟩, rfl⟩
      (.cons ⟨⟨rfl, rfl, rfl, rfl, rfl, rfl, rfl, rfl, rfl, rfl⟩, rfl⟩ .nil)
  · have hsame := (emit_eq_iff (hpaired _ _) (hpaired _ _) hnames).1 h
    exact absurd (List.forall₂_cons.1 hsame).1.inProfile (by decide)
  · have hsame := (emit_eq_iff (hpaired _ _) (hpaired _ _) hnames).1 h
    exact absurd (List.forall₂_cons.1 hsame).1.tags (by decide)

end Rulebook.Registrar
