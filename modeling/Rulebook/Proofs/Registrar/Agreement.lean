import Rulebook.Proofs.Registrar.SingleLines
import Rulebook.Proofs.Registrar.Statements

/-!
Both classes and both numbers agree: what is declared, called, created, activated and counted is the
same selection of the rules, although every one of these is made by a pass of its own.
-/

set_option maxRecDepth 4000

namespace Rulebook.Registrar

open Rulebook.Java
open Rulebook.Java.Token (spaced)
open Rulebook.Manifest (isConstantName)
open Rulebook.Text (CodeUnit)

def unitsOf (s : String) : List CodeUnit := CodeUnit.ofChars s.toList

theorem unitsOf_injective : Function.Injective unitsOf := fun _ _ h =>
  String.toList_inj.1 (CodeUnit.ofChars_injective h)

/-! ## What the parts say -/

theorem kind_of_header {start others : List Token} {kind : StatementKind}
    {values : List (List CodeUnit)} (hstart : start = spaced "package" ∨ start = spaced "import")
    (h : Slot.read? (Slot.ofForm kind.form) (start ++ others) = some values) : kind = .call := by
  rw [ofForm_eq] at h
  rcases hstart with rfl | rfl
  · cases kind with
    | call => rfl
    | _ => cases h
  · cases kind with
    | call => rfl
    | _ => cases h

/-- A package may have a name that makes its line a call, but not one in the body of `define`. -/
theorem header_stated (packageName : String) (imports : List String) :
    ∀ s ∈ (headerLines packageName imports).filterMap statement?, s.kind = .call := by
  have hpackage : Spells "package ".toList (spaced "package") := .ofParts rfl
  have himport : Spells "import ".toList (spaced "import") := .ofParts rfl
  intro s hs
  obtain ⟨line, hline, hstated⟩ := List.mem_filterMap.1 hs
  have hblank : line ≠ Line.blank := by
    rintro rfl
    rw [statement?_blank] at hstated
    cases hstated
  rw [headerLines, List.mem_append, List.mem_cons, List.mem_cons, List.mem_map,
    List.mem_singleton] at hline
  rcases hline with (rfl | hline | ⟨name, -, rfl⟩) | hline
  · obtain ⟨others, hread⟩ := read?_of_start hpackage hstated
    exact kind_of_header (.inl rfl) hread
  · exact absurd hline hblank
  · obtain ⟨others, hread⟩ := read?_of_start himport hstated
    exact kind_of_header (.inr rfl) hread
  · exact absurd hline hblank

/-- The line of a class says nothing, whatever the class is called. -/
@[simp] theorem class_stated (name after : String) :
    statement? (Line.ofCode ("public class " ++ name ++ after)) = none := by
  have hstart : Spells "public class ".toList (spaced "public class") := .ofParts rfl
  refine Option.eq_none_iff_forall_ne_some.2 fun s hstated => ?_
  obtain ⟨others, hread⟩ := read?_of_start hstart hstated
  rw [ofForm_eq] at hread
  cases hkind : s.kind <;> rw [hkind] at hread <;> cases hread

theorem call_stated {routine : String} (h : isConstantName routine) :
    statement? (callLine routine) = some ⟨.call, [unitsOf routine]⟩ := by
  rw [statement?_of_lineSpells (callLine_spells h), ofTokens?_eq]
  rfl

theorem repositoryHead_stated (options : Options) :
    (repositoryHead options).filterMap statement? =
      (headerLines options.packageName repositoryImports).filterMap statement? := by
  rw [repositoryHead, List.filterMap_append]
  exact (congrArg _ (List.filterMap_cons_none (class_stated _ _))).trans (List.append_nil _)

theorem profileHead_stated (options : Options) :
    (profileHead options).filterMap statement? =
      (headerLines options.packageName profileImports).filterMap statement? := by
  rw [profileHead, List.filterMap_append]
  exact (congrArg _ (List.filterMap_cons_none (class_stated _ _))).trans (List.append_nil _)

/-- The line of the class apart. -/
theorem repositoryOpening_stated (options : Options) :
    (repositoryOpening options).tail.filterMap statement? = [⟨.opening, []⟩,
      ⟨.repository, [unitsOf options.repositoryKey, unitsOf options.targetLanguage]⟩] := by
  rw [filterMap_statement? (repositoryOpening_lines options), funext ofTokens?_eq]
  rfl

theorem profileOpening_stated (options : Options) :
    (profileOpening options).tail.filterMap statement? = [⟨.opening, []⟩,
      ⟨.profile, [unitsOf options.profileName, unitsOf options.targetLanguage]⟩] := by
  rw [filterMap_statement? (profileOpening_lines options), funext ofTokens?_eq]
  rfl

@[simp] theorem remediation_stated (remediation : Option Remediation) :
    (remediationLines remediation).filterMap statement? = [] := by
  cases remediation with
  | none => rfl
  | some remediation =>
    rw [filterMap_statement? (remediation_lines remediation), funext ofTokens?_eq]
    rfl

theorem parameter_stated {p : Parameter} (h : isConstantName p.type) :
    (parameterLines p).filterMap statement? = [] := by
  rw [filterMap_statement? (parameter_lines h), funext ofTokens?_eq]
  rfl

theorem creation_stated {rule : Rule} {routine : String} (hrule : rule.NamesConstants)
    (hroutine : isConstantName routine) :
    ((routineLines rule routine).take 9).filterMap statement? =
      [⟨.declaration, [unitsOf routine]⟩, ⟨.creation, [unitsOf rule.name]⟩] := by
  rw [filterMap_statement? (creation_lines hrule hroutine), funext ofTokens?_eq]
  rfl

theorem activation_stated (repositoryKey ruleName : String) :
    statement? (activationLine repositoryKey ruleName) =
      some ⟨.activation, [unitsOf repositoryKey, unitsOf ruleName]⟩ := by
  rw [statement?_of_lineSpells (activationLine_spells repositoryKey ruleName), ofTokens?_eq]
  rfl

@[simp] theorem paragraph_stated (lines : List Line) :
    (paragraph lines).filterMap statement? = lines.filterMap statement? := by
  cases lines with
  | nil => rfl
  | cons line rest =>
    rw [paragraph, List.filterMap_append, List.filterMap_cons_none statement?_blank,
      List.filterMap_nil, List.append_nil]
    exact List.cons_ne_nil line rest

@[simp] theorem methodEnd_stated : statement? (Line.ofCode "  \x7d") = some ⟨.closing, []⟩ := by
  rw [statement?_of_lineSpells methodEnd_spells, ofTokens?_eq]
  rfl

@[simp] theorem classEnd_stated : statement? (Line.ofCode "\x7d") = some ⟨.closing, []⟩ := by
  rw [statement?_of_lineSpells classEnd_spells, ofTokens?_eq]
  rfl

def routineStatements (rule : Rule) (routine : String) : List Statement :=
  [⟨.declaration, [unitsOf routine]⟩, ⟨.creation, [unitsOf rule.name]⟩, ⟨.closing, []⟩]

theorem routine_stated {rule : Rule} {routine : String} (hrule : rule.NamesConstants)
    (hroutine : isConstantName routine) :
    (routineLines rule routine).filterMap statement? = routineStatements rule routine := by
  have hparameters : (rule.parameters.flatMap parameterLines).filterMap statement? = [] := by
    rw [List.filterMap_flatMap, List.flatMap_eq_nil_iff]
    exact fun p hp => parameter_stated (hrule.parameters p hp)
  have hlines : routineLines rule routine = (routineLines rule routine).take 9
      ++ remediationLines rule.remediation ++ rule.parameters.flatMap parameterLines
      ++ [Line.ofCode "  \x7d"] := rfl
  rw [hlines]
  simp [creation_stated hrule hroutine, hparameters, routineStatements]

theorem map_stated {α : Type} {xs : List α} {lineOf : α → Line} {statementOf : α → Statement}
    (h : ∀ x ∈ xs, statement? (lineOf x) = some (statementOf x)) :
    (xs.map lineOf).filterMap statement? = xs.map statementOf := by
  induction xs with
  | nil => rfl
  | cons x rest ih =>
    obtain ⟨hx, hrest⟩ := List.forall_mem_cons.1 h
    rw [List.map_cons, List.map_cons, List.filterMap_cons_some hx, ih hrest]

/-! ## What the classes say -/

def repositoryBody (names : List String) (options : Options) : List Statement :=
  ⟨.repository, [unitsOf options.repositoryKey, unitsOf options.targetLanguage]⟩
    :: names.map fun name => ⟨.call, [unitsOf name]⟩

theorem repositoryClassBody_stated {rules : List Rule} (options : Options)
    (hrules : ∀ rule ∈ rules, rule.NamesConstants) :
    let compatible := compatibleRules rules options.targetLanguage
    let names := routineNames (compatible.map (·.name))
    statements (renderLines (repositoryClassBody rules options)) =
      ⟨.opening, []⟩ :: (repositoryBody names options ++ ⟨.closing, []⟩ ::
        ((compatible.zip names).flatMap (fun (rule, name) => routineStatements rule name)
          ++ [⟨.closing, []⟩])) := by
  intro compatible names
  have hdone : statement? (Line.ofCode "    repository.done();") = none := by
    have hspells : LineSpells (Line.ofCode "    repository.done();")
        (spaced "repository . done ( ) ;") := .ofCode (.ofLastParts rfl)
    rw [statement?_of_lineSpells hspells, ofTokens?_eq]
    rfl
  have hcalls : (names.map callLine).filterMap statement? =
      names.map fun name => ⟨.call, [unitsOf name]⟩ :=
    map_stated fun name hname => call_stated (isConstantName_of_mem_routineNames hname)
  have hroutines : ((compatible.zip names).flatMap fun (rule, name) =>
      Line.blank :: routineLines rule name).filterMap statement? =
        (compatible.zip names).flatMap fun (rule, name) => routineStatements rule name := by
    rw [List.filterMap_flatMap]
    refine List.flatMap_congr fun (rule, name) hpair => ?_
    obtain ⟨hrule, hname⟩ := List.of_mem_zip hpair
    exact (List.filterMap_cons_none statement?_blank).trans (routine_stated
      (hrules rule (List.mem_of_mem_filter hrule)) (isConstantName_of_mem_routineNames hname))
  rw [statements_renderLines (single_repositoryClassBody hrules), repositoryClassBody]
  simp only [List.filterMap_append, paragraph_stated, repositoryOpening_stated]
  rw [hcalls, hroutines, List.filterMap_cons_none hdone, List.filterMap_cons_some methodEnd_stated,
    List.filterMap_cons_some classEnd_stated]
  simp [repositoryBody]

theorem repository_stated {rules : List Rule} {options : Options}
    (hrules : ∀ rule ∈ rules, rule.NamesConstants) (hpackage : '\n' ∉ options.packageName.toList)
    (hkey : '\n' ∉ options.repositoryKey.toList) :
    let compatible := compatibleRules rules options.targetLanguage
    let names := routineNames (compatible.map (·.name))
    statements (repositoryFile rules options).contents =
      (headerLines options.packageName repositoryImports).filterMap statement?
      ++ ⟨.opening, []⟩ :: (repositoryBody names options ++ ⟨.closing, []⟩ ::
        ((compatible.zip names).flatMap (fun (rule, name) => routineStatements rule name)
          ++ [⟨.closing, []⟩])) := by
  intro compatible names
  rw [repositoryFile, statements_renderLines (single_repository hrules hpackage hkey),
    repositoryLines_eq, List.filterMap_append, repositoryHead_stated,
    ← statements_renderLines (single_repositoryClassBody hrules),
    repositoryClassBody_stated options hrules]

def profileBody (active : List Rule) (options : Options) : List Statement :=
  ⟨.profile, [unitsOf options.profileName, unitsOf options.targetLanguage]⟩
    :: active.map fun rule => ⟨.activation, [unitsOf options.repositoryKey, unitsOf rule.name]⟩

theorem profileClassBody_stated (rules : List Rule) (options : Options) :
    statements (renderLines (profileClassBody rules options)) =
      ⟨.opening, []⟩ :: (profileBody (activatedRules rules options) options
        ++ ⟨.closing, []⟩ :: [⟨.closing, []⟩]) := by
  have hdone : statement? (Line.ofCode "    profile.done();") = none := by
    have hspells : LineSpells (Line.ofCode "    profile.done();")
        (spaced "profile . done ( ) ;") := .ofCode (.ofLastParts rfl)
    rw [statement?_of_lineSpells hspells, ofTokens?_eq]
    rfl
  have hactivations : ((activatedRules rules options).map fun rule =>
      activationLine options.repositoryKey rule.name).filterMap statement? =
        (activatedRules rules options).map fun rule =>
          ⟨.activation, [unitsOf options.repositoryKey, unitsOf rule.name]⟩ :=
    map_stated fun rule _ => activation_stated options.repositoryKey rule.name
  rw [statements_renderLines (single_profileClassBody rules options), profileClassBody]
  simp [profileOpening_stated, hactivations, hdone, profileBody]

theorem profile_stated (rules : List Rule) {options : Options}
    (hpackage : '\n' ∉ options.packageName.toList) (hkey : '\n' ∉ options.repositoryKey.toList) :
    statements (profileFile rules options).contents =
      (headerLines options.packageName profileImports).filterMap statement?
      ++ ⟨.opening, []⟩ :: (profileBody (activatedRules rules options) options
        ++ ⟨.closing, []⟩ :: [⟨.closing, []⟩]) := by
  rw [profileFile, statements_renderLines (single_profile hpackage hkey), profileLines_eq,
    List.filterMap_append, profileHead_stated,
    ← statements_renderLines (single_profileClassBody rules options), profileClassBody_stated]

theorem routines_append_routine (rule : Rule) (name : String) (others : List Statement) :
    routines (routineStatements rule name ++ others) =
      ⟨unitsOf name, [[unitsOf rule.name]]⟩ :: routines others := by
  have hbody : bodyOf ([⟨.creation, [unitsOf rule.name]⟩] ++ ⟨.closing, []⟩ :: others) =
      [⟨.creation, [unitsOf rule.name]⟩] :=
    bodyOf_append_closing (List.forall_mem_singleton.2 (by simp)) [] others
  rw [routineStatements, List.cons_append, routines]
  refine congrArg₂ List.cons (congrArg (Routine.mk _) ?_) ?_
  · exact congrArg (said .creation) hbody
  · rfl

theorem routines_flatMap (pairs : List (Rule × String)) (others : List Statement) :
    routines (pairs.flatMap (fun (rule, name) => routineStatements rule name) ++ others) =
      (pairs.map fun (rule, name) => ⟨unitsOf name, [[unitsOf rule.name]]⟩) ++ routines others := by
  induction pairs with
  | nil => rfl
  | cons pair rest ih =>
    rw [List.flatMap_cons, List.append_assoc, routines_append_routine, ih, List.map_cons,
      List.cons_append]

/-! ## Agreement -/

theorem header_kind_ne {kind : StatementKind} (hkind : kind ≠ .call) (packageName : String)
    (imports : List String) :
    ∀ s ∈ (headerLines packageName imports).filterMap statement?, s.kind ≠ kind := by
  intro s hs
  rw [header_stated packageName imports s hs]
  exact hkind.symm

theorem repositoryBody_kind_ne {kind : StatementKind} (hrepository : kind ≠ .repository)
    (hcall : kind ≠ .call) (names : List String) (options : Options) :
    ∀ s ∈ repositoryBody names options, s.kind ≠ kind := by
  refine List.forall_mem_cons.2 ⟨hrepository.symm, fun s hs => ?_⟩
  obtain ⟨name, -, rfl⟩ := List.mem_map.1 hs
  exact hcall.symm

section Bodies

variable (names : List String) (active : List Rule) (options : Options)

@[simp] theorem calls_repositoryBody :
    said .call (repositoryBody names options) = names.map fun name => [unitsOf name] := by
  rw [repositoryBody, said_cons_of_ne (by simp), said_map]

@[simp] theorem repositories_repositoryBody :
    said .repository (repositoryBody names options) =
      [[unitsOf options.repositoryKey, unitsOf options.targetLanguage]] := by
  rw [repositoryBody, said_cons_self, said_map_of_ne (by decide)]

@[simp] theorem activations_profileBody :
    said .activation (profileBody active options) =
      active.map fun rule => [unitsOf options.repositoryKey, unitsOf rule.name] := by
  rw [profileBody, said_cons_of_ne (by simp), said_map]

@[simp] theorem profiles_profileBody :
    said .profile (profileBody active options) =
      [[unitsOf options.profileName, unitsOf options.targetLanguage]] := by
  rw [profileBody, said_cons_self, said_map_of_ne (by decide)]

theorem creations_routines (pairs : List (Rule × String)) :
    said .creation (pairs.flatMap fun (rule, name) => routineStatements rule name) =
      (pairs.map (·.1)).map fun rule => [unitsOf rule.name] := by
  induction pairs with
  | nil => rfl
  | cons pair rest ih =>
    rw [List.flatMap_cons, said_append, ih]
    rfl

end Bodies

section Classes

variable {rules : List Rule} {options : Options}

/-- Whatever the package and the class are called, the class creates the compatible rules. -/
theorem creations_repositoryClassBody (hrules : ∀ rule ∈ rules, rule.NamesConstants) :
    said .creation (statements (renderLines (repositoryClassBody rules options))) =
      (compatibleRules rules options.targetLanguage).map fun rule => [unitsOf rule.name] := by
  rw [repositoryClassBody_stated options hrules, said_cons_of_ne (by simp), said_append,
    said_eq_nil (repositoryBody_kind_ne (by decide) (by decide) _ options), List.nil_append,
    said_cons_of_ne (by simp), said_append, creations_routines, map_fst_zip_routineNames,
    said_cons_of_ne (by simp)]
  exact List.append_nil _

theorem activations_profileClassBody (rules : List Rule) (options : Options) :
    said .activation (statements (renderLines (profileClassBody rules options))) =
      (activatedRules rules options).map fun rule =>
        [unitsOf options.repositoryKey, unitsOf rule.name] := by
  rw [profileClassBody_stated, said_cons_of_ne (by simp), said_append, activations_profileBody,
    said_cons_of_ne (by simp), said_cons_of_ne (by simp)]
  exact List.append_nil _

theorem definition_repository (hrules : ∀ rule ∈ rules, rule.NamesConstants)
    (hpackage : '\n' ∉ options.packageName.toList) (hkey : '\n' ∉ options.repositoryKey.toList) :
    definition (statements (repositoryFile rules options).contents) =
      repositoryBody (routineNames ((compatibleRules rules options.targetLanguage).map (·.name)))
        options := by
  rw [repository_stated hrules hpackage hkey, definition_of_opening, bodyOf_append_closing]
  · exact repositoryBody_kind_ne (by decide) (by decide) _ options
  · exact header_kind_ne (by decide) options.packageName repositoryImports

theorem routines_repository (hrules : ∀ rule ∈ rules, rule.NamesConstants)
    (hpackage : '\n' ∉ options.packageName.toList) (hkey : '\n' ∉ options.repositoryKey.toList) :
    let compatible := compatibleRules rules options.targetLanguage
    routines (statements (repositoryFile rules options).contents) =
      (compatible.zip (routineNames (compatible.map (·.name)))).map fun (rule, name) =>
        ⟨unitsOf name, [[unitsOf rule.name]]⟩ := by
  intro compatible
  have hbody : ∀ s ∈ repositoryBody (routineNames (compatible.map (·.name))) options,
      s.kind ≠ .declaration := repositoryBody_kind_ne (by decide) (by decide) _ options
  -- Neither the header nor `define` declares a routine, and a brace does not either.
  rw [repository_stated hrules hpackage hkey,
    routines_append (header_kind_ne (by decide) options.packageName repositoryImports),
    routines_cons_of_ne (by decide), routines_append hbody, routines_cons_of_ne (by decide),
    routines_flatMap, routines_cons_of_ne (by decide)]
  exact List.append_nil _

theorem names_routines (hrules : ∀ rule ∈ rules, rule.NamesConstants)
    (hpackage : '\n' ∉ options.packageName.toList) (hkey : '\n' ∉ options.repositoryKey.toList) :
    (routines (statements (repositoryFile rules options).contents)).map (·.name) =
      (routineNames ((compatibleRules rules options.targetLanguage).map (·.name))).map unitsOf := by
  let compatible := compatibleRules rules options.targetLanguage
  have hlength : (routineNames (compatible.map (·.name))).length = compatible.length :=
    (length_namesFrom [] _).trans (List.length_map _)
  conv_rhs => rw [← List.map_snd_zip (Nat.le_of_eq hlength), List.map_map]
  rw [routines_repository hrules hpackage hkey, List.map_map]
  rfl

theorem creates_routines (hrules : ∀ rule ∈ rules, rule.NamesConstants)
    (hpackage : '\n' ∉ options.packageName.toList) (hkey : '\n' ∉ options.repositoryKey.toList) :
    (routines (statements (repositoryFile rules options).contents)).map (·.creates) =
      (compatibleRules rules options.targetLanguage).map fun rule => [[unitsOf rule.name]] := by
  conv_rhs => rw [← map_fst_zip_routineNames (compatibleRules rules _), List.map_map]
  rw [routines_repository hrules hpackage hkey, List.map_map]
  rfl

theorem definition_profile (hpackage : '\n' ∉ options.packageName.toList)
    (hkey : '\n' ∉ options.repositoryKey.toList) :
    definition (statements (profileFile rules options).contents) =
      profileBody (activatedRules rules options) options := by
  rw [profile_stated rules hpackage hkey, definition_of_opening, bodyOf_append_closing]
  · refine List.forall_mem_cons.2 ⟨by simp, fun s hs => ?_⟩
    obtain ⟨rule, -, rfl⟩ := List.mem_map.1 hs
    simp
  · exact header_kind_ne (by decide) options.packageName profileImports

theorem activations_profile (hpackage : '\n' ∉ options.packageName.toList)
    (hkey : '\n' ∉ options.repositoryKey.toList) :
    said .activation (statements (profileFile rules options).contents) =
      (activatedRules rules options).map fun rule =>
        [unitsOf options.repositoryKey, unitsOf rule.name] := by
  rw [profile_stated rules hpackage hkey, said_append,
    said_eq_nil (header_kind_ne (by decide) options.packageName profileImports), List.nil_append,
    ← profileClassBody_stated, activations_profileClassBody]

end Classes

/-- What the classes of both files say of the rules. The repository class declares a routine for
every compatible rule, in the order of the rules and under names of their own, each creates its
rule, and the body of `define` calls all of them in that order. The profile class activates the
compatible rules of the profile, in the order of the rules and once each, all of which the
repository has under the same key and for the same language. The numbers count both. -/
theorem registrars_agree {rules : List Rule} {options : Options}
    (hrules : ∀ rule ∈ rules, rule.NamesConstants) (hpackage : '\n' ∉ options.packageName.toList)
    (hkey : '\n' ∉ options.repositoryKey.toList) :
    let made := emit rules options
    let repository := statements made.repository.contents
    let profile := statements made.profile.contents
    let compatible := rules.filter (·.compatibleLanguages.contains options.targetLanguage)
    let active := compatible.filter (·.qualityProfiles.contains options.profileName)
    said .call (definition repository) = (routines repository).map (fun r => [r.name]) ∧
    ((routines repository).map (·.name)).Nodup ∧
    (routines repository).map (·.creates) = compatible.map (fun rule => [[unitsOf rule.name]]) ∧
    said .activation profile =
      active.map (fun rule => [unitsOf options.repositoryKey, unitsOf rule.name]) ∧
    said .activation (definition profile) = said .activation profile ∧
    said .repository (definition repository) =
      [[unitsOf options.repositoryKey, unitsOf options.targetLanguage]] ∧
    said .profile (definition profile) =
      [[unitsOf options.profileName, unitsOf options.targetLanguage]] ∧
    (∀ activation ∈ said .activation profile, ∃ name, ∃ routine ∈ routines repository,
      activation = [unitsOf options.repositoryKey, name] ∧ routine.creates = [[name]]) ∧
    made.emitted = (routines repository).length ∧
    made.activated = (said .activation profile).length := by
  intro made repository profile compatible active
  let names := routineNames (compatible.map (·.name))
  have hdefinition : definition repository = repositoryBody names options :=
    definition_repository hrules hpackage hkey
  have hnames : (routines repository).map (·.name) = names.map unitsOf :=
    names_routines hrules hpackage hkey
  have hcreates : (routines repository).map (·.creates) =
      compatible.map fun rule => [[unitsOf rule.name]] := creates_routines hrules hpackage hkey
  have hdefine : definition profile = profileBody active options := definition_profile hpackage hkey
  have hactivations : said .activation profile =
      active.map fun rule => [unitsOf options.repositoryKey, unitsOf rule.name] :=
    activations_profile hpackage hkey
  refine ⟨?_, ?_, hcreates, hactivations, ?_, ?_, ?_, ?_, ?_, ?_⟩
  · rw [hdefinition, calls_repositoryBody]
    have hsingle := congrArg (List.map fun name => [name]) hnames
    rw [List.map_map, List.map_map] at hsingle
    exact hsingle.symm
  · rw [hnames]
    exact (nodup_routineNames _).map unitsOf_injective
  · rw [hactivations, hdefine, activations_profileBody]
  · rw [hdefinition, repositories_repositoryBody]
  · rw [hdefine, profiles_profileBody]
  · intro activation hactivation
    rw [hactivations] at hactivation
    obtain ⟨rule, hrule, rfl⟩ := List.mem_map.1 hactivation
    -- An active rule is compatible, so some routine creates it.
    have hmem : [[unitsOf rule.name]] ∈ (routines repository).map (·.creates) := by
      rw [hcreates]
      exact List.mem_map_of_mem (List.mem_of_mem_filter hrule)
    obtain ⟨routine, hroutine, hroutineCreates⟩ := List.mem_map.1 hmem
    exact ⟨unitsOf rule.name, routine, hroutine, rfl, hroutineCreates⟩
  · have hcount := congrArg List.length hcreates
    rw [List.length_map, List.length_map] at hcount
    exact hcount.symm
  · rw [hactivations, List.length_map]
    rfl

def plainRule (name : String) (languages profiles : List String) : Rule := {
  name, title := "", htmlDocumentation := "", type := "BUG", defaultSeverity := "MAJOR"
  tags := .empty, cleanCodeAttribute := "CLEAR", scope := "MAIN", parameters := []
  remediation := none, compatibleLanguages := languages, qualityProfiles := profiles }

theorem namesConstants_plainRule (name : String) (languages profiles : List String) :
    (plainRule name languages profiles).NamesConstants := by
  have hnames : isConstantName "BUG" ∧ isConstantName "MAJOR" ∧ isConstantName "CLEAR" ∧
      isConstantName "MAIN" := by decide
  exact ⟨hnames.1, hnames.2.1, hnames.2.2.1, hnames.2.2.2, List.forall_mem_nil _⟩

/-- A rule of another language, a rule of no profile, one that has its profile twice, names that
make the same identifier, and a rule that comes twice. -/
def mixedRules : List Rule := [
  plainRule "S-1" ["js"] ["way", "way"], plainRule "S2" ["java"] ["way"],
  plainRule "S_1" ["java", "js"] [], plainRule "S-1" ["js"] ["way"]]

/-- The package has a name that makes its line look like a call. -/
def mixedOptions : Options where
  packageName := "(repository)"
  repositoryKey := "a \"b"
  targetLanguage := "js"
  profileName := "way"

theorem registrars_agree_mixed :
    let made := emit mixedRules mixedOptions
    let repository := statements made.repository.contents
    let profile := statements made.profile.contents
    said .call (definition repository) = (routines repository).map (fun r => [r.name]) ∧
    ((routines repository).map (·.name)).Nodup ∧
    (routines repository).map (·.creates) =
      [[[unitsOf "S-1"]], [[unitsOf "S_1"]], [[unitsOf "S-1"]]] ∧
    said .activation profile =
      [[unitsOf "a \"b", unitsOf "S-1"], [unitsOf "a \"b", unitsOf "S-1"]] ∧
    (routines repository).length = 3 := by
  have hrules : ∀ rule ∈ mixedRules, rule.NamesConstants := by
    simp only [mixedRules, List.forall_mem_cons]
    exact ⟨namesConstants_plainRule _ _ _, namesConstants_plainRule _ _ _,
      namesConstants_plainRule _ _ _, namesConstants_plainRule _ _ _, List.forall_mem_nil _⟩
  have hpackage : '\n' ∉ mixedOptions.packageName.toList := by decide
  have hkey : '\n' ∉ mixedOptions.repositoryKey.toList := by decide
  obtain ⟨hcalls, hnodup, hcreates, hactivations, -, -, -, -, hemitted, -⟩ :=
    registrars_agree hrules hpackage hkey
  exact ⟨hcalls, hnodup, hcreates, hactivations, hemitted.symm⟩

end Rulebook.Registrar
