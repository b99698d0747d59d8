import Rulebook.Proofs.Java.Forms
import Rulebook.Proofs.Registrar.Reading

/-!
No line of a registrar has a line feed on it: literals and constants have none, so only the names in
the options could bring one in.
-/

set_option maxRecDepth 4000

namespace Rulebook.Registrar

open Rulebook.Java
open Rulebook.Java.IsSingle
open Rulebook.Manifest (isConstantName)

theorem lacks_of_isConstantName {s : String} (h : isConstantName s) : '\n' ∉ s.toList := by
  intro hmem
  have hcontinues := continuesIdentifier_of_mem (isIdentifier_of_isConstantName h) hmem
  exact absurd hcontinues (by decide)

theorem single_code {code : String} (h : '\n' ∉ code.toList) : IsSingle (Line.ofCode code) :=
  code_cons h .nil

theorem single_word {before name after : String} (hbefore : '\n' ∉ before.toList)
    (hname : '\n' ∉ name.toList) (hafter : '\n' ∉ after.toList) :
    IsSingle (Line.ofCode (before ++ name ++ after)) :=
  single_code (lacks_append (lacks_append hbefore hname) hafter)

theorem single_text {before after : String} (value : String) (hbefore : '\n' ∉ before.toList)
    (hafter : '\n' ∉ after.toList) : IsSingle [.code before, .text value, .code after] :=
  code_cons hbefore (text_cons value (code_cons hafter .nil))

theorem single_texts {before after : String} (value other : String) (hbefore : '\n' ∉ before.toList)
    (hafter : '\n' ∉ after.toList) :
    IsSingle [.code before, .text value, .code ", ", .text other, .code after] :=
  code_cons hbefore (text_cons value (single_text other (lacks_ofList rfl) hafter))

theorem single_tags {tags : List String} {line : Line} (h : IsSingle line) :
    IsSingle ((tags.map Fragment.text).intersperse (.code ", ") ++ line) := by
  induction tags with
  | nil => exact h
  | cons tag rest ih =>
    cases rest with
    | nil => exact text_cons tag h
    | cons other rest => exact text_cons tag (code_cons (lacks_ofList rfl) ih)

theorem single_paragraph {lines : List Line} (h : ∀ line ∈ lines, IsSingle line) :
    ∀ line ∈ paragraph lines, IsSingle line := by
  cases lines with
  | nil => exact h
  | cons line rest =>
    show ∀ other ∈ (line :: rest) ++ [Line.blank], IsSingle other
    exact List.forall_mem_append.2 ⟨h, List.forall_mem_singleton.2 .nil⟩

theorem single_header {packageName : String} {imports : List String}
    (hpackage : '\n' ∉ packageName.toList) (himports : ∀ name ∈ imports, '\n' ∉ name.toList) :
    ∀ line ∈ headerLines packageName imports, IsSingle line := by
  refine List.forall_mem_cons.2 ⟨single_word (lacks_ofList rfl) hpackage (lacks_ofList rfl), ?_⟩
  refine List.forall_mem_cons.2 ⟨.nil, List.forall_mem_append.2 ⟨fun line hline => ?_, ?_⟩⟩
  · obtain ⟨name, hname, rfl⟩ := List.mem_map.1 hline
    exact single_word (lacks_ofList rfl) (himports name hname) (lacks_ofList rfl)
  · exact List.forall_mem_singleton.2 .nil

theorem single_remediation (remediation : Option Remediation) :
    ∀ line ∈ remediationLines remediation, IsSingle line := by
  cases remediation with
  | none => exact List.forall_mem_nil _
  | some remediation =>
    exact List.forall_mem_singleton.2 (single_text _ (lacks_ofList rfl) (lacks_ofList rfl))

theorem single_parameter {p : Parameter} (h : isConstantName p.type) :
    ∀ line ∈ parameterLines p, IsSingle line := by
  simp only [parameterLines, List.forall_mem_cons]
  refine ⟨?_, ?_, ?_, ?_, List.forall_mem_nil _⟩
  · exact single_text _ (lacks_ofList rfl) (lacks_ofList rfl)
  · exact single_text _ (lacks_ofList rfl) (lacks_ofList rfl)
  · exact single_text _ (lacks_ofList rfl) (lacks_ofList rfl)
  · exact single_word (lacks_ofList rfl) (lacks_of_isConstantName h) (lacks_ofList rfl)

theorem single_routine {rule : Rule} {routine : String} (hrule : rule.NamesConstants)
    (hroutine : isConstantName routine) : ∀ line ∈ routineLines rule routine, IsSingle line := by
  have hword {name : String} (h : isConstantName name) := lacks_of_isConstantName h
  simp only [routineLines, List.forall_mem_append, List.forall_mem_cons]
  refine ⟨⟨⟨⟨?_, ?_, ?_, ?_, ?_, ?_, ?_, ?_, ?_, List.forall_mem_nil _⟩,
    single_remediation rule.remediation⟩, fun line hline => ?_⟩,
    single_code (lacks_ofList rfl), List.forall_mem_nil _⟩
  · exact single_word (lacks_ofList rfl) (hword hroutine) (lacks_ofList rfl)
  · exact single_text _ (lacks_ofList rfl) (lacks_ofList rfl)
  · exact single_text _ (lacks_ofList rfl) (lacks_ofList rfl)
  · exact single_word (lacks_ofList rfl) (hword hrule.type) (lacks_ofList rfl)
  · exact single_word (lacks_ofList rfl) (hword hrule.defaultSeverity) (lacks_ofList rfl)
  · exact code_cons (lacks_ofList rfl) (single_tags (single_code (lacks_ofList rfl)))
  · exact single_word (lacks_ofList rfl) (hword hrule.cleanCodeAttribute) (lacks_ofList rfl)
  · exact single_word (lacks_ofList rfl) (hword hrule.scope) (lacks_ofList rfl)
  · exact single_text _ (lacks_ofList rfl) (lacks_ofList rfl)
  · obtain ⟨p, hp, hline⟩ := List.mem_flatMap.1 hline
    exact single_parameter (hrule.parameters p hp) line hline

/-! ## The classes -/

section Classes

variable {rules : List Rule} {options : Options}

/-- The lines of the repository class up to the one that names it. -/
def repositoryHead (options : Options) : List Line :=
  headerLines options.packageName repositoryImports ++ (repositoryOpening options).take 1

/-- The lines of the repository class behind the one that names it. -/
def repositoryClassBody (rules : List Rule) (options : Options) : List Line :=
  let compatible := compatibleRules rules options.targetLanguage
  let routines := routineNames (compatible.map (·.name))
  (repositoryOpening options).tail
  ++ paragraph (routines.map callLine)
  ++ [Line.ofCode "    repository.done();", Line.ofCode "  \x7d"]
  ++ (compatible.zip routines).flatMap (fun (rule, routine) =>
    Line.blank :: routineLines rule routine)
  ++ [Line.ofCode "\x7d"]

theorem repositoryLines_eq (rules : List Rule) (options : Options) :
    repositoryLines rules options =
      repositoryHead options ++ repositoryClassBody rules options := by
  simp only [repositoryLines, repositoryHead, repositoryClassBody, List.append_assoc]
  rfl

theorem single_repositoryHead (hpackage : '\n' ∉ options.packageName.toList)
    (hkey : '\n' ∉ options.repositoryKey.toList) :
    ∀ line ∈ repositoryHead options, IsSingle line := by
  have himports : ∀ name ∈ repositoryImports, '\n' ∉ name.toList := by
    simp only [repositoryImports, List.forall_mem_cons]
    exact ⟨lacks_ofList rfl, lacks_ofList rfl, lacks_ofList rfl, lacks_ofList rfl,
      lacks_ofList rfl, lacks_ofList rfl, List.forall_mem_nil _⟩
  refine List.forall_mem_append.2 ⟨single_header hpackage himports, List.forall_mem_singleton.2 ?_⟩
  exact single_word (lacks_ofList rfl) (lacks_append hkey (lacks_ofList rfl)) (lacks_ofList rfl)

theorem single_repositoryClassBody (hrules : ∀ rule ∈ rules, rule.NamesConstants) :
    ∀ line ∈ repositoryClassBody rules options, IsSingle line := by
  simp only [repositoryClassBody, repositoryOpening, List.tail_cons, List.forall_mem_append,
    List.forall_mem_cons]
  refine ⟨⟨⟨⟨⟨?_, ?_, ?_, ?_, ?_, .nil, List.forall_mem_nil _⟩,
    single_paragraph fun line hline => ?_⟩, ?_, ?_, List.forall_mem_nil _⟩, fun line hline => ?_⟩,
    ?_, List.forall_mem_nil _⟩
  · exact single_code (lacks_ofList rfl)
  · exact single_code (lacks_ofList rfl)
  · exact single_code (lacks_ofList rfl)
  · exact single_texts _ _ (lacks_ofList rfl) (lacks_ofList rfl)
  · exact single_text _ (lacks_ofList rfl) (lacks_ofList rfl)
  · obtain ⟨routine, hroutine, rfl⟩ := List.mem_map.1 hline
    have hname := lacks_of_isConstantName (isConstantName_of_mem_routineNames hroutine)
    exact single_word (lacks_ofList rfl) hname (lacks_ofList rfl)
  · exact single_code (lacks_ofList rfl)
  · exact single_code (lacks_ofList rfl)
  · obtain ⟨⟨rule, routine⟩, hpair, hline⟩ := List.mem_flatMap.1 hline
    obtain ⟨hrule, hroutine⟩ := List.of_mem_zip hpair
    rcases List.mem_cons.1 hline with rfl | hline
    · exact .nil
    · exact single_routine (hrules rule (List.mem_of_mem_filter hrule))
        (isConstantName_of_mem_routineNames hroutine) line hline
  · exact single_code (lacks_ofList rfl)

theorem single_repository (hrules : ∀ rule ∈ rules, rule.NamesConstants)
    (hpackage : '\n' ∉ options.packageName.toList) (hkey : '\n' ∉ options.repositoryKey.toList) :
    ∀ line ∈ repositoryLines rules options, IsSingle line := by
  rw [repositoryLines_eq]
  exact List.forall_mem_append.2
    ⟨single_repositoryHead hpackage hkey, single_repositoryClassBody hrules⟩

def profileHead (options : Options) : List Line :=
  headerLines options.packageName profileImports ++ (profileOpening options).take 1

def profileClassBody (rules : List Rule) (options : Options) : List Line :=
  (profileOpening options).tail
  ++ paragraph
    ((activatedRules rules options).map fun rule => activationLine options.repositoryKey rule.name)
  ++ [Line.ofCode "    profile.done();", Line.ofCode "  \x7d", Line.ofCode "\x7d"]

theorem profileLines_eq (rules : List Rule) (options : Options) :
    profileLines rules options = profileHead options ++ profileClassBody rules options := by
  simp only [profileLines, profileHead, profileClassBody, List.append_assoc]
  rfl

theorem single_profileHead (hpackage : '\n' ∉ options.packageName.toList)
    (hkey : '\n' ∉ options.repositoryKey.toList) :
    ∀ line ∈ profileHead options, IsSingle line := by
  have himports : ∀ name ∈ profileImports, '\n' ∉ name.toList :=
    List.forall_mem_singleton.2 (lacks_ofList rfl)
  refine List.forall_mem_append.2 ⟨single_header hpackage himports, List.forall_mem_singleton.2 ?_⟩
  exact single_word (lacks_ofList rfl) (lacks_append hkey (lacks_ofList rfl)) (lacks_ofList rfl)

theorem single_profileClassBody (rules : List Rule) (options : Options) :
    ∀ line ∈ profileClassBody rules options, IsSingle line := by
  simp only [profileClassBody, profileOpening, List.tail_cons, List.forall_mem_append,
    List.forall_mem_cons]
  refine ⟨⟨⟨?_, ?_, ?_, .nil, List.forall_mem_nil _⟩, single_paragraph fun line hline => ?_⟩, ?_,
    ?_, ?_, List.forall_mem_nil _⟩
  · exact single_code (lacks_ofList rfl)
  · exact single_code (lacks_ofList rfl)
  · exact single_texts _ _ (lacks_ofList rfl) (lacks_ofList rfl)
  · obtain ⟨rule, -, rfl⟩ := List.mem_map.1 hline
    exact single_texts _ _ (lacks_ofList rfl) (lacks_ofList rfl)
  · exact single_code (lacks_ofList rfl)
  · exact single_code (lacks_ofList rfl)
  · exact single_code (lacks_ofList rfl)

theorem single_profile (hpackage : '\n' ∉ options.packageName.toList)
    (hkey : '\n' ∉ options.repositoryKey.toList) :
    ∀ line ∈ profileLines rules options, IsSingle line := by
  rw [profileLines_eq]
  exact List.forall_mem_append.2
    ⟨single_profileHead hpackage hkey, single_profileClassBody rules options⟩

end Classes

end Rulebook.Registrar
