import Rulebook.Proofs.Java.Lines
import Rulebook.Proofs.Manifest.Constants
import Rulebook.Proofs.Registrar.Template

/-!
Reading the classes: for rules that were made canonical, every class is read as its template,
whatever the manifests say. Constants of canonical rules and names of routines are identifiers, and
every other value stands in a literal, so no value can begin or end a token that is not its own.
-/

set_option maxRecDepth 4000

namespace Rulebook.Registrar

open Rulebook.Java
open Rulebook.Java.Token (ofWord ofText qualified spaced)
open Rulebook.Manifest (isConstantName)

theorem isIdentifier_of_isConstantName {s : String} (h : isConstantName s) :
    isIdentifier s.toList := by
  unfold isConstantName at h
  unfold isIdentifier
  cases hs : s.toList with
  | nil =>
    rw [hs] at h
    cases h
  | cons c rest =>
    simp only [hs, Bool.and_eq_true, List.all_eq_true] at h ⊢
    have hstart {d : Char} (hd : Manifest.startsName d) : startsIdentifier d := by
      rw [startsIdentifier, Bool.or_eq_true]
      exact .inl hd
    refine ⟨hstart h.1, fun d hd => ?_⟩
    have hcontinues := h.2 d hd
    rw [Manifest.continuesName, Bool.or_eq_true] at hcontinues
    rw [continuesIdentifier, Bool.or_eq_true]
    exact hcontinues.imp hstart id

theorem comma_spells : Spells ", ".toList (spaced ",") :=
  .ofParts rfl

theorem parenthesis_spells : Spells (")".toList ++ ['\n']) (spaced ")") :=
  .ofLastParts rfl

theorem callEnd_spells : Spells (");".toList ++ ['\n']) (spaced ") ;") :=
  .ofLastParts rfl

theorem methodEnd_spells : LineSpells (Line.ofCode "  \x7d") (spaced "\x7d") :=
  .ofCode (.ofLastParts rfl)

theorem classEnd_spells : LineSpells (Line.ofCode "\x7d") (spaced "\x7d") :=
  .ofCode (.ofLastParts rfl)

theorem blank_spells : LineSpells Line.blank [] := Spells.ofCode rfl rfl

theorem paragraph_spells {lines : List Line} {ts : List Token} (h : SourceSpells lines ts) :
    SourceSpells (paragraph lines) ts := by
  cases lines with
  | nil => exact h
  | cons line rest => exact h.append_blank

theorem headerLines_spells {packageName : String} {imports : List String}
    (hpackage : isQualifiedName packageName.toList)
    (himports : ∀ name ∈ imports, isQualifiedName name.toList) :
    SourceSpells (headerLines packageName imports) (headerTokens packageName imports) := by
  have hend : Spells (";".toList ++ ['\n']) (spaced ";") :=
    .ofLastParts rfl
  have hname : LineSpells (Line.ofCode ("package " ++ packageName ++ ";"))
      (spaced "package" ++ (qualified packageName ++ spaced ";")) :=
    .qualified (.ofParts rfl) hpackage rfl hend
  have hfirst := SourceSpells.of_forall₂ (.cons hname (.cons blank_spells .nil))
  rw [List.flatten_cons, List.flatten_singleton, List.append_nil] at hfirst
  have hothers : SourceSpells (imports.map fun name => Line.ofCode ("import " ++ name ++ ";"))
      (imports.flatMap fun name => spaced "import" ++ (qualified name ++ spaced ";")) :=
    .map fun name hname =>
      .qualified (.ofParts rfl) (himports name hname) rfl hend
  exact (hfirst.append hothers).append_blank

/-! ## The repository class -/

/-- The line of the class apart. -/
theorem repositoryOpening_lines (options : Options) :
    List.Forall₂ LineSpells (repositoryOpening options).tail
      (repositoryOpeningTokens options).tail := by
  refine .cons ?_ (.cons ?_ (.cons ?_ (.cons ?_ (.cons ?_ (.cons ?_ .nil)))))
  · exact .ofCode (.ofLastParts rfl)
  · exact .ofCode (.ofLastParts rfl)
  · exact .ofCode (.ofLastParts rfl)
  · exact .code_cons (.ofParts rfl) (.text_cons _ (.text _ comma_spells parenthesis_spells))
  · exact .text _ (.ofParts rfl) callEnd_spells
  · exact blank_spells

theorem repositoryOpening_spells {options : Options}
    (hclass : isIdentifier (repositoryClassName options.repositoryKey).toList) :
    SourceSpells (repositoryOpening options) (repositoryOpeningTokens options).flatten := by
  refine SourceSpells.of_forall₂ (.cons ?_ (repositoryOpening_lines options))
  exact .word (.ofParts rfl) hclass rfl (.ofLastParts rfl)

theorem callLine_spells {routine : String} (h : isConstantName routine) :
    LineSpells (callLine routine) (callTokens routine) := by
  have hindent : Spells "    ".toList [] := Spells.ofCode rfl rfl
  exact .word hindent (isIdentifier_of_isConstantName h) rfl (.ofLastParts rfl)

theorem tags_spell {tags : List String} {line : Line} {ts : List Token}
    (h : LineSpells line ts) :
    LineSpells ((tags.map Fragment.text).intersperse (.code ", ") ++ line)
      ((tags.map ofText).intersperse (.mark 0x2C) ++ ts) := by
  induction tags with
  | nil => exact h
  | cons tag rest ih =>
    cases rest with
    | nil => exact .text_cons tag h
    | cons other rest =>
      have hcomma : Spells ", ".toList [.mark 0x2C] := Spells.ofCode rfl rfl
      have hothers := LineSpells.code_cons hcomma ih
      exact .text_cons tag hothers

theorem remediation_lines (remediation : Remediation) :
    List.Forall₂ LineSpells (remediationLines (some remediation))
      [remediationTokens (some remediation)] := by
  refine .cons ?_ .nil
  exact .text _ (.ofParts rfl) (.ofLastParts rfl)

theorem remediationLines_spells (remediation : Option Remediation) :
    SourceSpells (remediationLines remediation) (remediationTokens remediation) := by
  cases remediation with
  | none => exact Spells.nil
  | some remediation =>
    have hline := SourceSpells.of_forall₂ (remediation_lines remediation)
    rw [List.flatten_singleton] at hline
    exact hline

theorem parameter_lines {p : Parameter} (h : isConstantName p.type) :
    List.Forall₂ LineSpells (parameterLines p) (parameterTokens p) := by
  refine .cons ?_ (.cons ?_ (.cons ?_ (.cons ?_ .nil)))
  · exact .text _ (.ofParts rfl) parenthesis_spells
  · exact .text _ (.ofParts rfl) parenthesis_spells
  · exact .text _ (.ofParts rfl) parenthesis_spells
  · exact .word (.ofParts rfl) (isIdentifier_of_isConstantName h) rfl callEnd_spells

theorem creation_lines {rule : Rule} {routine : String} (hrule : rule.NamesConstants)
    (hroutine : isConstantName routine) :
    List.Forall₂ LineSpells ((routineLines rule routine).take 9) (creationTokens rule routine) := by
  -- One goal for each line up to the description, in their order.
  refine .cons ?_ (.cons ?_ (.cons ?_ (.cons ?_ (.cons ?_ (.cons ?_ (.cons ?_ (.cons ?_
    (.cons ?_ .nil))))))))
  · exact .word (.ofParts rfl) (isIdentifier_of_isConstantName hroutine) rfl (.ofLastParts rfl)
  · exact .text _ (.ofParts rfl) parenthesis_spells
  · exact .text _ (.ofParts rfl) parenthesis_spells
  · exact .word (.ofParts rfl) (isIdentifier_of_isConstantName hrule.type) rfl parenthesis_spells
  · exact .word (.ofParts rfl) (isIdentifier_of_isConstantName hrule.defaultSeverity) rfl
      (.ofLastParts rfl)
  · exact .code_cons (.ofParts rfl) (tags_spell (.ofCode parenthesis_spells))
  · exact .word (.ofParts rfl)
      (isIdentifier_of_isConstantName hrule.cleanCodeAttribute) rfl parenthesis_spells
  · exact .word (.ofParts rfl) (isIdentifier_of_isConstantName hrule.scope) rfl parenthesis_spells
  · exact .text _ (.ofParts rfl) callEnd_spells

theorem routineLines_spells {rule : Rule} {routine : String} (hrule : rule.NamesConstants)
    (hroutine : isConstantName routine) :
    SourceSpells (routineLines rule routine) (routineTokens rule routine) := by
  have hparameters : SourceSpells (rule.parameters.flatMap parameterLines)
      (rule.parameters.flatMap fun p => (parameterTokens p).flatten) :=
    .flatMap fun p hp => .of_forall₂ (parameter_lines (hrule.parameters p hp))
  have hcreation := SourceSpells.of_forall₂ (creation_lines hrule hroutine)
  exact ((hcreation.append (remediationLines_spells rule.remediation)).append hparameters).append
    (.line methodEnd_spells)

theorem repositoryLines_spells {rules : List Rule} {options : Options}
    (hrules : ∀ rule ∈ rules, rule.NamesConstants)
    (hpackage : isQualifiedName options.packageName.toList)
    (hclass : isIdentifier (repositoryClassName options.repositoryKey).toList) :
    SourceSpells (repositoryLines rules options) (repositoryTokens rules options) := by
  unfold repositoryLines repositoryTokens
  refine .append (.append (.append (.append (.append ?_ ?_) ?_) ?_) ?_) ?_
  · exact headerLines_spells hpackage (by decide)
  · exact repositoryOpening_spells hclass
  · exact paragraph_spells
      (.map fun routine hroutine => callLine_spells (isConstantName_of_mem_routineNames hroutine))
  · have hdone : LineSpells (Line.ofCode "    repository.done();")
        (spaced "repository . done ( ) ;") :=
      .ofCode (.ofLastParts rfl)
    exact .of_forall₂ (.cons hdone (.cons methodEnd_spells .nil))
  · refine .flatMap fun (rule, routine) h => ?_
    obtain ⟨hrule, hroutine⟩ := List.of_mem_zip h
    exact (SourceSpells.line blank_spells).append (routineLines_spells
      (hrules rule (List.mem_of_mem_filter hrule)) (isConstantName_of_mem_routineNames hroutine))
  · exact .line classEnd_spells

theorem repositoryLines_closesClass (rules : List Rule) (options : Options) :
    ClosesClass (repositoryLines rules options) := ⟨_, rfl⟩

/-! ## The profile class -/

theorem activationLine_spells (repositoryKey ruleName : String) :
    LineSpells (activationLine repositoryKey ruleName)
      (activationTokens repositoryKey ruleName) := by
  exact .code_cons (.ofParts rfl) (.text_cons _ (.text _ comma_spells callEnd_spells))

/-- The line of the class apart. -/
theorem profileOpening_lines (options : Options) :
    List.Forall₂ LineSpells (profileOpening options).tail (profileOpeningTokens options).tail := by
  refine .cons ?_ (.cons ?_ (.cons ?_ (.cons ?_ .nil)))
  · exact .ofCode (.ofLastParts rfl)
  · exact .ofCode (.ofLastParts rfl)
  · exact .code_cons (.ofParts rfl) (.text_cons _ (.text _ comma_spells callEnd_spells))
  · exact blank_spells

theorem profileOpening_spells {options : Options}
    (hclass : isIdentifier (profileClassName options.repositoryKey).toList) :
    SourceSpells (profileOpening options) (profileOpeningTokens options).flatten := by
  refine SourceSpells.of_forall₂ (.cons ?_ (profileOpening_lines options))
  exact .word (.ofParts rfl) hclass rfl (.ofLastParts rfl)

theorem profileLines_spells {rules : List Rule} {options : Options}
    (hpackage : isQualifiedName options.packageName.toList)
    (hclass : isIdentifier (profileClassName options.repositoryKey).toList) :
    SourceSpells (profileLines rules options) (profileTokens rules options) := by
  unfold profileLines profileTokens
  refine .append (.append (.append ?_ ?_) ?_) ?_
  · exact headerLines_spells hpackage (by decide)
  · exact profileOpening_spells hclass
  · exact paragraph_spells
      (.map fun rule _ => activationLine_spells options.repositoryKey rule.name)
  · have hdone : LineSpells (Line.ofCode "    profile.done();")
        (spaced "profile . done ( ) ;") :=
      .ofCode (.ofLastParts rfl)
    exact .of_forall₂ (.cons hdone (.cons methodEnd_spells (.cons classEnd_spells .nil)))

theorem profileLines_closesClass (rules : List Rule) (options : Options) :
    ClosesClass (profileLines rules options) := by
  unfold profileLines
  rw [List.append_cons, List.append_cons]
  exact ⟨_, rfl⟩

/-! ## Both -/

/-- Both classes of canonical rules are read as their templates: no manifest gets out of its
literals. Nothing is asked of the keys and names in the options that stand in literals only. -/
theorem emit_readsAs {language : String} {raws : List RawRule} {rules : List Rule}
    {options : Options} (hrules : RawRule.normalizeAll language raws = .ok rules)
    (hpackage : isQualifiedName options.packageName.toList)
    (hrepository : isIdentifier (repositoryClassName options.repositoryKey).toList)
    (hprofile : isIdentifier (profileClassName options.repositoryKey).toList) :
    ReadsAs (emit rules options).repository.contents (repositoryTokens rules options) ∧
      ReadsAs (emit rules options).profile.contents (profileTokens rules options) := by
  -- Only constants stand in the sources as they are, and normalization has checked them.
  have hconstants := RawRule.namesConstants_of_normalizeAll hrules
  simp only [emit, repositoryFile, profileFile]
  constructor
  · exact .of_sourceSpells (repositoryLines_closesClass rules options)
      (repositoryLines_spells hconstants hpackage hrepository)
  · exact .of_sourceSpells (profileLines_closesClass rules options)
      (profileLines_spells hpackage hprofile)

/-- A rule whose texts try to get out of their literals. -/
def breakingRule : RawRule where
  key := "S1\"); breakOut(\""
  manifest := .object [
    ("compatibleLanguages", .array [.string "j\"s"]),
    ("defaultQualityProfiles", .array [.string "Sonar \\way"]),
    ("defaultSeverity", .string "Major"),
    ("parameters", .array [.object [("name", .string "\\"), ("description", .string "\\u000a"),
      ("type", .string "BOOLEAN"), ("defaultValue", .bool true)]]),
    ("remediation", .object [("constantCost", .string "5\nmin")]),
    ("scope", .string "Tests"),
    ("tags", .array [.string "b\\\"", .string "a\r"]),
    ("title", .string "\\u0022); // é 𝔸"),
    ("type", .string "BUG")]
  documentation := some "<p>\"\\\"</p>"

def breakingOptions : Options where
  packageName := "org.example"
  repositoryKey := "js"
  targetLanguage := "j\"s"
  profileName := "Sonar \\way"
  repositoryName := "\\"

theorem emit_readsAs_breakingRule : ∃ rules,
    RawRule.normalizeAll "js" [breakingRule] = .ok rules ∧
      (activatedRules rules breakingOptions).length = 1 ∧
      ReadsAs (emit rules breakingOptions).repository.contents
        (repositoryTokens rules breakingOptions) ∧
      ReadsAs (emit rules breakingOptions).profile.contents (profileTokens rules breakingOptions) :=
  have h : RawRule.normalizeAll "js" [breakingRule] = .ok _ := rfl
  ⟨_, h, rfl, emit_readsAs h rfl rfl rfl⟩

end Rulebook.Registrar
