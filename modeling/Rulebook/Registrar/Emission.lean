import Rulebook.Java.Source
import Rulebook.Registrar.Routine
import Rulebook.Rule.Basic

/-!
Registrars: two Java classes for a repository of rules. The repository class creates every rule that
is compatible with the target language, by a routine of its own; the profile class activates those
of them that the quality profile has. Both are functions of the rules and the options alone.

Constants of a rule stand in the sources as they are, everything else in literals.
-/

namespace Rulebook.Registrar

open Rulebook.Java

def defaultProfileName : String := "Sonar way"

def defaultRepositoryName : String := "SonarAnalyzer"

structure Options where
  packageName : String
  /-- The key of the repository; both class names start with it. -/
  repositoryKey : String
  /-- The language that rules have to be compatible with. -/
  targetLanguage : String
  profileName : String := defaultProfileName
  repositoryName : String := defaultRepositoryName
deriving DecidableEq, Repr, Inhabited

def repositoryClassName (repositoryKey : String) : String := repositoryKey ++ "RepositoryRegistrar"

def profileClassName (repositoryKey : String) : String := repositoryKey ++ "ProfileRegistrar"

def compatibleRules (rules : List Rule) (language : String) : List Rule :=
  rules.filter (·.isCompatibleWith language)

def activatedRules (rules : List Rule) (options : Options) : List Rule :=
  (compatibleRules rules options.targetLanguage).filter (·.isInProfile options.profileName)

/-! ## Lines of a class -/

def headerLines (packageName : String) (imports : List String) : List Line :=
  Line.ofCode ("package " ++ packageName ++ ";") :: Line.blank
    :: imports.map (fun name => Line.ofCode ("import " ++ name ++ ";")) ++ [Line.blank]

/-- Statements and a blank line after them; nothing without statements. -/
def paragraph : List Line → List Line
  | [] => []
  | lines => lines ++ [Line.blank]

/-! ## The repository class -/

def repositoryImports : List String := [
  "org.sonar.api.batch.rule.Severity",
  "org.sonar.api.rule.RuleScope",
  "org.sonar.api.rules.CleanCodeAttribute",
  "org.sonar.api.rules.RuleType",
  "org.sonar.api.server.rule.RuleParamType",
  "org.sonar.api.server.rule.RulesDefinition"]

def callLine (routine : String) : Line := Line.ofCode ("    " ++ routine ++ "(repository);")

def tagFragments (tags : TagSet) : List Fragment :=
  (tags.toList.map Fragment.text).intersperse (.code ", ")

def remediationLines : Option Remediation → List Line
  | none => []
  | some remediation => [[
      .code "    rule.setDebtRemediationFunction(rule.debtRemediationFunctions().linear(",
      .text remediation.cost, .code "));"]]

def parameterLines (p : Parameter) : List Line := [
  [.code "    rule.createParam(", .text p.name, .code ")"],
  [.code "      .setDescription(", .text p.description, .code ")"],
  [.code "      .setDefaultValue(", .text p.defaultValue, .code ")"],
  Line.ofCode ("      .setType(RuleParamType." ++ p.type ++ ");")]

def routineLines (rule : Rule) (routine : String) : List Line :=
  [ Line.ofCode ("  private static void " ++ routine ++ "(NewRepository repository) \x7b"),
    [.code "    NewRule rule = repository.createRule(", .text rule.name, .code ")"],
    [.code "      .setName(", .text rule.title, .code ")"],
    Line.ofCode ("      .setType(RuleType." ++ rule.type ++ ")"),
    Line.ofCode ("      .setSeverity(Severity." ++ rule.defaultSeverity ++ ".toString())"),
    .code "      .setTags(" :: tagFragments rule.tags ++ [.code ")"],
    Line.ofCode
      ("      .setCleanCodeAttribute(CleanCodeAttribute." ++ rule.cleanCodeAttribute ++ ")"),
    Line.ofCode ("      .setScope(RuleScope." ++ rule.scope ++ ")"),
    [.code "      .setHtmlDescription(", .text rule.htmlDocumentation, .code ");"]]
  ++ remediationLines rule.remediation
  ++ rule.parameters.flatMap parameterLines
  ++ [Line.ofCode "  \x7d"]

def repositoryOpening (options : Options) : List Line := [
  Line.ofCode ("public class " ++ repositoryClassName options.repositoryKey
    ++ " implements RulesDefinition \x7b"),
  Line.ofCode "  @Override",
  Line.ofCode "  public void define(Context context) \x7b",
  Line.ofCode "    NewRepository repository = context",
  [.code "      .createRepository(", .text options.repositoryKey, .code ", ",
    .text options.targetLanguage, .code ")"],
  [.code "      .setName(", .text options.repositoryName, .code ");"],
  Line.blank]

def repositoryLines (rules : List Rule) (options : Options) : List Line :=
  let compatible := compatibleRules rules options.targetLanguage
  -- Named together, so that no two routines of the class have one name.
  let routines := routineNames (compatible.map (·.name))
  headerLines options.packageName repositoryImports
  ++ repositoryOpening options
  ++ paragraph (routines.map callLine)
  ++ [Line.ofCode "    repository.done();", Line.ofCode "  \x7d"]
  ++ (compatible.zip routines).flatMap (fun (rule, routine) =>
    Line.blank :: routineLines rule routine)
  ++ [Line.ofCode "\x7d"]

def repositoryFile (rules : List Rule) (options : Options) : SourceFile where
  className := repositoryClassName options.repositoryKey
  contents := renderLines (repositoryLines rules options)

/-! ## The profile class -/

def profileImports : List String :=
  ["org.sonar.api.server.profile.BuiltInQualityProfilesDefinition"]

def activationLine (repositoryKey ruleName : String) : Line :=
  [.code "    profile.activateRule(", .text repositoryKey, .code ", ", .text ruleName, .code ");"]

def profileOpening (options : Options) : List Line := [
  Line.ofCode ("public class " ++ profileClassName options.repositoryKey
    ++ " implements BuiltInQualityProfilesDefinition \x7b"),
  Line.ofCode "  @Override",
  Line.ofCode "  public void define(Context context) \x7b",
  [.code "    NewBuiltInQualityProfile profile = context.createBuiltInQualityProfile(",
    .text options.profileName, .code ", ", .text options.targetLanguage, .code ");"],
  Line.blank]

def profileLines (rules : List Rule) (options : Options) : List Line :=
  headerLines options.packageName profileImports
  ++ profileOpening options
  ++ paragraph
    ((activatedRules rules options).map fun rule => activationLine options.repositoryKey rule.name)
  ++ [Line.ofCode "    profile.done();", Line.ofCode "  \x7d", Line.ofCode "\x7d"]

def profileFile (rules : List Rule) (options : Options) : SourceFile where
  className := profileClassName options.repositoryKey
  contents := renderLines (profileLines rules options)

/-! ## Both -/

structure Registrars where
  repository : SourceFile
  profile : SourceFile
  emitted : Nat
  activated : Nat
deriving DecidableEq, Repr, Inhabited

def emit (rules : List Rule) (options : Options) : Registrars where
  repository := repositoryFile rules options
  profile := profileFile rules options
  emitted := (compatibleRules rules options.targetLanguage).length
  activated := (activatedRules rules options).length

end Rulebook.Registrar
