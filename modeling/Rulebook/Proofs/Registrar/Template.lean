import Rulebook.Proofs.Java.Spelling
import Rulebook.Proofs.Registrar.RoutineName
import Rulebook.Registrar.Emission

/-!
Both classes as sequences of tokens. Everything but the names of classes and routines, the constants
and the values of literals is fixed; there is a routine for every compatible rule and a statement
for every parameter. The fixed parts are lists of tokens, one for each line; a blank line has none.
-/

namespace Rulebook.Registrar

open Rulebook.Java
open Rulebook.Java.Token (ofWord ofText qualified spaced)

def headerTokens (packageName : String) (imports : List String) : List Token :=
  spaced "package" ++ (qualified packageName ++ spaced ";")
  ++ imports.flatMap fun name => spaced "import" ++ (qualified name ++ spaced ";")

/-! ## The repository class -/

def repositoryOpeningTokens (options : Options) : List (List Token) := [
  spaced "public class" ++ ofWord (repositoryClassName options.repositoryKey)
    :: spaced "implements RulesDefinition \x7b",
  spaced "@ Override",
  spaced "public void define ( Context context ) \x7b",
  spaced "NewRepository repository = context",
  spaced ". createRepository (" ++ ofText options.repositoryKey :: (spaced ","
    ++ ofText options.targetLanguage :: spaced ")"),
  spaced ". setName (" ++ ofText options.repositoryName :: spaced ") ;",
  []]

def callTokens (routine : String) : List Token := ofWord routine :: spaced "( repository ) ;"

def tagTokens (tags : TagSet) : List Token := (tags.toList.map ofText).intersperse (.mark 0x2C)

def remediationTokens : Option Remediation → List Token
  | none => []
  | some remediation =>
    spaced "rule . setDebtRemediationFunction ( rule . debtRemediationFunctions ( ) . linear ("
      ++ ofText remediation.cost :: spaced ") ) ;"

def parameterTokens (p : Parameter) : List (List Token) := [
  spaced "rule . createParam (" ++ ofText p.name :: spaced ")",
  spaced ". setDescription (" ++ ofText p.description :: spaced ")",
  spaced ". setDefaultValue (" ++ ofText p.defaultValue :: spaced ")",
  spaced ". setType ( RuleParamType ." ++ ofWord p.type :: spaced ") ;"]

/-- The routine up to the description, which ends its first statement. -/
def creationTokens (rule : Rule) (routine : String) : List (List Token) := [
  spaced "private static void" ++ ofWord routine :: spaced "( NewRepository repository ) \x7b",
  spaced "NewRule rule = repository . createRule (" ++ ofText rule.name :: spaced ")",
  spaced ". setName (" ++ ofText rule.title :: spaced ")",
  spaced ". setType ( RuleType ." ++ ofWord rule.type :: spaced ")",
  spaced ". setSeverity ( Severity ." ++ ofWord rule.defaultSeverity :: spaced ". toString ( ) )",
  spaced ". setTags (" ++ (tagTokens rule.tags ++ spaced ")"),
  spaced ". setCleanCodeAttribute ( CleanCodeAttribute ." ++ ofWord rule.cleanCodeAttribute
    :: spaced ")",
  spaced ". setScope ( RuleScope ." ++ ofWord rule.scope :: spaced ")",
  spaced ". setHtmlDescription (" ++ ofText rule.htmlDocumentation :: spaced ") ;"]

def routineTokens (rule : Rule) (routine : String) : List Token :=
  (creationTokens rule routine).flatten
  ++ remediationTokens rule.remediation
  ++ rule.parameters.flatMap (fun p => (parameterTokens p).flatten)
  ++ spaced "\x7d"

def repositoryTokens (rules : List Rule) (options : Options) : List Token :=
  let compatible := compatibleRules rules options.targetLanguage
  let routines := routineNames (compatible.map (·.name))
  headerTokens options.packageName repositoryImports
  ++ (repositoryOpeningTokens options).flatten
  ++ routines.flatMap callTokens
  ++ spaced "repository . done ( ) ; \x7d"
  ++ (compatible.zip routines).flatMap (fun (rule, routine) => routineTokens rule routine)
  ++ spaced "\x7d"

/-- Every rule has a routine, so none is left out where rules and routines stand together. -/
@[simp] theorem map_fst_zip_routineNames (rules : List Rule) :
    (rules.zip (routineNames (rules.map (·.name)))).map (·.1) = rules := by
  have hlength : (routineNames (rules.map (·.name))).length = rules.length := by
    rw [routineNames, length_namesFrom, List.length_map]
  exact List.map_fst_zip (Nat.le_of_eq hlength.symm)

/-! ## The profile class -/

def activationTokens (repositoryKey ruleName : String) : List Token :=
  spaced "profile . activateRule (" ++ ofText repositoryKey :: (spaced ","
    ++ ofText ruleName :: spaced ") ;")

def profileOpeningTokens (options : Options) : List (List Token) := [
  spaced "public class" ++ ofWord (profileClassName options.repositoryKey)
    :: spaced "implements BuiltInQualityProfilesDefinition \x7b",
  spaced "@ Override",
  spaced "public void define ( Context context ) \x7b",
  spaced "NewBuiltInQualityProfile profile = context . createBuiltInQualityProfile ("
    ++ ofText options.profileName :: (spaced "," ++ ofText options.targetLanguage :: spaced ") ;"),
  []]

def profileTokens (rules : List Rule) (options : Options) : List Token :=
  headerTokens options.packageName profileImports
  ++ (profileOpeningTokens options).flatten
  ++ (activatedRules rules options).flatMap (fun rule =>
    activationTokens options.repositoryKey rule.name)
  ++ spaced "profile . done ( ) ; \x7d \x7d"

end Rulebook.Registrar
