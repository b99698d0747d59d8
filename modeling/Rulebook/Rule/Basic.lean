import Rulebook.Rule.TagSet

/-!
Rules in their canonical form: plain records, which the emitters read and nobody changes.
-/

namespace Rulebook

/-- A value that the users of a rule may configure. -/
structure Parameter where
  name : String
  description : String
  /-- The constant that names the type, such as `INTEGER`. -/
  type : String
  defaultValue : String
deriving DecidableEq, Repr, Inhabited

/-- The effort of a fix, the same for every occurrence. -/
structure Remediation where
  /-- A duration, such as `5min`. -/
  cost : String
deriving DecidableEq, Repr, Inhabited

/-- A rule of static analysis, for one language. -/
structure Rule where
  /-- The key of the rule, such as `S100`. -/
  name : String
  title : String
  htmlDocumentation : String
  /-- The constant that names the type, such as `CODE_SMELL`. -/
  type : String
  /-- The constant that names the severity, such as `MAJOR`. -/
  defaultSeverity : String
  tags : TagSet
  /-- The constant that names the attribute, such as `CONVENTIONAL`. -/
  cleanCodeAttribute : String
  /-- The constant that names the scope, such as `MAIN`. -/
  scope : String
  parameters : List Parameter
  remediation : Option Remediation
  compatibleLanguages : List String
  qualityProfiles : List String
deriving DecidableEq, Repr, Inhabited

namespace Rule

def isCompatibleWith (rule : Rule) (language : String) : Bool :=
  rule.compatibleLanguages.contains language

def isInProfile (rule : Rule) (profile : String) : Bool := rule.qualityProfiles.contains profile

end Rule

end Rulebook
