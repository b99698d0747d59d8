import Rulebook.Rule.Json

/-!
Rule data: for every rule its documentation as it is and its canonical form as JSON. Nothing is
filtered, nothing is escaped beyond JSON.
-/

namespace Rulebook

structure Artifact where
  fileName : String
  contents : String
deriving DecidableEq, Repr, Inhabited

namespace Rule

def documentationArtifact (rule : Rule) : Artifact := ⟨rule.name ++ ".html", rule.htmlDocumentation⟩

def dataArtifact (rule : Rule) : Artifact := ⟨rule.name ++ ".json", rule.dataText⟩

end Rule

/-- The artifacts of rule data, the documentation of every rule before its canonical form. -/
def ruleDataArtifacts (rules : List Rule) : List Artifact :=
  rules.flatMap fun rule => [rule.documentationArtifact, rule.dataArtifact]

end Rulebook
