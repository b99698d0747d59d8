import Rulebook.Log.Logger
import Rulebook.RuleData

/-!
What a run is asked for, and what the canonical rules of one language become. A run makes registrars
or rule data; either way every language gets a directory of its own in the target directory.
-/

namespace Rulebook

namespace Run

structure RegistrarSettings where
  packageName : String
  /-- The key of the repository; the language if there is none. -/
  repositoryKey : Option String := none
  /-- The language that rules have to be compatible with; the one fetched if there is none. -/
  compatibleLanguage : Option String := none
  profileName : String := Registrar.defaultProfileName
  repositoryName : String := Registrar.defaultRepositoryName
deriving DecidableEq, Repr, Inhabited

def RegistrarSettings.options (settings : RegistrarSettings) (language : String) :
    Registrar.Options where
  packageName := settings.packageName
  repositoryKey := settings.repositoryKey.getD language
  targetLanguage := settings.compatibleLanguage.getD language
  profileName := settings.profileName
  repositoryName := settings.repositoryName

inductive Mode where
  | registrars (settings : RegistrarSettings)
  | ruleData
deriving DecidableEq, Repr, Inhabited

structure Request where
  mode : Mode
  languages : List String
  target : Path
deriving DecidableEq, Repr, Inhabited

def Request.directory (request : Request) (language : String) : Path :=
  request.target.join (.ofText language)

/-! ## What rules become -/

/-- What the rules of a language become: artifacts, in the order in which they are written, and how
many rules are in them. Registrars also count the rules that the profile activates. -/
structure Batch where
  artifacts : List Artifact
  emitted : Nat
  activations : Option Nat
deriving DecidableEq, Repr, Inhabited

namespace Mode

def batch (mode : Mode) (language : String) (rules : List Rule) : Batch :=
  match mode with
  | .registrars settings =>
    let made := Registrar.emit rules (settings.options language)
    { artifacts := [made.repository, made.profile].map fun file => ⟨file.fileName, file.contents⟩
      emitted := made.emitted
      activations := some made.activated }
  | .ruleData =>
    { artifacts := ruleDataArtifacts rules
      emitted := rules.length
      activations := none }

def name : Mode → String
  | .registrars _ => "registrars"
  | .ruleData => "rule data"

/-! ## What is reported -/

def span (mode : Mode) (language : String) : Log.Span where
  name := match mode with
    | .registrars _ => "registrars"
    | .ruleData => "rule_data"
  area := .run
  field := ⟨"language_key", .plain language⟩

def startEvent (mode : Mode) (language : String) (directory : Path) : Log.Event :=
  match mode with
  | .registrars _ => .generatingRegistrars language directory
  | .ruleData => .generatingRuleData language directory

def batchEvent (mode : Mode) (language : String) (rules : Nat) (batch : Batch) : Log.Event :=
  match mode with
  | .registrars settings =>
    .renderingRegistrars (settings.options language) rules batch.emitted (batch.activations.getD 0)
  | .ruleData => .exportedRuleData language batch.emitted

def completeEvent (mode : Mode) (batch : Batch) : Log.Event :=
  match mode with
  | .registrars _ => .registrarsComplete batch.emitted (batch.activations.getD 0)
  | .ruleData => .ruleDataComplete batch.emitted

end Mode

end Run

end Rulebook
