import Rulebook.Log.Level
import Rulebook.Path
import Rulebook.Registrar.Emission

/-!
What a run reports. Every event has an area that it comes from, a level, a message, and fields.
-/

namespace Rulebook.Log

/-! ## Areas -/

inductive Area where
  | command
  | run
  | checkout
  | normalization
  | registrars
  | ruleData
  | sink
deriving DecidableEq, Repr, Inhabited

/-- The name of an area, by whose start filters choose. -/
def Area.name : Area → String
  | .command => "rspec::commands"
  | .run => "rspec_cli::pipeline"
  | .checkout => "rspec_ingest::directory"
  | .normalization => "rspec_normalization::rule"
  | .registrars => "rspec_output::registrars"
  | .ruleData => "rspec_output::rule_data"
  | .sink => "rspec_output::sink"

/-! ## Fields -/

inductive FieldValue where
  /-- A text, as it is. -/
  | plain (text : String)
  /-- A text, in quotes. -/
  | quoted (text : String)
  | count (n : Nat)
deriving DecidableEq, Repr, Inhabited

structure Field where
  name : String
  value : FieldValue
deriving DecidableEq, Repr, Inhabited

/-! ## Events -/

inductive Event where
  | generatingRegistrars (language : String) (directory : Path)
  | generatingRuleData (language : String) (directory : Path)
  | undocumentedRule (rule language : String)
  | loadedManifest (rule language : String)
  | fetchedFromCheckout (language : String) (directory : Path) (rules : Nat)
  | fetchedManifests (rules : Nat)
  | droppedRemediation (rule : String)
  | normalizedRule (rule language : String)
  | normalizedRules (language : String) (rules : Nat)
  | renderingRegistrars (options : Registrar.Options) (input emitted activated : Nat)
  | exportedRuleData (language : String) (rules : Nat)
  | wroteArtifact (path : Path) (bytes : Nat)
  | wouldWriteArtifact (path : Path) (bytes : Nat)
  | registrarsComplete (emitted activated : Nat)
  | ruleDataComplete (emitted : Nat)
deriving DecidableEq, Repr

namespace Event

def area : Event → Area
  | .generatingRegistrars _ _ => .run
  | .generatingRuleData _ _ => .run
  | .undocumentedRule _ _ => .checkout
  | .loadedManifest _ _ => .checkout
  | .fetchedFromCheckout _ _ _ => .checkout
  | .fetchedManifests _ => .run
  | .droppedRemediation _ => .normalization
  | .normalizedRule _ _ => .normalization
  | .normalizedRules _ _ => .normalization
  | .renderingRegistrars _ _ _ _ => .registrars
  | .exportedRuleData _ _ => .ruleData
  | .wroteArtifact _ _ => .sink
  | .wouldWriteArtifact _ _ => .sink
  | .registrarsComplete _ _ => .run
  | .ruleDataComplete _ => .run

def level : Event → Level
  | .generatingRegistrars _ _ => .info
  | .generatingRuleData _ _ => .info
  | .undocumentedRule _ _ => .debug
  | .loadedManifest _ _ => .trace
  | .fetchedFromCheckout _ _ _ => .debug
  | .fetchedManifests _ => .debug
  | .droppedRemediation _ => .debug
  | .normalizedRule _ _ => .trace
  | .normalizedRules _ _ => .debug
  | .renderingRegistrars _ _ _ _ => .debug
  | .exportedRuleData _ _ => .debug
  | .wroteArtifact _ _ => .debug
  | .wouldWriteArtifact _ _ => .info
  | .registrarsComplete _ _ => .info
  | .ruleDataComplete _ => .info

def message : Event → String
  | .generatingRegistrars language directory =>
    "Generating " ++ language ++ " rule classes into " ++ directory.display
  | .generatingRuleData language directory =>
    "Generating " ++ language ++ " rule data into " ++ directory.display
  | .undocumentedRule _ _ => "rule has no documentation file"
  | .loadedManifest _ _ => "loaded manifest"
  | .fetchedFromCheckout _ _ _ => "fetched rule manifests"
  | .fetchedManifests _ => "fetched manifests"
  | .droppedRemediation _ => "dropping remediation without a constant cost"
  | .normalizedRule _ _ => "normalized rule"
  | .normalizedRules _ _ => "normalized rules"
  | .renderingRegistrars _ _ _ _ => "rendering registrars"
  | .exportedRuleData _ _ => "exported rule data"
  | .wroteArtifact _ _ => "wrote artifact"
  | .wouldWriteArtifact _ _ => "dry run: would write"
  | .registrarsComplete _ _ => "registrars complete"
  | .ruleDataComplete _ => "rule data complete"

def ruleField (rule : String) : Field := ⟨"rule", .plain rule⟩

def languageField (language : String) : Field := ⟨"language_key", .quoted language⟩

def rulesField (rules : Nat) : Field := ⟨"rule_count", .count rules⟩

def artifactFields (path : Path) (bytes : Nat) : List Field :=
  [⟨"path", .plain path.display⟩, ⟨"bytes", .count bytes⟩]

def fields : Event → List Field
  | .generatingRegistrars _ _ => []
  | .generatingRuleData _ _ => []
  | .undocumentedRule rule language => [ruleField rule, languageField language]
  | .loadedManifest rule language => [ruleField rule, languageField language]
  | .fetchedFromCheckout language directory rules =>
    [languageField language, ⟨"rules_dir", .plain directory.display⟩, rulesField rules]
  | .fetchedManifests rules => [rulesField rules]
  | .droppedRemediation rule => [ruleField rule]
  | .normalizedRule rule language => [ruleField rule, languageField language]
  | .normalizedRules language rules => [languageField language, rulesField rules]
  | .renderingRegistrars options input emitted activated => [
    ⟨"repository_key", .plain options.repositoryKey⟩,
    ⟨"target_language_key", .plain options.targetLanguage⟩,
    ⟨"input_rules", .count input⟩,
    ⟨"emitted_rules", .count emitted⟩,
    ⟨"activated_rules", .count activated⟩]
  | .exportedRuleData language rules => [languageField language, rulesField rules]
  | .wroteArtifact path bytes => artifactFields path bytes
  | .wouldWriteArtifact path bytes => artifactFields path bytes
  | .registrarsComplete emitted activated =>
    [⟨"rules_emitted", .count emitted⟩, ⟨"profile_activations", .count activated⟩]
  | .ruleDataComplete emitted => [⟨"rules_emitted", .count emitted⟩]

end Event

end Rulebook.Log
