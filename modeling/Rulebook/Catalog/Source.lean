import Rulebook.IoError
import Rulebook.Log.Logger
import Rulebook.Manifest.Normalization

/-!
Sources of raw rules. A source answers a language with its raw rules in the order in which they are
emitted, or tells why it cannot.
-/

namespace Rulebook.Catalog

open Rulebook.Log (Logger)

inductive FetchError where
  | directoryNotFound (path : Path)
  /-- A directory of rules whose names cannot be listed. -/
  | unlistable (path : Path) (cause : IoError)
  | unreadable (path : Path) (cause : IoError)
  /-- A manifest that is not JSON. Where its text breaks off and what would have had to stand there
  is for the reader of JSON to tell, and is left out here. -/
  | brokenManifest (path : Path)
  /-- A directory whose name is no text, so that it cannot be the key of a rule. -/
  | brokenName (path : Path)
  /-- A manifest that is JSON, but no object. -/
  | notAnObject (path : Path)
deriving DecidableEq, Repr, Inhabited

namespace FetchError

def message : FetchError → String
  | .directoryNotFound path => "rules directory not found: " ++ path.display
  | .unlistable path cause => "failed to read directory " ++ path.display ++ ": " ++ cause.message
  | .unreadable path cause => "failed to read file " ++ path.display ++ ": " ++ cause.message
  | .brokenManifest path => "failed to parse manifest " ++ path.display
  | .brokenName path => "rule directory name is not valid UTF-8: " ++ path.display
  | .notAnObject path => "manifest root must be an object: " ++ path.display

def cause? : FetchError → Option IoError
  | .unlistable _ cause | .unreadable _ cause => some cause
  | _ => none

end FetchError

structure Source (m : Type → Type) where
  fetch : Logger m → String → m (Except FetchError (List RawRule))

namespace Source

variable {m : Type → Type} [Monad m]

def ofAnswers (answer : String → Except FetchError (List RawRule)) : Source m :=
  ⟨fun _ language => pure (answer language)⟩

def rulesFor (entries : List (String × RawRule)) (language : String) : List RawRule :=
  (entries.filter (·.1 == language)).map (·.2)

def ofEntries (entries : List (String × RawRule)) : Source m :=
  ofAnswers fun language => .ok (rulesFor entries language)

end Source

end Rulebook.Catalog
