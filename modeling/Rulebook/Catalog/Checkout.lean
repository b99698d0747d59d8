import Rulebook.Catalog.Source
import Rulebook.Host

/-!
Catalogs in a directory. Every rule has a directory that is named by its key:

* `S100/metadata.json` holds what all languages share;
* `S100/js/metadata.json` holds what is said for one language, in place of what is shared;
* `S100/js/rule.html` holds the documentation for that language.

A rule without a manifest for a language does not exist for that language. The other two files may
be absent. Rules come in ascending order of the bytes of their names.
-/

namespace Rulebook.Catalog

open Rulebook.Json (Value Members)
open Rulebook.Log (Logger)

def manifestName : Path := .ofText "metadata.json"

def documentationName : Path := .ofText "rule.html"

structure RulePlace where
  /-- The name of the directory of the rule. -/
  name : List UInt8
  directory : Path
  shared : Path
  manifest : Path
  documentation : Path
deriving DecidableEq, Repr, Inhabited

namespace RulePlace

def ofName (rules : Path) (language : String) (name : List UInt8) : RulePlace :=
  -- The key is joined as it was given: an absolute one leaves the directory of the rule.
  let directory := rules.join ⟨name⟩
  let forLanguage := directory.join (.ofText language)
  { name, directory
    shared := directory.join manifestName
    manifest := forLanguage.join manifestName
    documentation := forLanguage.join documentationName }

end RulePlace

def membersOfText (path : Path) (text : String) : Except FetchError Members :=
  match Value.ofText? text with
  | none => .error (.brokenManifest path)
  | some (.object members) => .ok members
  | some _ => .error (.notAnObject path)

variable {m : Type → Type} [Monad m]

/-! ## Reading -/

def readOptional (host : Host m) (path : Path) : m (Except FetchError (Option String)) := do
  match ← host.readText path with
  | .ok text => return .ok (some text)
  | .error .notFound => return .ok none
  | .error cause => return .error (.unreadable path cause)

def readRequired (host : Host m) (path : Path) : m (Except FetchError String) := do
  match ← host.readText path with
  | .ok text => return .ok text
  | .error cause => return .error (.unreadable path cause)

/-- The members of a manifest that all languages share; none if there is no such manifest. -/
def sharedMembers (host : Host m) (path : Path) : m (Except FetchError Members) := do
  match ← readOptional host path with
  | .error e => return .error e
  | .ok none => return .ok []
  | .ok (some text) => return membersOfText path text

def ownMembers (host : Host m) (path : Path) : m (Except FetchError Members) := do
  match ← readRequired host path with
  | .error e => return .error e
  | .ok text => return membersOfText path text

/-! ## Rules -/

def fetchRule (host : Host m) (place : RulePlace) : m (Except FetchError RawRule) := do
  -- The name comes first: a rule without a key is refused before its manifests are read.
  match Text.Utf8.decode? place.name with
  | none => return .error (.brokenName place.directory)
  | some key =>
    match ← sharedMembers host place.shared with
    | .error e => return .error e
    | .ok shared =>
      match ← ownMembers host place.manifest with
      | .error e => return .error e
      | .ok own =>
        match ← readOptional host place.documentation with
        | .error e => return .error e
        | .ok documentation =>
          return .ok { key, manifest := .object (Members.merge shared own), documentation }

def ruleEvents (language : String) (raw : RawRule) : List Log.Event :=
  (if raw.documentation.isNone then [.undocumentedRule raw.key language] else [])
    ++ [.loadedManifest raw.key language]

def fetchRules (host : Host m) (log : Logger m) (language : String) :
    List RulePlace → m (Except FetchError (List RawRule))
  | [] => return .ok []
  | place :: rest => do
    -- A rule is one of this language by its manifest only; what is shared does not count.
    if ← host.isFile place.manifest then
      match ← fetchRule host place with
      | .error e => return .error e
      | .ok raw =>
        log.reportAll (ruleEvents language raw)
        match ← fetchRules host log language rest with
        | .error e => return .error e
        | .ok raws => return .ok (raw :: raws)
    else fetchRules host log language rest

/-- Those of some names below a directory that name directories. -/
def directoriesAmong (host : Host m) (rules : Path) : List (List UInt8) → m (List (List UInt8))
  | [] => return []
  | name :: rest => do
    let isDirectory ← host.isDirectory (rules.join ⟨name⟩)
    let others ← directoriesAmong host rules rest
    return if isDirectory then name :: others else others

def insertName (name : List UInt8) : List (List UInt8) → List (List UInt8)
  | [] => [name]
  | other :: rest => if name ≤ other then name :: other :: rest else other :: insertName name rest

def sortNames (names : List (List UInt8)) : List (List UInt8) := names.foldr insertName []

/-- The names of the directories in a directory of rules, in ascending order. -/
def ruleNames (host : Host m) (rules : Path) : m (Except FetchError (List (List UInt8))) := do
  if ← host.isDirectory rules then
    match ← host.list rules with
    | .error cause => return .error (.unlistable rules cause)
    | .ok names =>
      return .ok (← directoriesAmong host rules (sortNames names))
  else return .error (.directoryNotFound rules)

def ruleDirectories (host : Host m) (rules : Path) : m (Except FetchError (List Path)) := do
  match ← ruleNames host rules with
  | .error e => return .error e
  | .ok names => return .ok (names.map fun name => rules.join ⟨name⟩)

def fetchLanguage (host : Host m) (rules : Path) (log : Logger m) (language : String) :
    m (Except FetchError (List RawRule)) := do
  match ← ruleNames host rules with
  | .error e => return .error e
  | .ok names =>
    match ← fetchRules host log language (names.map (RulePlace.ofName rules language)) with
    | .error e => return .error e
    | .ok raws =>
      log.report (.fetchedFromCheckout language rules raws.length)
      return .ok raws

def checkout (host : Host m) (rules : Path) : Source m := ⟨fetchLanguage host rules⟩

end Rulebook.Catalog
