import Rulebook.Catalog.Source
import Rulebook.Run.Request
import Rulebook.Sink

/-!
Runs. The languages of a request are gone through in order. The raw rules of a language are fetched
and all of them made canonical before anything is written; then its artifacts are written one by
one. The first failure ends the run, and what has been written stays.
-/

namespace Rulebook.Run

open Rulebook.Catalog (Source FetchError)
open Rulebook.Log (Logger Event)

inductive Failure where
  | fetch (error : FetchError)
  | malformedRule (error : MalformedRule)
  | write (error : WriteError)
deriving DecidableEq, Repr, Inhabited

namespace Failure

def message : Failure → String
  | .fetch error => error.message
  | .malformedRule error => error.message
  | .write error => error.message

def cause? : Failure → Option IoError
  | .fetch error => error.cause?
  | .malformedRule _ => none
  | .write error => some error.cause

end Failure

structure Summary where
  language : String
  directory : Path
  fetched : Nat
  emitted : Nat
  /-- The activations of the profile, of registrars only. -/
  activations : Option Nat
  /-- Every path that was written, in order. -/
  files : List Path
deriving DecidableEq, Repr, Inhabited

/-! ## Canonical rules -/

/-- What is reported of a raw rule that is made canonical: remediation that is dropped, as soon as
the fields before it are sound, and the rule itself, once all are. -/
def normalizationEvents (language : String) (raw : RawRule) : List Event :=
  (if raw.losesRemediation then [.droppedRemediation raw.key] else [])
    ++ match raw.normalize language with
      | .ok _ => [.normalizedRule raw.key language]
      | .error _ => []

def normalizationReport (language : String) : List RawRule → List Event
  | [] => []
  | raw :: rest =>
    normalizationEvents language raw
      ++ match raw.normalize language with
        | .ok _ => normalizationReport language rest
        -- The rules behind a malformed one are not looked at, so nothing is reported of them.
        | .error _ => []

variable {m : Type → Type} [Monad m]

def normalizeRules (log : Logger m) (language : String) (raws : List RawRule) :
    m (Except Failure (List Rule)) := do
  log.reportAll (normalizationReport language raws)
  match RawRule.normalizeAll language raws with
  | .error e => return .error (.malformedRule e)
  | .ok rules =>
    log.report (.normalizedRules language rules.length)
    return .ok rules

def fetchRules (source : Source m) (log : Logger m) (language : String) :
    m (Except Failure (List Rule)) := do
  match ← source.fetch log language with
  | .error e => return .error (.fetch e)
  | .ok raws =>
    log.report (.fetchedManifests raws.length)
    normalizeRules log language raws

/-! ## Artifacts -/

def placed (directory : Path) (artifacts : List Artifact) : List (Path × String) :=
  artifacts.map fun artifact => (directory.join (.ofText artifact.fileName), artifact.contents)

/-- Writes files in their order, up to the first failure. -/
def writeAll (sink : Sink m) (log : Logger m) : List (Path × String) → m (Except Failure Unit)
  | [] => return .ok ()
  | (path, contents) :: rest => do
    match ← sink.write log path contents with
    | .error e => return .error (.write e)
    | .ok () => writeAll sink log rest

/-! ## Languages -/

def runInside (source : Source m) (sink : Sink m) (request : Request) (language : String)
    (log : Logger m) : m (Except Failure Summary) := do
  let directory := request.directory language
  log.report (request.mode.startEvent language directory)
  match ← fetchRules source log language with
  | .error e => return .error e
  | .ok rules =>
    -- From here on only a write can fail: the artifacts are there before the first is written.
    let batch := request.mode.batch language rules
    log.report (request.mode.batchEvent language rules.length batch)
    let files := placed directory batch.artifacts
    match ← writeAll sink log files with
    | .error e => return .error e
    | .ok () =>
      log.report (request.mode.completeEvent batch)
      return .ok {
        language, directory
        fetched := rules.length
        emitted := batch.emitted
        activations := batch.activations
        files := files.map (·.1) }

def runLanguage (source : Source m) (sink : Sink m) (request : Request) (log : Logger m)
    (language : String) : m (Except Failure Summary) :=
  log.within (request.mode.span language) (runInside source sink request language)

def runLanguages (source : Source m) (sink : Sink m) (request : Request) (log : Logger m) :
    List String → m (Except Failure (List Summary))
  | [] => return .ok []
  | language :: rest => do
    match ← runLanguage source sink request log language with
    | .error e => return .error e
    | .ok summary =>
      match ← runLanguages source sink request log rest with
      | .error e => return .error e
      | .ok summaries => return .ok (summary :: summaries)

def Request.run (request : Request) (source : Source m) (sink : Sink m) (log : Logger m) :
    m (Except Failure (List Summary)) :=
  runLanguages source sink request log request.languages

end Rulebook.Run
