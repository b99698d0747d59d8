import Rulebook.Host
import Rulebook.Log.Logger

/-!
Where artifacts go. A sink is handed paths and contents, one after the other. Every sink that writes
nothing to disk is a sink all the same: one only reports, one remembers.
-/

namespace Rulebook

open Rulebook.Log (Logger)

inductive WriteError where
  | directory (path : Path) (cause : IoError)
  | file (path : Path) (cause : IoError)
deriving DecidableEq, Repr, Inhabited

namespace WriteError

def message : WriteError → String
  | .directory path cause =>
    "failed to create directory " ++ path.display ++ ": " ++ cause.message
  | .file path cause => "failed to write " ++ path.display ++ ": " ++ cause.message

def cause : WriteError → IoError
  | .directory _ cause => cause
  | .file _ cause => cause

end WriteError

structure Sink (m : Type → Type) where
  write : Logger m → Path → String → m (Except WriteError Unit)

namespace Sink

variable {m : Type → Type}

/-! ## Disk -/

def makeParent [Monad m] (host : Host m) (path : Path) : m (Except WriteError Unit) := do
  match path.parent? with
  | none => return .ok ()
  | some parent =>
    -- A bare name lies where the program runs, and no directory is made for it.
    if parent.isEmpty then return .ok ()
    else match ← host.makeDirectoryWithParents parent with
      | .ok () => return .ok ()
      | .error cause => return .error (.directory parent cause)

/-- Writes files, and makes the directories that they lie in. -/
def disk [Monad m] (host : Host m) : Sink m where
  write log path contents := do
    match ← makeParent host path with
    | .error e => return .error e
    | .ok () =>
      match ← host.write path (Text.Utf8.encode contents) with
      | .error cause => return .error (.file path cause)
      | .ok () =>
        log.report (.wroteArtifact path (Text.Utf8.byteCount contents))
        return .ok ()

/-! ## Dry run -/

def dryRun [Monad m] : Sink m where
  write log path contents := do
    log.report (.wouldWriteArtifact path (Text.Utf8.byteCount contents))
    return .ok ()

/-! ## Memory -/

abbrev Taken := List (Path × String)

/-- Remembers what it takes. With a limit it takes that many artifacts and fails at the next one. -/
def memory (limit : Option Nat) (failure : Path → WriteError) : Sink (StateM Taken) where
  write _ path contents := fun taken =>
    if limit = some taken.length then (.error (failure path), taken)
    else (.ok (), taken ++ [(path, contents)])

end Sink

end Rulebook
