import Rulebook.FileTree.Operations

/-!
The file operations that a run needs, in any monad. The same run works on a `FileTree` and on real
files: it only ever asks a `Host`.
-/

namespace Rulebook

/-- Operations on files. Those that may fail give their cause as a value. -/
structure Host (m : Type → Type) where
  isDirectory : Path → m Bool
  isFile : Path → m Bool
  /-- The names in a directory, in any order. -/
  list : Path → m (Except IoError (List (List UInt8)))
  read : Path → m (Except IoError (List UInt8))
  makeDirectory : Path → m (Except IoError Unit)
  write : Path → List UInt8 → m (Except IoError Unit)
  append : Path → List UInt8 → m (Except IoError Unit)

namespace Host

variable {m : Type → Type}

def lift {n : Type → Type} (f : {α : Type} → m α → n α) (host : Host m) : Host n where
  isDirectory p := f (host.isDirectory p)
  isFile p := f (host.isFile p)
  list p := f (host.list p)
  read p := f (host.read p)
  makeDirectory p := f (host.makeDirectory p)
  write p contents := f (host.write p contents)
  append p contents := f (host.append p contents)

def readText [Monad m] (host : Host m) (p : Path) : m (Except IoError String) := do
  match ← host.read p with
  | .error cause => return .error cause
  | .ok bytes =>
    match Text.Utf8.decode? bytes with
    | some text => return .ok text
    | none => return .error .brokenText

/-- Makes the first of some directories, each of which is the parent of the one before it. If it
cannot be made because its parent is not there, the parent comes first. Any other failure counts
only if there is no such directory afterwards. -/
def makeDirectories [Monad m] (host : Host m) : List Path → m (Except IoError Unit)
  | [] => return .ok ()
  | p :: parents => do
    match ← host.makeDirectory p with
    | .ok () => return .ok ()
    | .error .notFound =>
      -- Without a parent left there is nothing to make first, and the directory is tried again.
      match ← host.makeDirectories parents with
      | .error cause => return .error cause
      | .ok () => accept p (← host.makeDirectory p)
    | .error cause => accept p (.error cause)
where
  /-- A failure to make a directory that is there is none. -/
  accept (p : Path) : Except IoError Unit → m (Except IoError Unit)
    | .ok () => return .ok ()
    | .error cause => do
      if ← host.isDirectory p then return .ok () else return .error cause

def makeDirectoryWithParents [Monad m] (host : Host m) (p : Path) : m (Except IoError Unit) :=
  host.makeDirectories p.ancestors

end Host

namespace FileTree

/-- A change that keeps the tree where it fails. -/
def tryChange (change : FileTree → Except IoError FileTree) :
    StateM FileTree (Except IoError Unit) := fun t =>
  match change t with
  | .ok t' => (.ok (), t')
  | .error cause => (.error cause, t)

def host : Host (StateM FileTree) where
  isDirectory p := fun t => (t.isDirectory p, t)
  isFile p := fun t => (t.isFile p, t)
  list p := fun t => (t.list p, t)
  read p := fun t => (t.read p, t)
  makeDirectory p := tryChange (·.makeDirectory p)
  write p contents := tryChange (·.write p contents)
  append p contents := tryChange (·.append p contents)

end FileTree

end Rulebook
