import Rulebook.FileTree.Walk

/-!
What programs do with files: look at a path, list a directory, read, make directories, write. Every
operation that fails leaves the tree as it was and tells why.
-/

namespace Rulebook.FileTree

/-! ## Looking -/

/-- What a path leads to, and where it is. A path that ends in a slash leads to directories only. -/
def find (t : FileTree) (p : Path) : Except IoError (Location × Node) := do
  match ← t.place p with
  | .directory loc => return (loc, .directory)
  | .entry _ none => throw .nameTooLong
  | .entry parent (some name) =>
    match t.node? (parent ++ [name]) with
    | none => throw .notFound
    | some (.file contents) =>
      if p.endsInSlash then throw .notADirectory
      else return (parent ++ [name], .file contents)
    | some .directory => return (parent ++ [name], .directory)

def isDirectory (t : FileTree) (p : Path) : Bool :=
  match t.find p with
  | .ok (_, .directory) => true
  | _ => false

def isFile (t : FileTree) (p : Path) : Bool :=
  match t.find p with
  | .ok (_, .file _) => true
  | _ => false

def list (t : FileTree) (p : Path) : Except IoError (List (List UInt8)) := do
  match ← t.find p with
  | (loc, .directory) => return (t.namesIn loc).map (·.bytes)
  | (_, .file _) => throw .notADirectory

def read (t : FileTree) (p : Path) : Except IoError (List UInt8) := do
  match ← t.find p with
  | (_, .file contents) => return contents
  | (_, .directory) => throw .isADirectory

/-! ## Changing -/

def makeDirectory (t : FileTree) (p : Path) : Except IoError FileTree := do
  match ← t.place p with
  | .directory _ => throw .alreadyExists
  | .entry _ none => throw .nameTooLong
  | .entry parent (some name) =>
    match t.node? (parent ++ [name]) with
    -- A file by that name is refused the same way; only a look at the path tells the two apart.
    | some _ => throw .alreadyExists
    | none => return t.put parent name .directory

/-- Where a path lets a file be written: a name in a directory that no directory has, and the
contents of the file that has it. -/
def writable (t : FileTree) (p : Path) :
    Except IoError (Location × FileName × Option (List UInt8)) := do
  match ← t.place p with
  | .directory _ => throw .isADirectory
  | .entry parent name =>
    -- The slash is refused even where nothing has the name, or the name is too long.
    if p.endsInSlash then throw .isADirectory
    else match name with
      | none => throw .nameTooLong
      | some name =>
        match t.node? (parent ++ [name]) with
        | some .directory => throw .isADirectory
        | some (.file contents) => return (parent, name, some contents)
        | none => return (parent, name, none)

def write (t : FileTree) (p : Path) (contents : List UInt8) : Except IoError FileTree := do
  let (parent, name, _) ← t.writable p
  return t.put parent name (.file contents)

/-- The tree with a file that has these contents behind those it had. -/
def append (t : FileTree) (p : Path) (contents : List UInt8) : Except IoError FileTree := do
  let (parent, name, held) ← t.writable p
  return t.put parent name (.file (held.getD [] ++ contents))

def remove (t : FileTree) (p : Path) : Except IoError FileTree := do
  let (loc, _) ← t.find p
  return t.delete loc

def changeHome (t : FileTree) (p : Path) : Except IoError FileTree := do
  let (loc, _) ← t.find p
  if h : t.node? loc = some .directory then
    return { t with home := loc, homed := node?_eq_directory_iff.1 h }
  else throw .notADirectory

/-! ## Comparing -/

def pathBelow? (home loc : Location) : Option Path :=
  if home.isPrefixOf loc ∧ home ≠ loc then
    some ⟨[Path.slash].intercalate ((loc.drop home.length).map (·.bytes))⟩
  else none

/-- What a tree has in its home that another one has not, or has with other contents: the path of
every such directory and file, and what is there. -/
def changesSince (t earlier : FileTree) : List (Path × Node) :=
  t.entries.filterMap fun (loc, node) =>
    if earlier.node? loc = some node then none
    else (pathBelow? t.home loc).map fun p => (p, node)

end Rulebook.FileTree
