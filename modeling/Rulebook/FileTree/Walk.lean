import Rulebook.FileTree.Basic
import Rulebook.IoError

/-!
From a path to the place that it names in a tree. The path is followed name by name: every name but
the last has to lead into a directory. What the last one has to be, the operations decide.
-/

namespace Rulebook

inductive Segment where
  | here
  | up
  | name (name : FileName)
  /-- A name that is too long to exist. -/
  | overlong
deriving DecidableEq, Repr

namespace Segment

def ofBytes (bytes : List UInt8) : Segment :=
  if bytes = [Path.dot] then .here
  else if bytes = [Path.dot, Path.dot] then .up
  else match FileName.ofBytes? bytes with
    | some valid => .name valid
    | none => .overlong

end Segment

inductive Place where
  /-- A directory, by a path that ends in dots or is the root. -/
  | directory (loc : Location)
  /-- A name in a directory, whether anything has it or not; none if it is too long to exist. -/
  | entry (parent : Location) (name : Option FileName)
deriving DecidableEq, Repr

def Path.lengthLimit : Nat := 4095

namespace FileTree

def enter (t : FileTree) (loc : Location) : Segment → Except IoError Location
  | .here => .ok loc
  | .up => .ok loc.dropLast
  | .overlong => .error .nameTooLong
  | .name name =>
    match t.node? (loc ++ [name]) with
    | none => .error .notFound
    | some .directory => .ok (loc ++ [name])
    | some (.file _) => .error .notADirectory

def walk (t : FileTree) (loc : Location) : List Segment → Except IoError Place
  | [] => .ok (.directory loc)
  | [.here] => .ok (.directory loc)
  | [.up] => .ok (.directory loc.dropLast)
  | [.name name] => .ok (.entry loc (some name))
  | [.overlong] => .ok (.entry loc none)
  -- What is not last has to be entered, dots as well as names.
  | segment :: rest => do
    let next ← t.enter loc segment
    walk t next rest

def start (t : FileTree) (p : Path) : Location := if p.isAbsolute then [] else t.home

def place (t : FileTree) (p : Path) : Except IoError Place :=
  -- The text of a path is refused before anything is looked up, in this order.
  if p.bytes.contains 0 then .error .nulInName
  else if p.bytes = [] then .error .notFound
  else if Path.lengthLimit < p.bytes.length then .error .nameTooLong
  else t.walk (t.start p) (p.segments.map Segment.ofBytes)

end FileTree

end Rulebook
