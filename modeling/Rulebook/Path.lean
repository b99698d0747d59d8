import Rulebook.Text.Utf8

/-!
Paths, as texts of bytes. Joining never tidies a path up: an absolute segment replaces what is
before it, every other one is put behind a slash. The parent of a path leaves out its last name;
slashes and single dots after that name do not count.
-/

namespace Rulebook

structure Path where
  bytes : List UInt8
deriving DecidableEq, Repr, Inhabited

namespace Path

def slash : UInt8 := 0x2F

def dot : UInt8 := 0x2E

def ofText (s : String) : Path := ⟨Text.Utf8.encode s⟩

/-- The path as it is shown: parts that are no text are replaced. -/
def display (p : Path) : String := Text.Utf8.decodeLossy p.bytes

def isEmpty (p : Path) : Bool := p.bytes.isEmpty

def isAbsolute (p : Path) : Bool := p.bytes.head? == some slash

/-! ## Joining -/

def join (p segment : Path) : Path :=
  if segment.isAbsolute then segment
  else if p.bytes = [] ∨ p.bytes.getLast? = some slash then ⟨p.bytes ++ segment.bytes⟩
  else ⟨p.bytes ++ slash :: segment.bytes⟩

def resolve (p : Path) (segments : List Path) : Path := segments.foldl join p

/-! ## Parents -/

/-- A path from its end without slashes and single dots that name nothing. A slash or a dot that is
all there is stays. -/
def trimmed : List UInt8 → List UInt8
  | a :: b :: rest =>
    if a = slash then trimmed (b :: rest)
    else if a = dot ∧ b = slash then trimmed (b :: rest)
    else a :: b :: rest
  | short => short

/-- The path without its last name. The empty path and the root have no parent. -/
def parent? (p : Path) : Option Path :=
  match trimmed p.bytes.reverse with
  | [] => none
  | [a] => if a = slash then none else some ⟨[]⟩
  -- Slashes and dots before the last name go too, so that `a//b` and `a/./b` have the parent `a`.
  | backwards => some ⟨(trimmed (backwards.dropWhile (· ≠ slash))).reverse⟩

def ancestorsWithin : Nat → Path → List Path
  | 0, _ => []
  | fuel + 1, p =>
    if p.bytes = [] then []
    else p :: (match p.parent? with
      | none => []
      | some parent => ancestorsWithin fuel parent)

/-- The path, its parent, and so on up to the shortest that is not empty. A parent is shorter than
its path, so the length bounds their number. -/
def ancestors (p : Path) : List Path := ancestorsWithin p.bytes.length p

/-! ## Segments -/

/-- The names between the slashes of a path, empty ones left out; `name` holds the bytes of the one
that is being read, last first. -/
def segmentsFrom (name : List UInt8) : List UInt8 → List (List UInt8)
  | [] => if name = [] then [] else [name.reverse]
  | b :: rest =>
    if b = slash then
      if name = [] then segmentsFrom [] rest else name.reverse :: segmentsFrom [] rest
    else segmentsFrom (b :: name) rest

def segments (p : Path) : List (List UInt8) := segmentsFrom [] p.bytes

def endsInSlash (p : Path) : Bool := p.bytes.getLast? == some slash

end Path

end Rulebook
