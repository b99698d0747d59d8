import Rulebook.Java.Literal

/-!
Generated Java sources. A line is made of fragments: code, which is written as it is, and texts,
which are written as literals. Every line of a source ends in a line feed.
-/

namespace Rulebook.Java

inductive Fragment where
  | code (text : String)
  | text (value : String)
deriving DecidableEq, Repr, Inhabited

namespace Fragment

def render : Fragment → String
  | .code s => s
  | .text s => literal s

end Fragment

/-- A line of a source, without its end. -/
abbrev Line := List Fragment

namespace Line

def blank : Line := []

def ofCode (text : String) : Line := [.code text]

def render (line : Line) : String := String.join (line.map Fragment.render)

end Line

def renderLines (lines : List Line) : String := String.join (lines.map fun l => l.render ++ "\n")

structure SourceFile where
  className : String
  contents : String
deriving DecidableEq, Repr, Inhabited

namespace SourceFile

def fileName (file : SourceFile) : String := file.className ++ ".java"

end SourceFile

end Rulebook.Java
