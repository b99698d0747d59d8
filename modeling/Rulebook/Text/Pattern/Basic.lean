import Rulebook.Text.CodePointRange

/-!
Patterns of texts. A pattern takes characters from the start of a text in several ways, which have
an order; what counts is the first way of all. So a pattern fits a text if the first way that leads
anywhere takes the whole text, even where a later way would take more or less.
-/

namespace Rulebook.Text

/-- Ranges of characters, or all characters outside of them. -/
structure CharSet where
  negated : Bool
  ranges : List CodePointRange
deriving DecidableEq, Repr

def CharSet.contains (set : CharSet) (c : Char) : Bool :=
  CodePointRange.anyContains set.ranges c != set.negated

inductive Pattern where
  /-- No character. -/
  | empty
  /-- A character of one of some sets, or, negated, of none of them. -/
  | one (negated : Bool) (sets : List CharSet)
  /-- No character, at the start of the text. -/
  | start
  /-- No character, at the end of the text. -/
  | stop
  | sequence (first second : Pattern)
  /-- One of two patterns, the first one rather than the second. -/
  | either (first second : Pattern)
  /-- A pattern any number of times, often rather than seldom if it is greedy. -/
  | many (body : Pattern) (greedy : Bool)
deriving DecidableEq, Repr, Inhabited

namespace Pattern

/-- What is left after a step has been done any number of times, in order. A step that takes nothing
is the last one. -/
def anyTimes (step : List Char → List (List Char)) (greedy : Bool) :
    Nat → List Char → List (List Char)
  | 0, cs => [cs]
  | fuel + 1, cs =>
    let more := (step cs).flatMap fun rest =>
      if rest.length < cs.length then anyTimes step greedy fuel rest else [rest]
    if greedy then more ++ [cs] else cs :: more

/-- What each way of a pattern leaves of a text, which is the end of one of some length. -/
def remainders (length : Nat) : Pattern → List Char → List (List Char)
  | .empty, cs => [cs]
  | .one _ _, [] => []
  | .one negated sets, c :: cs => if (sets.any (·.contains c)) != negated then [cs] else []
  | .start, cs => if cs.length = length then [cs] else []
  | .stop, cs => if cs.isEmpty then [cs] else []
  | .sequence first second, cs => (remainders length first cs).flatMap (remainders length second)
  | .either first second, cs => remainders length first cs ++ remainders length second cs
  | .many body greedy, cs => anyTimes (remainders length body) greedy cs.length cs

def fits (pattern : Pattern) (text : String) : Bool :=
  let cs := text.toList
  match pattern.remainders cs.length cs with
  | [] => false
  | rest :: _ => rest.isEmpty

end Pattern

end Rulebook.Text
