/-!
Style codes in lines of text. A code holds until the reset code; where a text is broken into lines,
each line is closed by a reset, and the next one takes up the codes that held.

A code begins with one of two introducers. After it stand brackets and other marks, then numbers
between semicolons, then a last letter or digit. Of several ends the furthest one counts.
-/

namespace Rulebook.Text.Style

/-! ## Codes -/

inductive Progress where
  | introduced
  /-- One parenthesis, after which a digit ends a code of two characters. -/
  | parenthesis
  | marks
  /-- Digits of one number. The last of them may end the code. -/
  | digits (count : Nat)
  | semicolon
  | finished
deriving DecidableEq, Repr, Inhabited

def isIntroducer (c : Char) : Bool := c = '\x1b' || c = '\u009b'

def isParenthesis (c : Char) : Bool := c = '(' || c = ')'

def isMark (c : Char) : Bool := c = '[' || c = ']' || c = '#' || c = '?'

def isLast (c : Char) : Bool :=
  ('A' ≤ c && c ≤ 'P') || c = 'R' || c = 'Z' || c = 'c' || ('f' ≤ c && c ≤ 'n') || c = 'q'
    || c = 'r' || c = 'y' || c = '=' || c = '>' || c = '<'

namespace Progress

def isWhole : Progress → Bool
  | .digits _ => true
  | .finished => true
  | _ => false

def isBeforeNumbers : Progress → Bool
  | .introduced => true
  | .parenthesis => true
  | .marks => true
  | _ => false

def digit? (c : Char) : Progress → Option Progress
  | .introduced => some (.digits 1)
  | .parenthesis => if c ≤ '2' then some .finished else some (.digits 1)
  | .marks => some (.digits 1)
  | .digits count => if count < 4 then some (.digits (count + 1)) else some .finished
  | .semicolon => some (.digits 1)
  | .finished => none

def next? (progress : Progress) (c : Char) : Option Progress :=
  if c.isDigit then progress.digit? c
  else if isParenthesis c then
    if progress = .introduced then some .parenthesis
    else if progress.isBeforeNumbers then some .marks
    else none
  else if isMark c then (if progress.isBeforeNumbers then some .marks else none)
  else if c = ';' then
    match progress with
    | .finished => none
    | .digits _ => some .semicolon
    | .semicolon => some .semicolon
    | _ => some .marks
  else if isLast c then (if progress = .finished then none else some .finished)
  else none

end Progress

/-- How many characters go on with a code, up to the furthest end: the number so far, and the one at
the furthest end so far. -/
def furthest (progress : Progress) (taken best : Nat) : List Char → Nat
  | [] => best
  | c :: cs =>
    match progress.next? c with
    | none => best
    | some next => furthest next (taken + 1) (if next.isWhole then taken + 1 else best) cs

/-- The codes in a text, when some characters at its start belong to one already. -/
def codesAfter : Nat → List Char → List String
  | _, [] => []
  | n + 1, _ :: cs => codesAfter n cs
  | 0, c :: cs =>
    if isIntroducer c then
      match furthest .introduced 0 0 cs with
      | 0 => codesAfter 0 cs
      | n + 1 => String.ofList (c :: cs.take (n + 1)) :: codesAfter (n + 1) cs
    else codesAfter 0 cs

def codes (s : String) : List String := codesAfter 0 s.toList

/-! ## Lines -/

def reset : String := "\x1b[0m"

def held (codes : List String) (code : String) : List String :=
  if code = reset then [] else codes ++ [code]

/-- Lines with the codes that hold at their starts, each closed if codes hold at its end. -/
def carry (active : List String) : List String → List String
  | [] => []
  | line :: rest =>
    let after := (codes line).foldl held active
    (String.join active ++ line ++ (if after.isEmpty then "" else reset)) :: carry after rest

def lines (s : String) : List String := carry [] ((s.toList.splitOn '\n').map String.ofList)

end Rulebook.Text.Style
