import Rulebook.Text.Alphanumeric
import Rulebook.Text.Blank
import Rulebook.Text.Pattern.Basic

/-!
Reading patterns. Most characters stand for themselves; `.` is any character but a line feed, `[…]`
one of a class, `\d`, `\s` and `\w` digits, blanks and parts of words, `^` and `$` the ends of the
text. `*`, `+` and `?` repeat what is before them, and a `?` after one of these makes it seldom
rather than often. `|` separates alternatives, and parentheses group. Counted repetition is not
known.
-/

namespace Rulebook.Text.Pattern

/-! ## Sets -/

def single (c : Char) : CharSet := ⟨false, [⟨c.toNat, c.toNat⟩]⟩

def digitRanges : List CodePointRange := [⟨0x30, 0x39⟩]

def wordRanges : List CodePointRange := ⟨0x5F, 0x5F⟩ :: Alphanumeric.ranges

def letterSet? (c : Char) : Option CharSet :=
  if c = 'd' then some ⟨false, digitRanges⟩
  else if c = 'D' then some ⟨true, digitRanges⟩
  else if c = 's' then some ⟨false, Blank.ranges⟩
  else if c = 'S' then some ⟨true, Blank.ranges⟩
  else if c = 'w' then some ⟨false, wordRanges⟩
  else if c = 'W' then some ⟨true, wordRanges⟩
  else none

def control? (c : Char) : Option Char :=
  if c = 'n' then some '\n'
  else if c = 't' then some '\t'
  else if c = 'r' then some '\r'
  else if c = 'f' then some '\x0c'
  else if c = 'v' then some '\x0b'
  else if c = 'a' then some '\x07'
  else none

def isEscapable (c : Char) : Bool :=
  0x21 ≤ c.toNat && c.toNat ≤ 0x7E && !c.isAlphanum && c ≠ '<' && c ≠ '>'

def escaped? (c : Char) : Option Char := if isEscapable c then some c else control? c

/-! ## Classes -/

/-- A part of a class: a set, or a character that a range may begin with. -/
inductive Part where
  | set (set : CharSet)
  | char (c : Char)

def part? : List Char → Option (Part × List Char)
  | '\\' :: c :: cs =>
    match letterSet? c with
    | some set => some (.set set, cs)
    | none => (escaped? c).map fun c => (.char c, cs)
  | '\\' :: [] => none
  | '[' :: _ => none
  | c :: cs => some (.char c, cs)
  | [] => none

def parts? : Nat → List Char → Option (List CharSet × List Char)
  | 0, _ => none
  | _ + 1, ']' :: cs => some ([], cs)
  | fuel + 1, cs => do
    let (part, rest) ← part? cs
    match part, rest with
    | .set set, _ =>
      let (sets, rest) ← parts? fuel rest
      some (set :: sets, rest)
    | .char c, '-' :: ']' :: rest => some ([single c, single '-'], rest)
    | .char c, '-' :: rest =>
      match ← part? rest with
      | (.set _, _) => none
      | (.char d, rest) =>
        if d < c then none
        else
          let (sets, rest) ← parts? fuel rest
          some (⟨false, [⟨c.toNat, d.toNat⟩]⟩ :: sets, rest)
    | .char c, _ =>
      let (sets, rest) ← parts? fuel rest
      some (single c :: sets, rest)

/-- Reads a class after its negation. A closing bracket at the start stands for itself. -/
def members? (cs : List Char) : Option (List CharSet × List Char) :=
  match cs with
  | ']' :: rest => (parts? rest.length rest).map fun (sets, rest) => (single ']' :: sets, rest)
  | _ => parts? cs.length cs

def class? : List Char → Option (Pattern × List Char)
  | '^' :: cs => (members? cs).map fun (sets, rest) => (.one true sets, rest)
  | cs => (members? cs).map fun (sets, rest) => (.one false sets, rest)

/-! ## Patterns -/

def several (body : Pattern) (greedy : Bool) : Pattern := .sequence body (.many body greedy)

def maybe (body : Pattern) (greedy : Bool) : Pattern :=
  if greedy then .either body .empty else .either .empty body

def repeated (body : Pattern) : List Char → Pattern × List Char
  | '*' :: '?' :: cs => repeated (.many body false) cs
  | '*' :: cs => repeated (.many body true) cs
  | '+' :: '?' :: cs => repeated (several body false) cs
  | '+' :: cs => repeated (several body true) cs
  | '?' :: '?' :: cs => repeated (maybe body false) cs
  | '?' :: cs => repeated (maybe body true) cs
  | cs => (body, cs)

def isMisplaced (c : Char) : Bool := c = '*' || c = '+' || c = '?' || c = '\x7b'

def ofEscaped? (c : Char) : Option Pattern :=
  if c = 'A' then some .start
  else if c = 'z' then some .stop
  else match letterSet? c with
    | some set => some (.one false [set])
    | none => (escaped? c).map fun c => .one false [single c]

mutual

def atom? : Nat → List Char → Option (Pattern × List Char)
  | 0, _ => none
  | _ + 1, [] => none
  | fuel + 1, c :: cs =>
    if isMisplaced c then none
    else if c = '(' then
      match cs with
      | '?' :: ':' :: rest => group? fuel rest
      | '?' :: _ => none
      | _ => group? fuel cs
    else if c = '[' then class? cs
    else if c = '.' then some (.one true [single '\n'], cs)
    else if c = '^' then some (.start, cs)
    else if c = '$' then some (.stop, cs)
    else if c = '\\' then
      match cs with
      | [] => none
      | d :: rest => (ofEscaped? d).map fun pattern => (pattern, rest)
    else some (.one false [single c], cs)

def group? : Nat → List Char → Option (Pattern × List Char)
  | 0, _ => none
  | fuel + 1, cs =>
    match alternatives? fuel cs with
    | some (pattern, ')' :: rest) => some (pattern, rest)
    | _ => none

def sequence? : Nat → List Char → Option (Pattern × List Char)
  | 0, _ => none
  | _ + 1, [] => some (.empty, [])
  | fuel + 1, c :: cs =>
    if c = '|' || c = ')' then some (.empty, c :: cs)
    else do
      let (first, rest) ← atom? fuel (c :: cs)
      let (first, rest) := repeated first rest
      let (second, rest) ← sequence? fuel rest
      some (.sequence first second, rest)

def alternatives? : Nat → List Char → Option (Pattern × List Char)
  | 0, _ => none
  | fuel + 1, cs => do
    let (first, rest) ← sequence? fuel cs
    match rest with
    | '|' :: rest =>
      let (second, rest) ← alternatives? fuel rest
      some (.either first second, rest)
    | _ => some (first, rest)

end

def ofText? (text : String) : Option Pattern :=
  let cs := text.toList
  match alternatives? (4 * cs.length + 4) cs with
  | some (pattern, []) => some pattern
  | _ => none

end Rulebook.Text.Pattern
