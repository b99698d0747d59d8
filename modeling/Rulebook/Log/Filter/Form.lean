import Rulebook.Text.Alphanumeric
import Rulebook.Text.Blank

/-!
The form of a directive: where its parts stand in its text. Each part is there as it is needed: the
start of an area, a span in brackets with a field in braces, and a level after an equals sign, as in
`start[span{field=value}]=level`. A lone word is a level or the start of an area.

Blanks around a directive are not part of its form, and yet they belong to its text: its parts are
cut out of the text with the blanks, at the places where they stand in the text without them.
-/

namespace Rulebook.Log.Filter

/-! ## Places -/

/-- A stretch of a text, in bytes, up to its end if there is no other. -/
structure Place where
  start : Nat
  stop : Option Nat
deriving DecidableEq, Repr, Inhabited

def bytes (cs : List Char) : Nat := (cs.map Char.utf8Size).foldr (· + ·) 0

/-- What is left after some bytes, unless they end inside a character. -/
def dropBytes? : Nat → List Char → Option (List Char)
  | 0, cs => some cs
  | _ + 1, [] => none
  | n + 1, c :: cs => if c.utf8Size ≤ n + 1 then dropBytes? (n + 1 - c.utf8Size) cs else none

def takeBytes? : Nat → List Char → Option (List Char)
  | 0, _ => some []
  | _ + 1, [] => none
  | n + 1, c :: cs =>
    if c.utf8Size ≤ n + 1 then (takeBytes? (n + 1 - c.utf8Size) cs).map (c :: ·) else none

def Place.cut? (place : Place) (text : List Char) : Option (List Char) :=
  match dropBytes? place.start text, place.stop with
  | none, _ => none
  | some rest, none => some rest
  | some rest, some stop => takeBytes? (stop - place.start) rest

/-! ## Forms -/

inductive Form where
  /-- A level or the start of an area. -/
  | word (word : Place)
  | parts (start span field level : Option Place)
deriving DecidableEq, Repr, Inhabited

/-- Whether a directive may begin with a character other than a bracket. -/
def mayBegin (c : Char) : Bool := c = '-' || c = ':' || c = '_' || Text.isAlphanumeric c

/-- The level after a span, at some offset: nothing or an equals sign stands before it. -/
def levelPlace? (offset : Nat) : List Char → Option (Option Place)
  | [] => some none
  | '=' :: _ => some (some ⟨offset + 1, none⟩)
  | _ => none

def spanForm? (start : Option Place) (offset : Nat) (cs : List Char) : Option Form :=
  let name := cs.takeWhile fun c => c ≠ ']' && c ≠ '\x7b'
  let stop := offset + bytes name
  match cs.drop name.length with
  | [] => none
  | ']' :: rest =>
    (levelPlace? (stop + 1) rest).map fun level =>
      .parts start (some ⟨offset, some stop⟩) none level
  | _ :: rest =>
    let field := rest.takeWhile (· ≠ '\x7d')
    let fieldStop := stop + 1 + bytes field
    match field, rest.drop field.length with
    | _ :: _, _ :: ']' :: rest =>
      (levelPlace? (fieldStop + 2) rest).map fun level =>
        .parts start (if name.isEmpty then none else some ⟨offset, some stop⟩)
          (some ⟨stop + 1, some fieldStop⟩) level
    | _, _ => none

def form? (cs : List Char) : Option Form :=
  match cs with
  | '[' :: rest => spanForm? none 1 rest
  | _ =>
    if !cs.head?.any mayBegin then none
    else
      let start := cs.takeWhile fun c => c ≠ '=' && c ≠ '['
      let stop := bytes start
      match cs.drop start.length with
      | [] => some (.word ⟨0, none⟩)
      | '[' :: rest => spanForm? (some ⟨0, some stop⟩) (stop + 1) rest
      | _ :: _ => some (.parts (some ⟨0, some stop⟩) none none (some ⟨stop + 1, none⟩))

end Rulebook.Log.Filter
