import Rulebook.Text.Uppercase.Table

/-!
Upper-casing of texts by the full mappings of Unicode: every character on its own, some of them to
several characters, independently of any language.
-/

namespace Rulebook.Text

namespace Uppercase

def Run.contains (r : Run) (c : Nat) : Bool :=
  r.first ≤ c && c ≤ r.last && (c - r.first) % r.step == 0

def Run.map (r : Run) (c : Nat) : Nat := r.image + (c - r.first)

def ofChar (c : Char) : List Char :=
  match runs.find? (·.contains c.toNat) with
  | some run => [Char.ofNat (run.map c.toNat)]
  | none =>
    match expansions.lookup c.toNat with
    | some images => images.map Char.ofNat
    | none => [c]

end Uppercase

def upper (s : String) : String := String.ofList (s.toList.flatMap Uppercase.ofChar)

end Rulebook.Text
