import Rulebook.Json.Tree

/-!
The grammar of JSON texts, as rules that say which characters spell a tree. Blanks stand around
values and names, and nowhere else.
-/

namespace Rulebook.Json

open Rulebook.Text

/-! ## Strings -/

inductive Piece.Spelled : Piece → List Char → Prop
  | plain {c : Char} : 0x20 ≤ c.toNat → c ≠ '"' → c ≠ '\\' → Spelled (.char c) [c]
  | short {letter c : Char} : shortEscape? letter = some c → Spelled (.char c) ['\\', letter]
  | unit {a b c d : Char} {n : Nat} :
      Hex.four? a b c d = some n → Spelled (.unit (UInt16.ofNat n)) ['\\', 'u', a, b, c, d]

inductive PiecesSpelled : List Piece → List Char → Prop
  | nil : PiecesSpelled [] []
  | cons {piece : Piece} {pieces : List Piece} {cs rest : List Char} :
      piece.Spelled cs → PiecesSpelled pieces rest → PiecesSpelled (piece :: pieces) (cs ++ rest)

/-! ## Numbers -/

def AreDigits (cs : List Char) : Prop := cs ≠ [] ∧ ∀ c ∈ cs, isDigit c = true

inductive WholeSpelled : List Nat → List Char → Prop
  | zero : WholeSpelled [0] ['0']
  | digits {c : Char} {cs : List Char} :
      c ≠ '0' → AreDigits (c :: cs) → WholeSpelled ((c :: cs).map digitValue) (c :: cs)

inductive FractionSpelled : List Nat → List Char → Prop
  | absent : FractionSpelled [] []
  | digits {cs : List Char} : AreDigits cs → FractionSpelled (cs.map digitValue) ('.' :: cs)

/-- The characters that spell a sign. A plus may be left out. -/
inductive SignSpelled : Bool → List Char → Prop
  | absent : SignSpelled false []
  | plus : SignSpelled false ['+']
  | minus : SignSpelled true ['-']

inductive ExponentSpelled : Option Exponent → List Char → Prop
  | absent : ExponentSpelled none []
  | digits {e : Char} {negative : Bool} {sign cs : List Char} :
      e = 'e' ∨ e = 'E' → SignSpelled negative sign → AreDigits cs →
      ExponentSpelled (some ⟨negative, cs.map digitValue⟩) (e :: (sign ++ cs))

inductive Numeral.Spelled : Numeral → List Char → Prop
  | mk {negative : Bool} {whole fraction : List Nat} {exponent : Option Exponent}
      {cs ds es : List Char} :
      WholeSpelled whole cs → FractionSpelled fraction ds → ExponentSpelled exponent es →
      Spelled ⟨negative, whole, fraction, exponent⟩
        ((if negative then ['-'] else []) ++ (cs ++ (ds ++ es)))

/-! ## Values -/

def AreBlanks (cs : List Char) : Prop := ∀ c ∈ cs, isBlank c = true

mutual

/-- The characters that spell a value, without blanks around it. -/
inductive Tree.Spelled : Tree → List Char → Prop
  | nullWord : Tree.Spelled .null ['n', 'u', 'l', 'l']
  | trueWord : Tree.Spelled (.bool true) ['t', 'r', 'u', 'e']
  | falseWord : Tree.Spelled (.bool false) ['f', 'a', 'l', 's', 'e']
  | number {n : Numeral} {cs : List Char} : n.Spelled cs → Tree.Spelled (.number n) cs
  | string {pieces : List Piece} {cs : List Char} :
      PiecesSpelled pieces cs → Tree.Spelled (.string pieces) ('"' :: (cs ++ ['"']))
  | emptyArray {ws : List Char} : AreBlanks ws → Tree.Spelled (.array []) ('[' :: (ws ++ [']']))
  | array {items : List Tree} {cs : List Char} :
      ItemsSpelled items cs → Tree.Spelled (.array items) ('[' :: (cs ++ [']']))
  | emptyObject {ws : List Char} : AreBlanks ws → Tree.Spelled (.object []) ('{' :: (ws ++ ['}']))
  | object {members : List (List Piece × Tree)} {cs : List Char} :
      MembersSpelled members cs → Tree.Spelled (.object members) ('{' :: (cs ++ ['}']))

/-- The characters that spell the items of an array, of which there is one at least. -/
inductive ItemsSpelled : List Tree → List Char → Prop
  | one {item : Tree} {before cs after : List Char} :
      AreBlanks before → item.Spelled cs → AreBlanks after →
      ItemsSpelled [item] (before ++ (cs ++ after))
  | more {item : Tree} {items : List Tree} {before cs after rest : List Char} :
      AreBlanks before → item.Spelled cs → AreBlanks after → ItemsSpelled items rest →
      ItemsSpelled (item :: items) (before ++ (cs ++ (after ++ ',' :: rest)))

inductive MembersSpelled : List (List Piece × Tree) → List Char → Prop
  | one {name : List Piece} {tree : Tree} {before ns middle between cs after : List Char} :
      AreBlanks before → PiecesSpelled name ns → AreBlanks middle → AreBlanks between →
      tree.Spelled cs → AreBlanks after →
      MembersSpelled [(name, tree)]
        (before ++ '"' :: (ns ++ '"' :: (middle ++ ':' :: (between ++ (cs ++ after)))))
  | more {name : List Piece} {tree : Tree} {members : List (List Piece × Tree)}
      {before ns middle between cs after rest : List Char} :
      AreBlanks before → PiecesSpelled name ns → AreBlanks middle → AreBlanks between →
      tree.Spelled cs → AreBlanks after → MembersSpelled members rest →
      MembersSpelled ((name, tree) :: members)
        (before ++ '"' :: (ns ++ '"' :: (middle ++ ':' :: (between ++
          (cs ++ (after ++ ',' :: rest))))))

end

end Rulebook.Json
