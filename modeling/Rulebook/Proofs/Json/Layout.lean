import Rulebook.Json.Printer
import Rulebook.Proofs.Json.Reading
import Rulebook.Proofs.Text.Hex

/-!
What is printed for a value spells the value, without blanks as well as with one item per line. So
both layouts of a value are read as the same tree.
-/

namespace Rulebook.Json

open Rulebook.Text

/-! ## Strings -/

/-- Whether a control character is escaped by a letter of its own. -/
def hasLetter (c : Char) : Bool :=
  c == '\x08' || c == '\x0c' || c == '\n' || c == '\r' || c == '\t'

def pieceOf (c : Char) : Piece :=
  if c.toNat < 0x20 ∧ hasLetter c = false then .unit (UInt16.ofNat c.toNat) else .char c

def piecesOf (s : String) : List Piece := s.toList.map pieceOf

theorem pieceOf_spelled (c : Char) : (pieceOf c).Spelled (escapeChar c) := by
  have hchar (h : ¬ (c.toNat < 0x20 ∧ hasLetter c = false)) : pieceOf c = .char c := if_neg h
  unfold escapeChar
  split_ifs with hquote hbackslash hb hf hn hr ht hcontrol
  · subst hquote; exact .short rfl
  · subst hbackslash; exact .short rfl
  · subst hb; exact .short rfl
  · subst hf; exact .short rfl
  · subst hn; exact .short rfl
  · subst hr; exact .short rfl
  · subst ht; exact .short rfl
  · -- Control characters without a letter are written as four digits.
    have hletter : hasLetter c = false := by simp [hasLetter, hb, hf, hn, hr, ht]
    rw [pieceOf, if_pos ⟨hcontrol, hletter⟩]
    exact .unit (Hex.four?_digits Hex.value?_lower (by omega))
  · rw [hchar fun h => hcontrol h.1]
    exact .plain (Nat.not_lt.1 hcontrol) hquote hbackslash

theorem piecesOf_spelled (s : String) :
    PiecesSpelled (piecesOf s) (s.toList.flatMap escapeChar) := by
  unfold piecesOf
  induction s.toList with
  | nil => exact .nil
  | cons c cs ih =>
    rw [List.map_cons, List.flatMap_cons]
    exact .cons (pieceOf_spelled c) ih

@[simp] theorem spelled?_pieceOf (c : Char) (before : List Char) (rest : List Piece) :
    spelled? before (pieceOf c :: rest) = spelled? (c :: before) rest := by
  unfold pieceOf
  split_ifs with h
  · -- A control character is no surrogate.
    have hunit : (UInt16.ofNat c.toNat).toNat = c.toNat := by
      rw [UInt16.toNat_ofNat']
      omega
    have hhigh : CodeUnit.isHighSurrogate (UInt16.ofNat c.toNat) = false := by
      simp [CodeUnit.isHighSurrogate, UInt16.le_iff_toNat_le, hunit]
      omega
    have hlow : CodeUnit.isLowSurrogate (UInt16.ofNat c.toNat) = false := by
      simp [CodeUnit.isLowSurrogate, UInt16.le_iff_toNat_le, hunit]
      omega
    rw [spelled?.eq_def]
    simp only [hhigh, hlow, Bool.false_eq_true, if_false, CodeUnit.toChar, hunit, Char.ofNat_toNat]
  · rw [spelled?]

@[simp] theorem text?_piecesOf (s : String) : text? (piecesOf s) = some s := by
  -- The reader holds what it has read in reverse.
  have hspelled (cs before : List Char) :
      spelled? before (cs.map pieceOf) = some (before.reverse ++ cs) := by
    induction cs generalizing before with
    | nil => simp [spelled?]
    | cons c cs ih => simp [ih]
  simp [text?, piecesOf, hspelled]

/-! ## Items and members -/

inductive MemberPrinted : List Piece × Tree → List Char → Prop
  | mk {name : List Piece} {tree : Tree} {ns between cs : List Char} :
      PiecesSpelled name ns → AreBlanks between → tree.Spelled cs →
      MemberPrinted (name, tree) ('"' :: (ns ++ '"' :: ':' :: (between ++ cs)))

theorem areBlanks_nil : AreBlanks [] := fun _ h => absurd h List.not_mem_nil

section Separated

variable {lead trail : List Char}

theorem separated_cons_cons (separator text next : List Char) (rest : List (List Char)) :
    separated separator (text :: next :: rest) =
      text ++ (separator ++ separated separator (next :: rest)) := by
  simp only [separated, List.intersperse_cons_cons, List.flatten_cons]

@[simp]
theorem separated_singleton (separator text : List Char) : separated separator [text] = text := by
  simp [separated]

/-- Spelled items spell the items of an array when they are separated by commas, each of them with
the same blanks before it. -/
theorem itemsSpelled_separated (hlead : AreBlanks lead) (htrail : AreBlanks trail) {item : Tree}
    {items : List Tree} {text : List Char} {texts : List (List Char)}
    (h : List.Forall₂ Tree.Spelled (item :: items) (text :: texts)) :
    ItemsSpelled (item :: items) (lead ++ (separated (',' :: lead) (text :: texts) ++ trail)) := by
  induction items generalizing item text texts with
  | nil =>
    cases h with
    | cons hitem hrest =>
      cases hrest
      rw [separated_singleton]
      exact .one hlead hitem htrail
  | cons next items ih =>
    cases h with
    | cons hitem hrest =>
      cases texts with
      | nil => cases hrest
      | cons other texts =>
        rw [separated_cons_cons, List.append_assoc, List.cons_append, List.cons_append,
          List.append_assoc]
        exact .more hlead hitem areBlanks_nil (ih hrest)

theorem membersSpelled_separated (hlead : AreBlanks lead) (htrail : AreBlanks trail)
    {member : List Piece × Tree} {members : List (List Piece × Tree)} {text : List Char}
    {texts : List (List Char)}
    (h : List.Forall₂ MemberPrinted (member :: members) (text :: texts)) :
    MembersSpelled (member :: members)
      (lead ++ (separated (',' :: lead) (text :: texts) ++ trail)) := by
  induction members generalizing member text texts with
  | nil =>
    cases h with
    | cons hmember hrest =>
      cases hrest
      cases hmember with
      | mk hname hbetween htree =>
        have hone := MembersSpelled.one hlead hname areBlanks_nil hbetween htree htrail
        rw [separated_singleton]
        simpa only [List.cons_append, List.append_assoc, List.nil_append] using hone
  | cons next members ih =>
    cases h with
    | cons hmember hrest =>
      cases texts with
      | nil => cases hrest
      | cons other texts =>
        cases hmember with
        | mk hname hbetween htree =>
          have hmore := MembersSpelled.more hlead hname areBlanks_nil hbetween htree areBlanks_nil
            (ih hrest)
          rw [separated_cons_cons]
          simpa only [List.cons_append, List.append_assoc, List.nil_append] using hmore

end Separated

/-! ## Values -/

mutual

/-- The tree that a value is printed as, if there is no number in it. -/
def Value.tree? : Value → Option Tree
  | .null => some .null
  | .bool b => some (.bool b)
  | .number _ => none
  | .string s => some (.string (piecesOf s))
  | .array items => (trees? items).map .array
  | .object members => (members? members).map .object

def Value.trees? : List Value → Option (List Tree)
  | [] => some []
  | value :: rest =>
    match value.tree?, trees? rest with
    | some tree, some trees => some (tree :: trees)
    | _, _ => none

def Value.members? : List (String × Value) → Option (List (List Piece × Tree))
  | [] => some []
  | (name, value) :: rest =>
    match value.tree?, members? rest with
    | some tree, some members => some ((piecesOf name, tree) :: members)
    | _, _ => none

end

theorem block_cons (opening closing : Char) (depth : Nat) (text : List Char)
    (texts : List (List Char)) :
    block opening closing depth (text :: texts) =
      opening :: ((lineBreak (depth + 1) ++
        (separated (',' :: lineBreak (depth + 1)) (text :: texts) ++ lineBreak depth)) ++
          [closing]) := by
  simp only [block, List.isEmpty_cons, Bool.false_eq_true, if_false, List.append_assoc]

theorem areBlanks_lineBreak (depth : Nat) : AreBlanks (lineBreak depth) := by
  intro c hc
  rcases List.mem_cons.1 hc with rfl | hc
  · rfl
  · rw [List.eq_of_mem_replicate hc]
    rfl

section Containers

variable {items : List Tree} {members : List (List Piece × Tree)} {texts : List (List Char)}

theorem array_compact (h : List.Forall₂ Tree.Spelled items texts) :
    (Tree.array items).Spelled ('[' :: (separated [','] texts ++ [']'])) := by
  cases h with
  | nil => exact .emptyArray areBlanks_nil
  | cons hitem hitems =>
    have hall := itemsSpelled_separated areBlanks_nil areBlanks_nil (.cons hitem hitems)
    rw [List.nil_append, List.append_nil] at hall
    exact .array hall

theorem array_block (h : List.Forall₂ Tree.Spelled items texts) (depth : Nat) :
    (Tree.array items).Spelled (block '[' ']' depth texts) := by
  cases h with
  | nil => exact .emptyArray areBlanks_nil
  | cons hitem hitems =>
    rw [block_cons]
    exact .array (itemsSpelled_separated (areBlanks_lineBreak _) (areBlanks_lineBreak _)
      (.cons hitem hitems))

theorem object_compact (h : List.Forall₂ MemberPrinted members texts) :
    (Tree.object members).Spelled ('{' :: (separated [','] texts ++ ['}'])) := by
  cases h with
  | nil => exact .emptyObject areBlanks_nil
  | cons hmember hmembers =>
    have hall := membersSpelled_separated areBlanks_nil areBlanks_nil (.cons hmember hmembers)
    rw [List.nil_append, List.append_nil] at hall
    exact .object hall

theorem object_block (h : List.Forall₂ MemberPrinted members texts) (depth : Nat) :
    (Tree.object members).Spelled (block '{' '}' depth texts) := by
  cases h with
  | nil => exact .emptyObject areBlanks_nil
  | cons hmember hmembers =>
    rw [block_cons]
    exact .object (membersSpelled_separated (areBlanks_lineBreak _) (areBlanks_lineBreak _)
      (.cons hmember hmembers))

end Containers

theorem memberPrinted_quoted {tree : Tree} {cs between : List Char} (name : String)
    (hbetween : AreBlanks between) (h : tree.Spelled cs) :
    MemberPrinted (piecesOf name, tree) (quoted name ++ ':' :: (between ++ cs)) := by
  have hmember := MemberPrinted.mk (piecesOf_spelled name) hbetween h
  simpa only [quoted, List.cons_append, List.append_assoc, List.nil_append] using hmember

theorem quoted_spelled (s : String) : (Tree.string (piecesOf s)).Spelled (quoted s) :=
  .string (piecesOf_spelled s)

mutual

/-- Both layouts of a value spell its tree. -/
theorem Value.spelled {value : Value} {tree : Tree} (h : value.tree? = some tree) :
    tree.Spelled value.compactChars ∧ ∀ depth, tree.Spelled (value.prettyChars depth) := by
  match value with
  | .null =>
    cases h
    exact ⟨.nullWord, fun _ => .nullWord⟩
  | .bool true =>
    cases h
    exact ⟨.trueWord, fun _ => .trueWord⟩
  | .bool false =>
    cases h
    exact ⟨.falseWord, fun _ => .falseWord⟩
  -- Rules have no numbers, and no tree is given for one.
  | .number n => cases h
  | .string s =>
    cases h
    exact ⟨quoted_spelled s, fun _ => quoted_spelled s⟩
  | .array items =>
    obtain ⟨trees, htrees, rfl⟩ := Option.map_eq_some_iff.1 h
    obtain ⟨hcompact, hpretty⟩ := Value.items_spelled htrees
    exact ⟨array_compact hcompact, fun depth => array_block (hpretty (depth + 1)) depth⟩
  | .object members =>
    obtain ⟨trees, htrees, rfl⟩ := Option.map_eq_some_iff.1 h
    obtain ⟨hcompact, hpretty⟩ := Value.members_printed htrees
    exact ⟨object_compact hcompact, fun depth => object_block (hpretty (depth + 1)) depth⟩

theorem Value.items_spelled {items : List Value} {trees : List Tree}
    (h : trees? items = some trees) :
    List.Forall₂ Tree.Spelled trees (compactItems items) ∧
      ∀ depth, List.Forall₂ Tree.Spelled trees (prettyItems depth items) := by
  match items with
  | [] =>
    cases h
    exact ⟨.nil, fun _ => .nil⟩
  | value :: rest =>
    rw [trees?] at h
    split at h
    · next tree others hvalue hrest =>
      cases h
      obtain ⟨hcompact, hpretty⟩ := Value.spelled hvalue
      obtain ⟨hcompacts, hpretties⟩ := Value.items_spelled hrest
      exact ⟨.cons hcompact hcompacts, fun depth => .cons (hpretty depth) (hpretties depth)⟩
    · cases h

theorem Value.members_printed {members : List (String × Value)}
    {trees : List (List Piece × Tree)} (h : members? members = some trees) :
    List.Forall₂ MemberPrinted trees (compactMembers members) ∧
      ∀ depth, List.Forall₂ MemberPrinted trees (prettyMembers depth members) := by
  match members with
  | [] =>
    cases h
    exact ⟨.nil, fun _ => .nil⟩
  | (name, value) :: rest =>
    rw [members?] at h
    split at h
    · next tree others hvalue hrest =>
      cases h
      obtain ⟨hcompact, hpretty⟩ := Value.spelled hvalue
      obtain ⟨hcompacts, hpretties⟩ := Value.members_printed hrest
      have hblank : AreBlanks [' '] := fun c hc => by
        rw [List.mem_singleton.1 hc]
        rfl
      exact ⟨.cons (memberPrinted_quoted name areBlanks_nil hcompact) hcompacts,
        fun depth => .cons (memberPrinted_quoted name hblank (hpretty depth)) (hpretties depth)⟩
    · cases h

end

/-- Both layouts of a value are read as its tree, blanks behind them included. -/
theorem Value.ofText?_printed {value : Value} {tree : Tree} (h : value.tree? = some tree) :
    Tree.ofText? value.compact = some tree ∧ Tree.ofText? (value.pretty ++ "\n") = some tree := by
  obtain ⟨hcompact, hpretty⟩ := Value.spelled h
  have hbreak : AreBlanks ['\n'] := fun c hc => by
    rw [List.mem_singleton.1 hc]
    rfl
  constructor
  · have hread := Tree.ofChars?_of_spelled areBlanks_nil hcompact areBlanks_nil
    rwa [List.nil_append, List.append_nil,
      ← String.toList_ofList (l := value.compactChars)] at hread
  · have hread := Tree.ofChars?_of_spelled areBlanks_nil (hpretty 0) hbreak
    rw [Tree.ofText?, String.toList_append, Value.pretty, String.toList_ofList]
    exact hread

end Rulebook.Json
