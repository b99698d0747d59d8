import Rulebook.Proofs.Java.Forms

/-!
What the classes of registrars say about rules, read off their sources without any regard to how
they were made: which routines there are and what they create, which of them the body of `define`
calls, and which rules are activated.
-/

set_option maxRecDepth 4000

namespace Rulebook.Registrar

open Rulebook.Java
open Rulebook.Text (CodeUnit)

inductive StatementKind where
  | call
  | opening
  | closing
  | declaration
  | creation
  | repository
  | profile
  | activation
deriving DecidableEq, Repr

namespace StatementKind

def all : List StatementKind :=
  [.call, .opening, .closing, .declaration, .creation, .repository, .profile, .activation]

def form : StatementKind → String
  | call => "_ ( repository ) ;"
  | opening => "public void define ( Context context ) \x7b"
  | closing => "\x7d"
  | declaration => "private static void _ ( NewRepository repository ) \x7b"
  | creation => "NewRule rule = repository . createRule ( \"\" )"
  | repository => ". createRepository ( \"\" , \"\" )"
  | profile =>
    "NewBuiltInQualityProfile profile = context . createBuiltInQualityProfile ( \"\" , \"\" ) ;"
  | activation => "profile . activateRule ( \"\" , \"\" ) ;"

end StatementKind

/-- A line with the units of the words and literals in its places. -/
structure Statement where
  kind : StatementKind
  values : List (List CodeUnit)
deriving DecidableEq, Repr

def Statement.ofTokens? (tokens : List Token) : Option Statement :=
  StatementKind.all.findSome? fun kind =>
    (Slot.read? (Slot.ofForm kind.form) tokens).map (⟨kind, ·⟩)

def Statement.ofLine? (line : List Char) : Option Statement :=
  (lineTokens? line).bind Statement.ofTokens?

def statements (source : String) : List Statement := (linesOf source).filterMap Statement.ofLine?

def said (kind : StatementKind) (statements : List Statement) : List (List (List CodeUnit)) :=
  statements.filterMap fun s => if s.kind = kind then some s.values else none

/-- The statements up to the next closing brace. -/
def bodyOf (statements : List Statement) : List Statement :=
  statements.takeWhile (·.kind ≠ .closing)

def definition (statements : List Statement) : List Statement :=
  bodyOf (statements.dropWhile (·.kind ≠ .opening)).tail

structure Routine where
  name : List CodeUnit
  creates : List (List (List CodeUnit))
deriving DecidableEq, Repr

def routines : List Statement → List Routine
  | [] => []
  | ⟨.declaration, [name]⟩ :: rest => ⟨name, said .creation (bodyOf rest)⟩ :: routines rest
  | _ :: rest => routines rest

/-! ## Statements of tokens -/

/-- The forms as lists of characters. Evaluation takes them out of their strings here, and nowhere
else. -/
def formChars : {chars : StatementKind → List Char //
    ∀ kind : StatementKind, kind.form = String.ofList (chars kind)} where
  val
    | .call => _
    | .opening => _
    | .closing => _
    | .declaration => _
    | .creation => _
    | .repository => _
    | .profile => _
    | .activation => _
  property
    | .call => rfl
    | .opening => rfl
    | .closing => rfl
    | .declaration => rfl
    | .creation => rfl
    | .repository => rfl
    | .profile => rfl
    | .activation => rfl

theorem ofForm_eq (kind : StatementKind) :
    Slot.ofForm kind.form = ((formChars.1 kind).splitOn ' ').map Slot.ofPart := by
  rw [formChars.2, Slot.ofForm_ofList]

theorem ofTokens?_eq (tokens : List Token) :
    Statement.ofTokens? tokens = StatementKind.all.findSome? fun kind =>
      (Slot.read? (((formChars.1 kind).splitOn ' ').map Slot.ofPart) tokens).map (⟨kind, ·⟩) := by
  simp only [Statement.ofTokens?, ofForm_eq]

theorem read?_of_ofTokens? {tokens : List Token} {s : Statement}
    (h : Statement.ofTokens? tokens = some s) :
    Slot.read? (Slot.ofForm s.kind.form) tokens = some s.values := by
  obtain ⟨kind, -, hkind⟩ := List.exists_of_findSome?_eq_some h
  obtain ⟨values, hvalues, rfl⟩ := Option.map_eq_some_iff.1 hkind
  exact hvalues

/-! ## Statements of lines -/

/-- What a line of a source that is being written will say. -/
def statement? (line : Line) : Option Statement := Statement.ofLine? line.render.toList

theorem statement?_of_lineSpells {line : Line} {ts : List Token} (h : LineSpells line ts) :
    statement? line = Statement.ofTokens? ts := by
  rw [statement?, Statement.ofLine?, lineTokens?_of_lineSpells h]
  rfl

@[simp] theorem statement?_blank : statement? Line.blank = none := by
  have hblank : LineSpells Line.blank [] := Spells.ofCode rfl rfl
  rw [statement?_of_lineSpells hblank, ofTokens?_eq]
  rfl

theorem statements_renderLines {lines : List Line} (h : ∀ line ∈ lines, IsSingle line) :
    statements (renderLines lines) = lines.filterMap statement? := by
  -- Behind the last line end there is nothing.
  have hend : [[]].filterMap Statement.ofLine? = [] :=
    List.filterMap_cons_none (l := []) statement?_blank
  rw [statements, linesOf_renderLines h, List.filterMap_append, hend, List.append_nil,
    List.filterMap_map]
  rfl

theorem filterMap_statement? {lines : List Line} {groups : List (List Token)}
    (h : List.Forall₂ LineSpells lines groups) :
    lines.filterMap statement? = groups.filterMap Statement.ofTokens? := by
  induction h with
  | nil => rfl
  | cons hline _ ih =>
    rw [List.filterMap_cons, List.filterMap_cons, statement?_of_lineSpells hline, ih]

/-- Whatever stands behind the start of a line, it can only be of a kind whose form starts
likewise. -/
theorem read?_of_start {before name after : String} {ts : List Token} {s : Statement}
    (hbefore : Spells before.toList ts)
    (h : statement? (Line.ofCode (before ++ name ++ after)) = some s) :
    ∃ others, Slot.read? (Slot.ofForm s.kind.form) (ts ++ others) = some s.values := by
  rw [statement?, Statement.ofLine?, toList_render_ofCode, String.toList_append,
    String.toList_append, List.append_assoc] at h
  obtain ⟨all, hall, hof⟩ := Option.bind_eq_some_iff.1 h
  obtain ⟨others, rfl⟩ := lineTokens?_start hbefore hall
  exact ⟨others, read?_of_ofTokens? hof⟩

/-! ## What statements say -/

@[simp] theorem said_append (kind : StatementKind) (ss others : List Statement) :
    said kind (ss ++ others) = said kind ss ++ said kind others := List.filterMap_append

theorem said_cons_self (kind : StatementKind) (values : List (List CodeUnit))
    (others : List Statement) : said kind (⟨kind, values⟩ :: others) = values :: said kind others :=
  List.filterMap_cons_some (if_pos rfl)

theorem said_cons_of_ne {kind : StatementKind} {s : Statement} (h : s.kind ≠ kind)
    (others : List Statement) : said kind (s :: others) = said kind others :=
  List.filterMap_cons_none (if_neg h)

theorem said_eq_nil {kind : StatementKind} {ss : List Statement} (h : ∀ s ∈ ss, s.kind ≠ kind) :
    said kind ss = [] := by
  rw [said, List.filterMap_eq_nil_iff]
  exact fun s hs => if_neg (h s hs)

@[simp] theorem said_map {α : Type} (kind : StatementKind) (values : α → List (List CodeUnit))
    (xs : List α) : said kind (xs.map fun x => ⟨kind, values x⟩) = xs.map values := by
  rw [said, List.filterMap_map, ← List.filterMap_eq_map]
  refine congrArg (List.filterMap · xs) (funext fun x => ?_)
  exact if_pos rfl

theorem said_map_of_ne {α : Type} {kind other : StatementKind} (h : other ≠ kind)
    (values : α → List (List CodeUnit)) (xs : List α) :
    said kind (xs.map fun x => ⟨other, values x⟩) = [] := by
  refine said_eq_nil fun s hs => ?_
  obtain ⟨x, -, rfl⟩ := List.mem_map.1 hs
  exact h

theorem bodyOf_append_closing {ss : List Statement} (h : ∀ s ∈ ss, s.kind ≠ .closing)
    (values : List (List CodeUnit)) (others : List Statement) :
    bodyOf (ss ++ ⟨.closing, values⟩ :: others) = ss := by
  have hall : ∀ s ∈ ss, decide (s.kind ≠ .closing) = true := fun s hs => decide_eq_true (h s hs)
  rw [bodyOf, List.takeWhile_append_of_pos hall, List.takeWhile_cons_of_neg (by simp),
    List.append_nil]

theorem definition_of_opening {ss : List Statement} (h : ∀ s ∈ ss, s.kind ≠ .opening)
    (values : List (List CodeUnit)) (others : List Statement) :
    definition (ss ++ ⟨.opening, values⟩ :: others) = bodyOf others := by
  have hall : ∀ s ∈ ss, decide (s.kind ≠ .opening) = true := fun s hs => decide_eq_true (h s hs)
  rw [definition, List.dropWhile_append_of_pos hall, List.dropWhile_cons_of_neg (by simp),
    List.tail_cons]

theorem routines_cons_of_ne {s : Statement} (h : s.kind ≠ .declaration)
    (others : List Statement) : routines (s :: others) = routines others := by
  rw [routines]
  rintro name rfl
  exact h rfl

theorem routines_append {ss : List Statement} (h : ∀ s ∈ ss, s.kind ≠ .declaration)
    (others : List Statement) : routines (ss ++ others) = routines others := by
  induction ss with
  | nil => rfl
  | cons s rest ih =>
    obtain ⟨hs, hrest⟩ := List.forall_mem_cons.1 h
    rw [List.cons_append, routines_cons_of_ne hs, ih hrest]

end Rulebook.Registrar
