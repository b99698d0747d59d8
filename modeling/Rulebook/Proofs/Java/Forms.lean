import Rulebook.Proofs.Java.Lines

/-!
Reading a source line by line: a line says something if its tokens have a known form, with places
that any word or any literal may take. What stands on one line has no effect on the others, not even
if it cannot be read.
-/

namespace Rulebook.Java

open Rulebook.Text

/-! ## Forms -/

inductive Slot where
  | fixed (token : Token)
  | word
  | text
deriving DecidableEq, Repr

namespace Slot

/-- `_` is a place for a word, `""` one for a literal. -/
def ofPart (part : List Char) : Slot :=
  if part = ['_'] then .word
  else if part = ['"', '"'] then .text
  else .fixed (Token.ofPart part)

def ofForm (form : String) : List Slot := (form.toList.splitOn ' ').map ofPart

/-- The units of the words and literals that take the places of a form. -/
def read? : List Slot → List Token → Option (List (List CodeUnit))
  | [], [] => some []
  | .fixed token :: slots, other :: tokens => if token = other then read? slots tokens else none
  | .word :: slots, .word units :: tokens => (read? slots tokens).map (units :: ·)
  | .text :: slots, .text value :: tokens => (read? slots tokens).map (value :: ·)
  | _, _ => none

theorem ofForm_ofList (cs : List Char) :
    ofForm (String.ofList cs) = (cs.splitOn ' ').map ofPart := by
  rw [ofForm, String.toList_ofList]

end Slot

/-! ## Lines of a source -/

def linesOf (source : String) : List (List Char) := source.toList.splitOn '\n'

def lineTokens? (line : List Char) : Option (List Token) :=
  (tokens (String.ofList (line ++ ['\n']))).toOption

/-- The line is one line: no line feed stands on it. -/
def IsSingle (line : Line) : Prop := '\n' ∉ line.render.toList

theorem linesOf_renderLines {lines : List Line} (h : ∀ line ∈ lines, IsSingle line) :
    linesOf (renderLines lines) = lines.map (·.render.toList) ++ [[]] := by
  rw [linesOf, toList_renderLines]
  induction lines with
  | nil => rfl
  | cons line rest ih =>
    obtain ⟨hline, hrest⟩ := List.forall_mem_cons.1 h
    rw [List.flatMap_cons, List.append_assoc, List.singleton_append,
      List.splitOn_append_cons_self_of_not_mem hline, ih hrest, List.map_cons, List.cons_append]

/-- Lines with one source are written alike, one by one. -/
theorem map_render_of_renderLines {lines others : List Line} (hlines : ∀ l ∈ lines, IsSingle l)
    (hothers : ∀ l ∈ others, IsSingle l) (h : renderLines lines = renderLines others) :
    lines.map Line.render = others.map Line.render := by
  have hchars := linesOf_renderLines hlines
  rw [h, linesOf_renderLines hothers, List.append_cancel_right_eq] at hchars
  refine List.map_injective_iff.2 (fun s t => String.toList_inj.1) ?_
  rw [List.map_map, List.map_map]
  exact hchars.symm

theorem lineTokens?_of_lineSpells {line : Line} {ts : List Token} (h : LineSpells line ts) :
    lineTokens? line.render.toList = some ts := by
  have hspells : Spells (String.ofList (line.render.toList ++ ['\n'])).toList ts := by
    rw [String.toList_ofList]
    exact h
  rw [lineTokens?, tokens_of_spells hspells]
  rfl

theorem tokens_start_of_run {mode middle last : Mode} {us vs : List CodeUnit}
    {ts all : List Token} (h : mode.run us = .ok (ts, middle))
    (hall : mode.run (us ++ vs) = .ok (all, last)) : ∃ others, all = ts ++ others := by
  induction us generalizing mode ts all with
  | nil =>
    cases h
    exact ⟨all, rfl⟩
  | cons u us ih =>
    obtain ⟨ended, m, rest, hnext, hrest, rfl⟩ := Mode.run_cons_eq_ok.1 h
    obtain ⟨ended', m', rest', hnext', hrest', rfl⟩ := Mode.run_cons_eq_ok.1 hall
    rw [hnext] at hnext'
    cases hnext'
    obtain ⟨others, rfl⟩ := ih hrest hrest'
    exact ⟨others, (List.append_assoc ended rest others).symm⟩

/-- A line that starts with code has the tokens of that code in front, if it can be read. -/
theorem lineTokens?_start {s t : List Char} {ts all : List Token} (h : Spells s ts)
    (hall : lineTokens? (s ++ t) = some all) : ∃ others, all = ts ++ others := by
  have hunits : units (String.ofList (s ++ t ++ ['\n'])) =
      unitsAfter false s ++ unitsAfter false (t ++ ['\n']) := by
    rw [units, String.toList_ofList, List.append_assoc, h.split]
  unfold lineTokens? at hall
  cases htokens : tokens (String.ofList (s ++ t ++ ['\n'])) with
  | error e =>
    rw [htokens] at hall
    cases hall
  | ok found =>
    rw [htokens] at hall
    cases hall
    obtain ⟨⟨ended, mode⟩, hrun, hrest⟩ := bind_eq_ok.1 htokens
    obtain ⟨last, -, hlast⟩ := bind_eq_ok.1 hrest
    cases hlast
    rw [hunits] at hrun
    obtain ⟨others, rfl⟩ := tokens_start_of_run h.run hrun
    exact ⟨others ++ last, List.append_assoc ts others last⟩

/-! ## Lines without line feeds -/

namespace IsSingle

theorem lacks_ofList {cs : List Char} (h : cs.contains '\n' = false) :
    '\n' ∉ (String.ofList cs).toList := by
  rw [String.toList_ofList, ← List.contains_iff_mem, h]
  exact Bool.false_ne_true

theorem lacks_append {s t : String} (hs : '\n' ∉ s.toList) (ht : '\n' ∉ t.toList) :
    '\n' ∉ (s ++ t).toList := by
  rw [String.toList_append, List.mem_append]
  exact fun h => h.elim hs ht

theorem lacks_literal (s : String) : '\n' ∉ (literal s).toList := by
  rw [toList_literal]
  intro h
  rcases List.mem_cons.1 h with h | h
  · exact absurd h (by decide)
  · rcases List.mem_append.1 h with h | h
    · exact absurd (isPrintable_of_mem_escapeChars h) (by decide)
    · exact absurd (List.mem_singleton.1 h) (by decide)

theorem nil : IsSingle [] := by
  intro h
  exact absurd h List.not_mem_nil

theorem code_cons {code : String} {line : Line} (hcode : '\n' ∉ code.toList)
    (hline : IsSingle line) : IsSingle (.code code :: line) := by
  rw [IsSingle, toList_render_cons, List.mem_append]
  exact fun h => h.elim hcode hline

theorem text_cons (value : String) {line : Line} (hline : IsSingle line) :
    IsSingle (.text value :: line) := by
  rw [IsSingle, toList_render_cons, List.mem_append]
  exact fun h => h.elim (lacks_literal value) hline

end IsSingle

end Rulebook.Java
