import Mathlib.Data.List.Forall2
import Rulebook.Proofs.Java.Spelling

/-!
Lines that spell tokens. A line and its end are read together, so that every line starts where a
token may start; the tokens of a source are those of its lines, one after the other.
-/

namespace Rulebook.Java

open Rulebook.Text

/-- The line with its end spells these tokens. -/
def LineSpells (line : Line) (ts : List Token) : Prop := Spells (line.render.toList ++ ['\n']) ts

def SourceSpells (lines : List Line) (ts : List Token) : Prop :=
  Spells (renderLines lines).toList ts

/-! ## Sources -/

theorem toList_renderLines (lines : List Line) :
    (renderLines lines).toList = lines.flatMap fun line => line.render.toList ++ ['\n'] := by
  rw [renderLines, String.toList_join, List.flatMap_map]
  simp only [String.toList_append]
  rfl

theorem renderLines_append (lines others : List Line) :
    (renderLines (lines ++ others)).toList =
      (renderLines lines).toList ++ (renderLines others).toList := by
  rw [toList_renderLines, toList_renderLines, toList_renderLines, List.flatMap_append]

@[simp] theorem renderLines_append_eq (lines others : List Line) :
    renderLines (lines ++ others) = renderLines lines ++ renderLines others := by
  apply String.toList_inj.1
  rw [renderLines_append, String.toList_append]

/-- What two sources start with does not count if it is the same. -/
theorem renderLines_of_append {front lines others : List Line}
    (h : renderLines (front ++ lines) = renderLines (front ++ others)) :
    renderLines lines = renderLines others := by
  rw [renderLines_append_eq, renderLines_append_eq, String.append_right_inj] at h
  exact h

namespace SourceSpells

variable {lines others : List Line} {ts us : List Token}

theorem append (h : SourceSpells lines ts) (h' : SourceSpells others us) :
    SourceSpells (lines ++ others) (ts ++ us) := by
  rw [SourceSpells, renderLines_append]
  exact Spells.append h h'

theorem of_forall₂ {groups : List (List Token)} (h : List.Forall₂ LineSpells lines groups) :
    SourceSpells lines groups.flatten := by
  rw [SourceSpells, toList_renderLines]
  induction h with
  | nil => exact Spells.nil
  | cons hline _ ih =>
    rw [List.flatMap_cons, List.flatten_cons]
    exact hline.append ih

theorem line {line : Line} (h : LineSpells line ts) : SourceSpells [line] ts := by
  have hsource := of_forall₂ (.cons h .nil)
  rw [List.flatten_singleton] at hsource
  exact hsource

theorem flatMap {α : Type} {xs : List α} {f : α → List Line} {g : α → List Token}
    (h : ∀ x ∈ xs, SourceSpells (f x) (g x)) : SourceSpells (xs.flatMap f) (xs.flatMap g) := by
  rw [SourceSpells, toList_renderLines, List.flatMap_assoc]
  simp only [← toList_renderLines]
  exact Spells.flatMap h

theorem map {α : Type} {xs : List α} {f : α → Line} {g : α → List Token}
    (h : ∀ x ∈ xs, LineSpells (f x) (g x)) : SourceSpells (xs.map f) (xs.flatMap g) := by
  rw [SourceSpells, toList_renderLines, List.flatMap_map]
  exact Spells.flatMap h

theorem append_blank (h : SourceSpells lines ts) : SourceSpells (lines ++ [Line.blank]) ts := by
  have hblank : LineSpells Line.blank [] := Spells.ofCode rfl rfl
  have happend := h.append (line hblank)
  rw [List.append_nil] at happend
  exact happend

end SourceSpells

/-! ## Lines -/

theorem toList_render_cons (fragment : Fragment) (line : Line) :
    (Line.render (fragment :: line)).toList = fragment.render.toList ++ line.render.toList := by
  rw [Line.render, Line.render, String.toList_join, String.toList_join, List.map_cons,
    List.flatMap_cons]

theorem toList_render_ofCode (code : String) : (Line.ofCode code).render.toList = code.toList := by
  rw [Line.ofCode, toList_render_cons]
  exact List.append_nil code.toList

@[simp] theorem render_cons (fragment : Fragment) (line : Line) :
    Line.render (fragment :: line) = fragment.render ++ line.render := by
  apply String.toList_inj.1
  rw [toList_render_cons, String.toList_append]

@[simp] theorem render_ofCode (code : String) : (Line.ofCode code).render = code :=
  String.toList_inj.1 (toList_render_ofCode code)

namespace LineSpells

variable {line : Line} {ts us : List Token}

theorem ofCode {code : String} (h : Spells (code.toList ++ ['\n']) ts) :
    LineSpells (Line.ofCode code) ts := by
  rw [LineSpells, toList_render_ofCode]
  exact h

theorem code_cons {code : String} (hcode : Spells code.toList ts) (hline : LineSpells line us) :
    LineSpells (.code code :: line) (ts ++ us) := by
  rw [LineSpells, toList_render_cons, List.append_assoc]
  exact hcode.append hline

theorem text_cons (value : String) (hline : LineSpells line us) :
    LineSpells (.text value :: line) (.ofText value :: us) := by
  have hliteral : (Fragment.text value).render.toList = literalChars value.toList :=
    toList_literal value
  rw [LineSpells, toList_render_cons, List.append_assoc, hliteral]
  exact (Spells.literalChars value.toList).append hline

theorem text {before after : String} (value : String) (hbefore : Spells before.toList ts)
    (hafter : Spells (after.toList ++ ['\n']) us) :
    LineSpells [.code before, .text value, .code after] (ts ++ .ofText value :: us) :=
  .code_cons hbefore (.text_cons value (.ofCode hafter))

theorem word {before after name : String} (hbefore : Spells before.toList ts)
    (hname : isIdentifier name.toList) (hend : endsWord (after.toList ++ ['\n']))
    (hafter : Spells (after.toList ++ ['\n']) us) :
    LineSpells (Line.ofCode (before ++ name ++ after)) (ts ++ .ofWord name :: us) := by
  apply ofCode
  rw [String.toList_append, String.toList_append, List.append_assoc, List.append_assoc]
  exact hbefore.append (Spells.word_append hname hend hafter)

theorem qualified {before after name : String} (hbefore : Spells before.toList ts)
    (hname : isQualifiedName name.toList) (hend : endsWord (after.toList ++ ['\n']))
    (hafter : Spells (after.toList ++ ['\n']) us) :
    LineSpells (Line.ofCode (before ++ name ++ after)) (ts ++ (Token.qualified name ++ us)) := by
  apply ofCode
  rw [String.toList_append, String.toList_append, List.append_assoc, List.append_assoc]
  exact hbefore.append (Spells.qualified_append hname hend hafter)

end LineSpells

/-! ## Whole sources -/

/-- The source is ASCII, ends in one line feed, and is read as these tokens. -/
structure ReadsAs (source : String) (ts : List Token) : Prop where
  ascii : ∀ c ∈ source.toList, c.toNat < 128
  lineEnd : ∃ body, source.toList = body ++ ['\n'] ∧ body.getLast? ≠ some '\n'
  tokens : tokens source = .ok ts

theorem tokens_of_spells {source : String} {ts : List Token} (h : Spells source.toList ts) :
    tokens source = .ok ts := by
  refine bind_eq_ok.2 ⟨(ts, .between), h.run, bind_eq_ok.2 ⟨[], rfl, ?_⟩⟩
  rw [List.append_nil]
  rfl

/-- The last line is the brace that closes a class. -/
def ClosesClass (lines : List Line) : Prop := ∃ others, lines = others ++ [Line.ofCode "\x7d"]

theorem ReadsAs.of_sourceSpells {lines : List Line} {ts : List Token} (hclosed : ClosesClass lines)
    (h : SourceSpells lines ts) : ReadsAs (renderLines lines) ts := by
  refine ⟨h.ascii, ?_, tokens_of_spells h⟩
  obtain ⟨others, rfl⟩ := hclosed
  refine ⟨(renderLines others).toList ++ ['\x7d'], ?_, ?_⟩
  · rw [renderLines_append, toList_renderLines [Line.ofCode "\x7d"], List.flatMap_singleton,
      toList_render_ofCode, List.append_assoc]
    rfl
  · rw [List.getLast?_concat]
    decide

end Rulebook.Java
