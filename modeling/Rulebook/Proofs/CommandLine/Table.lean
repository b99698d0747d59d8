import Rulebook.CommandLine.Report

/-!
Tables of summaries, read back. The names of languages and directories may have lines of their own,
style codes, and the very characters that a table is drawn with; the counts to the right of them
have nothing but digits. So a line of a table is read from its right end, and the lines with counts
are the first lines of the rows below the names of the columns.
-/

namespace Rulebook.CommandLine

open Rulebook.Run (Summary)
open Rulebook.Text (Style.lines Style.codes Style.codesAfter Style.carry Style.isIntroducer)

/-! ## Counts in lines -/

def number? (cs : List Char) : Option Nat :=
  if cs ≠ [] ∧ cs.all Char.isDigit then some (Nat.ofDigitChars 10 cs 0) else none

def optionalNumber? (cs : List Char) : Option (Option Nat) :=
  if cs = nothing.toList then some none else (number? cs).map some

/-- What stands in a cell, without the blanks and the frame around it. -/
def cellChars (cs : List Char) : List Char := cs.filter fun c => c ≠ ' ' ∧ c ≠ '│'

/-- A line with counts in its last four cells. -/
structure CountRow where
  /-- The line up to the counts. -/
  start : String
  fetched : Nat
  emitted : Nat
  activations : Option Nat
  files : Nat
deriving DecidableEq, Repr

namespace CountRow

def ofCells? (start fetched emitted activations files : List Char) : Option CountRow := do
  return {
    start := String.ofList start
    fetched := ← number? (cellChars fetched)
    emitted := ← number? (cellChars emitted)
    activations := ← optionalNumber? (cellChars activations)
    files := ← number? (cellChars files) }

/-- Reads a line from its right end. -/
def ofLine? (line : String) : Option CountRow :=
  match (line.toList.splitOn '┆').reverse with
  | files :: activations :: emitted :: fetched :: labels =>
    ofCells? (['┆'].intercalate labels.reverse) fetched emitted activations files
  | _ => none

theorem ofLine?_eq_none {line : String} (h : '┆' ∉ line.toList) : ofLine? line = none := by
  rw [ofLine?, List.splitOn_eq_singleton h]
  rfl

/-- Whatever stands before the last four cells, they are found. -/
theorem ofLine?_append {line : String} {start fetched emitted activations files : List Char}
    (hfetched : '┆' ∉ fetched) (hemitted : '┆' ∉ emitted) (hactivations : '┆' ∉ activations)
    (hfiles : '┆' ∉ files)
    (hline : line.toList =
      start ++ '┆' :: (fetched ++ '┆' :: (emitted ++ '┆' :: (activations ++ '┆' :: files)))) :
    ofLine? line = ofCells? start fetched emitted activations files := by
  -- The start may have the separator too: then it has several pieces, which are put together again.
  have hpieces : line.toList.splitOn '┆' =
      start.splitOn '┆' ++ [fetched, emitted, activations, files] := by
    rw [hline, List.splitOn_append_cons_self, List.splitOn_append_cons_self_of_not_mem hfetched,
      List.splitOn_append_cons_self_of_not_mem hemitted,
      List.splitOn_append_cons_self_of_not_mem hactivations, List.splitOn_eq_singleton hfiles]
  rw [ofLine?, hpieces, List.reverse_append]
  show ofCells? (['┆'].intercalate (start.splitOn '┆').reverse.reverse) _ _ _ _ = _
  rw [List.reverse_reverse, List.intercalate_splitOn]

end CountRow

/-! ## Plain cells -/

def isPlain (cell : String) : Bool := cell.toList.all fun c => c.isAlphanum || c == '-'

theorem not_mem_of_isPlain {cell : String} (h : isPlain cell) {c : Char}
    (hc : (c.isAlphanum || c == '-') = false) : c ∉ cell.toList := by
  intro hmem
  have hplain := List.all_eq_true.1 h c hmem
  rw [hc] at hplain
  cases hplain

theorem isDigit_of_mem_toString {n : Nat} {c : Char} (h : c ∈ (toString n).toList) : c.isDigit := by
  rw [Nat.toString_eq_repr, Nat.toList_repr] at h
  exact Nat.isDigit_of_mem_toDigits (by decide) (by decide) h

theorem isPlain_toString (n : Nat) : isPlain (toString n) := by
  refine List.all_eq_true.2 fun c hc => ?_
  rw [Char.isAlphanum, isDigit_of_mem_toString hc, Bool.or_true, Bool.true_or]

theorem isPlain_countCell (count : Option Nat) : isPlain (countCell count) := by
  cases count with
  | none => decide
  | some n => exact isPlain_toString n

theorem codesAfter_eq_nil {cs : List Char} (h : ∀ c ∈ cs, Style.isIntroducer c = false) :
    Style.codesAfter 0 cs = [] := by
  induction cs with
  | nil => rfl
  | cons c cs ih =>
    rw [Style.codesAfter, h c List.mem_cons_self]
    exact ih fun d hd => h d (List.mem_cons_of_mem c hd)

theorem isIntroducer_of_isPlain {cell : String} (h : isPlain cell) :
    ∀ c ∈ cell.toList, Style.isIntroducer c = false := by
  intro c hc
  rw [Style.isIntroducer, Bool.or_eq_false_iff, decide_eq_false_iff_not, decide_eq_false_iff_not]
  constructor
  · rintro rfl
    exact not_mem_of_isPlain h (by decide) hc
  · rintro rfl
    exact not_mem_of_isPlain h (by decide) hc

/-- A plain cell has one line, without codes. -/
theorem lines_of_isPlain {cell : String} (h : isPlain cell) : Style.lines cell = [cell] := by
  have hcodes : Style.codes cell = [] := codesAfter_eq_nil (isIntroducer_of_isPlain h)
  rw [Style.lines, List.splitOn_eq_singleton (not_mem_of_isPlain h (by decide)),
    List.map_singleton, String.ofList_toList, Style.carry, Style.carry, hcodes]
  show [String.join [] ++ cell ++ ""] = [cell]
  rw [String.append_empty, String.join_nil, String.empty_append]

/-! ## Cells that are filled up -/

@[simp] theorem cellChars_append (cs ds : List Char) :
    cellChars (cs ++ ds) = cellChars cs ++ cellChars ds :=
  List.filter_append ..

@[simp] theorem cellChars_cons_blank (cs : List Char) : cellChars (' ' :: cs) = cellChars cs :=
  List.filter_cons_of_neg (by decide)

@[simp] theorem cellChars_blanks (n : Nat) : cellChars (Table.blanks n).toList = [] := by
  rw [cellChars, Table.blanks, String.toList_ofList, List.filter_eq_nil_iff]
  intro c hc
  rw [List.eq_of_mem_replicate hc]
  decide

theorem cellChars_of_isPlain {cell : String} (h : isPlain cell) :
    cellChars cell.toList = cell.toList := by
  refine List.filter_eq_self.2 fun c hc => ?_
  rw [decide_eq_true_iff]
  constructor
  · rintro rfl
    exact not_mem_of_isPlain h (by decide) hc
  · rintro rfl
    exact not_mem_of_isPlain h (by decide) hc

theorem cellChars_fill {cell : String} (h : isPlain cell) (side : Side) (width : Nat) :
    cellChars (Table.fill side width cell).toList = cell.toList := by
  cases side with
  | left => simp [Table.fill, cellChars_of_isPlain h]
  | right => simp [Table.fill, cellChars_of_isPlain h]

theorem not_mem_fill {cell : String} (h : isPlain cell) (side : Side) (width : Nat) :
    '┆' ∉ (Table.fill side width cell).toList := by
  have hcell : '┆' ∉ cell.toList := not_mem_of_isPlain h (by decide)
  have hblanks (n : Nat) : '┆' ∉ (Table.blanks n).toList := by
    rw [Table.blanks, String.toList_ofList]
    exact fun hmem => absurd (List.eq_of_mem_replicate hmem) (by decide)
  cases side with
  | left =>
    rw [Table.fill, String.toList_append]
    exact fun hmem => (List.mem_append.1 hmem).elim hcell (hblanks _)
  | right =>
    rw [Table.fill, String.toList_append]
    exact fun hmem => (List.mem_append.1 hmem).elim (hblanks _) hcell

def between (width : Nat) (cell : String) (after : List Char) : List Char :=
  ' ' :: (Table.fill .right width cell).toList ++ after

theorem cellChars_between {cell : String} (h : isPlain cell) (width : Nat) {after : List Char}
    (hafter : cellChars after = []) : cellChars (between width cell after) = cell.toList := by
  simp [between, hafter, cellChars_fill h]

theorem not_mem_between {cell : String} (h : isPlain cell) (width : Nat) {after : List Char}
    (hafter : '┆' ∉ after) : '┆' ∉ between width cell after := by
  intro hmem
  rcases List.mem_append.1 hmem with hmem | hmem
  · rcases List.mem_cons.1 hmem with heq | hmem
    · exact absurd heq (by decide)
    · exact not_mem_fill h .right width hmem
  · exact hafter hmem

/-! ## Lines of rows -/

def sides : List Side := [.left, .left, .right, .right, .right, .right]

def rowStart (w₀ w₁ : Nat) (language directory : String) : String :=
  "│ " ++ Table.fill .left w₀ language ++ " ┆ " ++ Table.fill .left w₁ directory ++ " "

section Rows

variable {w₀ w₁ w₂ w₃ w₄ w₅ : Nat} {a b c d e f : String}

theorem toList_rowLine :
    (Table.rowLine sides [w₀, w₁, w₂, w₃, w₄, w₅] [a, b, c, d, e, f]).toList =
      (rowStart w₀ w₁ a b).toList ++ '┆' :: (between w₂ c [' '] ++ '┆' :: (between w₃ d [' '] ++
        '┆' :: (between w₄ e [' '] ++ '┆' :: between w₅ f [' ', '│']))) := by
  have hbar : " ┆ ".toList = [' ', '┆', ' '] := rfl
  have hend : " │".toList = [' ', '│'] := rfl
  have hblank : " ".toList = [' '] := rfl
  simp only [Table.rowLine, sides, List.zip_cons_cons, List.zip_nil_right, List.zipWith_cons_cons,
    List.zipWith_nil_right, String.intercalate_cons_cons, String.intercalate_singleton,
    String.toList_append, rowStart, between, hbar, hend, hblank, List.append_assoc,
    List.cons_append, List.nil_append]

theorem ofLine?_rowLine (hc : isPlain c) (hd : isPlain d) (he : isPlain e) (hf : isPlain f) :
    CountRow.ofLine? (Table.rowLine sides [w₀, w₁, w₂, w₃, w₄, w₅] [a, b, c, d, e, f]) =
      CountRow.ofCells? (rowStart w₀ w₁ a b).toList c.toList d.toList e.toList f.toList := by
  rw [CountRow.ofLine?_append (not_mem_between hc _ (by decide)) (not_mem_between hd _ (by decide))
    (not_mem_between he _ (by decide)) (not_mem_between hf _ (by decide)) toList_rowLine]
  unfold CountRow.ofCells?
  rw [cellChars_between hc _ (by decide), cellChars_between hd _ (by decide),
    cellChars_between he _ (by decide), cellChars_between hf _ (by decide),
    cellChars_of_isPlain hc, cellChars_of_isPlain hd, cellChars_of_isPlain he,
    cellChars_of_isPlain hf]

def firstLine (cell : String) : String := (Style.lines cell)[0]?.getD ""

/-- The other lines of a row have no counts. -/
theorem ofLine?_rowLine_blank :
    CountRow.ofLine? (Table.rowLine sides [w₀, w₁, w₂, w₃, w₄, w₅] [a, b, "", "", "", ""]) = none :=
  ofLine?_rowLine rfl rfl rfl rfl

theorem exists_height_eq (a b c d e : String) (hf : isPlain f) :
    ∃ n, Table.height [a, b, c, d, e, f] = n + 1 := by
  have hlast : 1 ≤ Table.height [a, b, c, d, e, f] := by
    show 1 ≤ max _ (Style.lines f).length
    rw [lines_of_isPlain hf]
    exact Nat.le_max_right _ _
  exact ⟨_, (Nat.sub_add_cancel hlast).symm⟩

theorem filterMap_rowLines (hc : isPlain c) (hd : isPlain d) (he : isPlain e) (hf : isPlain f) :
    (Table.rowLines sides [w₀, w₁, w₂, w₃, w₄, w₅] [a, b, c, d, e, f]).filterMap CountRow.ofLine? =
      (CountRow.ofCells? (rowStart w₀ w₁ (firstLine a) (firstLine b)).toList c.toList d.toList
        e.toList f.toList).toList := by
  -- The cells of counts have one line each, so they are blank in every other line of the row.
  let line (i : Nat) : String := Table.rowLine sides [w₀, w₁, w₂, w₃, w₄, w₅]
    ([a, b, c, d, e, f].map fun cell => (Style.lines cell)[i]?.getD "")
  have hline (i : Nat) : line i = Table.rowLine sides [w₀, w₁, w₂, w₃, w₄, w₅]
      [(Style.lines a)[i]?.getD "", (Style.lines b)[i]?.getD "", [c][i]?.getD "", [d][i]?.getD "",
        [e][i]?.getD "", [f][i]?.getD ""] := by
    simp only [line, List.map_cons, List.map_nil, lines_of_isPlain, hc, hd, he, hf]
  obtain ⟨n, hn⟩ := exists_height_eq a b c d e hf
  have hlines : Table.rowLines sides [w₀, w₁, w₂, w₃, w₄, w₅] [a, b, c, d, e, f] =
      line 0 :: (List.range n).map fun i => line (i + 1) := by
    rw [Table.rowLines, hn, List.range_succ_eq_map, List.map_cons, List.map_map]
    rfl
  clear_value line
  have hfirst : CountRow.ofLine? (line 0) = CountRow.ofCells?
      (rowStart w₀ w₁ (firstLine a) (firstLine b)).toList c.toList d.toList e.toList f.toList := by
    rw [hline]
    simp only [List.getElem?_cons_zero, Option.getD_some, firstLine]
    exact ofLine?_rowLine hc hd he hf
  have hnone : ((List.range n).map fun i => line (i + 1)).filterMap CountRow.ofLine? = [] := by
    rw [List.filterMap_map, List.filterMap_eq_nil_iff]
    intro i _
    rw [Function.comp_apply, hline]
    simp only [List.getElem?_cons_succ, List.getElem?_nil, Option.getD_none]
    exact ofLine?_rowLine_blank
  rw [hlines, List.filterMap_cons, hnone, hfirst]
  cases CountRow.ofCells? _ _ _ _ _ <;> rfl

end Rows

/-! ## Rows of counts -/

theorem number?_toString (n : Nat) : number? (toString n).toList = some n := by
  have hdigits : (toString n).toList.all Char.isDigit :=
    List.all_eq_true.2 fun c hc => isDigit_of_mem_toString hc
  rw [Nat.toString_eq_repr, Nat.toList_repr] at hdigits ⊢
  rw [number?, if_pos ⟨Nat.toDigits_ne_nil, hdigits⟩, Nat.ofDigitChars_ten_toDigits]

@[simp] theorem optionalNumber?_countCell (count : Option Nat) :
    optionalNumber? (countCell count).toList = some count := by
  cases count with
  | none => exact if_pos rfl
  | some n =>
    -- A number has no dash.
    have hne : (toString n).toList ≠ nothing.toList := by
      intro heq
      have hdash : '-' ∈ (toString n).toList := heq ▸ List.mem_singleton.2 rfl
      exact absurd (isDigit_of_mem_toString hdash) (by decide)
    rw [countCell, optionalNumber?, if_neg hne, number?_toString, Option.map_some]

theorem ofCells?_counts (start : String) (fetched emitted files : Nat) (activations : Option Nat) :
    CountRow.ofCells? start.toList (toString fetched).toList (toString emitted).toList
      (countCell activations).toList (toString files).toList =
      some ⟨start, fetched, emitted, activations, files⟩ := by
  rw [CountRow.ofCells?, cellChars_of_isPlain (isPlain_toString _),
    cellChars_of_isPlain (isPlain_toString _), cellChars_of_isPlain (isPlain_countCell _),
    cellChars_of_isPlain (isPlain_toString _), number?_toString, number?_toString,
    optionalNumber?_countCell, number?_toString, String.ofList_toList]
  rfl

/-! ## Whole tables -/

theorem not_mem_intercalate {c : Char} {sep : String} {parts : List String} (hsep : c ∉ sep.toList)
    (h : ∀ part ∈ parts, c ∉ part.toList) : c ∉ (sep.intercalate parts).toList := by
  induction parts with
  | nil => exact List.not_mem_nil
  | cons part rest ih =>
    have hpart := h part List.mem_cons_self
    have hrest := ih fun other hother => h other (List.mem_cons_of_mem part hother)
    cases rest with
    | nil => rwa [String.intercalate_singleton]
    | cons other rest =>
      rw [String.intercalate_cons_cons, String.toList_append, String.toList_append, List.mem_append,
        List.mem_append]
      rintro ((hmem | hmem) | hmem)
      · exact hpart hmem
      · exact hsep hmem
      · exact hrest hmem

theorem not_mem_ruler {c : Char} {left bar cross right : String} (hleft : c ∉ left.toList)
    (hbar : c ∉ bar.toList) (hcross : c ∉ cross.toList) (hright : c ∉ right.toList)
    (widths : List Nat) : c ∉ (Table.ruler left bar cross right widths).toList := by
  have hbars : ∀ part ∈ widths.map fun width => String.join (List.replicate (width + 2) bar),
      c ∉ part.toList := by
    intro part hpart
    obtain ⟨width, -, rfl⟩ := List.mem_map.1 hpart
    rw [String.toList_join, List.mem_flatMap]
    rintro ⟨s, hs, hmem⟩
    exact hbar (List.eq_of_mem_replicate hs ▸ hmem)
  rw [Table.ruler, String.toList_append, String.toList_append, List.mem_append, List.mem_append]
  rintro ((hmem | hmem) | hmem)
  · exact hleft hmem
  · exact not_mem_intercalate hcross hbars hmem
  · exact hright hmem

/-- Widths are as many as columns. -/
theorem length_widths {table : Table} (h : ∀ row ∈ table.rows, row.length = table.columns.length) :
    table.widths.length = table.columns.length := by
  -- The wider of two is taken column by column, which leaves as many as there were.
  have hfold (rows : List (List String)) (held : List Nat)
      (hrows : ∀ row ∈ rows, row.length = held.length) :
      (rows.foldl (fun held row => List.zipWith max held (row.map Table.cellWidth)) held).length =
        held.length := by
    induction rows generalizing held with
    | nil => rfl
    | cons row rest ih =>
      have hrow := hrows row List.mem_cons_self
      have hlength : (List.zipWith max held (row.map Table.cellWidth)).length = held.length := by
        rw [List.length_zipWith, List.length_map, hrow, Nat.min_self]
      rw [List.foldl_cons, ih _ fun other hother => ?_, hlength]
      rw [hlength]
      exact hrows other (List.mem_cons_of_mem row hother)
  rw [Table.widths, hfold]
  · exact List.length_map _
  · intro row hrow
    rw [List.length_map]
    exact h row hrow

def CountRow.ofSummary (w₀ w₁ : Nat) (summary : Summary) : CountRow where
  start := rowStart w₀ w₁ (firstLine summary.language) (firstLine summary.directory.display)
  fetched := summary.fetched
  emitted := summary.emitted
  activations := summary.activations
  files := summary.files.length

def CountRow.ofTotals (w₀ w₁ : Nat) (summaries : List Summary) : CountRow where
  start := rowStart w₀ w₁ "TOTAL" nothing
  fetched := total (summaries.map (·.fetched))
  emitted := total (summaries.map (·.emitted))
  activations := totalActivations summaries
  files := total (summaries.map (·.files.length))

theorem exists_widths_eq (summaries : List Summary) :
    ∃ w₀ w₁ w₂ w₃ w₄ w₅, (summaryTable summaries).widths = [w₀, w₁, w₂, w₃, w₄, w₅] := by
  have hlength : (summaryTable summaries).widths.length = 6 := by
    refine length_widths fun row hrow => ?_
    rcases List.mem_append.1 hrow with hrow | hrow
    · obtain ⟨summary, -, rfl⟩ := List.mem_map.1 hrow
      rfl
    · rw [List.mem_singleton.1 hrow]
      rfl
  generalize (summaryTable summaries).widths = widths at hlength ⊢
  rcases widths with _ | ⟨w₀, _ | ⟨w₁, _ | ⟨w₂, _ | ⟨w₃, _ |
    ⟨w₄, _ | ⟨w₅, _ | ⟨w₆, widths⟩⟩⟩⟩⟩⟩⟩
  case cons.cons.cons.cons.cons.cons.nil => exact ⟨w₀, w₁, w₂, w₃, w₄, w₅, rfl⟩
  all_goals cases hlength

/-- The lines with counts are a row for each summary, in their order, and the totals. -/
theorem filterMap_lines (summaries : List Summary) :
    ∃ w₀ w₁, (summaryTable summaries).lines.filterMap CountRow.ofLine? =
      summaries.map (.ofSummary w₀ w₁) ++ [.ofTotals w₀ w₁ summaries] := by
  obtain ⟨w₀, w₁, w₂, w₃, w₄, w₅, hwidths⟩ := exists_widths_eq summaries
  refine ⟨w₀, w₁, ?_⟩
  have hsides : (summaryTable summaries).columns.map (·.2) = sides := rfl
  -- The rulers have no cells, and the names of the columns are no counts.
  have htop : CountRow.ofLine? (Table.ruler "╭" "─" "┬" "╮" [w₀, w₁, w₂, w₃, w₄, w₅]) = none :=
    CountRow.ofLine?_eq_none (not_mem_ruler (by decide) (by decide) (by decide) (by decide) _)
  have hmiddle : CountRow.ofLine? (Table.ruler "╞" "═" "╪" "╡" [w₀, w₁, w₂, w₃, w₄, w₅]) = none :=
    CountRow.ofLine?_eq_none (not_mem_ruler (by decide) (by decide) (by decide) (by decide) _)
  have hbottom : CountRow.ofLine? (Table.ruler "╰" "─" "┴" "╯" [w₀, w₁, w₂, w₃, w₄, w₅]) = none :=
    CountRow.ofLine?_eq_none (not_mem_ruler (by decide) (by decide) (by decide) (by decide) _)
  have hnames : (Table.rowLines sides [w₀, w₁, w₂, w₃, w₄, w₅]
      ((summaryTable summaries).columns.map (·.1))).filterMap CountRow.ofLine? = [] :=
    filterMap_rowLines rfl rfl rfl rfl
  have hsummary (summary : Summary) : (Table.rowLines sides [w₀, w₁, w₂, w₃, w₄, w₅]
      (languageRow summary)).filterMap CountRow.ofLine? = [.ofSummary w₀ w₁ summary] := by
    rw [languageRow, filterMap_rowLines (isPlain_toString _) (isPlain_toString _)
      (isPlain_countCell _) (isPlain_toString _), ofCells?_counts]
    rfl
  have htotal : (Table.rowLines sides [w₀, w₁, w₂, w₃, w₄, w₅] (totalRow summaries)).filterMap
      CountRow.ofLine? = [.ofTotals w₀ w₁ summaries] := by
    rw [totalRow, filterMap_rowLines (isPlain_toString _) (isPlain_toString _)
      (isPlain_countCell _) (isPlain_toString _), ofCells?_counts]
    rfl
  have hrows : ((summaryTable summaries).rows.flatMap
      (Table.rowLines sides [w₀, w₁, w₂, w₃, w₄, w₅])).filterMap CountRow.ofLine? =
        summaries.map (.ofSummary w₀ w₁) ++ [.ofTotals w₀ w₁ summaries] := by
    rw [summaryTable, List.flatMap_append, List.filterMap_append, List.flatMap_singleton, htotal,
      List.flatMap_map, List.filterMap_flatMap]
    simp only [hsummary]
    rw [← List.map_eq_flatMap]
  rw [Table.lines, hwidths, hsides]
  simp only [List.cons_append, List.filterMap_append, List.filterMap_cons, htop, hnames, hmiddle,
    hrows, hbottom, List.filterMap_nil, List.nil_append, List.append_nil]

end Rulebook.CommandLine
