import Rulebook.Text.Escape
import Rulebook.Text.Style
import Rulebook.Text.Width

/-!
Tables of text, drawn with lines. Every column is as wide as its widest cell, with a blank on both
sides. A cell may have several lines; the others of its row are then blank below theirs. Escape
sequences in a cell take no columns, and style codes do not reach over its lines. Rows are never
wrapped: these are the tables of up to 120 columns, and wider ones, which would have to be, are left
out.
-/

namespace Rulebook.CommandLine

inductive Side where
  | left
  | right
deriving DecidableEq, Repr, Inhabited

structure Table where
  columns : List (String × Side)
  rows : List (List String)
deriving DecidableEq, Repr, Inhabited

namespace Table

def blanks (n : Nat) : String := String.ofList (List.replicate n ' ')

def lineWidth (line : String) : Nat := Text.width (Text.Escape.strip line)

def cellWidth (cell : String) : Nat :=
  (Text.Style.lines cell).foldl (fun widest line => max widest (lineWidth line)) 0

def widths (table : Table) : List Nat :=
  table.rows.foldl (fun held row => List.zipWith max held (row.map cellWidth))
    (table.columns.map fun column => cellWidth column.1)

def fill (side : Side) (width : Nat) (line : String) : String :=
  let missing := blanks (width - lineWidth line)
  match side with
  | .left => line ++ missing
  | .right => missing ++ line

def rowLine (sides : List Side) (widths : List Nat) (cells : List String) : String :=
  let filled :=
    List.zipWith (fun (side, width) line => fill side width line) (sides.zip widths) cells
  "│ " ++ " ┆ ".intercalate filled ++ " │"

def height (row : List String) : Nat :=
  row.foldl (fun most cell => max most (Text.Style.lines cell).length) 0

def rowLines (sides : List Side) (widths : List Nat) (row : List String) : List String :=
  (List.range (height row)).map fun i =>
    rowLine sides widths (row.map fun cell => (Text.Style.lines cell)[i]?.getD "")

def ruler (left bar cross right : String) (widths : List Nat) : String :=
  let bars := widths.map fun width => String.join (List.replicate (width + 2) bar)
  left ++ cross.intercalate bars ++ right

def lines (table : Table) : List String :=
  let sides := table.columns.map (·.2)
  let widths := table.widths
  ruler "╭" "─" "┬" "╮" widths :: rowLines sides widths (table.columns.map (·.1))
    ++ ruler "╞" "═" "╪" "╡" widths :: table.rows.flatMap (rowLines sides widths)
    ++ [ruler "╰" "─" "┴" "╯" widths]

end Table

end Rulebook.CommandLine
