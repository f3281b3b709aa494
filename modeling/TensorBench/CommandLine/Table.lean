import TensorBench.Text.Chars

/-!
Tables drawn with box characters. Every column is as wide as its widest line, with a blank on either
side, and a cell of several lines makes its row as high as itself.
-/
namespace TensorBench.CommandLine.Table

/-- The characters of a horizontal line: its left end, what it is made of, its crossings and its
right end. -/
structure Rule where
  left : String
  fill : Char
  crossing : String
  right : String

def top : Rule := ⟨"┌", '─', "┬", "┐"⟩
def belowHeader : Rule := ⟨"╞", '═', "╪", "╡"⟩
def betweenRows : Rule := ⟨"├", '╌', "┼", "┤"⟩
def bottom : Rule := ⟨"└", '─', "┴", "┘"⟩

def repeated (count : Nat) (c : Char) : String := String.ofList (List.replicate count c)

def Rule.draw (rule : Rule) (widths : List Nat) : String :=
  rule.left ++ rule.crossing.intercalate (widths.map fun width => repeated (width + 2) rule.fill) ++
    rule.right

def cellLines (cell : String) : List String :=
  (Text.splitOnChar '\n' cell.toList).map String.ofList

def cellWidth (cell : String) : Nat := ((cellLines cell).map Text.columns).foldl max 0

/-- The widths of the columns of rows that are equally long. -/
def widths (rows : List (List String)) : List Nat :=
  match rows with
  | [] => []
  | first :: rest =>
      rest.foldl (fun widths row => List.zipWith (fun width cell => max width (cellWidth cell))
        widths row) (first.map cellWidth)

def padded (width : Nat) (text : String) : String :=
  " " ++ text ++ repeated (width - Text.columns text) ' ' ++ " "

/-- The lines of a row. -/
def rowLines (widths : List Nat) (row : List String) : List String :=
  let cells := row.map cellLines
  let height := (cells.map List.length).foldl max 1
  (List.range height).map fun i =>
    "│" ++ "┆".intercalate (List.zipWith (fun width cell => padded width (cell.getD i ""))
      widths cells) ++ "│"

def bodyLines (widths : List Nat) : List (List String) → List String
  | [] => []
  | [row] => rowLines widths row
  | row :: rest => rowLines widths row ++ betweenRows.draw widths :: bodyLines widths rest

/-- The lines of a table. -/
def lines (header : List String) (rows : List (List String)) : List String :=
  let widths := widths (header :: rows)
  [top.draw widths] ++ rowLines widths header ++ [belowHeader.draw widths] ++
    bodyLines widths rows ++ [bottom.draw widths]

end TensorBench.CommandLine.Table
