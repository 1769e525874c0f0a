import StatusWatch.Report
import StatusWatch.Text.Uppercase
import StatusWatch.Text.Columns

/-!
Reports as text tables. A cell may have several lines; a column is as wide as its widest line,
and a line of text is never broken. The last line counts the rows.
-/

namespace StatusWatch.Report

def messageColumn : String := "message"

def messageLimit : Nat := 60

def cut (limit : Nat) (text : String) : String :=
  if text.length ≤ limit then text
  else String.ofList (text.toList.take (limit - 3)) ++ "..."

def cutCell (column text : String) : String :=
  if column = messageColumn then cut messageLimit text else text

def cutRow : List String → List String → List String
  | _, [] => []
  | [], cells => cells
  | column :: columns, cell :: cells => cutCell column cell :: cutRow columns cells

def layout (rows : List (List (List String))) : List Nat :=
  let count := (rows.map List.length).foldl max 0
  (List.range count).map fun i =>
    let lines := rows.flatMap fun row => (row[i]?).getD []
    (lines.map Text.columns).foldl max 1

def padded (width : Nat) (text : String) : String :=
  " " ++ text.pushn ' ' (width - Text.columns text) ++ " "

def rowLines (widths : List Nat) (row : List (List String)) : List String :=
  let cells := (row ++ List.replicate (widths.length - row.length) [""]).zip widths
  let height := (cells.map (·.1.length)).foldl max 0
  (List.range height).map fun i =>
    let texts := cells.map fun (lines, width) => padded width ((lines[i]?).getD "")
    "|" ++ " ".intercalate texts ++ "|"

def rule (mark : Char) (widths : List Nat) : String :=
  "+" ++ "".pushn mark (widths.foldl (· + · + 2) 0 + (widths.length - 1)) ++ "+"

def cellLines (cell : String) : List String :=
  cell.splitOn "\n"

def toTable (r : Report) (headers : Bool) : String :=
  let count := s!"({r.rows.length} resources)"
  if r.rows.isEmpty then count
  else
    let header :=
      if headers then some (r.columns.map fun c => cellLines (Text.capitals c)) else none
    let rows := r.rows.map fun row => (cutRow r.columns row).map cellLines
    let widths := layout (header.toList ++ rows)
    let head := match header with
      | some cells => rowLines widths cells ++ [rule '=' widths]
      | none => []
    let lines := [rule '-' widths] ++ head ++ rows.flatMap (rowLines widths) ++ [rule '-' widths]
    "\n".intercalate (lines ++ [count])

end StatusWatch.Report
