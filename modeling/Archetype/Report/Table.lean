import Archetype.Report.Console

/-!
# Tables

A table has a title, columns, and rows of cells. A column is as wide as its widest cell; a cell has
a blank on both sides. Columns that are too wide together give up cells, the widest first, and the
text of a cell is broken to fit. The title stands above the middle of the table.

* `fitWidths`     widths of columns for a table that has to fit;
* `Table.lines`   the table as lines.
-/

namespace Archetype.Report

/-- where a cell stands in a wider column -/
inductive Align where
  | left
  | right

structure Column where
  title : String
  align : Align

/-- a table; the titles of the columns are shown if it has a head -/
structure Table where
  title : String
  hasHead : Bool
  columns : List Column
  rows : List (List String)

/-- the strokes of a line: at its start, along the cells, between two cells and at its end -/
structure Stroke where
  start : String
  along : Char
  between : String
  stop : String

/-! ## widths -/

/-- a quotient rounded to the nearest number, and to the even one of two -/
def roundQuotient (a b : Nat) : Nat :=
  let q := a / b
  let twice := 2 * (a % b)
  if twice < b || (twice = b && q % 2 = 0) then q else q + 1

/-- Takes `excess` cells from the columns of width `top`, of which `count` are left, in shares that
are as equal as can be and at most `most`. -/
def takeShares (top most : Nat) (excess count : Nat) : List Nat → List Nat
  | [] => []
  | w :: ws =>
    if w = top && 0 < count then
      let share := min most (roundQuotient excess count)
      (w - share) :: takeShares top most (excess - share) (count - 1) ws
    else w :: takeShares top most excess count ws

/-- makes the widest columns as narrow as the next ones, as often as the columns are wider than
`room` together -/
def narrow (room : Nat) : (fuel : Nat) → List Nat → List Nat
  | 0, ws => ws
  | fuel + 1, ws =>
    if ws.sum ≤ room then ws
    else
      let top := ws.foldl max 0
      let next := (ws.filter (· != top)).foldl max 0
      let excess := ws.sum - room
      narrow room fuel (takeShares top (min excess (top - next)) excess (ws.count top) ws)

/-- the widths of columns when they have `room` cells together -/
def fitWidths (room : Nat) (ws : List Nat) : List Nat := narrow room (ws.foldl (· + ·) 0) ws

/-- does a line of a cell end with the character? -/
def endsLine (c : Char) : Bool :=
  c = '\n' || (0x1C ≤ c.toNat && c.toNat ≤ 0x1E) || c.toNat = 0x85 || c.toNat = 0x2028
    || c.toNat = 0x2029

/-- the cells that the widest line of a text takes -/
def textWidth (cs : List Char) : Nat :=
  (Text.splitChars '\n' (cs.map fun c => if endsLine c then '\n' else c)).map Text.cells
    |>.foldl max 0

namespace Table

/-- the texts of a column: its title, and its cells -/
structure ColumnTexts where
  align : Align
  title : List Char
  cells : List (List Char)

/-- the texts of all columns; if several texts cannot be shown, the first column of those says
why -/
def columnTexts (t : Table) : Except MarkupError (List ColumnTexts) :=
  t.columns.zipIdx.mapM fun (column, i) => do
    let title ← markedText column.title.toList
    return ⟨column.align, title, ← t.rows.mapM fun row => markedText (row.getD i "").toList⟩

/-- the widths of columns, without the blanks on the sides, for lines of `width` cells -/
def widths (width : Nat) (hasHead : Bool) (columns : List ColumnTexts) : List Nat :=
  let room := width - (columns.length + 1)
  let natural := columns.map fun column =>
    let texts := (if hasHead then [column.title] else []) ++ column.cells
    min room ((texts.map textWidth).foldl max 0 + 2)
  (fitWidths room natural).map (· - 2)

/-- a line between rows -/
def stroke (r : Stroke) (widths : List Nat) : String :=
  r.start ++ Text.joinWith r.between
    (widths.map fun w => String.ofList (List.replicate (w + 2) r.along)) ++ r.stop

/-- a text in its column -/
def aligned (align : Align) (width : Nat) (cs : List Char) : String :=
  match align with
  | .left => Text.padRight width (String.ofList cs)
  | .right => Text.padLeft width (String.ofList (Text.crop width (Text.stripRightChars cs)))

/-- a row of texts, each with its place and the width of its column -/
abbrev Row := List (Align × Nat × List Char)

/-- the lines of each cell of a row, in their columns -/
def Row.cellLines (row : Row) : List (List String) :=
  row.map fun (align, width, cs) => (screenLines width cs).map (aligned align width)

/-- the lines of a row between bars: as many as its highest cell has. Other cells have blank lines
below, or above if they stand on the `ground`. -/
def Row.lines (row : Row) (bar : String) (ground : Bool) : List String :=
  let cells := row.cellLines
  let height := (cells.map List.length).foldl max 0
  let full := (row.zip cells).map fun ((_, width, _), lines) =>
    let more := List.replicate (height - lines.length) (Text.blanks width)
    if ground then more ++ lines else lines ++ more
  (List.range height).map fun i =>
    bar ++ Text.joinWith bar (full.map fun lines => " " ++ lines.getD i "" ++ " ") ++ bar

/-- the lines above the rows: with a head, the titles between heavy strokes -/
def headLines (hasHead : Bool) (columns : List ColumnTexts) (widths : List Nat) : List String :=
  if hasHead then
    let titles : Row :=
      (columns.zip widths).map fun (column, width) => (column.align, width, column.title)
    stroke ⟨"┏", '━', "┳", "┓"⟩ widths :: titles.lines "┃" true
      ++ [stroke ⟨"┡", '━', "╇", "┩"⟩ widths]
  else [stroke ⟨"┌", '─', "┬", "┐"⟩ widths]

/-- the row with a number -/
def rowAt (columns : List ColumnTexts) (widths : List Nat) (i : Nat) : Row :=
  (columns.zip widths).map fun (column, width) => (column.align, width, column.cells.getD i [])

/-- the title above the middle of `width` cells -/
def titleLine (title : String) (width : Nat) : String :=
  Text.blanks ((width - Text.cellWidth title) / 2) ++ title

/-- the table as lines -/
def lines (t : Table) : Except MarkupError (List String) := do
  let columns ← t.columnTexts
  let widths := widths consoleWidth t.hasHead columns
  let total := widths.foldl (· + · + 3) 0 + 1
  return titleLine t.title total
    :: headLines t.hasHead columns widths
    ++ (List.range t.rows.length).flatMap (fun i => (rowAt columns widths i).lines "│" false)
    ++ [stroke ⟨"└", '─', "┴", "┘"⟩ widths]

end Table

end Archetype.Report
