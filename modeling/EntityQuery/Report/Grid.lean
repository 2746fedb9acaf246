import EntityQuery.Text.Width

/-!
# Grids

A `Grid` is a table of texts, with a header and rows, that is drawn with
characters. There are as many columns as the longest of its lists of cells has
cells, and each is as wide as the widest line in it, but at least one character.
A cell with several lines makes its whole row that high; where a row has no cell,
or a cell no line, there is blank space.

A rule of `=` stands under the header and one of `-` between two rows:

    +----+-------+
    | id | name  |
    +============+
    | 1  | Alice |
    |----+-------|
    | 2  | Bob   |
    +----+-------+
-/

namespace EntityQuery.Report

/-- A table of texts. -/
structure Grid where
  header : List String
  rows : List (List String)

namespace Grid

/-- The lines of a cell; an empty cell is one empty line. -/
def cellLines (cell : String) : List String := (cell.toList.splitOn '\n').map String.ofList

/-- The lists of cells, the header first. -/
def allRows (g : Grid) : List (List String) := g.header :: g.rows

/-- The greatest of some numbers, and at least the given one. -/
def greatest (least : Nat) (ns : List Nat) : Nat := ns.foldl max least

/-- How many columns there are. -/
def columnCount (g : Grid) : Nat := greatest 0 (g.allRows.map (·.length))

/-- How wide a column is. -/
def columnWidth (g : Grid) (i : Nat) : Nat :=
  greatest 1 ((g.allRows.flatMap fun row => cellLines (row.getD i "")).map Text.width)

/-- How wide the columns are. -/
def columnWidths (g : Grid) : List Nat := (List.range g.columnCount).map g.columnWidth

/-- A text filled up with blanks on the right to a width, between two blanks. -/
def padded (width : Nat) (text : String) : String :=
  " " ++ text ++ String.ofList (List.replicate (width - Text.width text) ' ') ++ " "

/-- A rule between two edges, with a joint between two columns. -/
def rule (edge : String) (fill : Char) (joint : String) (widths : List Nat) : String :=
  edge ++ joint.intercalate (widths.map fun w => String.ofList (List.replicate (w + 2) fill)) ++
    edge

/-- The cells of a row with their lines, one for each column. -/
def cells (widths : List Nat) (row : List String) : List (Nat × List String) :=
  widths.mapIdx fun i w => (w, cellLines (row.getD i ""))

/-- The lines of a row. -/
def rowLines (widths : List Nat) (row : List String) : List String :=
  let cs := cells widths row
  (List.range (greatest 0 (cs.map (·.2.length)))).map fun j =>
    "|" ++ "|".intercalate (cs.map fun (w, lines) => padded w (lines.getD j "")) ++ "|"

/-- The lines of the rows, with a rule between two of them. -/
def bodyLines (widths : List Nat) (rows : List (List String)) : List String :=
  ((rows.map (rowLines widths)).intersperse [rule "|" '-' "+" widths]).flatten

/-- The lines of a grid. -/
def lines (g : Grid) : List String :=
  let widths := g.columnWidths
  rule "+" '-' "+" widths :: rowLines widths g.header ++ rule "+" '=' "=" widths ::
    bodyLines widths g.rows ++ [rule "+" '-' "+" widths]

/-- The drawing of a grid. -/
def text (g : Grid) : String := "\n".intercalate g.lines

end Grid

end EntityQuery.Report
