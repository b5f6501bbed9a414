import Decouple.Console.Styled
import Decouple.Text.Columns

/-!
# Tables on the console

A table has a title and columns.  Each column is as wide as its widest cell, with one blank on
either side; the heading stands between heavy lines.  Cells are styled texts and may have several
lines.
-/

namespace Decouple

/-- A column of a table. -/
structure TableColumn where
  heading : Text
  cells : List Text
  alignRight : Bool := false

/-- A table; its columns have the same number of cells. -/
structure Table where
  title : Text
  columns : List TableColumn

namespace Table

/-! ## Text in a place -/

/-- Spaces. -/
def spaces (n : Nat) : Text := List.replicate n ' '

/-- What is left of a text on the console: some controls are not shown. -/
def shown (t : Text) : Text := t.filter fun c => !([7, 8, 11, 12, 13].contains c.val)

/-- A text with a tab as spaces up to the next multiple of eight columns, `place` being the columns
before it. -/
def expandTabs (place : Nat) : Text → Text
  | [] => []
  | c :: rest =>
    if c = '\t' then
      let width := 8 - place % 8
      spaces width ++ expandTabs (place + width) rest
    else if c = '\n' then c :: expandTabs 0 rest
    else c :: expandTabs (place + c.columns) rest

/-- A styled text as it is shown. -/
def render (t : Text) : Except StyleFault Text :=
  (Styled.plain t).map fun plain => expandTabs 0 (shown plain)

/-- A text in a place of some columns. -/
def fit (alignRight : Bool) (width : Nat) (t : Text) : Text :=
  let fill := spaces (width - Text.columns t)
  if alignRight then fill ++ t else t ++ fill

/-- A text in the middle of a place; an odd column goes to its right. -/
def centre (width : Nat) (t : Text) : Text :=
  let free := width - Text.columns t
  spaces (free / 2) ++ t ++ spaces (free - free / 2)

/-! ## Columns with their cells shown -/

/-- A column whose cells are lists of lines. -/
structure Shown where
  heading : Text
  cells : List (List Text)
  alignRight : Bool

/-- The lines of a cell. -/
def cellLines (t : Text) : Except StyleFault (List Text) := (render t).map (Text.splitOn '\n')

/-- The lines of cells; the first faulty cell counts. -/
def allLines : List Text → Except StyleFault (List (List Text))
  | [] => .ok []
  | t :: rest => do
    let lines ← cellLines t
    let more ← allLines rest
    .ok (lines :: more)

/-- Columns with their cells shown; the first faulty column counts. -/
def showColumns : List TableColumn → Except StyleFault (List Shown)
  | [] => .ok []
  | c :: rest => do
    let cells ← allLines c.cells
    let more ← showColumns rest
    .ok (⟨c.heading, cells, c.alignRight⟩ :: more)

/-- The greatest of some numbers. -/
def greatest (ns : List Nat) : Nat := ns.foldl max 0

namespace Shown

/-- The width of a column. -/
def width (c : Shown) : Nat :=
  greatest (Text.columns c.heading :: c.cells.flatten.map Text.columns)

/-- The height of a row of a column. -/
def height (c : Shown) (row : Nat) : Nat := (c.cells.getD row []).length

/-- A line of a row of a column. -/
def line (c : Shown) (row number : Nat) : Text :=
  fit c.alignRight c.width ((c.cells.getD row []).getD number [])

/-- The heading of a column. -/
def headingLine (c : Shown) : Text := fit c.alignRight c.width c.heading

end Shown

/-! ## Lines of a table -/

/-- A line across columns. -/
def rule (left fill between right : Text) (columns : List Shown) : Text :=
  left ++ Text.join between (columns.map fun c => (List.replicate (c.width + 2) fill).flatten) ++
    right

/-- A line of cells. -/
def cellLine (border : Text) (cells : List Text) : Text :=
  border ++ (cells.map fun cell => spaces 1 ++ cell ++ spaces 1 ++ border).flatten

/-- The lines of a row. -/
def rowLines (columns : List Shown) (row : Nat) : List Text :=
  (List.range (greatest (columns.map fun c => c.height row))).map fun number =>
    cellLine "│" (columns.map fun c => c.line row number)

/-- The number of rows. -/
def rowCount (columns : List Shown) : Nat := greatest (columns.map fun c => c.cells.length)

/-- The columns of the screen that a table takes. -/
def width : List Shown → Nat
  | [] => 1
  | c :: rest => c.width + 3 + width rest

/-- The lines of a table with its columns shown. -/
def linesOf (title : Text) (columns : List Shown) : List Text :=
  [centre (width columns) title, rule "┏" "━" "┳" "┓" columns,
    cellLine "┃" (columns.map Shown.headingLine), rule "┡" "━" "╇" "┩" columns] ++
  (List.range (rowCount columns)).flatMap (rowLines columns) ++
  [rule "└" "─" "┴" "┘" columns]

/-- The lines of a table. -/
def lines (t : Table) : Except StyleFault (List Text) :=
  (showColumns t.columns).map (linesOf t.title)

end Table

end Decouple
