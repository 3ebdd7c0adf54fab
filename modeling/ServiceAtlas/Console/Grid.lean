import ServiceAtlas.Console.Markup
import ServiceAtlas.Console.Screen

/-!
Rows of cells in a frame, for people to read. Each column is as wide as its widest cell, as long as
the line has room; the heading stands out.
-/

namespace ServiceAtlas

/-- What a caller puts into a cell. -/
inductive Grid.Cell where
  | markup (cs : List Char)
  | unshowable

/-- Why a grid cannot be shown. -/
inductive Grid.Fault where
  | markup (f : Markup.Fault)
  | unshowable

structure Grid where
  title : Option Grid.Cell
  headings : List Grid.Cell
  rows : List (List Grid.Cell)

/-- A column: its heading and its cells. -/
structure Grid.Column where
  heading : Marked
  cells : List Marked

namespace Grid

/-- The blanks at the two sides of a cell. -/
def padding : Nat := 2

def emptyCell : Cell := .markup []

/-- The grid with as many columns as its longest row. -/
def filled (g : Grid) : Grid :=
  let count := (g.rows.map List.length).foldl max g.headings.length
  let fill (cells : List Cell) : List Cell := cells ++ List.replicate (count - cells.length) emptyCell
  { g with headings := fill g.headings, rows := g.rows.map fill }

def Cell.read : Cell → Except Fault Marked
  | markup cs =>
    match Markup.read cs with
    | .ok m => .ok m
    | .error f => .error (.markup f)
  | unshowable => .error .unshowable

/-- A column as it is read, the heading first. -/
def readColumn (heading : Cell) (cells : List Cell) : Except Fault Column := do
  let heading ← heading.read
  return ⟨heading, ← cells.mapM Cell.read⟩

/-- The columns of a grid whose rows are all equally long. -/
def readColumns (headings : List Cell) (rows : List (List Cell)) : Except Fault (List Column) :=
  headings.zipIdx.mapM fun (heading, n) => readColumn heading (rows.map fun row => row.getD n emptyCell)

/-- Characters of any script that end a line. -/
def isLineEnd (c : Char) : Bool :=
  c = '\n' || c = '\x1c' || c = '\x1d' || c = '\x1e' || c = '\u0085' || c = '\u2028' || c = '\u2029'

/-- The cells that the longest line of a text takes. -/
def natural (m : Marked) : Nat := ((Text.pieces isLineEnd m.chars).map Text.cells).foldl max 0

/-- The width that a column wants, in a line that has so much room. -/
def Column.wanted (room : Nat) (c : Column) : Nat :=
  min room (((c.heading :: c.cells).map natural).foldl max 0 + padding)

/-- Takes `excess` cells from those columns that have a limit, in equal shares, and from none more than
its limit; `count` is their number. -/
def shrink (excess count : Nat) : List (Nat × Option Nat) → List Nat
  | [] => []
  | (w, none) :: rest => w :: shrink excess count rest
  | (w, some limit) :: rest =>
    let share := min limit (nearest excess count)
    (w - share) :: shrink (excess - share) (count - 1) rest

/-- The cells of all columns together. -/
def together (widths : List Nat) : Nat := widths.foldr (· + ·) 0

/-- Narrows the widest columns, step by step, until all have room or are of one width. -/
def narrow (room : Nat) : (fuel : Nat) → List Nat → List Nat
  | 0, widths => widths
  | fuel + 1, widths =>
    let excess := together widths - room
    let top := widths.foldl max 0
    let next := (widths.filter (· ≠ top)).foldl max 0
    if excess = 0 ∨ top = next then widths
    else
      let limit := min excess (top - next)
      narrow room fuel (shrink excess (widths.count top)
        (widths.map fun w => (w, if w = top then some limit else none)))

/-- Takes what is still too much from all columns alike. -/
def level (room : Nat) (widths : List Nat) : List Nat :=
  if together widths ≤ room then widths
  else
    shrink (together widths - room) (widths.countP (· ≠ 0))
      (widths.map fun w => (w, if w = 0 then none else some w))

/-- The widths that columns get of the room in a line. A column that wants nothing gets one cell if
there is one. -/
def widths (room : Nat) (wanted : List Nat) : List Nat :=
  let wanted := wanted.map (max 1)
  if together wanted ≤ room then wanted
  else level room (narrow room (wanted.length + together wanted) wanted)

def headingStyle : Style := .named "bold cyan"

def titleStyle : Style := .named "table.title"

/-- The lines of one cell in a column. A column with room for its padding only shows nothing. -/
def cellLines (style : Style) (width : Nat) (m : Marked) : List (List Segment) :=
  if width ≤ padding then []
  else
    (m.wrap .left .ellipsis (width - padding)).map fun line =>
      let inner := Segment.adjust (width - padding) .plain line.segments
      Segment.adjust width style
        (([Segment.plain [' ']] ++ inner ++ [Segment.plain [' ']]).map (Segment.above style))

/-- The lines of a row: all cells made equally high, those of the heading at the bottom. -/
def rowLines (style : Style) (atBottom : Bool) (divider : Char) (widths : List Nat)
    (cells : List Marked) : List (List Segment) :=
  let columns := List.zipWith (fun w cell => (w, cellLines style w cell)) widths cells
  let height := (columns.map fun c => c.2.length).foldl max 0
  let filled := columns.map fun (w, lines) =>
    let blank : List (List Segment) :=
      List.replicate (height - lines.length) [⟨Text.blanks w, style⟩]
    if height = 0 then [[Segment.plain (Text.blanks w)]]
    else if atBottom then blank ++ lines else lines ++ blank
  (List.range (max height 1)).map fun n =>
    .plain [divider] :: filled.flatMap fun lines => lines.getD n [] ++ [.plain [divider]]

/-- A line of the frame. -/
def rule (left middle right line : Char) (widths : List Nat) : List Segment :=
  let bars := widths.map fun w => List.replicate w line
  [.plain (left :: (List.intercalate [middle] bars) ++ [right])]

def titleLines (width : Nat) (title : Marked) : List (List Segment) :=
  ({ title with base := some titleStyle }.wrap .centre .fold width).map Marked.segments

/-- Cells are read only where there is room for one of their characters. -/
def readsCells (room : Nat) : Bool := padding < room

/-- The lines of a grid with at least one column, on a screen of some width. -/
def lines (g : Grid) (width : Nat) : Except Fault (List (List Segment)) := do
  let g := g.filled
  let room := width - (g.headings.length + 1)
  let empty (n : Nat) : List Marked := List.replicate n (.unmarked [])
  let columns ←
    if readsCells room then readColumns g.headings g.rows
    else pure (g.headings.map fun _ => ⟨.unmarked [], empty g.rows.length⟩)
  let wanted := columns.map fun c => if readsCells room then c.wanted room else room
  let ws := widths room wanted
  let title ← g.title.mapM Cell.read
  let rows := (List.range g.rows.length).map fun n => columns.map fun c => c.cells.getD n (.unmarked [])
  return title.elim [] (titleLines (together ws + ws.length + 1)) ++
    [rule '┏' '┳' '┓' '━' ws] ++
    rowLines headingStyle true '┃' ws (columns.map Column.heading) ++
    [rule '┡' '╇' '┩' '━' ws] ++ rows.flatMap (rowLines .plain false '│' ws) ++
    [rule '└' '┴' '┘' '─' ws]

/-- What a screen shows of a grid. One without columns is an empty line. -/
def text (g : Grid) (screen : Screen) : Except Fault String :=
  if screen.width = 0 then .ok ""
  else if g.filled.headings.isEmpty then .ok (screen.write [[]])
  else (g.lines screen.width).map screen.write

end Grid
end ServiceAtlas
