import ServiceAtlas.Console.Grid
import ServiceAtlas.Failure
import ServiceAtlas.Json.Writer

/-!
Rows under headers, as a caller gives them: whatever can be gone through, with values of any kind.
Each form of output takes what it can show and refuses the rest.
-/

namespace ServiceAtlas

/-- Text that was printed, and what stopped the printing, if anything did. -/
structure Printed where
  text : String
  failure : Option Failure

def Printed.ofExcept : Except Failure String → Printed
  | .ok text => ⟨text, none⟩
  | .error f => ⟨"", some f⟩

/-- Line by line, up to the first one that there is no text for. -/
def Printed.lines : List (Except Failure String) → Printed
  | [] => ⟨"", none⟩
  | .error f :: _ => ⟨"", some f⟩
  | .ok line :: rest =>
    let more := lines rest
    { more with text := line ++ "\n" ++ more.text }

structure Sheet where
  title : Value
  headers : Value
  rows : Value

namespace Sheet

def ofTexts (title : String) (headers : List String) (rows : List (List String)) : Sheet :=
  ⟨.text title, .texts headers, .list (rows.map Value.texts)⟩

/-- What a value consists of: the items of a list, the characters of a text, the keys of a table. -/
def partsOf : Value → Except Failure (List Value)
  | .list items => .ok items
  | .text s => .ok (s.toList.map fun c => .text (String.singleton c))
  | .object fields => .ok (fields.map fun e => .text e.1)
  | _ => .error .wrongType

/-- The key that a header makes. -/
def keyOf : Value → Except Failure String
  | .text s => .ok s
  | .list _ | .object _ => .error .wrongType
  | v => .ok (Json.inline v)

/-- A row as a record; of two cells under one header the last one counts. -/
def record (headers row : Value) : Except Failure Value := do
  let cells := (← partsOf headers).zip (← partsOf row)
  let entries ← cells.mapM fun (header, v) => (keyOf header).map fun key => (key, v)
  return .object (Table.ofEntries entries)

def records (s : Sheet) : Except Failure Value := do
  return .list (← (← partsOf s.rows).mapM (record s.headers))

/-- A line of texts with tabs between them. -/
def lineOf (v : Value) : Except Failure String := do
  let cells ← (← partsOf v).mapM fun cell =>
    match cell with
    | .text s => .ok s
    | _ => .error .wrongType
  return Text.join "\t" cells

/-- The plain lines of a sheet, the headers first. -/
def plain (s : Sheet) : Printed :=
  match partsOf s.rows with
  | .ok rows => .lines (lineOf s.headers :: rows.map lineOf)
  | .error f => .lines [lineOf s.headers, .error f]

def headingOf : Value → Grid.Cell
  | .text s => .markup s.toList
  | _ => .unshowable

/-- A cell may also be left empty. -/
def cellOf : Value → Except Failure Grid.Cell
  | .text s => .ok (.markup s.toList)
  | .null => .ok Grid.emptyCell
  | _ => .error .notShowable

def grid (s : Sheet) : Except Failure Grid := do
  let headings := (← partsOf s.headers).map headingOf
  let rows ← (← partsOf s.rows).mapM fun row => do (← partsOf row).mapM cellOf
  return { title := if s.title.isGiven then some (headingOf s.title) else none, headings, rows }

/-- What stops a grid. -/
def failureOf : Grid.Fault → Failure
  | .markup f => .badMarkup f
  | .unshowable => .notShowable

/-- What a screen shows of the sheet. -/
def framed (s : Sheet) (screen : Screen) : Printed :=
  .ofExcept (do
    match (← s.grid).text screen with
    | .ok text => return text
    | .error f => throw (failureOf f))

end Sheet
end ServiceAtlas
