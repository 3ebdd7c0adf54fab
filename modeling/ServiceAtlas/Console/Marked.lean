import ServiceAtlas.Console.Division
import ServiceAtlas.Console.Style

/-!
Text with styles laid over parts of it. Breaking it into lines, cutting and filling up keep every
style over its characters.
-/

namespace ServiceAtlas

/-- A style over the characters from `start` up to, but not with, `stop`. -/
structure Region where
  start : Nat
  stop : Nat
  style : Style
deriving DecidableEq

def Region.shift (r : Region) (count : Nat) : Region :=
  { r with start := r.start + count, stop := r.stop + count }

/-- What of the region lies between two places, counted from the first. -/
def Region.between? (r : Region) (start stop : Nat) : Option Region :=
  let first := r.start - start
  let last := min r.stop stop - start
  if first < last then some ⟨first, last, r.style⟩ else none

/-- Characters in one style. -/
structure Segment where
  chars : List Char
  style : Style
deriving DecidableEq

/-- Text with its regions, the lowest first; the base lies below them and grows with the text. -/
structure Marked where
  chars : List Char
  base : Option Style
  regions : List Region
deriving DecidableEq

/-- Where a line has its text. -/
inductive Justification where
  | asIs
  | left
  | centre
deriving DecidableEq

namespace Marked

/-- Control characters that a terminal would act on. -/
def isStripped (c : Char) : Bool :=
  c = '\x07' || c = '\x08' || c = '\x0b' || c = '\x0c' || c = '\r'

def sanitized (cs : List Char) : List Char := cs.filter fun c => !isStripped c

def unmarked (cs : List Char) : Marked := ⟨sanitized cs, none, []⟩

/-- Other characters in place of the old ones. Regions end where the text does. -/
def withChars (m : Marked) (cs : List Char) : Marked :=
  if cs.length < m.chars.length then
    { m with
      chars := cs
      regions := (m.regions.filter fun r => r.start < cs.length).map fun r =>
        { r with stop := min r.stop cs.length } }
  else { m with chars := cs }

def slice (m : Marked) (start stop : Nat) : Marked where
  chars := (m.chars.drop start).take (stop - start)
  base := m.base
  regions := m.regions.filterMap (·.between? start stop)

/-- The parts between the places of an ascending list. -/
def divide (m : Marked) (places : List Nat) : List Marked :=
  if places.isEmpty then [m]
  else List.zipWith m.slice (0 :: places) (places ++ [m.chars.length])

/-- The places at which a character stands. -/
def placesOf (c : Char) (cs : List Char) : List Nat :=
  (cs.zipIdx.filter fun e => e.1 = c).map Prod.snd

def lines (m : Marked) : List Marked :=
  (m.divide ((placesOf '\n' m.chars).flatMap fun p => [p, p + 1])).filter fun part =>
    part.chars ≠ ['\n']

/-- The regions with the base below them. -/
def layers (m : Marked) : List Region :=
  (m.base.toList.map fun s => ⟨0, m.chars.length, s⟩) ++ m.regions

/-! Tabs. -/

def tabSize : Nat := 8

/-- A part that ends with a tab, with blanks up to the next stop instead; `column` counts the cells
before the part. What is laid over the tab is laid over the blanks. -/
def expandPart (column : Nat) (part : Marked) : Marked :=
  if part.chars.getLast? = some '\t' then
    let cs := part.chars.dropLast ++ [' ']
    let past := (column + Text.cells cs) % tabSize
    let more := if past = 0 then 0 else tabSize - past
    { part with
      chars := cs ++ Text.blanks more
      regions := part.regions.map fun r =>
        if cs.length ≤ r.stop then { r with stop := r.stop + more } else r }
  else part

def expandParts (column : Nat) : List Marked → List Marked
  | [] => []
  | part :: rest =>
    let part := expandPart column part
    part :: expandParts (column + Text.cells part.chars) rest

/-- The regions of parts that stand one behind the other from `place` on. -/
def joinedLayers (place : Nat) : List Marked → List Region
  | [] => []
  | part :: rest =>
    part.layers.map (·.shift place) ++ joinedLayers (place + part.chars.length) rest

/-- A line with blanks instead of tabs. -/
def expandTabs (m : Marked) : Marked :=
  if m.chars.contains '\t' then
    let parts := expandParts 0
      ((m.divide ((placesOf '\t' m.chars).map (· + 1))).filter fun part => !part.chars.isEmpty)
    { m with chars := parts.flatMap Marked.chars, regions := joinedLayers 0 parts }
  else m

/-! Lines of a fixed width. -/

/-- The line without the blanks at its end that lie beyond the width. -/
def dropExcess (width : Nat) (m : Marked) : Marked :=
  let blanks := (m.chars.reverse.takeWhile Text.isBlank).length
  m.withChars (m.chars.take (m.chars.length - min blanks (m.chars.length - width)))

/-- The line cut to at most so many cells. -/
def truncate (overflow : Overflow) (width : Nat) (m : Marked) : Marked :=
  if Text.cells m.chars ≤ width then m
  else match overflow with
    | .fold => m.withChars (Text.fitCells width m.chars)
    | .ellipsis => m.withChars (Text.fitCells (width - 1) m.chars ++ ['…'])

def padRight (count : Nat) (m : Marked) : Marked := { m with chars := m.chars ++ Text.blanks count }

def padLeft (count : Nat) (m : Marked) : Marked :=
  { m with chars := Text.blanks count ++ m.chars, regions := m.regions.map (·.shift count) }

def justify (j : Justification) (overflow : Overflow) (width : Nat) (m : Marked) : Marked :=
  match j with
  | .asIs => m
  | .left =>
    let m := m.truncate overflow width
    m.padRight (width - Text.cells m.chars)
  | .centre =>
    let m := (m.withChars (Text.trimRight m.chars)).truncate overflow width
    let m := m.padLeft ((width - Text.cells m.chars) / 2)
    m.padRight (width - Text.cells m.chars)

/-- The lines that a text takes, none of them longer than the width. -/
def wrap (j : Justification) (overflow : Overflow) (width : Nat) (m : Marked) : List Marked :=
  m.lines.flatMap fun line =>
    let line := line.expandTabs
    (line.divide (Division.breaksOf overflow width line.chars)).map fun part =>
      ((part.dropExcess width).justify j overflow width).truncate overflow width

/-! Segments. -/

/-- The style at a place, made of all that lies over it. -/
def styleAt (layers : List Region) (place : Nat) : Style :=
  Style.overAll ((layers.filter fun r => r.start ≤ place && place < r.stop).map Region.style)

/-- The segments of a line: one between any two places at which a region begins or ends. -/
def segments (m : Marked) : List Segment :=
  let layers := m.layers
  let isEdge (place : Nat) : Bool := layers.any fun r => r.start = place || r.stop = place
  let places := (List.range m.chars.length).filter fun place => place = 0 || isEdge place
  List.zipWith (fun start stop => ⟨(m.chars.drop start).take (stop - start), styleAt layers start⟩)
    places (places.drop 1 ++ [m.chars.length])

end Marked
end ServiceAtlas
