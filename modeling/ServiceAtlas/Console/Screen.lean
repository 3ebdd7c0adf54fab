import ServiceAtlas.Console.Marked
import ServiceAtlas.Text.Integer
import ServiceAtlas.Text.LetterTable

/-!
Where lines are shown: a terminal that knows styles, or a file that knows none. Every line is cut to
the width of the screen, and each of its segments is written in its own style.
-/

namespace ServiceAtlas

structure Screen where
  /-- The cells in a line. -/
  width : Nat
  /-- How many colours there are; none at all where no style is known. -/
  depth : Option Depth
  /-- Whether colours are wished for. -/
  colourful : Bool
deriving DecidableEq

namespace Segment

def plain (cs : List Char) : Segment := ⟨cs, .plain⟩

def cells (s : Segment) : Nat := Text.cells s.chars

/-- The segments in the first `width` cells; the one that reaches the edge is cut or filled up. -/
def crop (width : Nat) : List Segment → List Segment
  | [] => []
  | s :: rest =>
    if s.cells < width then s :: crop (width - s.cells) rest
    else [{ s with chars := Text.fitCells width s.chars }]

def total (line : List Segment) : Nat := (line.map cells).foldr (· + ·) 0

def cropOver (width : Nat) (line : List Segment) : List Segment :=
  if width < total line then crop width line else line

/-- A line in exactly so many cells. -/
def adjust (width : Nat) (filler : Style) (line : List Segment) : List Segment :=
  if total line < width then line ++ [⟨Text.blanks (width - total line), filler⟩]
  else cropOver width line

/-- The segment with a style laid below its own. -/
def above (lower : Style) (s : Segment) : Segment := { s with style := s.style.atop lower }

end Segment

namespace Screen

/-- What tells a terminal of a style. -/
def opening (codes : List Nat) : List Char :=
  '\x1b' :: '[' :: (Text.join ";" (codes.map Text.nat)).toList ++ ['m']

def closing : List Char := "\x1b[0m".toList

def writeSegment (screen : Screen) (s : Segment) : List Char :=
  match screen.depth with
  | none => s.chars
  | some depth =>
    let style := if screen.colourful then s.style else s.style.withoutColours
    let codes := style.codes depth
    if s.chars.isEmpty || codes.isEmpty then s.chars else opening codes ++ s.chars ++ closing

def writeLine (screen : Screen) (line : List Segment) : List Char :=
  (Segment.cropOver screen.width line).flatMap screen.writeSegment ++ ['\n']

/-- What is written for lines. A screen without any width shows nothing. -/
def write (screen : Screen) (lines : List (List Segment)) : String :=
  if screen.width = 0 then "" else String.ofList (lines.flatMap screen.writeLine)

/-- What is written for a text that is broken into lines. -/
def present (screen : Screen) (m : Marked) : String :=
  screen.write ((m.wrap .asIs .fold screen.width).map Marked.segments)

/-! What the surroundings say of a screen. -/

def defaultWidth : Nat := 80

/-- A number of cells or lines, if the text is one. What only looks like digits is an error. -/
def countOf (text : Option String) : Except String (Option Nat) :=
  match text with
  | none => .ok none
  | some s =>
    let cs := s.toList
    match cs.mapM Text.digitValue? with
    | some [] => .ok none
    | some digits =>
      if Text.digitLimit < digits.length then .error s else .ok (some (Text.valueOf 10 digits))
    | none =>
      let isDigit (c : Char) : Bool :=
        (Text.digitValue? c).isSome || Text.inRanges Text.ornateDigitRanges c
      if cs.all isDigit then .error s else .ok none

/-- Terminals without styles. -/
def bareTerminals : List String := ["dumb", "unknown"]

def isBare (term : Option String) : Bool := bareTerminals.contains (Text.lower (term.getD ""))

/-- Words for a terminal that mixes its colours. -/
def mixedNames : List String := ["truecolor", "24bit"]

/-- Ends of the names of terminals with numbered colours. -/
def numberedNames : List String := ["256color", "kitty"]

def depthOf (term colourTerm : Option String) : Depth :=
  let wordOf (s : Option String) : String := Text.lower (Text.strip (s.getD ""))
  if mixedNames.contains (wordOf colourTerm) then .mixed
  else
    let last := (Text.pieces (· = '-') (wordOf term).toList).getLast?.getD []
    if numberedNames.contains (String.ofList last) then .numbered else .sixteen

/-- The width of a screen. A terminal without styles is believed only if both sizes are given. -/
def widthOf (columns lines : Option Nat) (isBareTerminal : Bool) : Nat :=
  if isBareTerminal && lines.isNone then defaultWidth else columns.getD defaultWidth

end Screen
end ServiceAtlas
