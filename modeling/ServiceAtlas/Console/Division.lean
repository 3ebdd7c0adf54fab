import ServiceAtlas.Text.Blank
import ServiceAtlas.Text.Width

/-!
Where a text breaks into lines of a fixed number of cells: between words or, where a word is longer
than a line, inside of it.
-/

namespace ServiceAtlas

/-- What becomes of a word that is longer than a line. -/
inductive Overflow where
  | fold
  | ellipsis
deriving DecidableEq

namespace Division

/-- The first word of a text, with the blanks around it, and the rest. Blanks alone are no word. -/
def splitWord (cs : List Char) : List Char × List Char :=
  let front := cs.takeWhile Text.isBlank
  let body := (cs.drop front.length).takeWhile fun c => !Text.isBlank c
  let back := (cs.drop (front.length + body.length)).takeWhile Text.isBlank
  let size := front.length + body.length + back.length
  (if body.isEmpty then [] else cs.take size, cs.drop size)

/-- The words of a text of at most `fuel` characters. -/
def wordsUpTo : (fuel : Nat) → List Char → List (List Char)
  | 0, _ => []
  | fuel + 1, cs =>
    match splitWord cs with
    | ([], _) => []
    | (word, rest) => word :: wordsUpTo fuel rest

def words (cs : List Char) : List (List Char) := wordsUpTo cs.length cs

end Division

/-- A text under division: the breaks so far, the last one first, the place of the next word, and the
cells that the line takes already. -/
structure Division where
  breaks : List Nat
  place : Nat
  used : Nat

namespace Division

def start : Division := ⟨[], 0, 0⟩

/-- A break before a place; there is none before the text. -/
def breakAt (place : Nat) (breaks : List Nat) : List Nat :=
  if place = 0 then breaks else place :: breaks

/-- Breaks before every part of a word. -/
def addParts (d : Division) : List (List Char) → Division
  | [] => d
  | part :: rest =>
    addParts ⟨breakAt d.place d.breaks, d.place + part.length, Text.cells part⟩ rest

def addWord (overflow : Overflow) (width : Nat) (d : Division) (word : List Char) : Division :=
  let size := Text.cells (Text.trimRight word)
  let next := d.place + word.length
  if d.used + size ≤ width then { d with place := next, used := d.used + Text.cells word }
  else if width < size then
    match overflow with
    | .fold => { d.addParts (Text.chop width word) with place := next }
    | .ellipsis => ⟨breakAt d.place d.breaks, next, Text.cells word⟩
  else if d.used = 0 ∨ d.place = 0 then { d with place := next }
  else ⟨d.place :: d.breaks, next, Text.cells word⟩

/-- The places before which a text breaks, in ascending order. -/
def breaksOf (overflow : Overflow) (width : Nat) (cs : List Char) : List Nat :=
  ((words cs).foldl (addWord overflow width) start).breaks.reverse

end Division
end ServiceAtlas
