import ServiceAtlas.Text.Ranges
import ServiceAtlas.Text.WidthTable

/-!
The room that text takes on a terminal, in cells. Characters without room of their own stand together
with the one before them, so that text is cut between clusters only.
-/

namespace ServiceAtlas.Text

def charCells (c : Char) : Nat :=
  if 0x20 ≤ c.toNat && c.toNat < 0x7F then 1
  else if inRanges roomlessRanges c then 0
  else if inRanges wideRanges c then 2
  else 1

/-- Asks for the pictogram in place of the character in front. -/
def pictogramSelector : Char := '\uFE0F'

def growsWithSelector (c : Char) : Bool := inRanges growingRanges c

/-- The cells of a text; `grows` says whether a selector would widen what stands before it. A joiner
brings the character behind it to the place of the one in front. -/
def cellsBehind (grows : Bool) : List Char → Nat
  | [] => 0
  | '\u200D' :: _ :: rest => cellsBehind grows rest
  | c :: rest =>
    if c = pictogramSelector then grows.toNat + cellsBehind false rest
    else if charCells c = 0 then cellsBehind grows rest
    else charCells c + cellsBehind (growsWithSelector c) rest

def cells (cs : List Char) : Nat := cellsBehind false cs

/-- Characters in one place, and the cells that they take. -/
structure Cluster where
  chars : List Char
  cells : Nat

def Cluster.add (k : Cluster) (cs : List Char) (cells : Nat) : Cluster :=
  ⟨k.chars ++ cs, k.cells + cells⟩

/-- The clusters of a text that goes on behind a cluster. -/
def clustersBehind (k : Cluster) (grows : Bool) : List Char → List Cluster
  | [] => [k]
  | '\u200D' :: c :: rest => clustersBehind (k.add ['\u200D', c] 0) grows rest
  | c :: rest =>
    if c = pictogramSelector then clustersBehind (k.add [c] grows.toNat) false rest
    else if charCells c = 0 then clustersBehind (k.add [c] 0) grows rest
    else k :: clustersBehind ⟨[c], charCells c⟩ (growsWithSelector c) rest

def clusters : List Char → List Cluster
  | [] => []
  | c :: rest => clustersBehind ⟨[c], charCells c⟩ (growsWithSelector c) rest

/-- The beginning that fits into so many cells. A cluster cut in two leaves a blank. -/
def takeCells (room : Nat) : List Cluster → List Char
  | [] => []
  | k :: rest =>
    if k.cells ≤ room then k.chars ++ takeCells (room - k.cells) rest
    else List.replicate room ' '

def blanks (n : Nat) : List Char := List.replicate n ' '

/-- The text in exactly so many cells: cut, or filled up with blanks. -/
def fitCells (size : Nat) (cs : List Char) : List Char :=
  if size = 0 then []
  else if cells cs ≤ size then cs ++ blanks (size - cells cs)
  else takeCells size (clusters cs)

/-- The parts of `ks` in lines of at most `width` cells, behind `used` cells and the characters of
`line`, which are backwards. A cluster wider than a line gets a line of its own; what takes no room at
the end gets none. -/
def chopBehind (width used : Nat) (line : List Char) : List Cluster → List (List Char)
  | [] => if used = 0 then [] else [line.reverse]
  | k :: rest =>
    if used + k.cells > width then
      line.reverse :: chopBehind width k.cells k.chars.reverse rest
    else chopBehind width (used + k.cells) (k.chars.reverse ++ line) rest

/-- A word in parts that each fit into a line. -/
def chop (width : Nat) (cs : List Char) : List (List Char) := chopBehind width 0 [] (clusters cs)

theorem flatMap_chars_clustersBehind (k : Cluster) (grows : Bool) (cs : List Char) :
    (clustersBehind k grows cs).flatMap Cluster.chars = k.chars ++ cs := by
  fun_induction clustersBehind k grows cs with
  | case1 => simp
  | case2 k grows c rest ih => rw [ih]; simp [Cluster.add]
  | case3 k grows rest _ ih => rw [ih]; simp [Cluster.add]
  | case4 k grows c rest _ _ _ ih => rw [ih]; simp [Cluster.add]
  | case5 k grows c rest _ _ _ ih => rw [List.flatMap_cons, ih]; rfl

/-- Clusters lose nothing of the text. -/
theorem flatMap_chars_clusters (cs : List Char) : (clusters cs).flatMap Cluster.chars = cs := by
  cases cs with
  | nil => rfl
  | cons c rest => exact flatMap_chars_clustersBehind _ _ _

end ServiceAtlas.Text
