import ServiceAtlas.Text.Blank
import ServiceAtlas.Text.Encoding
import ServiceAtlas.Text.Search

/-!
Paths in the tree of files. Segments that are empty or a single point say nothing and are left out;
two points stay, for what they mean depends on the tree.
-/

namespace ServiceAtlas

/-- A path from a root or, with an empty one, from the working directory. -/
structure Path where
  root : String
  segments : List String
deriving DecidableEq

namespace Path

def isSlash (c : Char) : Bool := c = '/'

/-- Two slashes in front are a root of their own; any other number counts as one. -/
def rootOf (cs : List Char) : String :=
  match (cs.takeWhile isSlash).length with
  | 0 => ""
  | 2 => "//"
  | _ => "/"

def segmentsOf (cs : List Char) : List String :=
  ((Text.pieces isSlash cs).filter fun s => s ≠ [] && s ≠ ['.']).map String.ofList

def ofText (s : String) : Path := ⟨rootOf s.toList, segmentsOf s.toList⟩

def text (p : Path) : String :=
  if p.root = "" && p.segments.isEmpty then "." else p.root ++ Text.join "/" p.segments

def isAbsolute (p : Path) : Bool := p.root ≠ ""

/-- The path from `p` on; an absolute one stands by itself. -/
def append (p q : Path) : Path := if q.isAbsolute then q else ⟨p.root, p.segments ++ q.segments⟩

def child (p : Path) (name : String) : Path := p.append (ofText name)

def parent (p : Path) : Path := ⟨p.root, p.segments.dropLast⟩

/-- The last segment. -/
def name (p : Path) : String := p.segments.getLast?.getD ""

/-- The name of a new file beside a path, made distinct by a number. -/
def besideName (p : Path) (number : Nat) : String :=
  "." ++ p.name ++ "." ++ Text.padded 8 number ++ ".tmp"

/-- Why no file can have a path. -/
inductive Flaw where
  | halfCharacter
  | nul
deriving DecidableEq

def flaw? (p : Path) : Option Flaw :=
  let cs := p.text.toList
  if (Text.encodeName? cs).isNone then some .halfCharacter
  else if cs.contains '\x00' then some .nul
  else none

/-- The last point of the name and what follows, if neither begins nor ends the name. -/
def suffix (p : Path) : String :=
  let reversed := p.name.toList.reverse
  let ending := reversed.takeWhile (· ≠ '.')
  match reversed.dropWhile (· ≠ '.') with
  | '.' :: _ :: _ => if ending.isEmpty then "" else String.ofList ('.' :: ending.reverse)
  | _ => ""

/-- The account in whose home directory the path begins; the empty name is that of the account that
runs the program. -/
def homeAccount? (p : Path) : Option String :=
  match p.segments with
  | first :: _ =>
    if p.isAbsolute then none else (Text.after? ['~'] first.toList).map String.ofList
  | [] => none

/-- The path with the home directory in place of the sign for it. -/
def fromHome (p home : Path) : Path := ⟨home.root, home.segments ++ p.segments.drop 1⟩

end Path
end ServiceAtlas
