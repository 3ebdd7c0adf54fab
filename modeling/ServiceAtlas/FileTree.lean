import ServiceAtlas.OsError
import ServiceAtlas.Path
import ServiceAtlas.Text.Encoding

/-!
A tree of files, kept as the list of its entries by place. A place is the list of names on the way
from the root, which is a directory and has no entry of its own.
-/

namespace ServiceAtlas

/-- The names on the way from the root. -/
abbrev Place := List String

inductive Entry where
  | file (bytes : Text.Bytes)
  | directory
deriving DecidableEq

abbrev FileTree := List (Place × Entry)

namespace FileTree

def entry? (t : FileTree) (place : Place) : Option Entry :=
  if place.isEmpty then some .directory else List.lookup place t

def isDirectory (t : FileTree) (place : Place) : Bool := t.entry? place = some .directory

/-- The tree without what is at a place. -/
def erase (t : FileTree) (place : Place) : FileTree := List.filter (fun e => e.1 ≠ place) t

/-- The tree with an entry at a place, whatever was there before. -/
def put (t : FileTree) (place : Place) (e : Entry) : FileTree := (place, e) :: erase t place

/-! Paths. -/

/-- The longest name that an entry can have, in bytes. -/
def nameLimit : Nat := 255

/-- A path is shorter than this, in bytes. -/
def pathLimit : Nat := 4096

def byteLength (s : String) : Nat := ((Text.encodeName? s.toList).getD []).length

def nameTooLong : OsError := .other 36 "File name too long"

def busy : OsError := .other 16 "Device or resource busy"

/-- One step from a place. -/
def step (place : Place) (name : String) : Place :=
  if name = ".." then place.dropLast else place ++ [name]

/-- The place that names lead to. Every place on the way is a directory; the last one need not be
there. -/
def walk (t : FileTree) (place : Place) : List String → Except OsError Place
  | [] => .ok place
  | name :: rest =>
    match t.entry? place with
    | none => .error .notFound
    | some (.file _) => .error .notDirectory
    | some .directory =>
      if nameLimit < byteLength name then .error nameTooLong
      else walk t (step place name) rest

/-- The place of a path, seen from a working directory. -/
def placeOf (t : FileTree) (here : Place) (p : Path) : Except OsError Place :=
  if pathLimit ≤ byteLength p.text then .error nameTooLong
  else walk t (if p.isAbsolute then [] else here) p.segments

def find (t : FileTree) (here : Place) (p : Path) : Except OsError (Place × Entry) := do
  let place ← t.placeOf here p
  match t.entry? place with
  | some e => return (place, e)
  | none => throw .notFound

def readFile (t : FileTree) (here : Place) (p : Path) : Except OsError Text.Bytes := do
  match ← t.find here p with
  | (_, .file bytes) => return bytes
  | (_, .directory) => throw .isDirectory

/-! Changes. -/

def makeDirectory (t : FileTree) (here : Place) (p : Path) : Except OsError FileTree := do
  let place ← t.placeOf here p
  match t.entry? place with
  | some _ => throw .alreadyExists
  | none => return t.put place .directory

/-- A file at a place whose directory is there. -/
def writeFile (t : FileTree) (here : Place) (p : Path) (bytes : Text.Bytes) :
    Except OsError FileTree := do
  let place ← t.placeOf here p
  if t.isDirectory place then throw .isDirectory
  return t.put place (.file bytes)

def remove (t : FileTree) (here : Place) (p : Path) : Except OsError FileTree := do
  match ← t.find here p with
  | (place, .file _) => return t.erase place
  | (_, .directory) => throw .isDirectory

/-- Whether a path ends with the name of an entry. -/
def endsInName (p : Path) : Bool :=
  match p.segments.getLast? with
  | none | some ".." => false
  | some _ => true

/-- Gives a file another path. A file that was there is replaced; a directory is not. -/
def rename (t : FileTree) (here : Place) (file target : Path) : Except OsError FileTree := do
  let (source, e) ← t.find here file
  let place ← t.placeOf here target
  if !endsInName target then throw busy
  if t.isDirectory place then throw .isDirectory
  return (t.erase source).put place e

/-! Whole trees. -/

/-- A directory at a place, and all directories above it. -/
def withDirectory (t : FileTree) (place : Place) : FileTree :=
  (List.range (place.length + 1)).foldl (fun t n =>
    if (t.entry? (place.take n)).isSome then t else t.put (place.take n) .directory) t

/-- A file at a place, and all directories above it. -/
def withFile (t : FileTree) (place : Place) (bytes : Text.Bytes) : FileTree :=
  (t.withDirectory place.dropLast).put place (.file bytes)

/-- The tree without a place and all below it. -/
def without (t : FileTree) (place : Place) : FileTree :=
  List.filter (fun e => !place.isPrefixOf e.1) t

/-- Whether nothing lies below a place. -/
def isBare (t : FileTree) (place : Place) : Bool :=
  t.all fun e => !(place.isPrefixOf e.1 && e.1 ≠ place)

/-- The files and the empty directories below a place, seen from there. A directory is marked. -/
def listing (t : FileTree) (place : Place) : List (Place × Entry) :=
  t.filterMap fun e =>
    if place.isPrefixOf e.1 && e.1 ≠ place && (e.2 ≠ .directory || t.isBare e.1) then
      some (e.1.drop place.length, e.2)
    else none

end FileTree
end ServiceAtlas
