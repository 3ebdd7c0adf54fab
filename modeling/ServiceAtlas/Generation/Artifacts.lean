import ServiceAtlas.Files
import ServiceAtlas.Generation

/-!
The files of a run: the document and, if they are wanted, its parts beside it. When one of them cannot
be written, those that were written before it are taken away again.
-/

namespace ServiceAtlas.Generation
open Program
variable [Stack]

def schemasName : String := "schemas.json"

def pathsName : String := "paths.json"

/-- The tables that make files of their own, with their names. -/
def partTables (g : Generation) : List (String × Table Value) :=
  [(schemasName, schemaTable g.schemas), (pathsName, g.routes.toTable)]

/-- The files in the order in which they are written, the document first. Every text is there before
the first of them is written. -/
def artifacts (g : Generation) (output : String) (withParts : Bool) :
    Except Failure (List (Path × String)) := do
  let target := Path.ofText output
  let text ← g.text (Document.Format.ofPath output)
  let others ← (if withParts then g.partTables else []).mapM fun (name, t) => do
    return (target.parent.child name, ← Json.write (.object t))
  return (target, text) :: others

/-- Takes files away; one that is gone already is no failure. -/
def takeBack : List Path → Program Unit
  | [] => return ()
  | p :: rest => do
    match ← request (.remove p) with
    | .ok () | .error .notFound => takeBack rest
    | .error e => fail (.os e)

/-- Writes all files, or none of them stays. -/
def writeAll (written : List Path) : List (Path × String) → Program (List Path)
  | [] => return written
  | (p, text) :: rest => do
    match ← Files.write p text with
    | .ok () => writeAll (written ++ [p]) rest
    | .error e =>
      takeBack written
      fail (.cannotWrite p.text e)

def noteParts : List Path → Program Unit
  | [] => return ()
  | p :: rest => do
    note (.partWritten p.text)
    noteParts rest

/-- Writes the files of a run. Gives their paths, that of the document last. -/
def writeArtifacts (g : Generation) (output : String) (parts : Bool) : Program (List Path) := do
  let written ← writeAll [] (← ofExcept (g.artifacts output parts))
  noteParts (written.drop 1)
  return written.drop 1 ++ written.take 1

end ServiceAtlas.Generation
