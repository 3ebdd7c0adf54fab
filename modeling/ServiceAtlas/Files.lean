import ServiceAtlas.Program
import ServiceAtlas.Text.Encoding

/-!
Files read and written. A file is written whole or not at all: the text goes to a new file beside the
target first, and only a complete one takes the target's name.
-/

namespace ServiceAtlas.Files
open Program

/-- A path that no file can have is refused before anything is asked of it. -/
def checked (p : Path) : Program Unit :=
  match p.flaw? with
  | none => return ()
  | some .halfCharacter => fail .halfCharacter
  | some .nul => fail .nulInPath

/-- The answer to a question on a path. A path that no file can have leads nowhere. -/
def whether (ask : Path → Program (Except OsError Bool)) (p : Path) : Program Bool := do
  if p.flaw?.isSome then return false else ofOs (← ask p)

def isFile : Path → Program Bool := whether fun p => request (.isFile p)

def isDirectory : Path → Program Bool := whether fun p => request (.isDirectory p)

def pathExists : Path → Program Bool := whether fun p => request (.pathExists p)

/-- What a refused attempt to make a directory comes to: one that is there already is as good. -/
def settled (p : Path) (refusal : OsError) : Program (Except OsError Unit) := do
  match ← request (.isDirectory p) with
  | .ok true => return .ok ()
  | .ok false => return .error refusal
  | .error e => return .error e

/-- Makes a directory whose parent is there. -/
def makeOne (p : Path) : Program (Except OsError Unit) := do
  match ← request (.makeDirectory p) with
  | .ok () => return .ok ()
  | .error .notFound => return .error .notFound
  | .error refusal => settled p refusal

/-- Makes the directory that has the names `up` from the last one to the first, and those above it
that are missing. -/
def makeUp (root : String) : List String → Program (Except OsError Unit)
  | [] => makeOne ⟨root, []⟩
  | name :: up => do
    let p : Path := ⟨root, (name :: up).reverse⟩
    match ← makeOne p with
    | .error .notFound =>
      match ← makeUp root up with
      | .ok () => makeOne p
      | .error refusal => return .error refusal
    | outcome => return outcome

def makeDirectories (p : Path) : Program (Except OsError Unit) := do
  checked p
  makeUp p.root p.segments.reverse

/-- Takes a half-written file away. That it could not be removed is no news. -/
def discard (file : Path) : Program Unit := do
  let _ ← request (.remove file)

/-- After a failed step on an open file: closes it, takes it away, and goes on with the failure. -/
def abandon (file : Path) (failure : Program (Except OsError Unit)) :
    Program (Except OsError Unit) := do
  match ← request (.close file) with
  | .error e => return .error e
  | .ok () =>
    discard file
    failure

/-- After a failed step on a closed file. -/
def withdraw (file : Path) (cause : OsError) : Program (Except OsError Unit) := do
  discard file
  return .error cause

/-- Fills a new file and gives it the name of the target. -/
def fill (file target : Path) (bytes : Text.Bytes) : Program (Except OsError Unit) := do
  match ← request (.writeBytes file bytes) with
  | .error e => abandon file (return .error e)
  | .ok () =>
    match ← request (.flush file) with
    | .error e => abandon file (return .error e)
    | .ok () =>
      match ← request (.sync file) with
      | .error e => abandon file (return .error e)
      | .ok () =>
        match ← request (.close file) with
        | .error e => withdraw file e
        | .ok () =>
          match ← request (.rename file target) with
          | .error e => withdraw file e
          | .ok () => return .ok ()

/-- Writes a file whole or not at all. Missing directories above it are made. -/
def write (target : Path) (text : String) : Program (Except OsError Unit) := do
  match ← makeDirectories target.parent with
  | .error e => return .error e
  | .ok () =>
    checked target
    match ← request (.createBeside target) with
    | .error e => return .error e
    | .ok file =>
      match Text.encode? text.toList with
      | some bytes => fill file target bytes
      | none => abandon file (fail .halfCharacter)

/-- The text of a file, with every line end as one character. -/
def read (p : Path) : Program (Except OsError (List Char)) := do
  match ← request (.readFile p) with
  | .error e => return .error e
  | .ok bytes =>
    match Text.decode bytes with
    | .error _ => fail .notUtf8
    | .ok cs => return .ok (Text.unifyLines cs)

end ServiceAtlas.Files
