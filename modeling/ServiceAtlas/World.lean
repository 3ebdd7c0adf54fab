import ServiceAtlas.FileTree
import ServiceAtlas.Program

/-!
A machine that is all data: its files, its variables, and a service with prepared replies. A program
that runs on it gives its result, its diagnostics, and the machine as it leaves it.
-/

namespace ServiceAtlas

/-- Replies prepared for a path and, if it is said, for one format. -/
structure Rule where
  path : String
  format : Option String
  replies : List Http.Outcome

namespace Rule

def accepts (r : Rule) (q : Http.Request) : Bool :=
  r.path = q.path && r.format.all fun f => q.query.lookup "format" = some f

/-- The next reply. The last one is given again and again. -/
def reply (r : Rule) : Http.Outcome × Rule :=
  match r.replies with
  | [] => (.reply { status := 200, body := [] }, r)
  | [only] => (only, r)
  | first :: rest => (first, { r with replies := rest })

end Rule

/-- What passes between the program and the network. -/
inductive Signal where
  | sent (q : Http.Request)
  | slept (seconds : Nat)

structure World where
  files : FileTree := []
  workingDirectory : Place := []
  environment : Table String := []
  /-- The homes of accounts; the account of the program has the empty name. -/
  accounts : Table String := [("", "/root"), ("root", "/root")]
  platform : String := "Linux"
  rules : List Rule := []
  hasTerminal : Bool := false
  outputIsTerminal : Bool := false
  secret : String := ""
  time : String := ""
  /-- The error with which the machine refuses a request on files, by the number of the request. -/
  refuses : Nat → Option OsError := fun _ => none
  /-- How many requests on files there were. -/
  asked : Nat := 0
  signals : List Signal := []
  printed : List (Stream × String) := []

namespace World

def pathOf (place : Place) : Path := ⟨"/", place⟩

def find (w : World) (p : Path) : Except OsError (Place × Entry) := w.files.find w.workingDirectory p

/-- Whether a path leads to an entry of a kind. To lead nowhere is an answer, not an error. -/
def probe (w : World) (p : Path) (kind : Entry → Bool) : Except OsError Bool :=
  match w.find p with
  | .ok (_, e) => .ok (kind e)
  | .error .notFound | .error .notDirectory => .ok false
  | .error e => .error e

def isFile (w : World) (p : Path) : Except OsError Bool := w.probe p (· ≠ .directory)

def isDirectory (w : World) (p : Path) : Except OsError Bool := w.probe p (· = .directory)

def pathExists (w : World) (p : Path) : Except OsError Bool := w.probe p fun _ => true

/-- The answer to a request on files, unless the machine refuses it. -/
def answer {α : Type} (w : World) (f : FileTree → Except OsError (α × FileTree)) :
    Except OsError α × World :=
  let w' := { w with asked := w.asked + 1 }
  match w.refuses w.asked with
  | some e => (.error e, w')
  | none =>
    match f w.files with
    | .error e => (.error e, w')
    | .ok (a, files) => (.ok a, { w' with files })

def change (w : World) (f : FileTree → Except OsError FileTree) : Except OsError Unit × World :=
  w.answer fun t => (f t).map fun t' => ((), t')

/-- A new file beside a target, made distinct by a number. -/
def besidePath (target : Path) (number : Nat) : Path :=
  ⟨target.root, target.parent.segments ++ [target.besideName number]⟩

/-- The first number from `number` on whose file beside the target is not there; `tries` bounds the
search. -/
def freeNumber (t : FileTree) (here : Place) (target : Path) (number : Nat) : (tries : Nat) → Nat
  | 0 => number
  | tries + 1 =>
    if (t.find here (besidePath target number)).toBool then
      freeNumber t here target (number + 1) tries
    else number

def createBeside (here : Place) (target : Path) (t : FileTree) : Except OsError (Path × FileTree) := do
  let file := besidePath target (freeNumber t here target 0 t.length)
  return (file, ← t.writeFile here file [])

def respond (q : Http.Request) : List Rule → Http.Outcome × List Rule
  | [] =>
    let body := Text.encode "\x7b\"message\": \"no such path\"\x7d".toList
    (.reply { status := 404, body }, [])
  | r :: rest =>
    if r.accepts q then
      let (outcome, r') := r.reply
      (outcome, r' :: rest)
    else
      let (outcome, rest') := respond q rest
      (outcome, r :: rest')

/-- The answer to a request, and the machine after it. -/
def handle (w : World) : (r : Request) → r.Answer × World
  | .environment name => (w.environment.find? name, w)
  | .accountHome name => (w.accounts.find? name, w)
  | .platform => (w.platform, w)
  | .workingDirectory => (pathOf w.workingDirectory, w)
  | .isFile p => (w.isFile p, w)
  | .isDirectory p => (w.isDirectory p, w)
  | .pathExists p => (w.pathExists p, w)
  | .readFile p => w.answer fun t => (t.readFile w.workingDirectory p).map fun bytes => (bytes, t)
  | .makeDirectory p => w.change (·.makeDirectory w.workingDirectory p)
  | .createBeside target => w.answer (createBeside w.workingDirectory target)
  | .writeBytes p bytes => w.change (·.writeFile w.workingDirectory p bytes)
  | .flush _ | .sync _ | .close _ => w.change .ok
  | .rename file target => w.change (·.rename w.workingDirectory file target)
  | .remove p => w.change (·.remove w.workingDirectory p)
  | .send q =>
    let (outcome, rules) := respond q w.rules
    (outcome, { w with rules, signals := w.signals ++ [.sent q] })
  | .sleep seconds => ((), { w with signals := w.signals ++ [.slept seconds] })
  | .print stream text => ((), { w with printed := w.printed ++ [(stream, text)] })
  | .hasTerminal => (w.hasTerminal, w)
  | .outputIsTerminal => (w.outputIsTerminal, w)
  | .askSecret _ => (w.secret, w)
  | .timestamp => (w.time, w)

/-- All that was printed to a stream. -/
def printedTo (w : World) (stream : Stream) : String :=
  String.join ((w.printed.filter fun e => e.1 = stream).map Prod.snd)

end World

/-- What comes of a program that ran. -/
structure Run (α : Type) where
  result : Except Failure α
  notes : List Diagnostic
  world : World

namespace Program
variable {α β : Type}

def run : Program α → World → Run α
  | done a, w => ⟨.ok a, [], w⟩
  | fail f, w => ⟨.error f, [], w⟩
  | report d next, w =>
    let r := run next w
    { r with notes := d :: r.notes }
  | ask q next, w => run (next (w.handle q).1) (w.handle q).2

end Program
end ServiceAtlas
