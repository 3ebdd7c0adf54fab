import ServiceAtlas.Http
import ServiceAtlas.Noted
import ServiceAtlas.OsError
import ServiceAtlas.Path

/-!
Programs: what to ask of the machine, and how to go on with its answer. A program may report
diagnostics and may fail; what the machine is, real or imagined, is left open.
-/

namespace ServiceAtlas

inductive Stream where
  | output
  | diagnostics
deriving DecidableEq

/-- What a program can ask of the machine that it runs on. Writing a file takes several steps, each of
which may fail by itself. -/
inductive Request where
  /-- The value of an environment variable. -/
  | environment (name : String)
  /-- The home of an account; without a name, of the account that the program runs under. -/
  | accountHome (name : String)
  | platform
  | workingDirectory
  | isFile (p : Path)
  | isDirectory (p : Path)
  | pathExists (p : Path)
  | readFile (p : Path)
  | makeDirectory (p : Path)
  /-- A new file beside `target`, under a name that no other file has. -/
  | createBeside (target : Path)
  | writeBytes (file : Path) (bytes : Text.Bytes)
  | flush (file : Path)
  | sync (file : Path)
  | close (file : Path)
  | rename (file target : Path)
  | remove (p : Path)
  | send (r : Http.Request)
  | sleep (seconds : Nat)
  | print (stream : Stream) (text : String)
  /-- Whether someone sits at the terminal who can be asked. -/
  | hasTerminal
  | outputIsTerminal
  | askSecret (prompt : String)
  /-- The time as it stands in the name of a log. -/
  | timestamp

namespace Request

/-- The type of the answer to a request. -/
abbrev Answer : Request → Type
  | environment _ | accountHome _ => Option String
  | platform => String
  | workingDirectory => Path
  | isFile _ | isDirectory _ | pathExists _ => Except OsError Bool
  | hasTerminal | outputIsTerminal => Bool
  | readFile _ => Except OsError Text.Bytes
  | makeDirectory _ | writeBytes _ _ | flush _ | sync _ | close _ | rename _ _ | remove _ =>
    Except OsError Unit
  | createBeside _ => Except OsError Path
  | send _ => Http.Outcome
  | sleep _ | print _ _ => Unit
  | askSecret _ | timestamp => String

end Request

inductive Program (α : Type) where
  | done (a : α)
  | fail (f : Failure)
  | report (d : Diagnostic) (next : Program α)
  | ask (r : Request) (next : r.Answer → Program α)

namespace Program
variable {α β : Type}

def bind : Program α → (α → Program β) → Program β
  | done a, f => f a
  | fail e, _ => fail e
  | report d next, f => report d (bind next f)
  | ask r next, f => ask r fun answer => bind (next answer) f

instance : Monad Program where
  pure := done
  bind := bind

/-- Goes on with `handle` where the program fails. -/
def recover (handle : Failure → Program α) : Program α → Program α
  | done a => done a
  | fail e => handle e
  | report d next => report d (recover handle next)
  | ask r next => ask r fun answer => recover handle (next answer)

/-- The result or the failure of a program, as a value. -/
def attempt : Program α → Program (Except Failure α)
  | done a => done (.ok a)
  | fail e => done (.error e)
  | report d next => report d (attempt next)
  | ask r next => ask r fun answer => attempt (next answer)

def note (d : Diagnostic) : Program Unit := report d (done ())

def request (r : Request) : Program r.Answer := ask r done

def ofExcept : Except Failure α → Program α
  | .ok a => done a
  | .error e => fail e

/-- An answer of the operating system, with its error as a failure. -/
def ofOs : Except OsError α → Program α
  | .ok a => done a
  | .error e => fail (.os e)

def reportAll : List Diagnostic → Program α → Program α
  | [], p => p
  | d :: rest, p => report d (reportAll rest p)

def ofTraced (x : Traced α) : Program α := reportAll x.notes (ofExcept x.result)

def ofNoted (x : Noted α) : Program α := reportAll x.notes (done x.value)

/-- The program with its diagnostics printed, each as `shown` says. -/
def narrate (shown : Diagnostic → String) : Program α → Program α
  | done a => done a
  | fail e => fail e
  | report d next =>
    ask (.print .diagnostics (shown d)) fun _ => narrate shown next
  | ask r next => ask r fun answer => narrate shown (next answer)

theorem bind_done (p : Program α) : bind p done = p := by
  induction p with
  | done a => rfl
  | fail e => rfl
  | report d next ih => simp only [bind, ih]
  | ask r next ih => simp only [bind, ih]

theorem bind_bind {γ : Type} (p : Program α) (f : α → Program β) (g : β → Program γ) :
    bind (bind p f) g = bind p fun a => bind (f a) g := by
  induction p with
  | done a => rfl
  | fail e => rfl
  | report d next ih => simp only [bind, ih]
  | ask r next ih => simp only [bind, ih]

end Program
end ServiceAtlas
