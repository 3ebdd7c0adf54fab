import ServiceAtlas.Calendar
import ServiceAtlas.Command.Line

/-!
The program on a real machine: every request is passed on to the operating system. There is no way to
a network from here, so that a request to a service is answered by a network error.
-/

namespace ServiceAtlas.Machine

def osError (code : UInt32) (text : String) : OsError :=
  match code.toNat with
  | 2 => .notFound
  | 17 => .alreadyExists
  | 20 => .notDirectory
  | 21 => .isDirectory
  | 28 => .noSpace
  | n => .other n text

def ofError : IO.Error → OsError
  | .noFileOrDirectory _ code text | .interrupted _ code text => osError code text
  | .alreadyExists _ code text | .invalidArgument _ code text | .permissionDenied _ code text
  | .resourceExhausted _ code text | .inappropriateType _ code text
  | .noSuchThing _ code text => osError code text
  | .otherError code text | .resourceBusy code text | .resourceVanished code text
  | .unsupportedOperation code text | .hardwareFault code text
  | .unsatisfiedConstraints code text | .illegalOperation code text | .protocolError code text
  | .timeExpired code text => osError code text
  | .unexpectedEof => .other 5 "unexpected end of file"
  | .userError text => .other 5 text

/-- What the operating system answers, with its error as a value. -/
def asked {α : Type} (act : IO α) : IO (Except OsError α) := do
  match ← act.toBaseIO with
  | .ok a => return .ok a
  | .error e => return .error (ofError e)

/-- Whether a path leads to an entry of a type that `kind` holds of. -/
def probe (p : Path) (kind : IO.FS.FileType → Bool) : IO (Except OsError Bool) := do
  match ← asked ((← IO.currentDir) / p.text).metadata with
  | .ok m => return .ok (kind m.type)
  | .error .notFound | .error .notDirectory => return .ok false
  | .error e => return .error e

/-- A new file beside a target; `tries` bounds the search for a free name. -/
def createFrom (target : Path) (number : Nat) : (tries : Nat) → IO (Except OsError Path)
  | 0 => return .error .alreadyExists
  | tries + 1 => do
    let file : Path := ⟨target.root, target.parent.segments ++ [target.besideName number]⟩
    match ← asked (discard (IO.FS.Handle.mk ⟨file.text⟩ .writeNew)) with
    | .ok () => return .ok file
    | .error .alreadyExists => createFrom target (number + 1) tries
    | .error e => return .error e

/-- The home that the table of accounts gives. -/
def homeOf (account : String) : IO (Option String) := do
  let name ← if account = "" then (·.getD "root") <$> IO.getEnv "LOGNAME" else pure account
  match ← (IO.FS.readFile ⟨"/etc/passwd"⟩).toBaseIO with
  | .error _ => return none
  | .ok table =>
    let rows := (Text.pieces (· = '\n') table.toList).map (Text.pieces (· = ':'))
    return (rows.find? fun row => row.head? = some name.toList).bind fun row =>
      row[5]?.map String.ofList

/-- The time now: the system gives an entry for the running program as soon as it is looked for. -/
def now : IO Nat := do
  match ← ((← IO.currentDir) / "/proc/self/status").metadata.toBaseIO with
  | .ok m => return m.modified.sec.toNat
  | .error _ => return 0

def stream : Stream → IO IO.FS.Stream
  | .output => IO.getStdout
  | .diagnostics => IO.getStderr

def write (s : Stream) (text : String) : IO Unit := do
  let out ← stream s
  out.putStr text
  out.flush

def askSecret (prompt : String) : IO String := do
  write .diagnostics prompt
  let line ← (← IO.getStdin).getLine
  return String.ofList (line.toList.filter fun c => c ≠ '\n' && c ≠ '\r')

def handle : (r : Request) → IO r.Answer
  | .environment name => IO.getEnv name
  | .accountHome name => homeOf name
  | .platform => return "Linux"
  | .workingDirectory => do return Path.ofText (← IO.currentDir).toString
  | .isFile p => probe p (· == .file)
  | .isDirectory p => probe p (· == .dir)
  | .pathExists p => probe p fun _ => true
  | .readFile p => asked do return (← IO.FS.readBinFile ⟨p.text⟩).toList
  | .makeDirectory p => asked (IO.FS.createDir ⟨p.text⟩)
  | .createBeside target => createFrom target 0 10000
  | .writeBytes p bytes => asked (IO.FS.writeBinFile ⟨p.text⟩ (ByteArray.mk bytes.toArray))
  | .flush _ | .sync _ | .close _ => return .ok ()
  | .rename file target => asked (IO.FS.rename ⟨file.text⟩ ⟨target.text⟩)
  | .remove p => asked (IO.FS.removeFile ⟨p.text⟩)
  | .send _ => return .networkError "there is no network"
  | .sleep seconds => IO.sleep (1000 * seconds).toUInt32
  | .print s text => write s text
  | .hasTerminal => do (← IO.getStdin).isTty
  | .outputIsTerminal => do (← IO.getStdout).isTty
  | .askSecret prompt => askSecret prompt
  | .timestamp => do return Calendar.stamp (← now)

def execute {α : Type} : Program α → IO (Except Failure α)
  | .done a => return .ok a
  | .fail f => return .error f
  | .report _ next => execute next
  | .ask r next => do execute (next (← handle r))

open Stack.Usual in
def main (words : List String) : IO UInt32 := do
  match ← execute (CommandLine.run words) with
  | .ok code => return code.toNat.toUInt32
  | .error f =>
    write .diagnostics (f.message ++ "\n")
    return 1

end ServiceAtlas.Machine

def main (words : List String) : IO UInt32 := ServiceAtlas.Machine.main words
