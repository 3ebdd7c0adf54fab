import ServiceAtlas.Command

/-!
The command line. Options stand before the arguments of a command or between them; a value follows
its option or is attached to it, and short options can share one sign.
-/

namespace ServiceAtlas

/-- Why a command line cannot be understood. -/
inductive Misuse where
  | noSuchOption (name : String)
  | valueMissing (name : String)
  | valueRefused (name : String)
  | noSuchCommand (name : String)
  | commandMissing
  | argumentMissing (name : String)
  | argumentRefused (name : String)
  | notAnInteger (name value : String)
  | notAChoice (name value : String)
deriving DecidableEq

def Misuse.message : Misuse → String
  | noSuchOption name => "No such option: " ++ name
  | valueMissing name => "Option " ++ name ++ " requires an argument."
  | valueRefused name => "Option " ++ name ++ " does not take a value."
  | noSuchCommand name => "No such command " ++ name ++ "."
  | commandMissing => "Missing command."
  | argumentMissing name => "Missing argument " ++ name ++ "."
  | argumentRefused name => "Got unexpected extra argument (" ++ name ++ ")"
  | notAnInteger name value => "Invalid value for " ++ name ++ ": " ++ value ++ " is not a valid integer."
  | notAChoice name value => "Invalid value for " ++ name ++ ": " ++ value ++ " is not one of range, exact."

namespace CommandLine

/-- What an option does. The first two answer at once, whatever else is wrong with the values. -/
inductive Switch where
  | help
  | version
  | flag (key : String) (on : Bool)
  | taking (key : String)
deriving DecidableEq

/-- What was found on the line. -/
inductive Mark where
  | help
  | version
  | flag (key : String) (on : Bool)
  | value (key text : String)
deriving DecidableEq

/-- The options of a command, and whether they may follow an argument. -/
structure Form where
  options : List (String × Switch)
  mixed : Bool

/-- The mark of an option that stands alone; one that takes a value has none yet. -/
def Switch.mark? : Switch → Option Mark
  | .help => some .help
  | .version => some .version
  | .flag key on => some (.flag key on)
  | .taking _ => none

/-- What one word of the line gives: marks and, if its last option takes a value that is still to
come, the option and its key. -/
structure Word where
  marks : List Mark
  awaits : Option (String × String)

/-- Short options behind one sign. What follows one that takes a value is its value. -/
def readCluster (f : Form) : List Char → Except Misuse Word
  | [] => .ok ⟨[], none⟩
  | c :: rest =>
    let name := String.ofList ['-', c]
    match f.options.lookup name with
    | none => .error (.noSuchOption name)
    | some (.taking key) =>
      if rest.isEmpty then .ok ⟨[], some (name, key)⟩
      else .ok ⟨[.value key (String.ofList rest)], none⟩
    | some switch => do
      let word ← readCluster f rest
      return { word with marks := switch.mark?.toList ++ word.marks }

/-- A long option, by itself or with a value attached. -/
def readLong (name : String) (attached : Option String) (switch : Switch) : Except Misuse Word :=
  match switch, attached with
  | .taking key, none => .ok ⟨[], some (name, key)⟩
  | .taking key, some text => .ok ⟨[.value key text], none⟩
  | _, some _ => .error (.valueRefused name)
  | switch, none => .ok ⟨switch.mark?.toList, none⟩

/-- The name of an option and the value attached to it. -/
def splitAttached (word : List Char) : String × Option String :=
  let name := word.takeWhile (· ≠ '=')
  match word.drop name.length with
  | _ :: text => (String.ofList name, some (String.ofList text))
  | [] => (String.ofList name, none)

def readOption (f : Form) (word : List Char) : Except Misuse Word :=
  let (name, attached) := splitAttached word
  if Text.startsWith name "--" then
    match f.options.lookup name with
    | some switch => readLong name attached switch
    | none => .error (.noSuchOption name)
  else readCluster f (word.drop 1)

/-- A line that was read: what its options say, and its other words. -/
structure Parsed where
  marks : List Mark
  rest : List String

def Parsed.add (marks : List Mark) (p : Parsed) : Parsed := { p with marks := marks ++ p.marks }

def isOption (word : String) : Bool :=
  match word.toList with
  | '-' :: _ :: _ => true
  | _ => false

/-- Two signs alone end the options. -/
def parse (f : Form) : List String → Except Misuse Parsed
  | [] => .ok ⟨[], []⟩
  | "--" :: rest => .ok ⟨[], rest⟩
  | word :: rest =>
    if !isOption word then
      if f.mixed then do
        let p ← parse f rest
        return { p with rest := word :: p.rest }
      else .ok ⟨[], word :: rest⟩
    else do
      let w ← readOption f word.toList
      match w.awaits, rest with
      | none, rest => return (← parse f rest).add w.marks
      | some (name, _), [] => throw (.valueMissing name)
      | some (_, key), text :: rest => return (← parse f rest).add (w.marks ++ [.value key text])

/-! What the marks say; the last mark of a kind counts. -/

def valueOf (marks : List Mark) (key : String) : Option String :=
  marks.reverse.findSome? fun
    | .value k text => if k = key then some text else none
    | _ => none

def flagOf (marks : List Mark) (key : String) : Option Bool :=
  marks.reverse.findSome? fun
    | .flag k on => if k = key then some on else none
    | _ => none

/-- Help or version, whichever is asked for first. -/
def urgent? (marks : List Mark) : Option Mark :=
  marks.find? fun m => m = .help || m = .version

/-! Forms. -/

def helpOption : String × Switch := ("--help", .help)

def portOption : String × Switch := ("--port", .taking "port")

def secretOption : String × Switch := ("--secret-source", .taking "secret")

def inputOption : String × Switch := ("--input-dir", .taking "input")

def rootForm : Form where
  options :=
    [helpOption, ("--version", .version), ("--json", .flag "json" true),
      ("--plain", .flag "plain" true), ("--no-color", .flag "colourless" true),
      ("--quiet", .flag "quiet" true), ("-q", .flag "quiet" true),
      ("--verbose", .flag "verbose" true), ("-v", .flag "verbose" true)]
  mixed := false

/-- A command that only leads to others. -/
def groupForm : Form := ⟨[helpOption], false⟩

def generateForm : Form where
  options :=
    [helpOption, portOption, secretOption, ("-o", .taking "output"), ("--output", .taking "output"),
      ("--overrides", .taking "overrides"), inputOption, ("--status-codes", .taking "status"),
      ("--forbidden", .flag "forbidden" true), ("--no-forbidden", .flag "forbidden" false),
      ("--emit-parts", .flag "parts" true), ("--no-emit-parts", .flag "parts" false)]
  mixed := true

def dumpForm : Form := ⟨[helpOption, portOption, secretOption], true⟩

def listForm : Form := ⟨[helpOption, portOption, inputOption], true⟩

def showForm : Form := ⟨[helpOption], true⟩

def initForm : Form := ⟨[helpOption, ("--force", .flag "force" true), ("-f", .flag "force" true)], true⟩

/-! Commands from marks. -/

def textOf (marks : List Mark) (key : String) : Value := .ofOption .text (valueOf marks key)

def boolOf (marks : List Mark) (key : String) : Value := .ofOption .bool (flagOf marks key)

def portOf (marks : List Mark) : Except Misuse Value :=
  match valueOf marks "port" with
  | none => .ok .null
  | some raw =>
    match Checked.intOfText raw.toList with
    | .good n => .ok (.int n)
    | .bad _ => .error (.notAnInteger "--port" raw)

def statusOf (marks : List Mark) : Except Misuse Value :=
  match valueOf marks "status" with
  | none => .ok .null
  | some name =>
    if [StatusStyle.range, .exact].any fun s => s.name = name then .ok (.text name)
    else .error (.notAChoice "--status-codes" name)

def noArguments (rest : List String) : Except Misuse Unit :=
  match rest with
  | [] => .ok ()
  | extra :: _ => .error (.argumentRefused extra)

def toGenerate (p : Parsed) : Except Misuse Command := do
  let port ← portOf p.marks
  let status ← statusOf p.marks
  noArguments p.rest
  return .generate
    { port
      secretSource := textOf p.marks "secret"
      output := textOf p.marks "output"
      overridesFile := textOf p.marks "overrides"
      generator :=
        [("status_code_style", status),
          ("include_forbidden_response", boolOf p.marks "forbidden"),
          ("emit_parts", boolOf p.marks "parts")] }
    (valueOf p.marks "input")

def toDump (p : Parsed) : Except Misuse Command := do
  let port ← portOf p.marks
  match p.rest with
  | [] => throw (.argumentMissing "DIRECTORY")
  | directory :: rest =>
    noArguments rest
    return .dump directory { port, secretSource := textOf p.marks "secret" }

def toListing (make : Settings.Choices → Option String → Command) (p : Parsed) :
    Except Misuse Command := do
  let port ← portOf p.marks
  noArguments p.rest
  return make { port } (valueOf p.marks "input")

def toShow (p : Parsed) : Except Misuse Command := do
  noArguments p.rest
  return .showSettings

def toInit (p : Parsed) : Except Misuse Command := do
  noArguments p.rest
  return .writeSettings ((flagOf p.marks "force").getD false)

/-- What a line asks for. -/
inductive Order where
  | help
  /-- Help because the line says nothing. -/
  | guide
  | version
  | misuse (m : Misuse)
  | command (wishes : Console.Wishes) (c : Command)

def Order.ofExcept (wishes : Console.Wishes) : Except Misuse Command → Order
  | .ok c => command wishes c
  | .error m => misuse m

/-- Goes on with a line that was read, unless it asks for help or the version. -/
def proceed (r : Except Misuse Parsed) (next : Parsed → Order) : Order :=
  match r with
  | .error m => .misuse m
  | .ok p =>
    match urgent? p.marks with
    | some .version => .version
    | some _ => .help
    | none => next p

def leaf (wishes : Console.Wishes) (f : Form) (make : Parsed → Except Misuse Command)
    (words : List String) : Order :=
  proceed (parse f words) fun p => .ofExcept wishes (make p)

/-- Goes on with the command that the first word names. Where it names none but looks like an option,
the words are read once more, so that even behind two signs help and version are given. -/
def choose (f : Form) (words : List String) (commands : List (String × (List String → Order))) :
    Order :=
  match words with
  | [] => .misuse .commandMissing
  | name :: rest =>
    match commands.lookup name with
    | some next => next rest
    | none =>
      if Text.startsWith name "-" then
        proceed (parse f words) fun _ => .misuse (.noSuchCommand name)
      else .misuse (.noSuchCommand name)

def group (f : Form) (commands : Parsed → List (String × (List String → Order)))
    (words : List String) : Order :=
  if words.isEmpty then .guide
  else proceed (parse f words) fun p => choose f p.rest (commands p)

def wishesOf (marks : List Mark) : Console.Wishes :=
  let has (key : String) : Bool := (flagOf marks key).getD false
  { format := if has "json" then some .json else if has "plain" then some .plain else none
    noColour := has "colourless"
    quiet := has "quiet"
    verbose := has "verbose" }

def listCommands (wishes : Console.Wishes) : List (String × (List String → Order)) :=
  [("functions", leaf wishes listForm (toListing .listFunctions)),
    ("types", leaf wishes listForm (toListing .listTypes))]

def settingsCommands (wishes : Console.Wishes) : List (String × (List String → Order)) :=
  [("show", leaf wishes showForm toShow), ("init", leaf wishes initForm toInit)]

def rootCommands (p : Parsed) : List (String × (List String → Order)) :=
  let wishes := wishesOf p.marks
  [("generate", leaf wishes generateForm toGenerate),
    ("dump", leaf wishes dumpForm toDump),
    ("inspect", group groupForm fun _ => listCommands wishes),
    ("config", group groupForm fun _ => settingsCommands wishes)]

def read (words : List String) : Order := group rootForm rootCommands words

/-! The whole program. -/

open Program

def usage : String :=
  Text.join "\n"
    ["Usage: helpspec [OPTIONS] COMMAND [ARGS]...",
      "",
      "Commands:",
      "  generate           Write the document.",
      "  dump DIRECTORY     Save the payloads.",
      "  inspect functions  List the functions.",
      "  inspect types      List the types.",
      "  config show        Show the settings.",
      "  config init        Write a file of default settings.",
      ""]

/-- What an order asks of the console. -/
def Order.wishes : Order → Console.Wishes
  | command wishes _ => wishes
  | _ => {}

def printVersion : Program Int := do
  request (.print .output ("helpspec " ++ Command.version ++ "\n"))
  return 0

variable [Stack]

/-- Carries out an order; its result is the exit code. -/
def Order.follow (console : Console) : Order → Program Int
  | .help => do
    request (.print .output usage)
    return 0
  | .guide => do
    request (.print .output usage)
    return 2
  | .version => printVersion
  | .misuse m => do
    request (.print .diagnostics (usage ++ "\nError: " ++ m.message ++ "\n"))
    return 2
  | .command _ c => c.run console

/-- The program for the words of a command line. Without a console nothing but the version can be
told: the failure is put on record and leaves the program. -/
def run (words : List String) : Program Int := do
  match read words with
  | .version => printVersion
  | order =>
    match ← attempt (Console.start order.wishes) with
    | .ok console => order.follow console
    | .error f =>
      discard (Command.logCrash f)
      fail f

end CommandLine
end ServiceAtlas
