import ServiceAtlas.Console.Highlight
import ServiceAtlas.Console.Sheet
import ServiceAtlas.Program
import ServiceAtlas.Value.Written

/-!
Where the program speaks: data on one stream, diagnostics on the other. The form of the data is
chosen by the user, or by whether a person is looking.
-/

namespace ServiceAtlas

/-- The form of the data. -/
inductive Console.Format where
  | json
  | plain
  | rich
deriving DecidableEq

def Console.Format.name : Console.Format → String
  | json => "json"
  | plain => "plain"
  | rich => "rich"

/-- What a user can ask of a console. -/
structure Console.Wishes where
  format : Option Console.Format := none
  noColour : Bool := false
  quiet : Bool := false
  verbose : Bool := false
deriving DecidableEq

/-- What the surroundings say of the two streams. -/
structure Console.Surroundings where
  noColour : Option String := none
  term : Option String := none
  colourTerm : Option String := none
  columns : Option String := none
  lines : Option String := none
  /-- Whether the diagnostics go to something that acts like a terminal. -/
  compatible : Option String := none
  /-- Whether styles are wanted even where no terminal is. -/
  forced : Option String := none
  outputIsTerminal : Bool := false

structure Console where
  format : Console.Format
  colour : Bool
  quiet : Bool
  verbose : Bool
  /-- Where the data are shown, if they are to be read by a person. -/
  data : Screen
  diagnostics : Screen

namespace Console
open Program

/-- Whether styles are written into the diagnostics, which are not known to reach a terminal. -/
def Surroundings.stylesDiagnostics (s : Surroundings) : Bool :=
  match s.compatible, s.forced with
  | some "0", _ => false
  | some "1", _ => true
  | _, some word => word ≠ ""
  | _, none => false

def countOf (name : String) (text : Option String) : Except Failure (Option Nat) :=
  match Screen.countOf text with
  | .ok n => .ok n
  | .error raw => .error (.notANumber name raw)

/-- A screen in the surroundings; a bare terminal knows no styles. -/
def screenIn (s : Surroundings) (columns lines : Option Nat) (colour isTerminal : Bool) : Screen where
  width := Screen.widthOf columns lines (isTerminal && Screen.isBare s.term)
  depth :=
    if isTerminal && !Screen.isBare s.term then some (Screen.depthOf s.term s.colourTerm) else none
  colourful := colour

/-- The console that the wishes of the user and the surroundings make. A colourless one is wished for
by any value of one variable, too, and by the bare kind of terminal. -/
def resolve (w : Wishes) (s : Surroundings) : Except Failure Console := do
  let colour := !w.noColour && s.noColour.isNone && s.term ≠ some "dumb"
  let format := w.format.getD (if s.outputIsTerminal && colour then .rich else .plain)
  let columns ← countOf "COLUMNS" s.columns
  let lines ← countOf "LINES" s.lines
  return {
    format, colour
    quiet := w.quiet
    verbose := w.verbose
    data := screenIn s columns lines colour (format = .rich)
    diagnostics := screenIn s columns lines colour s.stylesDiagnostics }

def surroundings : Program Surroundings := do
  return {
    noColour := ← request (.environment "NO_COLOR")
    term := ← request (.environment "TERM")
    colourTerm := ← request (.environment "COLORTERM")
    columns := ← request (.environment "COLUMNS")
    lines := ← request (.environment "LINES")
    compatible := ← request (.environment "TTY_COMPATIBLE")
    forced := ← request (.environment "FORCE_COLOR")
    outputIsTerminal := ← request .outputIsTerminal }

def start (w : Wishes) : Program Console := do
  ofExcept (resolve w (← surroundings))

/-! Diagnostics. -/

def isShown (c : Console) : Level → Bool
  | .debug => c.verbose
  | .info | .success => !c.quiet
  | .warning | .error => true

/-- What stands before the message. -/
def label : Level → String
  | .debug => "[debug] "
  | .info | .success => ""
  | .warning => "Warning: "
  | .error => "Error: "

/-- The message with its label, as markup. -/
def markup (level : Level) (message : List Char) : List Char :=
  let text := Markup.escape message
  match level with
  | .info => text
  | .success => Markup.styled "green" text
  | .warning => Markup.styled "yellow" "Warning:".toList ++ ' ' :: text
  | .error => Markup.styled "bold red" "Error:".toList ++ ' ' :: text
  | .debug => Markup.styled "dim" ("\\[debug] ".toList ++ text)

/-- The message as a coloured console shows it. Parts that stand out lie below what the label says;
plain information has neither. -/
def marked (level : Level) (message : List Char) : Marked :=
  let bare := Marked.unmarked (Emoji.replace message)
  match level, Markup.read (markup level message) with
  | .info, _ | _, .error _ => bare
  | _, .ok m => { m with regions := Highlight.regions m.chars ++ m.regions }

/-- What is printed for a message. -/
def messageText (c : Console) (level : Level) (message : String) : String :=
  if !c.isShown level then ""
  else if c.colour then c.diagnostics.present (marked level message.toList)
  else label level ++ message ++ "\n"

/-- What is printed for a diagnostic. -/
def diagnosticText (c : Console) (d : Diagnostic) : String := c.messageText d.level d.message

/-- What is printed for a value in place of a message. Most levels put text only into colours. -/
def valueText (c : Console) (level : Level) (v : Value) : Except Failure String :=
  match v with
  | .text message => .ok (c.messageText level message)
  | v =>
    if c.isShown level && c.colour && level ≠ .info then .error .wrongType
    else .ok (c.messageText level v.display)

/-! Data. -/

section
variable [Stack]

/-- A value on a line of plain data. -/
def cellText : Value → Except Failure String
  | v@(.list _) | v@(.object _) => v.written .writeJson Json.inline
  | v => v.nameOf

def plainText : Value → Printed
  | .object fields => .lines (fields.map fun e => (cellText e.2).map fun cell => e.1 ++ "\t" ++ cell)
  | .list items => .lines (items.map Value.nameOf)
  | v => .lines [v.nameOf]

def dataText (c : Console) (v : Value) : Printed :=
  match c.format with
  | .json => .ofExcept (Json.write v)
  | .plain => plainText v
  | .rich =>
    .ofExcept ((v.written .writeJson Json.block).map fun text =>
      c.data.present (.unmarked text.toList))

def sheetText (c : Console) (s : Sheet) : Printed :=
  match c.format with
  | .json => .ofExcept (s.records >>= Json.write)
  | .plain => s.plain
  | .rich => s.framed c.data

end

end Console
end ServiceAtlas
