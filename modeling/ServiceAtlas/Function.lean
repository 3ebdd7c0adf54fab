import ServiceAtlas.Noted

/-!
Functions of a service. Each is described twice: the Full view tells what it is for and what it is
given, the Console view how to call it over HTTP. The two are joined by name.
-/

namespace ServiceAtlas

structure FullView where
  name : String
  description : Option String
  help : Option String
  tags : List String
  arguments : List Value
  returns : Value
  deprecated : Option Bool
  extra : Table Value

namespace FullView

def known : List String :=
  ["name", "description", "help", "tags", "arguments", "returns", "deprecated"]

def readFields (fields : Table Value) : Checked FullView :=
  FullView.mk
    <$> Checked.required fields "name" Checked.text
    <*> Checked.optionalField fields "description" Checked.text
    <*> Checked.optionalField fields "help" Checked.text
    <*> Checked.field fields "tags" [] (Checked.list Checked.text)
    <*> Checked.field fields "arguments" [] (Checked.list Checked.any)
    <*> Checked.field fields "returns" .null Checked.any
    <*> Checked.optionalField fields "deprecated" Checked.bool
    <*> .good (fields.filter fun e => !known.contains e.1)

def read : Value → Checked FullView := Checked.openRecord readFields

def toValue (f : FullView) : Value :=
  .object
    ([("name", .text f.name),
      ("description", .ofOption .text f.description),
      ("help", .ofOption .text f.help),
      ("tags", .texts f.tags),
      ("arguments", .list f.arguments),
      ("returns", f.returns),
      ("deprecated", .ofOption .bool f.deprecated)] ++ f.extra)

end FullView

structure ConsoleView where
  method : Option String
  url : Option String
  usage : Option String
  arguments : List Value
  returns : Value
  description : Option String
  help : Option String
  extra : Table Value

namespace ConsoleView

def known : List String :=
  ["http_method", "url", "usage", "arguments", "returns", "description", "help"]

def readFields (fields : Table Value) : Checked ConsoleView :=
  ConsoleView.mk
    <$> Checked.optionalField fields "http_method" Checked.text
    <*> Checked.optionalField fields "url" Checked.text
    <*> Checked.optionalField fields "usage" Checked.text
    <*> Checked.field fields "arguments" [] (Checked.list Checked.any)
    <*> Checked.field fields "returns" .null Checked.any
    <*> Checked.optionalField fields "description" Checked.text
    <*> Checked.optionalField fields "help" Checked.text
    <*> .good (fields.filter fun e => !known.contains e.1)

def read : Value → Checked ConsoleView := Checked.openRecord readFields

def toValue (c : ConsoleView) : Value :=
  .object
    ([("http_method", .ofOption .text c.method),
      ("url", .ofOption .text c.url),
      ("usage", .ofOption .text c.usage),
      ("arguments", .list c.arguments),
      ("returns", c.returns),
      ("description", .ofOption .text c.description),
      ("help", .ofOption .text c.help)] ++ c.extra)

end ConsoleView

/-- A function by its Full view, with its Console view if it has a sound one. -/
structure JoinedFunction where
  name : String
  full : FullView
  console : Option ConsoleView

namespace JoinedFunction

def toValue (j : JoinedFunction) : Value :=
  .object
    [("name", .text j.name), ("full", j.full.toValue),
      ("console", .ofOption ConsoleView.toValue j.console)]

/-- An entry of a table of functions, which has the key for a name unless it brings its own. -/
def withKey (entry : String × Value) : Value :=
  match entry.2 with
  | .object fields => .object (Table.overwrite [("name", .text entry.1)] fields)
  | other => other

/-- The entries of the Full catalogue, given as a list or as a table. -/
def fullEntries (functions : Value) : Noted (List Value) :=
  match functions with
  | .object entries => return entries.map withKey
  | .list entries => return entries
  | _ => do
    Noted.note .noFullCatalogue
    return []

/-- The index with one more entry. Of several entries with one name the last one counts, at its own
place; an entry without a name or with malformed fields is skipped. -/
def addFull (index : Table FullView) (entry : Value) : Noted (Table FullView) := do
  let name := entry.getD "name"
  if !name.isGiven then
    Noted.note (.namelessFunction entry)
    return index
  match (FullView.read entry).toExcept "FullFunction" with
  | .error report =>
    Noted.note (.malformedFunction name report)
    return index
  | .ok full =>
    if index.contains full.name then
      Noted.note (.repeatedFunction full.name)
    return index.putLast full.name full

def fullIndex (functions : Value) : Noted (Table FullView) := do
  (← fullEntries functions).foldlM addFull []

/-- A named entry of a list of functions. -/
def namedEntry? (entry : Value) : Option (String × Value) :=
  let name := entry.getD "name"
  if name.isGiven then some (name.display, entry) else none

/-- The entries of the Console catalogue by name. -/
def consoleIndex (functions : Value) : Noted (Table Value) :=
  match functions with
  | .object entries => return entries
  | .list entries => return Table.ofEntries (entries.filterMap namedEntry?)
  | _ => do
    Noted.note .noConsoleCatalogue
    return []

/-- The Console view in a raw entry, unless it is null or malformed. -/
def readConsole (name : String) (raw : Value) : Noted (Option ConsoleView) := do
  if raw.isNull then return none
  match (ConsoleView.read raw).toExcept "ConsoleFunction" with
  | .ok console => return some console
  | .error report =>
    Noted.note (.malformedConsoleEntry name report)
    return none

def ofFull (consoles : Table Value) (entry : String × FullView) : Noted JoinedFunction := do
  let console ← readConsole entry.1 ((consoles.find? entry.1).getD .null)
  return ⟨entry.1, entry.2, console⟩

/-- All functions of the Full catalogue, each with its Console view. -/
def join (console full : Table Value) : Noted (List JoinedFunction) := do
  let consoles ← consoleIndex ((console.find? "functions").getD .null)
  let fulls ← fullIndex ((full.find? "functions").getD .null)
  fulls.mapM (ofFull consoles)

end JoinedFunction
end ServiceAtlas
