import ServiceAtlas.Directories
import ServiceAtlas.Json.Reader
import ServiceAtlas.Settings.Layer

/-!
The settings of a run, from four layers over the defaults: the global file, the file of the project,
the environment, and what the caller chooses. A later layer counts before an earlier one.
-/

namespace ServiceAtlas.Settings
open Program
variable [Stack]

def globalName : String := "config.json"

def projectName : String := "helpspec.json"

/-- The object that a file of settings holds. -/
def readObject (label : String) (p : Path) : Program (Table Value) := do
  match ← Files.read p with
  | .error e => fail (.invalidFile label p.text (.os e))
  | .ok cs =>
    match Json.readChars cs with
    | .error e => fail (.ofJson (fun e => .invalidFile label p.text (.json e)) e)
    | .ok (.object fields) => return fields
    | .ok _ => fail (.notAnObject label p.text)

def validate (origin : String) (data : Table Value) : Except Failure Settings :=
  match (Settings.read (.object data)).toExcept "Settings" with
  | .ok s => .ok s
  | .error faults => .error (.invalidSettings origin faults)

/-- The layer in a file, if there is one. It has to be in order by itself. -/
def loadFile (label : String) (p : Path) : Program (Option (Table Value)) := do
  if ← Files.isFile p then
    let data ← readObject label p
    let _ ← ofExcept (validate p.text data)
    return some data
  else return none

def loadGlobal : Program (Option (Table Value)) := do
  loadFile "global config" ((← Directories.config).child globalName)

def projectPath : Program Path := do return (← request .workingDirectory).child projectName

def loadProject : Program (Option (Table Value)) := do loadFile "project config" (← projectPath)

/-- An environment variable that is set and not empty. -/
def filledVariable (name : String) : Program (Option String) := do
  match ← request (.environment name) with
  | none | some "" => return none
  | some s => return some s

def portNames : List String := ["HELPSPEC_PORT", "PORT"]

/-- The port that the first filled variable of those named gives. -/
def environmentPort : List String → Program (Option Int)
  | [] => return none
  | name :: rest => do
    match ← filledVariable name with
    | none => environmentPort rest
    | some raw =>
      match Text.integer? 10 raw.toList with
      | some n => return some n
      | none => fail (.invalidPort name raw)

/-- What a caller chooses; null says nothing. -/
structure Choices where
  port : Value := .null
  secretSource : Value := .null
  output : Value := .null
  overridesFile : Value := .null
  generator : Table Value := []

/-- The fields that say something. -/
def said (fields : List (String × Value)) : List (String × Value) :=
  fields.filter fun e => !e.2.isNull

/-- A layer by its two records. -/
def layer (service generator : Table Value) : Table Value :=
  [("service", .object service), ("generator", .object generator)]

def environmentLayer : Program (Table Value) := do
  let port ← environmentPort portNames
  let secret ← filledVariable "HELPSPEC_SECRET_SOURCE"
  let output ← filledVariable "HELPSPEC_OUTPUT"
  return layer
    (said [("port", .ofOption .int port), ("secret_source", .ofOption .text secret)])
    (said [("output", .ofOption .text output)])

def Choices.layer (c : Choices) : Table Value :=
  Settings.layer
    (said [("port", c.port), ("secret_source", c.secretSource)])
    (Table.overwrite (said [("output", c.output), ("overrides_file", c.overridesFile)])
      (said c.generator))

/-- The layers laid over each other, the first one lowest. -/
def combined (layers : List (Table Value)) : Table Value := layers.foldl Layer.overlay []

def resolve (choices : Choices) : Program Settings := do
  let global ← loadGlobal
  let project ← loadProject
  let environment ← environmentLayer
  ofExcept (validate "resolved settings"
    (combined [global.getD [], project.getD [], environment, choices.layer]))

end ServiceAtlas.Settings
