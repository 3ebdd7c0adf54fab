import ServiceAtlas.Client
import ServiceAtlas.Value.Written

/-!
Payloads kept in a directory, so that a run needs no service. The address of the service is kept with
the application info.
-/

namespace ServiceAtlas.Payloads
open Program
variable [Stack]

def appInfoName : String := "app-info.json"

def consoleName : String := "console.json"

def fullName : String := "full.json"

def addressKey : String := "baseUrl"

/-- The object in a file. -/
def readFile (p : Path) : Program (Table Value) := do
  match ← Files.read p with
  | .error e => fail (.payloadUnreadable p.text (.os e))
  | .ok cs =>
    match Json.readChars cs with
    | .error e => fail (.ofJson (fun e => .payloadUnreadable p.text (.json e)) e)
    | .ok (.object fields) => return fields
    | .ok _ => fail (.payloadNotObject p.text)

def readRequired (p : Path) : Program (Table Value) := do
  if ← Files.isFile p then readFile p else fail (.payloadMissing p.text)

def readOptional (p : Path) : Program (Table Value) := do
  if ← Files.isFile p then readFile p else return []

/-- The address that came with the application info, if it is text. -/
def addressOf (appInfo : Table Value) : Except Failure (Option String) :=
  let v := (appInfo.find? addressKey).getD .null
  match (Checked.under "base_url" (Checked.optional Checked.text v)).toExcept
      "IntrospectionPayloads" with
  | .ok address => .ok address
  | .error faults => .error (.invalid faults)

def loadSaved (directory : String) : Program Payloads := do
  let p := Path.ofText directory
  if !(← Files.isDirectory p) then
    fail (.directoryMissing p.text)
  else
    let appInfo ← readOptional (p.child appInfoName)
    let console ← readRequired (p.child consoleName)
    let full ← readRequired (p.child fullName)
    return ⟨console, full, appInfo, ← ofExcept (addressOf appInfo)⟩

/-- The payloads in a directory or, if none is named, of the running service. -/
def load (service : Service) (directory : Option String) : Program Payloads := do
  match directory with
  | none | some "" => Client.introspect service
  | some directory =>
    note (.readingSaved directory)
    loadSaved directory

/-- The application info as it is kept: an address of its own stays. -/
def keptAppInfo (p : Payloads) : Table Value :=
  match p.baseUrl with
  | none | some "" => p.appInfo
  | some address =>
    if Table.contains p.appInfo addressKey then p.appInfo
    else Table.insert p.appInfo addressKey (.text address)

def keptFiles (p : Payloads) : List (String × Table Value) :=
  [(appInfoName, p.keptAppInfo), (consoleName, p.console), (fullName, p.full)]

def writeFiles (directory : Path) : List (String × Table Value) → Program Unit
  | [] => return ()
  | (name, fields) :: rest => do
    let text ← ofExcept (Json.write (.object fields))
    ofOs (← Files.write (directory.child name) text)
    writeFiles directory rest

/-- Keeps the payloads in a directory. -/
def save (directory : Path) (p : Payloads) : Program Unit := writeFiles directory p.keptFiles

end ServiceAtlas.Payloads
