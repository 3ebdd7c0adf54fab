import ServiceAtlas.Console
import ServiceAtlas.Generation.Artifacts
import ServiceAtlas.Listing
import ServiceAtlas.Overrides
import ServiceAtlas.Payloads.Saved
import ServiceAtlas.Settings.Resolve

/-!
What the program can be told to do, and the doing of it. A command ends with an exit code; a failure
that the program expects becomes a diagnostic and a code of its own, and any other is put on record.
-/

namespace ServiceAtlas

inductive Command where
  | generate (choices : Settings.Choices) (inputDirectory : Option String)
  | dump (directory : String) (choices : Settings.Choices)
  | listFunctions (choices : Settings.Choices) (inputDirectory : Option String)
  | listTypes (choices : Settings.Choices) (inputDirectory : Option String)
  | showSettings
  | writeSettings (force : Bool)

namespace Command
open Program
variable [Stack]

def version : String := "0.1.0"

/-- Prints what there is of the data; whatever stopped the printing stops the program. -/
def printData (p : Printed) : Program Unit := do
  request (.print .output p.text)
  match p.failure with
  | some f => fail f
  | none => return

/-- The address that a document names: that of the payloads or, if they came without one, that of the
settings. -/
def addressFor (service : Service) (payloads : Payloads) : Option String :=
  payloads.baseUrl <|> service.port.map fun _ => service.baseUrl

def generateDocument (choices : Settings.Choices) (inputDirectory : Option String) : Program Unit := do
  let s ← Settings.resolve choices
  let overrides ← Overrides.effective s.generator
  let payloads ← Payloads.load s.service inputDirectory
  let g ← ofTraced
    (Generation.generate payloads s.generator overrides (addressFor s.service payloads))
  note (.translated g.schemas.length g.routes.operationCount g.routes.length)
  let written ← g.writeArtifacts s.generator.output s.generator.emitParts
  note (.written ((written.getLast?.map Path.text).getD ""))

def dumpPayloads (directory : String) (choices : Settings.Choices) : Program Unit := do
  let s ← Settings.resolve choices
  let payloads ← Client.introspect s.service
  let target := Path.ofText directory
  payloads.save target
  note (.payloadsSaved target.text)

def loadPayloads (choices : Settings.Choices) (inputDirectory : Option String) :
    Program Payloads := do
  let s ← Settings.resolve choices
  Payloads.load s.service inputDirectory

def printListing (console : Console) (l : Listing) : Program Unit :=
  printData (console.sheetText (.ofTexts l.title l.headers l.rows))

def printFunctions (console : Console) (choices : Settings.Choices)
    (inputDirectory : Option String) : Program Unit := do
  let payloads ← loadPayloads choices inputDirectory
  let functions ← ofNoted (JoinedFunction.join payloads.console payloads.full)
  printListing console (.ofFunctions functions)

def printTypes (console : Console) (choices : Settings.Choices) (inputDirectory : Option String) :
    Program Unit := do
  let payloads ← loadPayloads choices inputDirectory
  match ← ofTraced (Listing.ofTypes ((payloads.console.find? "types").getD .null)) with
  | some l => printListing console l
  | none => note .noTypes

def printSettings (console : Console) : Program Unit := do
  let s ← Settings.resolve {}
  note (.configDirectory (← Directories.config).text)
  printData (console.dataText s.toValue)

/-- Writes the default settings for a project. -/
def writeDefaults (force : Bool) : Program Unit := do
  let p ← Settings.projectPath
  if (← Files.pathExists p) && !force then
    fail (.settingsExist p.text)
  else
    let text ← ofExcept (Json.write (Settings.toValue {}))
    ofOs (← Files.write p text)
    note (.written p.text)

def perform (console : Console) : Command → Program Unit
  | generate choices directory => generateDocument choices directory
  | dump directory choices => dumpPayloads directory choices
  | listFunctions choices directory => printFunctions console choices directory
  | listTypes choices directory => printTypes console choices directory
  | showSettings => printSettings console
  | writeSettings force => writeDefaults force

/-- Puts a failure that nobody expects on record. -/
def logCrash (f : Failure) : Program Path := do
  let logs := (← Directories.data).child "logs"
  ofOs (← Files.makeDirectories logs)
  let log := logs.child ("crash-" ++ (← request .timestamp) ++ ".log")
  ofOs (← Files.write log (f.message ++ "\n"))
  return log

/-- Records a failure that nobody expects, and says where. -/
def recordCrash (f : Failure) : Program Int := do
  let log ← logCrash f
  note (.stopped ("Unexpected error. Debug log: " ++ log.text))
  return 1

/-- The exit code that a failure leads to. -/
def concede (f : Failure) : Program Int := do
  match f.family? with
  | some _ =>
    note (.stopped f.message)
    return f.exitCode
  | none => recordCrash f

def succeed (p : Program Unit) : Program Int := do
  p
  return 0

/-- A command from its start to its exit code. -/
def run (console : Console) (c : Command) : Program Int :=
  (recover concede (succeed (c.perform console))).narrate console.diagnosticText

end Command
end ServiceAtlas
