import ServiceAtlas.Directories
import ServiceAtlas.Mapping
import ServiceAtlas.Schema.Lower
import ServiceAtlas.Settings
import ServiceAtlas.Text.Case

/-!
The names that the user wants for types, from a file of their own and from the settings. The settings
count before the file.
-/

namespace ServiceAtlas.Overrides
open Program
variable [Stack]

/-- The key under which a file may hold its names. -/
def tableKey : String := "objectNameOverrides"

def find? (m : Mapping) (key : String) : Option Yaml.Item :=
  m.entries.findSome? fun
    | (.text k, i) => if k = key then some i else none
    | _ => none

/-- The table that counts: the one under the key if there is one, else the whole. -/
def innermost (m : Mapping) : Mapping := ((find? m tableKey).bind m.inside?).getD m

/-- An entry that is no pair of names cannot even be shown if it holds a number that is too long. -/
def refusal (path : String) (key value : Yaml.Datum) : Failure :=
  if key.isOversized || value.isOversized then .numberTooLong
  else .overridesNotNames path key.inspected value.inspected

/-- The names of a table that holds nothing else. -/
def ofMapping (path : String) (m : Mapping) : Except Failure Overrides :=
  m.entries.mapM fun
    | (.text name, .plain (.text wanted)) => .ok (name, .text wanted)
    | (key, i) => .error (refusal path key (m.datum i))

def hintOf (p : Path) : FormatHint :=
  let suffix := Text.lower p.suffix
  if suffix = ".yaml" || suffix = ".yml" then .yaml
  else if suffix = ".json" then .json
  else .none

def ofText (p : Path) (content : List Char) : Except Failure Overrides := do
  ofMapping p.text (innermost (← Mapping.read (hintOf p) p.text content))

def load (path : String) : Program Overrides := do
  let p ← Directories.expand (Path.ofText path)
  if !(← Files.isFile p) then
    fail (.overridesMissing p.text)
  else
    match ← Files.read p with
    | .error e => fail (.overridesUnreadable p.text e)
    | .ok content => ofExcept (ofText p content)

/-- The names of the settings laid over those of a file. -/
def combine (file : Overrides) (own : Table String) : Overrides :=
  Table.overwrite file (own.map fun e => (e.1, .text e.2))

/-- All names that apply to a run. -/
def effective (g : Generator) : Program Overrides := do
  match g.overridesFile with
  | none | some "" => return combine [] g.overrides
  | some path => return combine (← load path) g.overrides

end ServiceAtlas.Overrides
