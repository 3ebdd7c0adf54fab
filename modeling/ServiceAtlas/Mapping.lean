import ServiceAtlas.Failure
import ServiceAtlas.Yaml.Build

/-!
Tables in text of either format. Unless the text is known to be YAML it is read as JSON first; unless
it is known to be JSON it may be YAML as well.
-/

namespace ServiceAtlas

/-- What the name of a file tells of its format. -/
inductive FormatHint where
  | none
  | json
  | yaml
deriving DecidableEq

/-- The entries of a table, in order, and the store that their values lie in. -/
structure Mapping where
  store : Yaml.Store
  entries : List (Yaml.Datum × Yaml.Item)

namespace Mapping
variable [Stack]

def ofFields (fields : Table Value) : Mapping :=
  ⟨#[], (Yaml.Datum.ofFields fields).map fun e => (e.1, .plain e.2)⟩

/-- The table that an item leads to, if it is one. -/
def inside? (m : Mapping) (i : Yaml.Item) : Option Mapping :=
  (m.store.entries? i).map fun entries => { m with entries }

/-- The value of an entry, seen by itself. -/
def datum (m : Mapping) (i : Yaml.Item) : Yaml.Datum := m.store.view i

def kindOf : Yaml.Datum → String
  | .null => "empty document"
  | d => d.kindName

def readYaml (origin : String) (json : Option Json.Error) (content : List Char) :
    Except Failure Mapping :=
  match Yaml.Content.ofText content with
  | .ok c =>
    match c.store.entries? c.root with
    | some entries => .ok ⟨c.store, entries⟩
    | none => .error (.notAMapping origin (kindOf c.datum))
  | .error m =>
    .error (if m.isExpected then .unreadableText origin json m.message else .badScalar m)

def read (hint : FormatHint) (origin : String) (content : List Char) : Except Failure Mapping :=
  if hint = .yaml then readYaml origin none content
  else match Json.readChars content with
    | .ok (.object fields) => .ok (ofFields fields)
    | .ok v => .error (.jsonNotObject origin v.kindName)
    | .error e =>
      if e.cause.isExcess then .error (.ofJson (.invalidJson origin) e)
      else if hint = .json then .error (.invalidJson origin e)
      else readYaml origin (some e) content

end Mapping
end ServiceAtlas
