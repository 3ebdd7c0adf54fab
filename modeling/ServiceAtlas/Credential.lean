import ServiceAtlas.Directories
import ServiceAtlas.Settings
import ServiceAtlas.Text.Base64

/-!
The secret of the service and the header that carries it. A secret is never a setting itself: a
setting says where it comes from.
-/

namespace ServiceAtlas

/-- Where a secret comes from. -/
inductive SecretSource where
  | environment (name : String)
  | file (path : String)
  | prompt
  | literal (secret : String)

namespace SecretSource

def read? (source : String) : Option SecretSource :=
  let rest (lead : String) := (Text.after? lead.toList source.toList).map String.ofList
  if let some name := rest "env:" then some (environment name)
  else if let some path := rest "file:" then some (file path)
  else if source = "prompt" then some prompt
  else (rest "value:").map literal

end SecretSource

namespace Credential
open Program

def ofFile (source path : String) : Program String := do
  let p ← Directories.expand (Path.ofText path)
  if !(← Files.isFile p) then
    fail (.secretFileMissing p.text source)
  else
    match ← Files.read p with
    | .error e => fail (.secretFileUnreadable p.text e)
    | .ok cs => return String.ofList (Text.trim cs)

def ofPrompt : Program String := do
  if ← request .hasTerminal then request (.askSecret "Enter service secret: ")
  else fail .noTerminal

/-- The secret that a source gives. -/
def resolve (source : String) : Program String :=
  match SecretSource.read? source with
  | none => fail (.unknownSource source)
  | some (.environment name) => do
    if (Text.encodeName? name.toList).isNone then fail .halfCharacter
    match ← request (.environment name) with
    | some secret => return secret
    | none => fail (.variableUnset name source)
  | some (.file path) => ofFile source path
  | some .prompt => ofPrompt
  | some (.literal secret) => return secret

/-- What stands between name and secret. -/
def colon : Text.Point := Text.pointOf ':'

/-- The header of basic authentication: name and secret, joined by a colon. Both may hold any points,
but halves have no bytes. -/
def basicHeader (username secret : List Text.Point) : Except Failure String :=
  match (username ++ colon :: secret).mapM Text.charOf? with
  | some cs => .ok ("Basic " ++ String.ofList (Text.Base64.encode (Text.encode cs)))
  | none => .error .halfCharacter

/-- The header that carries authentication. Names of headers are compared without regard to case. -/
def headerName : String := "Authorization"

/-- Whether the wire takes a text: it takes plain characters only. -/
def isSendable (s : String) : Bool := s.toList.all fun c => c.toNat < 0x80

def isHeaderName (name : String) : Bool :=
  name.toList.map Char.toLower = headerName.toList.map Char.toLower

/-- What some headers say of authentication. All headers have to be text that the wire takes. -/
def ofHeaders (headers : Table Value) : Except Failure (Option String) := do
  let checked ← headers.mapM fun (name, value) =>
    if !isSendable name then .error .notPlain
    else match value with
      | .text s => if isSendable s then .ok (name, s) else .error .notPlain
      | _ => .error .wrongType
  match checked.filter fun e => isHeaderName e.1 with
  | [] => return none
  | found => return some (Text.join ", " (found.map Prod.snd))

/-- The header for a service. An empty secret is none. -/
def authenticate (service : Service) : Program String := do
  let secret ← resolve service.secretSource
  if secret = "" then fail (.emptySecret service.secretSource)
  else ofExcept (basicHeader (Text.points service.username) (Text.points secret))

end Credential
end ServiceAtlas
