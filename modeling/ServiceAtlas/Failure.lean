import ServiceAtlas.Checked
import ServiceAtlas.Console.Markup
import ServiceAtlas.Json.Reader
import ServiceAtlas.OsError
import ServiceAtlas.Text.Encoding
import ServiceAtlas.Value.Display
import ServiceAtlas.Value.Extent
import ServiceAtlas.Yaml.Malformation

/-!
What makes a run stop. A failure names its cause; its family, exit code and wording follow from it.
Some causes lie outside every family: the program does not expect them.
-/

namespace ServiceAtlas

inductive Family where
  | general
  | usage
  | auth
  | notFound
  | server
  | connection
  | introspection
  | config
  | artifact
deriving DecidableEq

/-- The exit code tells a calling script what went wrong. -/
def Family.exitCode : Family → Int
  | general | config | artifact => 1
  | usage => 2
  | auth => 3
  | notFound => 4
  | server => 5
  | connection => 6
  | introspection => 7

/-- Why a file of JSON could not be read. -/
inductive FileFault where
  | os (e : OsError)
  | json (e : Json.Error)

def FileFault.message : FileFault → String
  | os e => e.message
  | json e => e.message

/-- Why the body of a reply could not be read. -/
inductive BodyFault where
  | bytes (e : Text.DecodeError)
  | json (e : Json.Error)

def BodyFault.message : BodyFault → String
  | bytes e => e.message
  | json e => e.message

def BodyFault.isTooDeep : BodyFault → Bool
  | bytes _ => false
  | json e => e.cause matches .tooDeep

inductive Failure where
  -- settings and their files
  | invalidFile (label path : String) (fault : FileFault)
  | notAnObject (label path : String)
  | invalidSettings (origin : String) (report : Report)
  | invalidPort (name raw : String)
  -- the secret
  | variableUnset (name source : String)
  | secretFileMissing (path source : String)
  | secretFileUnreadable (path : String) (e : OsError)
  | noTerminal
  | unknownSource (source : String)
  | emptySecret (source : String)
  -- override tables
  | overridesMissing (path : String)
  | overridesUnreadable (path : String) (e : OsError)
  | overridesNotNames (path key value : String)
  | invalidJson (origin : String) (e : Json.Error)
  | jsonNotObject (origin kind : String)
  | unreadableText (origin : String) (json : Option Json.Error) (yaml : String)
  | notAMapping (origin kind : String)
  -- the service
  | noPort
  | unknownFormat (format : String)
  | unreachable (address : String) (attempts : Int) (reason : String)
  | refused (status : Nat) (path detail : String)
  | retriesSpent
  | emptyBody (label : String)
  | badBody (label : String) (fault : BodyFault)
  | bodyNotObject (label kind : String)
  -- saved payloads
  | directoryMissing (path : String)
  | payloadMissing (path : String)
  | payloadUnreadable (path : String) (fault : FileFault)
  | payloadNotObject (path : String)
  -- files that the program writes
  | settingsExist (path : String)
  | cannotWrite (path : String) (e : OsError)
  -- given by the caller
  | raised (family : Family) (message : String) (exitCode : Option Int)
  -- outside the families
  | invalid (report : Report)
  | wrongType
  | notUtf8
  | badScalar (m : Yaml.Malformation)
  | os (e : OsError)
  | brokenReply
  | badAddress
  | noHome
  | numberTooLong
  | nestedTooDeep
  | halfCharacter
  | notPlain
  | nulInPath
  | badMarkup (f : Markup.Fault)
  | notShowable
  | notANumber (name raw : String)

namespace Failure

/-- A status of refusal belongs to the family that says most about it. -/
def familyOfStatus (status : Nat) : Family :=
  if status = 401 ∨ status = 403 then .auth else if status = 404 then .notFound else .server

def family? : Failure → Option Family
  | invalidFile .. | notAnObject .. | invalidSettings .. | invalidPort .. | variableUnset ..
  | secretFileMissing .. | secretFileUnreadable .. | noTerminal | unknownSource ..
  | overridesMissing .. | overridesUnreadable .. | overridesNotNames .. | invalidJson ..
  | jsonNotObject .. | unreadableText .. | notAMapping .. => some .config
  | emptySecret .. => some .auth
  | noPort | unknownFormat .. | settingsExist .. => some .usage
  | unreachable .. => some .connection
  | refused status .. => some (familyOfStatus status)
  | retriesSpent => some .server
  | emptyBody .. | badBody .. | bodyNotObject .. | directoryMissing .. | payloadMissing ..
  | payloadUnreadable .. | payloadNotObject .. => some .introspection
  | cannotWrite .. => some .artifact
  | raised family .. => some family
  | invalid .. | wrongType | notUtf8 | badScalar .. | os .. | brokenReply | badAddress
  | noHome | numberTooLong | nestedTooDeep | halfCharacter | notPlain | nulInPath | badMarkup ..
  | notShowable | notANumber .. => none

/-- The exit code of the family, unless the failure carries its own. -/
def exitCode : Failure → Int
  | raised family _ code => code.getD family.exitCode
  | f => (f.family?.map Family.exitCode).getD 1

def helpFormats : List String := ["Brief", "Console", "Full"]

def message : Failure → String
  | invalidFile label path fault => "Invalid " ++ label ++ " at " ++ path ++ ": " ++ fault.message
  | notAnObject label path => "Invalid " ++ label ++ " at " ++ path ++ ": expected a JSON object"
  | invalidSettings origin report => "Invalid settings in " ++ origin ++ ": " ++ report.message
  | invalidPort name raw =>
    name ++ " must be an integer port (got " ++ Text.quoted raw ++ ")"
  | variableUnset name source =>
    "Environment variable '" ++ name ++ "' is not set (source: " ++ source ++ ")"
  | secretFileMissing path source =>
    "Credential file not found: " ++ path ++ " (source: " ++ source ++ ")"
  | secretFileUnreadable path e => "Cannot read credential file " ++ path ++ ": " ++ e.message
  | noTerminal => "Cannot prompt for credentials: stdin is not a TTY (source: prompt)"
  | unknownSource source => "Unknown credential source format: " ++ source
  | emptySecret source => "Empty service secret (source: " ++ source ++ ")"
  | overridesMissing path => "Overrides file not found: " ++ path
  | overridesUnreadable path e => "Cannot read overrides file " ++ path ++ ": " ++ e.message
  | overridesNotNames path key value =>
    "Overrides in " ++ path ++ " must map names to names (got " ++ key ++ ": " ++ value ++ ")"
  | invalidJson origin e => "Invalid JSON in " ++ origin ++ ": " ++ e.message
  | jsonNotObject origin kind => origin ++ " must contain an object (got " ++ kind ++ ")"
  | unreadableText origin json yaml =>
    let jsonLine := match json with
      | none => ""
      | some e => "\n  JSON error: " ++ e.message
    "Failed to parse " ++ origin ++ " as JSON or YAML" ++ jsonLine ++ "\n  YAML error: " ++ yaml
  | notAMapping origin kind => origin ++ " must contain a mapping (got " ++ kind ++ ")"
  | noPort => "No service port configured (use --port, HELPSPEC_PORT or PORT)"
  | unknownFormat format =>
    "Unknown help format " ++ Text.quoted format ++ " (expected one of " ++
      Text.join ", " helpFormats ++ ")"
  | unreachable address attempts reason =>
    "Connection to " ++ address ++ " failed after " ++ Text.int attempts ++ " attempts: " ++ reason
  | refused status path detail =>
    let place := "HTTP " ++ Text.nat status ++ " from " ++ path
    if detail = "" then place else place ++ ": " ++ detail
  | retriesSpent => "Request failed after all retries"
  | emptyBody label => "Empty " ++ label ++ " response"
  | badBody label fault => label ++ " response is not valid JSON: " ++ fault.message
  | bodyNotObject label kind => label ++ " response must be a JSON object (got " ++ kind ++ ")"
  | directoryMissing path => "Input directory not found: " ++ path
  | payloadMissing path => "Payload file not found: " ++ path
  | payloadUnreadable path fault => "Cannot read payload " ++ path ++ ": " ++ fault.message
  | payloadNotObject path => "Payload " ++ path ++ " must be a JSON object"
  | settingsExist path => path ++ " already exists (use --force to overwrite)"
  | cannotWrite path e => "Cannot write " ++ path ++ ": " ++ e.message
  | raised _ message _ => message
  | invalid report => report.message
  | wrongType => "a value of another type is needed"
  | notUtf8 => "the text is not UTF-8"
  | badScalar m => m.message
  | os e => e.message
  | brokenReply => "the reply breaks the protocol"
  | badAddress => "the address is not valid"
  | noHome => "the home directory is not known"
  | numberTooLong => "a number has too many digits"
  | nestedTooDeep => "values are nested too deep"
  | halfCharacter => "half of a character cannot be encoded"
  | notPlain => "the wire takes plain characters only"
  | nulInPath => "a path holds a NUL character"
  | badMarkup f => f.message
  | notShowable => "a cell holds neither text nor nothing"
  | notANumber name raw => name ++ " is no number: " ++ Text.quoted raw

/-- What a fault in JSON text comes to. An excess lies outside every family; anything else is as
`expected` says. -/
def ofJson (expected : Json.Error → Failure) (e : Json.Error) : Failure :=
  match e.cause with
  | .tooManyDigits _ => numberTooLong
  | .tooDeep => nestedTooDeep
  | _ => expected e

def ofExcess : Value.Excess → Failure
  | .digits => numberTooLong
  | .depth => nestedTooDeep

end Failure
end ServiceAtlas
