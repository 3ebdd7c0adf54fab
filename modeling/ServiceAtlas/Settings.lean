import ServiceAtlas.Checked

/-!
The settings of a run: how to reach the service, and what the document is to look like. Each record
is read from a table, its missing fields at their defaults, and written back as one.
-/

namespace ServiceAtlas

/-- How the success of an operation is keyed: by all codes of success or by the one. -/
inductive StatusStyle where
  | range
  | exact
deriving DecidableEq

namespace StatusStyle

def name : StatusStyle → String
  | range => "range"
  | exact => "exact"

def read : Value → Checked StatusStyle := Checked.choice [("range", range), ("exact", exact)]

end StatusStyle

/-- The choices that shape every operation. -/
structure Options where
  statusStyle : StatusStyle := .range
  forbidden : Bool := false
  defaultTag : String := "core-sdk"
  ignoredTags : List String := ["$remoting-binding-module", "Plugins"]
deriving DecidableEq

namespace Options

def successStatus (o : Options) : String :=
  match o.statusStyle with
  | .range => "2XX"
  | .exact => "200"

def readFields (fields : Table Value) : Checked Options :=
  let d : Options := {}
  Options.mk
    <$> Checked.field fields "status_code_style" d.statusStyle StatusStyle.read
    <*> Checked.field fields "include_forbidden_response" d.forbidden Checked.bool
    <*> Checked.field fields "default_tag" d.defaultTag Checked.text
    <*> Checked.field fields "ignored_tags" d.ignoredTags (Checked.sequence Checked.text)

def read : Value → Checked Options := Checked.record readFields

def toValue (o : Options) : Value :=
  .object
    [("status_code_style", .text o.statusStyle.name),
      ("include_forbidden_response", .bool o.forbidden),
      ("default_tag", .text o.defaultTag),
      ("ignored_tags", .texts o.ignoredTags)]

end Options

/-- How to reach the service. It listens on the loopback interface and signs its own certificate, so
that certificates are not verified unless asked for. -/
structure Service where
  host : String := "127.0.0.1"
  port : Option Int := none
  username : String := "riot"
  secretSource : String := "env:SECRET"
  verifyTls : Bool := false
  timeout : Int := 30
  maxRetries : Int := 0
  helpPath : String := "/help"
  appInfoPath : String := "/riotclient/v1/app-info"
deriving DecidableEq

namespace Service

def baseUrl (s : Service) : String :=
  "https://" ++ s.host ++ ":" ++ (s.port.map Text.int).getD "None"

def readFields (fields : Table Value) : Checked Service :=
  let d : Service := {}
  Service.mk
    <$> Checked.field fields "host" d.host Checked.text
    <*> Checked.optionalField fields "port" Checked.int
    <*> Checked.field fields "username" d.username Checked.text
    <*> Checked.field fields "secret_source" d.secretSource Checked.text
    <*> Checked.field fields "verify_ssl" d.verifyTls Checked.bool
    <*> Checked.field fields "timeout" d.timeout Checked.int
    <*> Checked.field fields "max_retries" d.maxRetries Checked.int
    <*> Checked.field fields "help_path" d.helpPath Checked.text
    <*> Checked.field fields "app_info_path" d.appInfoPath Checked.text

def read : Value → Checked Service := Checked.record readFields

def toValue (s : Service) : Value :=
  .object
    [("host", .text s.host),
      ("port", .ofOption .int s.port),
      ("username", .text s.username),
      ("secret_source", .text s.secretSource),
      ("verify_ssl", .bool s.verifyTls),
      ("timeout", .int s.timeout),
      ("max_retries", .int s.maxRetries),
      ("help_path", .text s.helpPath),
      ("app_info_path", .text s.appInfoPath)]

end Service

/-- What is written, where, and what it looks like. -/
structure Generator where
  output : String := "out/openapi.json"
  overridesFile : Option String := none
  overrides : Table String := []
  statusStyle : StatusStyle := .range
  forbidden : Bool := false
  emitParts : Bool := false
  openapiVersion : String := "3.0.0"
  defaultTag : String := "core-sdk"
  ignoredTags : List String := ["$remoting-binding-module", "Plugins"]
deriving DecidableEq

namespace Generator

def options (g : Generator) : Options := ⟨g.statusStyle, g.forbidden, g.defaultTag, g.ignoredTags⟩

def readFields (fields : Table Value) : Checked Generator :=
  let d : Generator := {}
  Generator.mk
    <$> Checked.field fields "output" d.output Checked.text
    <*> Checked.optionalField fields "overrides_file" Checked.text
    <*> Checked.field fields "object_name_overrides" d.overrides (Checked.table Checked.text)
    <*> Checked.field fields "status_code_style" d.statusStyle StatusStyle.read
    <*> Checked.field fields "include_forbidden_response" d.forbidden Checked.bool
    <*> Checked.field fields "emit_parts" d.emitParts Checked.bool
    <*> Checked.field fields "openapi_version" d.openapiVersion Checked.text
    <*> Checked.field fields "default_tag" d.defaultTag Checked.text
    <*> Checked.field fields "ignored_tags" d.ignoredTags (Checked.list Checked.text)

def read : Value → Checked Generator := Checked.record readFields

/-- The names as they are shown: in the keys every half that stands alone is given up, and of keys
that are then the same the last one counts. -/
def shownOverrides (g : Generator) : Table Value :=
  Table.ofEntries (g.overrides.map fun e =>
    (String.ofList (Text.withoutHalves e.1.toList), .text e.2))

def toValue (g : Generator) : Value :=
  .object
    [("output", .text g.output),
      ("overrides_file", .ofOption .text g.overridesFile),
      ("object_name_overrides", .object g.shownOverrides),
      ("status_code_style", .text g.statusStyle.name),
      ("include_forbidden_response", .bool g.forbidden),
      ("emit_parts", .bool g.emitParts),
      ("openapi_version", .text g.openapiVersion),
      ("default_tag", .text g.defaultTag),
      ("ignored_tags", .texts g.ignoredTags)]

end Generator

structure Settings where
  service : Service := {}
  generator : Generator := {}
deriving DecidableEq

namespace Settings

def readFields (fields : Table Value) : Checked Settings :=
  Settings.mk
    <$> Checked.field fields "service" {} Service.read
    <*> Checked.field fields "generator" {} Generator.read

def read : Value → Checked Settings := Checked.record readFields

def toValue (s : Settings) : Value :=
  .object [("service", s.service.toValue), ("generator", s.generator.toValue)]

end Settings
end ServiceAtlas
