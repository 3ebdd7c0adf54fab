import ServiceAtlas.Operation
import ServiceAtlas.Text.Case

/-!
The document as a whole: what the service is called, where it listens, its paths and its schemas.
-/

namespace ServiceAtlas

/-- What a document says about the service itself. -/
structure Info where
  title : String
  version : String
  description : String
deriving DecidableEq

namespace Info

/-- Fields that are missing or empty have neutral texts in their place. -/
def ofAppInfo (app : Table Value) : Info :=
  let name := (app.find? "name").getD .null
  let version := (app.find? "version").getD .null
  let sdk := (app.find? "sdkVersion").getD .null
  { title := if name.isGiven then name.display ++ " API" else "Local Service API"
    version := if version.isGiven then version.display else "0.0.0"
    description :=
      if sdk.isGiven then "Created with SDK - Version " ++ sdk.display
      else "Generated from /help" }

def toValue (i : Info) : Value :=
  .object
    [("title", .text i.title), ("version", .text i.version), ("description", .text i.description)]

end Info

structure Document where
  openapiVersion : String
  info : Info
  server : Option String
  paths : Table Value
  schemas : Table Value
  forbidden : Bool

namespace Document

def saying (description : String) : Value := .object [("description", .text description)]

/-- The responses that operations refer to. -/
def responses (forbidden : Bool) : Table Value :=
  [("UnauthorizedError", saying "Missing authentication credentials")] ++
    if forbidden then [("ForbiddenError", saying "Wrong authentication credentials")] else []

def securitySchemes : Value :=
  .object [("basicAuth", .object [("type", .text "http"), ("scheme", .text "basic")])]

def components (d : Document) : Value :=
  .object
    [("securitySchemes", securitySchemes), ("responses", .object (responses d.forbidden)),
      ("schemas", .object d.schemas)]

def servers (url : String) : Value := .list [.object [("url", .text url)]]

def toValue (d : Document) : Value :=
  .object
    ([("openapi", .text d.openapiVersion), ("info", d.info.toValue)] ++
      Value.entryOf "servers" ((Operation.filled d.server).map servers) ++
      [("paths", .object d.paths), ("components", d.components),
        ("security", .list [.object [("basicAuth", .list [])]])])

/-- The two formats that a document is written in. -/
inductive Format where
  | json
  | yaml
deriving DecidableEq

def Format.name : Format → String
  | json => "json"
  | yaml => "yaml"

/-- The end of a path tells the format of the file there. -/
def Format.ofPath (path : String) : Format :=
  let small := Text.lower path
  if Text.endsWith small ".yaml" || Text.endsWith small ".yml" then .yaml else .json

end Document
end ServiceAtlas
