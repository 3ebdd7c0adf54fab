import ServiceAtlas.Url
import ServiceAtlas.Value.Display

/-!
Requests to the service and what comes of them.
-/

namespace ServiceAtlas.Http

structure Request where
  method : String
  url : Url
  query : List (String × String)
  authorization : Option String
deriving DecidableEq

structure Reply where
  status : Nat
  body : Text.Bytes
  /-- The body as text, in the encoding that the headers name; where they name none it is UTF-8. -/
  text : List Char := Text.decodeReplacing body
deriving DecidableEq

/-- What comes of one attempt. A network error may pass; a reply that breaks the protocol is not
expected. -/
inductive Outcome where
  | reply (r : Reply)
  | networkError (reason : String)
  | protocolError (reason : String)
deriving DecidableEq

/-- The path as messages show it. -/
def Request.path (r : Request) : String := r.url.shownPath

/-- The text of a value in a query. -/
def queryText : Value → String
  | .bool b => if b then "true" else "false"
  | .null => ""
  | v => v.display

/-- The query that some fields ask for. A list gives its name once for each item. -/
def queryOf (fields : Table Value) : Url.Query :=
  fields.map fun e => (e.1, match e.2 with
    | .list items => items.map queryText
    | v => [queryText v])

end ServiceAtlas.Http
