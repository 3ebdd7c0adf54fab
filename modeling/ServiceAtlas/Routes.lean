import ServiceAtlas.Operation.Translate

/-!
The operations of a document by URL and method. Several functions may share a URL; of those that
share a route the last one counts.
-/

namespace ServiceAtlas

/-- Operations by method, and these by URL. -/
abbrev Routes := Table (Table Operation)

namespace Routes
variable [Stack]

def item (routes : Routes) (url : String) : Table Operation := (routes.find? url).getD []

def find? (routes : Routes) (url method : String) : Option Operation :=
  (routes.item url).find? method

def addRoute (routes : Routes) (r : Route) : Noted Routes := do
  let item := routes.item r.url
  match item.find? r.method with
  | none => pure ()
  | some before =>
    Noted.note (.replacedRoute (Text.upper r.method) r.url before.id r.operation.id)
  return Table.insert routes r.url (item.insert r.method r.operation)

def addFunction (overrides : Overrides) (options : Options) (routes : Routes)
    (f : JoinedFunction) : Traced Routes := do
  match ← Operation.translate f.full f.console overrides options with
  | none => return routes
  | some r => ExceptT.lift (addRoute routes r)

/-- The routes of all functions that the two catalogues describe. -/
def build (console full : Table Value) (overrides : Overrides) (options : Options) :
    Traced Routes := do
  let functions ← ExceptT.lift (JoinedFunction.join console full)
  functions.foldlM (addFunction overrides options) []

def operationCount (routes : Routes) : Nat :=
  (routes.map fun item => item.2.length).foldr (· + ·) 0

def pathItem (item : Table Operation) : Value :=
  .object (item.map fun e => (e.1, e.2.toValue))

def toTable (routes : Routes) : Table Value := routes.map fun item => (item.1, pathItem item.2)

end Routes
end ServiceAtlas
