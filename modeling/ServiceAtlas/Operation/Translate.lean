import ServiceAtlas.Operation

/-!
One function made into one operation. The usage line says where its arguments travel; variables of
the URL that it does not mention are declared beside them. A function that cannot be called over
HTTP makes none.
-/

namespace ServiceAtlas

/-- An operation and the route to it. -/
structure Route where
  url : String
  method : String
  operation : Operation

namespace Operation
variable [Stack]

/-- What the arguments of one function are sorted by. -/
structure Arguments where
  function : String
  console : Table (Table Value)
  full : Table (Table Value)
  overrides : Overrides

namespace Arguments

def consoleOf (a : Arguments) (name : String) : Table Value := (a.console.find? name).getD []

def fullOf (a : Arguments) (name : String) : Table Value := (a.full.find? name).getD []

def description (a : Arguments) (name : String) : Option Value :=
  Argument.description (a.consoleOf name) (a.fullOf name)

def rawType (a : Arguments) (name : String) : Traced Value :=
  liftExcept (Argument.rawType (a.consoleOf name) (a.fullOf name))
where
  liftExcept (x : Except Failure Value) : Traced Value := ExceptT.mk (pure x)

def schema (a : Arguments) (name : String) : Traced Schema := do
  Schema.ofRaw a.overrides .standard (← a.rawType name)

/-- The schema of a variable of the URL, which is text where nothing else is declared. -/
def variableSchema (a : Arguments) (name : String) : Traced Schema := do
  match ← a.rawType name with
  | .null => return .fixed (Vocabulary.scalar "string")
  | raw => Schema.ofRaw a.overrides .standard raw

def isRequired (a : Arguments) (name : String) : Bool := Argument.isRequired (a.consoleOf name)

end Arguments

/-- The parameters so far and the body, if there is one. -/
structure Inputs where
  parameters : List OperationParameter
  body : Option RequestBody

/-- An argument takes its place among the parameters, or makes the body. Of several bodies the last
one counts. -/
def addParameter (a : Arguments) (inputs : Inputs) (p : Parameter) : Traced Inputs := do
  let schema ← a.schema p.name
  let description := a.description p.name
  let required := a.isRequired p.name
  match p.placement with
  | .body =>
    if inputs.body.isSome then
      Traced.note (.secondBody a.function p.name)
    return ⟨inputs.parameters, some ⟨description, required, schema⟩⟩
  | placement =>
    let entry := ⟨placement, p.name, description, schema, placement = .path || required⟩
    return ⟨inputs.parameters ++ [entry], inputs.body⟩

def pathNames (parameters : List OperationParameter) : List String :=
  (parameters.filter fun p => p.placement = .path).map OperationParameter.name

/-- A variable of the URL is declared unless a parameter of the path has its name. -/
def addVariable (a : Arguments) (parameters : List OperationParameter) (name : String) :
    Traced (List OperationParameter) := do
  if (pathNames parameters).contains name then return parameters
  Traced.note (.undeclaredVariable a.function name)
  let schema ← a.variableSchema name
  return parameters ++ [⟨.path, name, a.description name, schema, true⟩]

/-- What the function returns; the Full view counts where the Console view is silent. -/
def returned (full : FullView) (console : ConsoleView) : Except Failure Value :=
  if console.returns.isNull then Argument.descriptorOfFull full.returns else .ok console.returns

/-- The operation behind a usable URL and method. -/
def build (full : FullView) (console : ConsoleView) (overrides : Overrides) (options : Options)
    (url method : String) : Traced Operation := do
  let consoles ← ExceptT.lift (Argument.consoleLookup console.arguments)
  let fulls ← ExceptT.lift (Argument.fullLookup full.arguments)
  Traced.note (.routed (Text.upper method) url full.name)
  let a : Arguments := ⟨full.name, consoles, fulls, overrides⟩
  let setting := Usage.Setting.make (console.url.getD "") method (some consoles.keys)
  let used ← ExceptT.lift (Usage.parameters (console.usage.getD "") setting)
  let inputs ← used.foldlM (addParameter a) ⟨[], none⟩
  let parameters ← (UrlTemplate.placeholders url).foldlM (addVariable a) inputs.parameters
  let returns ← ExceptT.mk (pure (returned full console))
  let responses ← Responses.make overrides options returns
  return ⟨full.name, describe full console, tagsOf full options, isDeprecated full console,
    parameters, inputs.body, responses⟩

/-- The URL of a function as a document shows it. -/
def urlOf (console : ConsoleView) : String :=
  Text.strip (UrlTemplate.normalize (console.url.getD ""))

def methodOf (method : String) : String := Text.lower (Text.strip method)

def translate (full : FullView) (console : Option ConsoleView) (overrides : Overrides)
    (options : Options) : Traced (Option Route) := do
  let some console := console
    | Traced.note (.noConsoleEntry full.name); return none
  let url := urlOf console
  if url = "" then
    Traced.note (.noUrl full.name)
    return none
  let some method := filled console.method
    | Traced.note (.noMethod full.name url); return none
  let method := methodOf method
  return some ⟨url, method, ← build full console overrides options url method⟩

end Operation
end ServiceAtlas
