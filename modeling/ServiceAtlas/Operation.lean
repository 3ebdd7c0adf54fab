import ServiceAtlas.Argument
import ServiceAtlas.Function
import ServiceAtlas.Schema.Lower
import ServiceAtlas.Settings
import ServiceAtlas.Usage

/-!
Operations of a document: one function, as it is called over HTTP.
-/

namespace ServiceAtlas

/-- What a body of JSON holds. -/
def Schema.toContent (schema : Schema) : Value :=
  .object [("application/json", .object [("schema", schema.toValue)])]

/-- An entry that is left out where there is no value for it. -/
def Value.entryOf (key : String) : Option Value → Table Value
  | some v => [(key, v)]
  | none => []

def Value.flagOf (key : String) (set : Bool) : Table Value := if set then [(key, .bool true)] else []

/-- An argument that travels in the path or in the query. -/
structure OperationParameter where
  placement : Placement
  name : String
  description : Option Value
  schema : Schema
  required : Bool

def OperationParameter.toValue (p : OperationParameter) : Value :=
  .object
    ([("in", .text p.placement.name), ("name", .text p.name)] ++
      Value.entryOf "description" p.description ++ [("schema", p.schema.toValue)] ++
      Value.flagOf "required" p.required)

structure RequestBody where
  description : Option Value
  required : Bool
  schema : Schema

def RequestBody.toValue (b : RequestBody) : Value :=
  .object
    (Value.entryOf "description" b.description ++ Value.flagOf "required" b.required ++
      [("content", b.schema.toContent)])

/-- The answers to an operation: what it returns, and the two refusals. -/
structure Responses where
  status : String
  returns : Option Schema
  forbidden : Bool

namespace Responses
variable [Stack]

def refusal (name : String) : Value := .object [("$ref", .text ("#/components/responses/" ++ name))]

def success (returns : Option Schema) : Value :=
  match returns with
  | none => .object [("description", .text "Returns nothing")]
  | some schema => .object [("description", .text "Success"), ("content", schema.toContent)]

def toValue (r : Responses) : Value :=
  .object
    ([(r.status, success r.returns), ("401", refusal "UnauthorizedError")] ++
      if r.forbidden then [("403", refusal "ForbiddenError")] else [])

/-- The schema of what is returned, if anything is. A table names a type by its first key. -/
def returnSchema (overrides : Overrides) (returns : Value) : Traced (Option Schema) :=
  match returns with
  | .null | .text "" => return none
  | .object _ =>
    some <$> ExceptT.lift (Schema.ofName overrides .standard (Descriptor.referenceName returns))
  | returns => some <$> Schema.ofRaw overrides .standard returns

def make (overrides : Overrides) (options : Options) (returns : Value) : Traced Responses := do
  return ⟨options.successStatus, ← returnSchema overrides returns, options.forbidden⟩

end Responses

structure Operation where
  id : String
  description : Option String
  tags : List String
  deprecated : Bool
  parameters : List OperationParameter
  body : Option RequestBody
  responses : Responses

namespace Operation

def toValue (o : Operation) : Value :=
  .object
    ([("operationId", .text o.id)] ++ Value.entryOf "description" (o.description.map .text) ++
      [("tags", .texts o.tags), ("deprecated", .bool o.deprecated),
        ("parameters", .list (o.parameters.map OperationParameter.toValue))] ++
      Value.entryOf "requestBody" (o.body.map RequestBody.toValue) ++
      [("responses", o.responses.toValue)])

/-- The tags of a function that are not ignored, or the default one. -/
def tagsOf (full : FullView) (options : Options) : List String :=
  match full.tags.filter fun t => !options.ignoredTags.contains t with
  | [] => [options.defaultTag]
  | tags => tags

def speaksOfDeprecation (text : Option String) : Bool :=
  Text.occurs "deprecated".toList (Text.lower (text.getD "")).toList

/-- A function is deprecated if it is marked so, or if any of its texts says so. -/
def isDeprecated (full : FullView) (console : Option ConsoleView) : Bool :=
  full.deprecated.getD false || speaksOfDeprecation full.description ||
    speaksOfDeprecation full.help || speaksOfDeprecation (console.bind ConsoleView.description) ||
    speaksOfDeprecation (console.bind ConsoleView.help)

/-- The first of two texts that is not empty. -/
def firstText (own other : Option String) : Option String :=
  match own with
  | none | some "" => other
  | own => own

def filled (text : Option String) : Option String := if text = some "" then none else text

/-- Description and help, unless the two say the same. -/
def describe (full : FullView) (console : Option ConsoleView) : Option String :=
  let description := filled (firstText full.description (console.bind ConsoleView.description))
  let help := filled (firstText full.help (console.bind ConsoleView.help))
  match description, help with
  | some d, some h =>
    if Text.strip h ≠ Text.strip d then some (d ++ "\n\n" ++ h) else some d
  | some d, none => some d
  | none, help => help

end Operation
end ServiceAtlas
