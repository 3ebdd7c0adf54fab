import ServiceAtlas.Schema.Lower

/-!
The schemas of a whole catalogue of types, in its order, with the fallback type last.
-/

namespace ServiceAtlas

namespace Schema
variable [Stack]

def typeOnly (name : String) : Value := .object [("type", .text name)]

/-- The fallback type admits every value. -/
def anyValue : Schema :=
  fixed
    [("nullable", .bool true),
      ("anyOf", .list
        [typeOnly "object", typeOnly "string", typeOnly "number", typeOnly "boolean",
          typeOnly "integer", .object [("type", .text "array"), ("items", .object [])]])]

/-- The schema of a named type. A type without a shape is an object of which nothing is known. -/
def ofNamed (overrides : Overrides) (vocabulary : Vocabulary) (name : String) (raw : Value) :
    Traced Schema := do
  match ← Descriptor.classify vocabulary raw with
  | .reference _ =>
    Traced.note (.shapelessType name)
    return opaqueObject
  | d => ExceptT.lift (ofDescriptor overrides vocabulary d)

def ofEntry (overrides : Overrides) (vocabulary : Vocabulary) (entry : String × Value) :
    Traced (String × Schema) := do
  return (entry.1, ← ofNamed overrides vocabulary entry.1 entry.2)

/-- The named types of a catalogue; nothing but a table holds any. -/
def namedTypes (types : Value) : Traced (Table Value) :=
  match types with
  | .object entries => return entries
  | other => do
    Traced.note (.noTypeCatalogue other.kindName)
    return []

def ofCatalogue (overrides : Overrides) (vocabulary : Vocabulary) (types : Value) :
    Traced (Table Schema) := do
  let named ← (← namedTypes types).mapM (ofEntry overrides vocabulary)
  let schemas := Table.ofEntries named
  if schemas.contains TypeName.anyType then
    Traced.note .anyTypeReplaced
  return schemas.putLast TypeName.anyType anyValue

end Schema
end ServiceAtlas
