import ServiceAtlas.Descriptor.Classify
import ServiceAtlas.Schema

/-!
Descriptors lowered to schemas. References go through the table of overrides; a name that cannot be
the name of a schema becomes the fallback type. A descriptor that was read is lowered by no more calls
inside each other than its reading took.
-/

namespace ServiceAtlas

/-- Output names for raw type names. What is not text counts as an empty name. -/
abbrev Overrides := Table Value

namespace TypeName

/-- The type that every unusable name refers to. -/
def anyType : String := "AnyType"

/-- Names that never are the name of a schema. -/
def unusable : List String := [Descriptor.namelessName, "object"]

def overridden (overrides : Overrides) (name : String) : Value :=
  (overrides.find? name).getD (.text name)

/-- The name under which a schema is referred to. -/
def resolve (overrides : Overrides) (name : String) : Noted String :=
  match overridden overrides name with
  | .text s =>
    if Text.isBlankText s then do
      Noted.note (.emptyTypeName name)
      return anyType
    else if looksLikeArray s || looksLikeMap s then do
      Noted.note (.nestedTypeName s)
      return anyType
    else if unusable.contains s then do
      Noted.note (.unusableTypeName s)
      return anyType
    else return s
  | _ => do
    Noted.note (.emptyTypeName name)
    return anyType

end TypeName

namespace Schema

/-- A reference to the type called `name`. Primitives are never referred to: their schema stands in
place. -/
def ofName (overrides : Overrides) (vocabulary : Vocabulary) (name : String) : Noted Schema := do
  let resolved ← TypeName.resolve overrides name
  return match vocabulary.find? resolved with
    | some fields => fixed fields
    | none => reference resolved

mutual
def ofDescriptor (overrides : Overrides) (vocabulary : Vocabulary) : Descriptor → Noted Schema
  | .primitive name =>
    match vocabulary.find? name with
    | some fields => return fixed fields
    | none => ofName overrides vocabulary name
  | .array element => array <$> ofDescriptor overrides vocabulary element
  | .map value => map <$> ofDescriptor overrides vocabulary value
  | .enumeration members => return enumeration (members.map EnumMember.name)
  | .object fields => do
    return object (Table.ofEntries (← ofFields overrides vocabulary fields))
  | .reference name => ofName overrides vocabulary name

def ofFields (overrides : Overrides) (vocabulary : Vocabulary) :
    List Field → Noted (List (String × Schema))
  | [] => return []
  | ⟨name, type, _, _, _⟩ :: rest => do
    let schema ← ofDescriptor overrides vocabulary type
    return (name, schema) :: (← ofFields overrides vocabulary rest)
end

/-- The schema of a raw descriptor. -/
def ofRaw [Stack] (overrides : Overrides) (vocabulary : Vocabulary) (raw : Value) : Traced Schema := do
  ExceptT.lift (ofDescriptor overrides vocabulary (← Descriptor.classify vocabulary raw))

end Schema
end ServiceAtlas
