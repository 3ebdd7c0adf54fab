import ServiceAtlas.Value

/-!
Schema fragments of a document.
-/

namespace ServiceAtlas

inductive Schema where
  /-- The schema of a primitive, or another that is fixed in full. -/
  | fixed (fields : Table Value)
  | array (items : Schema)
  | map (values : Schema)
  | object (properties : List (String × Schema))
  | enumeration (names : List String)
  | reference (name : String)

namespace Schema

/-- Where the schemas of a document stand. -/
def place : String := "#/components/schemas/"

mutual
def toValue : Schema → Value
  | fixed fields => .object fields
  | array items => .object [("type", .text "array"), ("items", items.toValue)]
  | map values => .object [("type", .text "object"), ("additionalProperties", values.toValue)]
  | object properties =>
    .object [("type", .text "object"), ("properties", .object (valuesOf properties))]
  | enumeration names => .object [("type", .text "string"), ("enum", .texts names)]
  | reference name => .object [("$ref", .text (place ++ name))]

def valuesOf : List (String × Schema) → List (String × Value)
  | [] => []
  | (name, schema) :: rest => (name, schema.toValue) :: valuesOf rest
end

mutual
/-- The names that a schema refers to, at any depth. -/
def references : Schema → List String
  | array items => items.references
  | map values => values.references
  | object properties => referencesOf properties
  | reference name => [name]
  | _ => []

def referencesOf : List (String × Schema) → List String
  | [] => []
  | (_, schema) :: rest => schema.references ++ referencesOf rest
end

/-- The schema of a type about which nothing is known. -/
def opaqueObject : Schema := object []

end Schema
end ServiceAtlas
