import ServiceAtlas.Text.Search
import ServiceAtlas.Value

/-!
The primitive names of the type grammar, each with its schema, and the two forms in which a name
holds another type: `vector of` and `map of`.
-/

namespace ServiceAtlas

/-- Primitive names with their schema fields. -/
abbrev Vocabulary := Table (Table Value)

namespace Vocabulary

def scalar (type : String) : Table Value := [("type", .text type)]

def formatted (type format : String) : Table Value :=
  [("type", .text type), ("format", .text format)]

def standard : Vocabulary :=
  [("string", scalar "string"),
    ("int8", formatted "number" "int32"),
    ("uint8", formatted "number" "int32"),
    ("int16", formatted "number" "int32"),
    ("uint16", formatted "number" "int32"),
    ("int32", formatted "number" "int32"),
    ("uint32", formatted "number" "int32"),
    ("int64", formatted "number" "int64"),
    ("uint64", formatted "number" "int64"),
    ("int", scalar "integer"),
    ("float", formatted "number" "float"),
    ("double", formatted "number" "double"),
    ("bool", scalar "boolean"),
    ("null", scalar "null")]

end Vocabulary

namespace TypeName

/-- What stands before the element type of an array. -/
def arrayLead : String := "vector of "

/-- What stands before the value type of a map. -/
def mapLead : String := "map of "

/-- Whether a name has the look of an array type; the last blank of the lead may be wanting. -/
def looksLikeArray (name : String) : Bool := Text.startsWith name "vector of"

def looksLikeMap (name : String) : Bool := Text.startsWith name "map of"

def isPrimitive (vocabulary : Vocabulary) (name : String) : Bool :=
  vocabulary.contains name && !looksLikeArray name && !looksLikeMap name

end TypeName
end ServiceAtlas
