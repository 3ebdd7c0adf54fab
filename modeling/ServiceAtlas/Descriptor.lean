import ServiceAtlas.Value

/-!
Type descriptors: what the types of a service are made of, once their raw form has been read.
-/

namespace ServiceAtlas

structure EnumMember where
  name : String
  value : Option Int
  description : Option String
deriving DecidableEq

mutual
inductive Descriptor where
  | primitive (name : String)
  | array (element : Descriptor)
  | map (value : Descriptor)
  | enumeration (members : List EnumMember)
  | object (fields : List Field)
  | reference (name : String)

structure Field where
  name : String
  type : Descriptor
  description : Option String
  isOptional : Bool
  offset : Option Int
end

namespace Descriptor

def kind : Descriptor → String
  | primitive _ => "primitive"
  | array _ => "array"
  | map _ => "map"
  | enumeration _ => "enum"
  | object _ => "object"
  | reference _ => "reference"

/-- The names of the members of an enumeration or the fields of an object. -/
def memberNames : Descriptor → List String
  | enumeration members => members.map EnumMember.name
  | object fields => fields.map fun f => f.name
  | _ => []

mutual
/-- The names that the references inside point at. -/
def references : Descriptor → List String
  | array element => element.references
  | map value => value.references
  | object fields => referencesOfFields fields
  | reference name => [name]
  | _ => []

def referencesOfFields : List Field → List String
  | [] => []
  | ⟨_, type, _, _, _⟩ :: rest => type.references ++ referencesOfFields rest
end

end Descriptor
end ServiceAtlas
