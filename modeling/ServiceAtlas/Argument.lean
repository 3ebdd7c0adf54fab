import ServiceAtlas.Noted
import ServiceAtlas.Vocabulary

/-!
The declared arguments of a function. The Console view lists each as a table with the name for its
only key, the Full view as an entry that has a name.
-/

namespace ServiceAtlas.Argument

/-- What can be gone through one by one: the items of a list, the characters of a text, the keys of
a table. Whatever counts as nothing has no elements. -/
def elements (v : Value) : Except Failure (List Value) :=
  if !v.isGiven then .ok []
  else match v with
    | .list items => .ok items
    | .text s => .ok (s.toList.map fun c => .text (String.singleton c))
    | .object fields => .ok (fields.map fun e => .text e.1)
    | _ => .error .wrongType

def tableOf (v : Value) : Table Value := v.fields?.getD []

/-- A later argument of the same name takes the place of the earlier one. -/
def addConsole (lookup : Table (Table Value)) (entry : Value) : Noted (Table (Table Value)) :=
  match entry with
  | .object ((name, spec) :: _) => return lookup.insert name (tableOf spec)
  | _ => do
    Noted.note (.malformedArgument entry)
    return lookup

def consoleLookup (entries : List Value) : Noted (Table (Table Value)) :=
  entries.foldlM addConsole []

def addFull (lookup : Table (Table Value)) (entry : Value) : Noted (Table (Table Value)) :=
  let name := entry.getD "name"
  if name.isGiven then return lookup.insert name.display (tableOf entry)
  else do
    Noted.note (.namelessArgument entry)
    return lookup

def fullLookup (entries : List Value) : Noted (Table (Table Value)) := entries.foldlM addFull []

/-- A lead and the element type behind it, which counts as an empty name if it is nothing. -/
def prefixed (lead : String) (element : Value) : Except Failure Value :=
  if !element.isGiven then .ok (.text lead)
  else match element with
    | .text s => .ok (.text (lead ++ s))
    | _ => .error .wrongType

/-- The descriptor in Console syntax of a type that the Full view gives as a table of `type` and
`elementType`. Any other value is a descriptor already. -/
def descriptorOfFull (v : Value) : Except Failure Value :=
  match v with
  | .object fields =>
    let type := (Table.find? fields "type").getD .null
    let element := (Table.find? fields "elementType").getD .null
    if Table.contains fields "type" &&
        (Table.keys fields).all fun k => k == "type" || k == "elementType" then
      match type with
      | .text "vector" => prefixed TypeName.arrayLead element
      | .text "map" => prefixed TypeName.mapLead element
      | type => .ok (if type.isGiven then type else .text "")
    else .ok v
  | _ => .ok v

/-- The Console view's description, or else the Full view's; one that counts as nothing is none. -/
def description (console full : Table Value) : Option Value :=
  let own := (console.find? "description").getD .null
  let other := (full.find? "description").getD .null
  if own.isGiven then some own else if other.isGiven then some other else none

/-- The Console view's type, or else the Full view's, if either declares one. -/
def rawType (console full : Table Value) : Except Failure Value :=
  match console.find? "type" with
  | some type => .ok type
  | none =>
    match full.find? "type" with
    | some type => descriptorOfFull type
    | none => .ok .null

/-- Whether the argument is declared to be required. -/
def isRequired (console : Table Value) : Bool :=
  match console.find? "optional" with
  | some (.bool false) => true
  | _ => false

end ServiceAtlas.Argument
