import ServiceAtlas.Descriptor
import ServiceAtlas.Noted
import ServiceAtlas.Value.Written
import ServiceAtlas.Vocabulary

/-!
Raw type descriptors read as typed ones. A list of `values` makes an enumeration, otherwise `fields`
make an object; a name is primitive, an array, a map or a reference, in this order; all else refers
to the type that its first key names. Malformed members and fields are skipped, and shown where
diagnostics tell of them. Whatever stands inside a type is read by calls of its own, as long as the
stack takes them.
-/

namespace ServiceAtlas

namespace TypeName

/-- What a name makes of the type behind its lead, and what stands behind the lead. -/
def lead? (cs : List Char) : Option ((Descriptor → Descriptor) × List Char) :=
  match Text.after? arrayLead.toList cs with
  | some rest => some (.array, rest)
  | none => (Text.after? mapLead.toList cs).map fun rest => (.map, rest)

/-- The descriptor of a name; the element type of an array and the value type of a map are names
again, each a level further down. -/
def classify (vocabulary : Vocabulary) (levels : Nat) (cs : List Char) : Except Failure Descriptor :=
  if isPrimitive vocabulary (String.ofList cs) then .ok (.primitive (String.ofList cs))
  else
    match lead? cs, levels with
    | none, _ => .ok (.reference (String.ofList cs))
    | some _, 0 => .error .nestedTooDeep
    | some (around, rest), levels + 1 => around <$> classify vocabulary levels rest

end TypeName

namespace Descriptor

/-- The name of a descriptor that has none of its own. -/
def namelessName : String := "0"

/-- The type name that a raw descriptor points at: itself, or its first key. -/
def referenceName : Value → String
  | .text s => s
  | .object ((key, _) :: _) => key
  | _ => namelessName

/-- The whole number of a member or field, if it has one. -/
def number? : Value → Option Int
  | .int n => some n
  | .bool b => some (if b then 1 else 0)
  | _ => none

/-- The description in a table; an empty one counts as none. -/
def description (fields : Table Value) : Checked (Option String) :=
  match fields.find? "description" with
  | some v => if v.isGiven then some <$> Checked.under "description" (Checked.text v) else .good none
  | none => .good none

section
variable [Stack]

/-- A malformed entry is skipped once it has been shown. -/
def skip (noted : Value → Diagnostic) (entry : Value) : Traced Unit := do
  let _ ← Traced.ofExcept entry.quote
  Traced.note (noted entry)

/-- The member that an entry of `values` describes, unless the entry is malformed. -/
def readMember (entry : Value) : Traced (Option EnumMember) :=
  match entry.getD "name", entry with
  | .null, _ => do
    skip .malformedMember entry
    return none
  | name, .object fields => do
    let shown ← Traced.ofExcept name.nameOf
    let text ← Traced.ofChecked "EnumValue" (description fields)
    return some ⟨shown, number? (entry.getD "value"), text⟩
  | _, _ => do
    skip .malformedMember entry
    return none

def readMembers (entries : List Value) : Traced (List EnumMember) := do
  return (← entries.mapM readMember).filterMap id

/-- Whether an entry of a list of fields holds one field. -/
def holdsOneField : Value → Bool
  | .object [_] => true
  | _ => false

def skipMalformedFields (entries : List Value) : Traced Unit :=
  (entries.filter fun e => !holdsOneField e).forM (skip .malformedField)

end

/-- A field once its type is known. -/
def makeField (name : String) (spec : Table Value) (type : Descriptor) : Traced Field := do
  let text ← Traced.ofChecked "ObjectField" (description spec)
  return ⟨name, type, text, ((spec.find? "optional").getD .null).isGiven,
    number? ((spec.find? "offset").getD .null)⟩

/-- A call further down, if there is room for it. -/
def descend {α : Type} (levels : Nat) (next : Nat → Traced α) : Traced α :=
  match levels with
  | 0 => throw .nestedTooDeep
  | levels + 1 => next levels

theorem descend_ok_iff {α : Type} {levels : Nat} {next : Nat → Traced α} {a : α} :
    (descend levels next).result = .ok a ↔
      ∃ left, levels = left + 1 ∧ (next left).result = .ok a := by
  cases levels with
  | zero =>
    refine iff_of_false (fun h => ?_) fun ⟨_, h, _⟩ => by omega
    cases h
  | succ levels =>
    constructor
    · intro h
      exact ⟨levels, rfl, h⟩
    · rintro ⟨left, h, hn⟩
      obtain rfl := Nat.succ.inj h
      exact hn

section
variable [Stack] (vocabulary : Vocabulary)

mutual
/-- The descriptor in a value, with room for `levels` calls below this one. -/
def classifyAt (levels : Nat) : Value → Traced Descriptor
  | .text s => Traced.ofExcept (TypeName.classify vocabulary levels s.toList)
  | .object fields =>
    match Table.find? fields "values" with
    | some (.list members) => enumeration <$> readMembers members
    | _ => (classifyFields levels fields).getD (return reference (referenceName (.object fields)))
  | _ => return reference namelessName

/-- The object that the entry `fields` describes, if there is one. -/
def classifyFields (levels : Nat) : List (String × Value) → Option (Traced Descriptor)
  | [] => none
  | (key, v) :: rest =>
    if key = "fields" then some (descend levels fun levels => object <$> readFields levels v)
    else classifyFields levels rest

/-- The fields given as one table, or as a list of tables with one field each. -/
def readFields (levels : Nat) : Value → Traced (List Field)
  | .object entries => readFieldTable levels entries
  | .list entries => do
    skipMalformedFields entries
    readFieldList levels entries
  | _ => return []

def readFieldTable (levels : Nat) : List (String × Value) → Traced (List Field)
  | [] => return []
  | (name, spec) :: rest => do
    let field ← readField levels name spec
    return field :: (← readFieldTable levels rest)

def readFieldList (levels : Nat) : List Value → Traced (List Field)
  | [] => return []
  | .object [(name, spec)] :: rest => do
    let field ← readField levels name spec
    return field :: (← readFieldList levels rest)
  | _ :: rest => readFieldList levels rest

def readField (levels : Nat) (name : String) : Value → Traced Field
  | .object spec => do
    makeField name spec (← descend levels fun levels => classifyType levels spec)
  | _ => do
    makeField name [] (← descend levels fun _ => return reference namelessName)

/-- The type of a field, which its entry `type` describes. -/
def classifyType (levels : Nat) : List (String × Value) → Traced Descriptor
  | [] => return reference namelessName
  | (key, v) :: rest => if key = "type" then classifyAt levels v else classifyType levels rest
end

def classify : Value → Traced Descriptor := classifyAt vocabulary (Stack.levels .readType)

end

end Descriptor
end ServiceAtlas
