import ServiceAtlas.Generation
import ServiceAtlas.Proofs.RouteTable
import ServiceAtlas.Proofs.SchemaGrammar

/-!
References as a reader of a finished document finds them: the places where schemas and responses are
referred to, and the names that the document declares.
-/

namespace ServiceAtlas

namespace Value

mutual
/-- The texts that stand under `$ref`, at any depth. -/
def refs : Value → List String
  | list items => refsOfItems items
  | object fields => refsOfFields fields
  | _ => []

def refsOfItems : List Value → List String
  | [] => []
  | v :: rest => v.refs ++ refsOfItems rest

def refsOfFields : List (String × Value) → List String
  | [] => []
  | (key, v) :: rest => (if key = "$ref" then v.text?.toList else []) ++ v.refs ++ refsOfFields rest
end

/-- The items of a list; nothing else has items. -/
def items : Value → List Value
  | list items => items
  | _ => []

/-- The values of an object, in order. -/
def entries (v : Value) : List Value := (v.fields?.getD []).map Prod.snd

def keys (v : Value) : List String := Table.keys (v.fields?.getD [])

end Value

/-! ### A document as it is read -/

namespace Document

def operationsIn (document : Value) : List Value :=
  (document.getD "paths").entries.flatMap Value.entries

/-- The schemas of a body, one for each media type. -/
def contentSchemas (body : Value) : List Value :=
  (body.getD "content").entries.filterMap fun media => media.get? "schema"

/-- The schemas of the parameters, the body and the answers of an operation. -/
def schemasOf (operation : Value) : List Value :=
  ((operation.getD "parameters").items.filterMap fun p => p.get? "schema") ++
    contentSchemas (operation.getD "requestBody") ++
      (operation.getD "responses").entries.flatMap contentSchemas

/-- All references to schemas: those of the declared schemas, then those of the operations. -/
def schemaRefs (document : Value) : List String :=
  (((document.getD "components").getD "schemas").entries ++
    (operationsIn document).flatMap schemasOf).flatMap Value.refs

/-- The references to responses that an operation makes. -/
def responseRefs (operation : Value) : List String :=
  (operation.getD "responses").entries.flatMap fun r => ((r.get? "$ref").bind Value.text?).toList

def declaredSchemas (document : Value) : List String :=
  ((document.getD "components").getD "schemas").keys

def declaredResponses (document : Value) : List String :=
  ((document.getD "components").getD "responses").keys

end Document

/-! ### Schemas -/

namespace Schema

/-- The schema of a primitive refers to nothing. -/
theorem refs_standard : ∀ e ∈ Vocabulary.standard, Value.refsOfFields e.2 = [] := by
  decide +kernel

/-- The fallback type refers to nothing. -/
theorem refs_anyValue : anyValue.toValue.refs = [] := by
  decide +kernel

theorem refs_texts (names : List String) : (Value.texts names).refs = [] := by
  have hitems : ∀ names : List String, Value.refsOfItems (names.map .text) = [] := by
    intro names
    induction names with
    | nil => rfl
    | cons n rest ih => simp [Value.refsOfItems, Value.refs, ih]
  exact hitems names

theorem text?_toValue (s : Schema) : s.toValue.text? = none := by
  cases s <;> simp [toValue, Value.text?]

mutual
/-- A written schema has the references of the schema, each with the place of schemas before it. -/
theorem refs_toValue (s : Schema) (h : s.Regular .standard) :
    s.toValue.refs = s.references.map (place ++ ·) := by
  match s with
  | .fixed fields =>
    obtain ⟨name, hname⟩ := h
    simp [toValue, Value.refs, references, refs_standard _ (Table.mem_of_find? hname)]
  | .array items =>
    have ih := refs_toValue items h
    simp [toValue, Value.refs, Value.refsOfFields, references, ih]
  | .map values =>
    have ih := refs_toValue values h
    simp [toValue, Value.refs, Value.refsOfFields, references, ih]
  | .object properties =>
    have ih := refs_valuesOf properties h
    simp [toValue, Value.refs, Value.refsOfFields, references, ih]
  | .enumeration names =>
    simp [toValue, Value.refs, Value.refsOfFields, references, refs_texts]
  | .reference name =>
    simp [toValue, Value.refs, Value.refsOfFields, references, Value.text?]

theorem refs_valuesOf (properties : List (String × Schema))
    (h : PropertiesRegular .standard properties) :
    Value.refsOfFields (valuesOf properties) = (referencesOf properties).map (place ++ ·) := by
  match properties with
  | [] => rfl
  | (name, schema) :: rest =>
    simp [valuesOf, Value.refsOfFields, referencesOf, text?_toValue, refs_toValue schema h.1,
      refs_valuesOf rest h.2]
end

end Schema

/-! ### Operations -/

theorem Value.find?_entryOf (key other : String) (v : Option Value) :
    Table.find? (Value.entryOf key v) other = if key = other then v else none := by
  cases v <;> simp [Value.entryOf, Table.find?]

theorem Value.find?_flagOf (key other : String) (set : Bool) :
    Table.find? (Value.flagOf key set) other =
      if key = other ∧ set then some (.bool true) else none := by
  cases set <;> simp [Value.flagOf, Table.find?]

namespace Document

theorem schema_parameter (p : OperationParameter) :
    p.toValue.get? "schema" = some p.schema.toValue := by
  simp [OperationParameter.toValue, Value.get?, Table.find?, Table.find?_append,
    Value.find?_entryOf]

theorem contentSchemas_toContent {body : Value} {schema : Schema}
    (h : body.get? "content" = some schema.toContent) :
    contentSchemas body = [schema.toValue] := by
  unfold contentSchemas Value.getD
  rw [h]
  rfl

theorem contentSchemas_none {body : Value} (h : body.get? "content" = none) :
    contentSchemas body = [] := by
  unfold contentSchemas Value.getD
  rw [h]
  rfl

theorem contentSchemas_body (b : RequestBody) : contentSchemas b.toValue = [b.schema.toValue] := by
  refine contentSchemas_toContent ?_
  simp [RequestBody.toValue, Value.get?, Table.find?, Table.find?_append, Value.find?_entryOf,
    Value.find?_flagOf]

theorem contentSchemas_success (returns : Option Schema) :
    contentSchemas (Responses.success returns) = returns.toList.map Schema.toValue := by
  cases returns with
  | none => exact contentSchemas_none rfl
  | some schema => exact contentSchemas_toContent rfl

theorem contentSchemas_refusal (name : String) : contentSchemas (Responses.refusal name) = [] :=
  contentSchemas_none rfl

end Document

namespace Operation

/-- The schemas of an operation: of its parameters, of its body and of what it returns. -/
def schemas (o : Operation) : List Schema :=
  o.parameters.map OperationParameter.schema ++ o.body.toList.map RequestBody.schema ++
    o.responses.returns.toList

variable (o : Operation)

theorem get_parameters :
    o.toValue.getD "parameters" = .list (o.parameters.map OperationParameter.toValue) := by
  simp [toValue, Value.getD, Value.get?, Table.find?, Table.find?_append, Value.find?_entryOf]

theorem get_requestBody :
    o.toValue.getD "requestBody" = (o.body.map RequestBody.toValue).getD .null := by
  simp [toValue, Value.getD, Value.get?, Table.find?, Table.find?_append, Value.find?_entryOf]

theorem get_responses : o.toValue.getD "responses" = o.responses.toValue := by
  simp [toValue, Value.getD, Value.get?, Table.find?, Table.find?_append, Value.find?_entryOf]

/-- The answers are the success, which refers to no response, and the refusals. -/
theorem entries_responses (r : Responses) :
    r.toValue.entries =
      Responses.success r.returns :: (Table.keys (Document.responses r.forbidden)).map
        Responses.refusal := by
  cases hf : r.forbidden <;> simp [Responses.toValue, hf, Value.entries, Value.fields?] <;> rfl

theorem schemasOf_toValue : Document.schemasOf o.toValue = o.schemas.map Schema.toValue := by
  have hparameters : ((o.toValue.getD "parameters").items.filterMap fun p => p.get? "schema") =
      (o.parameters.map OperationParameter.schema).map Schema.toValue := by
    rw [get_parameters, Value.items, List.filterMap_map, List.map_map]
    rw [← List.filterMap_eq_map]
    exact List.filterMap_congr fun p _ => Document.schema_parameter p
  have hbody : Document.contentSchemas (o.toValue.getD "requestBody") =
      (o.body.toList.map RequestBody.schema).map Schema.toValue := by
    rw [get_requestBody]
    cases o.body with
    | none => exact Document.contentSchemas_none rfl
    | some b => exact Document.contentSchemas_body b
  have hresponses : (o.toValue.getD "responses").entries.flatMap Document.contentSchemas =
      o.responses.returns.toList.map Schema.toValue := by
    rw [get_responses, entries_responses, List.flatMap_cons, Document.contentSchemas_success,
      List.flatMap_map]
    simp [Document.contentSchemas_refusal]
  rw [Document.schemasOf, hparameters, hbody, hresponses, schemas, List.map_append, List.map_append]

/-- An operation refers to each of the responses that its document declares. -/
theorem responseRefs_toValue :
    Document.responseRefs o.toValue =
      (Table.keys (Document.responses o.responses.forbidden)).map
        ("#/components/responses/" ++ ·) := by
  have hsuccess :
      ((Responses.success o.responses.returns).get? "$ref").bind Value.text? = none := by
    cases o.responses.returns <;> rfl
  rw [Document.responseRefs, get_responses, entries_responses, List.flatMap_cons, hsuccess,
    List.flatMap_map, List.map_eq_flatMap]
  rfl

end Operation

namespace Document
variable (d : Document)

theorem get_paths : d.toValue.getD "paths" = .object d.paths := by
  simp [toValue, Value.getD, Value.get?, Table.find?, Table.find?_append, Value.find?_entryOf]

theorem get_components : d.toValue.getD "components" = d.components := by
  simp [toValue, Value.getD, Value.get?, Table.find?, Table.find?_append, Value.find?_entryOf]

theorem get_schemas : (d.toValue.getD "components").getD "schemas" = .object d.schemas := by
  rw [get_components]
  rfl

theorem declaredSchemas_toValue : declaredSchemas d.toValue = Table.keys d.schemas := by
  rw [declaredSchemas, get_schemas]
  rfl

theorem declaredResponses_toValue :
    declaredResponses d.toValue = Table.keys (responses d.forbidden) := by
  rw [declaredResponses, get_components]
  rfl

/-- The operations in a document are those that were placed. -/
theorem operationsIn_toValue {routes : Routes} (h : d.paths = routes.toTable) :
    operationsIn d.toValue = (Routes.placed routes).map fun r => r.operation.toValue := by
  have hitem (item : Table Operation) :
      (Routes.pathItem item).entries = item.map fun e => e.2.toValue := by
    simp [Routes.pathItem, Value.entries, Value.fields?]
  simp only [operationsIn, get_paths, h, Routes.toTable, Value.entries, Value.fields?,
    Option.getD_some, List.map_map, List.flatMap_map, Routes.placed, List.map_flatMap]
  refine List.flatMap_congr fun item _ => ?_
  exact hitem item.2

end Document
end ServiceAtlas
