import ServiceAtlas.Proofs.Tables
import ServiceAtlas.Proofs.TypeNames
import ServiceAtlas.Schema.Catalogue

/-!
What lowering a descriptor can give: schemas of one small grammar, whose references are the resolved
names of the references inside the descriptor.
-/

namespace ServiceAtlas

namespace TypeName

/-- The name can be the name of a schema. -/
def isUsable (name : String) : Bool :=
  !Text.isBlankText name && !looksLikeArray name && !looksLikeMap name && !unusable.contains name

theorem value_resolve (overrides : Overrides) (name : String) :
    (resolve overrides name).value =
      match overridden overrides name with
      | .text s => if isUsable s then s else anyType
      | _ => anyType := by
  unfold resolve
  cases overridden overrides name with
  | text s =>
    dsimp only
    split
    · rename_i hb
      rw [if_neg (by simp [isUsable, hb])]
      rfl
    · rename_i hb
      split
      · rename_i hl
        rw [if_neg (by cases ha : looksLikeArray s <;> simp_all [isUsable])]
        rfl
      · rename_i hl
        split
        · rename_i hu
          rw [if_neg (by simp_all [isUsable])]
          rfl
        · rename_i hu
          rw [if_pos (by simp_all [isUsable])]
          rfl
  | _ => rfl

/-- Without overrides, only an unusable name is replaced. -/
theorem value_resolve_nil (name : String) :
    (resolve [] name).value = if isUsable name then name else anyType := by
  rw [value_resolve]
  rfl

theorem isUsable_anyType : isUsable anyType = true := by decide +kernel

theorem isUsable_resolve (overrides : Overrides) (name : String) :
    isUsable (resolve overrides name).value = true := by
  rw [value_resolve]
  split
  · split
    · assumption
    · exact isUsable_anyType
  · exact isUsable_anyType

end TypeName

namespace Descriptor

mutual
/-- Every primitive inside is one of the vocabulary. -/
def Speaks (vocabulary : Vocabulary) : Descriptor → Prop
  | primitive name => vocabulary.contains name = true
  | array element => element.Speaks vocabulary
  | map value => value.Speaks vocabulary
  | object fields => FieldsSpeak vocabulary fields
  | _ => True

def FieldsSpeak (vocabulary : Vocabulary) : List Field → Prop
  | [] => True
  | ⟨_, type, _, _, _⟩ :: rest => type.Speaks vocabulary ∧ FieldsSpeak vocabulary rest
end

variable (vocabulary : Vocabulary)

theorem speaks_descriptor (cs : List Char) :
    (TypeName.descriptor vocabulary cs).Speaks vocabulary := by
  induction cs using TypeName.descriptor.induct vocabulary with
  | case1 cs h =>
    rw [TypeName.descriptor_primitive h]
    simp only [TypeName.isPrimitive, Bool.and_eq_true] at h
    exact h.1.1
  | case2 cs h rest hr _ ih =>
    rw [TypeName.descriptor_array h hr]
    exact ih
  | case3 cs h ha rest hr _ ih =>
    rw [TypeName.descriptor_map h ha hr]
    exact ih
  | case4 cs h ha hm =>
    rw [TypeName.descriptor_reference h ha hm]
    trivial

theorem type_makeField {name : String} {spec : Table Value} {type : Descriptor} {field : Field}
    (h : (makeField name spec type).result = .ok field) : field.type = type := by
  obtain ⟨text, _, h⟩ := Traced.bind_ok_iff.mp h
  obtain rfl := Except.ok.inj h
  rfl

theorem fieldsSpeak_cons {field : Field} {rest : List Field} :
    FieldsSpeak vocabulary (field :: rest) ↔
      field.type.Speaks vocabulary ∧ FieldsSpeak vocabulary rest := by
  cases field
  rw [FieldsSpeak]

section
variable [Stack]

mutual
theorem speaks_classifyAt (levels : Nat) (v : Value) (d : Descriptor)
    (h : (classifyAt vocabulary levels v).result = .ok d) : d.Speaks vocabulary := by
  match v with
  | .text s =>
    unfold classifyAt at h
    obtain ⟨_, rfl⟩ := TypeName.classify_ok_iff.mp h
    exact speaks_descriptor vocabulary _
  | .object fields =>
    unfold classifyAt at h
    split at h
    · obtain ⟨members, _, rfl⟩ := Traced.map_ok_iff.mp h
      trivial
    · cases hx : classifyFields vocabulary levels fields with
      | none =>
        rw [hx] at h
        obtain rfl := Except.ok.inj h
        trivial
      | some x =>
        rw [hx] at h
        exact speaks_classifyFields levels fields x hx d h
  | .null | .bool _ | .int _ | .float _ | .list _ =>
    unfold classifyAt at h
    obtain rfl := Except.ok.inj h
    trivial

theorem speaks_classifyFields (levels : Nat) (fields : List (String × Value)) (x : Traced Descriptor)
    (hx : classifyFields vocabulary levels fields = some x) (d : Descriptor)
    (h : x.result = .ok d) : d.Speaks vocabulary := by
  match fields with
  | [] => simp [classifyFields] at hx
  | (key, v) :: rest =>
    unfold classifyFields at hx
    split at hx
    · cases hx
      obtain ⟨left, _, h⟩ := descend_ok_iff.mp h
      obtain ⟨found, hfound, rfl⟩ := Traced.map_ok_iff.mp h
      exact speak_readFields left v found hfound
    · exact speaks_classifyFields levels rest x hx d h

theorem speak_readFields (levels : Nat) (v : Value) (found : List Field)
    (h : (readFields vocabulary levels v).result = .ok found) : FieldsSpeak vocabulary found := by
  match v with
  | .object entries =>
    unfold readFields at h
    exact speak_readFieldTable levels entries found h
  | .list entries =>
    unfold readFields at h
    obtain ⟨_, _, h⟩ := Traced.bind_ok_iff.mp h
    exact speak_readFieldList levels entries found h
  | .null | .bool _ | .int _ | .float _ | .text _ =>
    unfold readFields at h
    obtain rfl := Except.ok.inj h
    trivial

theorem speak_readFieldTable (levels : Nat) (entries : List (String × Value)) (found : List Field)
    (h : (readFieldTable vocabulary levels entries).result = .ok found) :
    FieldsSpeak vocabulary found := by
  match entries with
  | [] =>
    unfold readFieldTable at h
    obtain rfl := Except.ok.inj h
    trivial
  | (name, spec) :: rest =>
    unfold readFieldTable at h
    obtain ⟨field, hfield, h⟩ := Traced.bind_ok_iff.mp h
    obtain ⟨more, hmore, h⟩ := Traced.bind_ok_iff.mp h
    obtain rfl := Except.ok.inj h
    exact (fieldsSpeak_cons vocabulary).mpr
      ⟨speaks_readField levels name spec field hfield, speak_readFieldTable levels rest more hmore⟩

theorem speak_readFieldList (levels : Nat) (entries : List Value) (found : List Field)
    (h : (readFieldList vocabulary levels entries).result = .ok found) :
    FieldsSpeak vocabulary found := by
  match entries with
  | [] =>
    unfold readFieldList at h
    obtain rfl := Except.ok.inj h
    trivial
  | .object [(name, spec)] :: rest =>
    unfold readFieldList at h
    obtain ⟨field, hfield, h⟩ := Traced.bind_ok_iff.mp h
    obtain ⟨more, hmore, h⟩ := Traced.bind_ok_iff.mp h
    obtain rfl := Except.ok.inj h
    exact (fieldsSpeak_cons vocabulary).mpr
      ⟨speaks_readField levels name spec field hfield, speak_readFieldList levels rest more hmore⟩
  -- Every other form by name, or the recursion would not be seen to follow the entries.
  | .object [] :: rest | .object (_ :: _ :: _) :: rest | .null :: rest | .bool _ :: rest
  | .int _ :: rest | .float _ :: rest | .text _ :: rest | .list _ :: rest =>
    unfold readFieldList at h
    exact speak_readFieldList levels rest found h

theorem speaks_readField (levels : Nat) (name : String) (v : Value) (field : Field)
    (h : (readField vocabulary levels name v).result = .ok field) :
    field.type.Speaks vocabulary := by
  match v with
  | .object spec =>
    unfold readField at h
    obtain ⟨type, htype, h⟩ := Traced.bind_ok_iff.mp h
    obtain ⟨left, _, htype⟩ := descend_ok_iff.mp htype
    rw [type_makeField h]
    exact speaks_classifyType left spec type htype
  | .null | .bool _ | .int _ | .float _ | .text _ | .list _ =>
    unfold readField at h
    obtain ⟨type, htype, h⟩ := Traced.bind_ok_iff.mp h
    obtain ⟨_, _, htype⟩ := descend_ok_iff.mp htype
    obtain rfl := Except.ok.inj htype
    rw [type_makeField h]
    trivial

theorem speaks_classifyType (levels : Nat) (fields : List (String × Value)) (type : Descriptor)
    (h : (classifyType vocabulary levels fields).result = .ok type) : type.Speaks vocabulary := by
  match fields with
  | [] =>
    unfold classifyType at h
    obtain rfl := Except.ok.inj h
    trivial
  | (key, v) :: rest =>
    unfold classifyType at h
    split at h
    · exact speaks_classifyAt levels v type h
    · exact speaks_classifyType levels rest type h
end

/-- Whatever is read as a descriptor has no primitives but those of the vocabulary. -/
theorem speaks_classify (v : Value) (d : Descriptor) (h : (classify vocabulary v).result = .ok d) :
    d.Speaks vocabulary :=
  speaks_classifyAt vocabulary _ v d h

end

end Descriptor

namespace Schema

mutual
/-- The schema is one that descriptors are lowered to: what is fixed is a primitive, and what is
referred to is neither a primitive nor an unusable name. -/
def Regular (vocabulary : Vocabulary) : Schema → Prop
  | fixed fields => ∃ name, vocabulary.find? name = some fields
  | array items => items.Regular vocabulary
  | map values => values.Regular vocabulary
  | object properties => PropertiesRegular vocabulary properties
  | enumeration _ => True
  | reference name => TypeName.isUsable name = true ∧ vocabulary.find? name = none

def PropertiesRegular (vocabulary : Vocabulary) : List (String × Schema) → Prop
  | [] => True
  | (_, schema) :: rest => schema.Regular vocabulary ∧ PropertiesRegular vocabulary rest
end

theorem propertiesRegular_iff {vocabulary : Vocabulary} {properties : List (String × Schema)} :
    PropertiesRegular vocabulary properties ↔ ∀ e ∈ properties, e.2.Regular vocabulary := by
  induction properties with
  | nil => simp [PropertiesRegular]
  | cons e rest ih => simp [PropertiesRegular, ih]

theorem valuesOf_eq (properties : List (String × Schema)) :
    valuesOf properties = properties.map fun e => (e.1, e.2.toValue) := by
  induction properties with
  | nil => rfl
  | cons e rest ih => simp [valuesOf, ih]

theorem referencesOf_eq (properties : List (String × Schema)) :
    referencesOf properties = properties.flatMap fun e => e.2.references := by
  induction properties with
  | nil => rfl
  | cons e rest ih => simp [referencesOf, ih]

mutual
/-- A regular schema refers neither to a primitive nor to a name that no schema can have. -/
theorem Regular.references {vocabulary : Vocabulary} (s : Schema) (h : s.Regular vocabulary) :
    ∀ n ∈ s.references, TypeName.isUsable n = true ∧ vocabulary.find? n = none := by
  match s with
  | .fixed _ | .enumeration _ => simp [Schema.references]
  | .array items => exact Regular.references items h
  | .map values => exact Regular.references values h
  | .object properties => exact PropertiesRegular.references properties h
  | .reference name =>
    intro n hn
    rw [List.mem_singleton.mp hn]
    exact h

theorem PropertiesRegular.references {vocabulary : Vocabulary} (properties : List (String × Schema))
    (h : PropertiesRegular vocabulary properties) :
    ∀ n ∈ referencesOf properties, TypeName.isUsable n = true ∧ vocabulary.find? n = none := by
  match properties with
  | [] => simp [referencesOf]
  | (_, schema) :: rest =>
    intro n hn
    rcases List.mem_append.mp hn with hn | hn
    · exact Regular.references schema h.1 n hn
    · exact PropertiesRegular.references rest h.2 n hn
end

/-- The schema is regular, and every reference inside is the resolved form of one of the names. -/
structure Within (overrides : Overrides) (vocabulary : Vocabulary) (names : List String)
    (s : Schema) : Prop where
  regular : s.Regular vocabulary
  resolved : ∀ n ∈ s.references, ∃ r ∈ names, n = (TypeName.resolve overrides r).value

section Lowering
variable {overrides : Overrides} {vocabulary : Vocabulary} {names more : List String}

theorem Within.mono {s : Schema} (h : Within overrides vocabulary names s)
    (hsub : ∀ r ∈ names, r ∈ more) : Within overrides vocabulary more s := by
  refine ⟨h.regular, fun n hn => ?_⟩
  obtain ⟨r, hr, rfl⟩ := h.resolved n hn
  exact ⟨r, hsub r hr, rfl⟩

theorem within_fixed {name : String} {fields : Table Value}
    (h : vocabulary.find? name = some fields) :
    Within overrides vocabulary names (fixed fields) :=
  ⟨⟨name, h⟩, by simp [references]⟩

/-- All properties stay within what each of them does, also where a later one replaces another. -/
theorem within_object {properties : List (String × Schema)}
    (h : ∀ e ∈ properties, Within overrides vocabulary names e.2) :
    Within overrides vocabulary names (object (Table.ofEntries properties)) := by
  refine ⟨propertiesRegular_iff.mpr fun e he => (h e (Table.mem_ofEntries he)).regular, ?_⟩
  intro n hn
  simp only [references, referencesOf_eq, List.mem_flatMap] at hn
  obtain ⟨e, he, hn⟩ := hn
  exact (h e (Table.mem_ofEntries he)).resolved n hn

theorem within_ofName (name : String) :
    Within overrides vocabulary [name] (ofName overrides vocabulary name).value := by
  simp only [ofName, Noted.value_bind, Noted.value_pure]
  cases h : vocabulary.find? (TypeName.resolve overrides name).value with
  | some fields => exact within_fixed h
  | none =>
    refine ⟨⟨TypeName.isUsable_resolve overrides name, h⟩, ?_⟩
    intro n hn
    exact ⟨name, List.mem_singleton_self name, List.mem_singleton.mp hn⟩

mutual
/-- A lowered descriptor refers to what the descriptor does. -/
theorem within_ofDescriptor (d : Descriptor) (h : d.Speaks vocabulary) :
    Within overrides vocabulary d.references (ofDescriptor overrides vocabulary d).value := by
  match d with
  | .primitive name =>
    obtain ⟨fields, hf⟩ := Option.isSome_iff_exists.mp h
    simp only [ofDescriptor, hf, Noted.value_pure]
    exact within_fixed hf
  | .array element =>
    have ih := within_ofDescriptor element h
    simp only [ofDescriptor, Noted.value_map]
    exact ⟨ih.regular, ih.resolved⟩
  | .map value =>
    have ih := within_ofDescriptor value h
    simp only [ofDescriptor, Noted.value_map]
    exact ⟨ih.regular, ih.resolved⟩
  | .enumeration members =>
    simp only [ofDescriptor, Noted.value_pure]
    exact ⟨trivial, by simp [references]⟩
  | .object fields =>
    simp only [ofDescriptor, Noted.value_bind, Noted.value_pure]
    exact within_object (within_ofFields fields h)
  | .reference name => exact within_ofName name

theorem within_ofFields (fields : List Field) (h : Descriptor.FieldsSpeak vocabulary fields) :
    ∀ e ∈ (ofFields overrides vocabulary fields).value,
      Within overrides vocabulary (Descriptor.referencesOfFields fields) e.2 := by
  match fields with
  | [] => simp [ofFields]
  | ⟨_, type, _, _, _⟩ :: rest =>
    intro e he
    simp only [ofFields, Noted.value_bind, Noted.value_pure, List.mem_cons] at he
    rcases he with rfl | he
    · refine (within_ofDescriptor type h.1).mono fun r hr => ?_
      exact List.mem_append_left _ hr
    · refine (within_ofFields rest h.2 e he).mono fun r hr => ?_
      exact List.mem_append_right _ hr
end

/-- What is read as a descriptor is translated as that descriptor is lowered. -/
theorem result_ofRaw_of_read [Stack] {raw : Value} {d : Descriptor}
    (h : (Descriptor.classify vocabulary raw).result = .ok d) :
    (ofRaw overrides vocabulary raw).result = .ok (ofDescriptor overrides vocabulary d).value :=
  Traced.bind_ok_iff.mpr ⟨d, h, Traced.result_lift _⟩

theorem ofRaw_ok [Stack] {raw : Value} {s : Schema} (h : (ofRaw overrides vocabulary raw).result = .ok s) :
    ∃ d, (Descriptor.classify vocabulary raw).result = .ok d ∧
      Within overrides vocabulary d.references s := by
  obtain ⟨d, hd, h⟩ := Traced.bind_ok_iff.mp h
  rw [Traced.result_lift] at h
  obtain rfl := Except.ok.inj h
  exact ⟨d, hd, within_ofDescriptor d (Descriptor.speaks_classify vocabulary raw d hd)⟩

end Lowering
end Schema
end ServiceAtlas
