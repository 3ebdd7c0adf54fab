import ServiceAtlas.Proofs.TypeSpelling

/-!
What a table of overrides can change in a schema: only what stands at the references of its
descriptor, and there only by the name that the reference is given. Names of primitives, of fields
and of members are left alone.
-/

namespace ServiceAtlas

namespace Value

/-- A value without what its fields hold. -/
def form : Value → Value
  | object fields => object (fields.map fun e => (e.1, null))
  | v => v

/-- Two values do not look the same at the end of a path. -/
def PartedAt (v w : Value) (path : List String) : Prop :=
  (v.at? path).map form ≠ (w.at? path).map form

/-- Two tables with the same keys are parted inside one of their fields. -/
theorem PartedAt.inside {fields others : Table Value} {path : List String}
    (h : PartedAt (.object fields) (.object others) path)
    (hkeys : Table.keys fields = Table.keys others) :
    ∃ name rest v w, path = name :: rest ∧ fields.find? name = some v ∧
      others.find? name = some w ∧ PartedAt v w rest := by
  cases path with
  | nil =>
    have hform : ∀ t : Table Value,
        form (.object t) = .object (t.keys.map fun key => (key, .null)) := by
      intro t
      simp [form, Table.keys]
    refine absurd ?_ h
    simp only [at?, Option.map_some, hform, hkeys]
  | cons name rest =>
    have hboth : (fields.find? name).isSome = (others.find? name).isSome := by
      rw [Bool.eq_iff_iff, Table.find?_isSome_iff, Table.find?_isSome_iff, hkeys]
    unfold PartedAt at h
    simp only [at?, get?] at h
    cases hv : fields.find? name with
    | none =>
      rw [hv] at hboth
      have hw : others.find? name = none := by simpa using hboth.symm
      simp [hv, hw] at h
    | some v =>
      rw [hv] at hboth
      obtain ⟨w, hw⟩ := Option.isSome_iff_exists.mp hboth.symm
      refine ⟨name, rest, v, w, rfl, hv, hw, ?_⟩
      rw [hv, hw] at h
      exact h

/-- Two fragments of one kind are parted inside the field that is not their kind. -/
theorem PartedAt.of_kind {kind key : String} {v w : Value} {path : List String}
    (h : PartedAt (.object [("type", .text kind), (key, v)])
      (.object [("type", .text kind), (key, w)]) path) :
    ∃ rest, path = key :: rest ∧ PartedAt v w rest := by
  obtain ⟨name, rest, a, b, rfl, ha, hb, hab⟩ := h.inside rfl
  simp only [Table.find?] at ha hb
  split at ha
  · rename_i htype
    rw [if_pos htype] at hb
    obtain rfl := Option.some.inj (ha.symm.trans hb)
    exact absurd rfl hab
  · rename_i htype
    rw [if_neg htype] at hb
    split at ha
    · rename_i hkey
      rw [if_pos hkey] at hb
      cases ha
      cases hb
      exact ⟨rest, by rw [hkey], hab⟩
    · cases ha

end Value

open Value (PartedAt)

namespace Descriptor

/-- Where in the schema of a descriptor a reference stands, and which name it has. Of several fields
with one name the last one counts. -/
inductive PointsAt : Descriptor → List String → String → Prop
  | reference (name : String) : PointsAt (.reference name) [] name
  | array {element : Descriptor} {path : List String} {name : String}
    (h : PointsAt element path name) : PointsAt (.array element) ("items" :: path) name
  | map {value : Descriptor} {path : List String} {name : String}
    (h : PointsAt value path name) : PointsAt (.map value) ("additionalProperties" :: path) name
  | object {fields : List Field} {field : Field} {path : List String} {name : String}
    (last : (fields.filter fun f => f.name = field.name).getLast? = some field)
    (h : PointsAt field.type path name) :
    PointsAt (.object fields) ("properties" :: field.name :: path) name

end Descriptor

namespace Schema
open Descriptor (PointsAt)
open ServiceAtlas.TypeName (overridden)
variable {overrides one other : Overrides} {vocabulary : Vocabulary}

/-- The schema of a name depends on the name that it is given, and on nothing else. -/
theorem ofName_congr {name : String} (h : overridden one name = overridden other name) :
    ofName one vocabulary name = ofName other vocabulary name := by
  simp only [ofName, TypeName.resolve, h]

mutual
/-- Tables that give the references of a descriptor the same names lower it alike, and note the
same. -/
theorem ofDescriptor_congr (d : Descriptor) (hs : d.Speaks vocabulary)
    (h : ∀ name ∈ d.references, overridden one name = overridden other name) :
    ofDescriptor one vocabulary d = ofDescriptor other vocabulary d := by
  match d with
  | .primitive name =>
    obtain ⟨fields, hf⟩ := Option.isSome_iff_exists.mp hs
    simp only [ofDescriptor, hf]
  | .array element => simp only [ofDescriptor, ofDescriptor_congr element hs h]
  | .map value => simp only [ofDescriptor, ofDescriptor_congr value hs h]
  | .enumeration members => simp only [ofDescriptor]
  | .object fields => simp only [ofDescriptor, ofFields_congr fields hs h]
  | .reference name =>
    simp only [ofDescriptor, ofName_congr (h name (List.mem_singleton_self name))]

theorem ofFields_congr (fields : List Field) (hs : Descriptor.FieldsSpeak vocabulary fields)
    (h : ∀ name ∈ Descriptor.referencesOfFields fields,
      overridden one name = overridden other name) :
    ofFields one vocabulary fields = ofFields other vocabulary fields := by
  match fields with
  | [] => simp only [ofFields]
  | ⟨_, type, _, _, _⟩ :: rest =>
    have htype := ofDescriptor_congr type hs.1 fun name hn => h name (List.mem_append_left _ hn)
    have hrest := ofFields_congr rest hs.2 fun name hn => h name (List.mem_append_right _ hn)
    simp only [ofFields, htype, hrest]
end

/-! ### The properties of an object -/

theorem value_ofFields (fields : List Field) :
    (ofFields overrides vocabulary fields).value =
      fields.map fun f => (f.name, (ofDescriptor overrides vocabulary f.type).value) := by
  induction fields with
  | nil => simp [ofFields]
  | cons field rest ih =>
    obtain ⟨_, type, _, _, _⟩ := field
    simp [ofFields, ih]

/-- The keys of the properties are the names of the fields, whatever the overrides. -/
theorem keys_properties (fields : List Field) :
    Table.keys (Table.ofEntries (ofFields overrides vocabulary fields).value) =
      (fields.map fun f => f.name).eraseDups := by
  rw [Table.keys_ofEntries, value_ofFields, List.map_map]
  rfl

/-- A property has the type of the last field of its name. -/
theorem find?_properties (fields : List Field) (name : String) :
    Table.find? (Table.ofEntries (ofFields overrides vocabulary fields).value) name =
      ((fields.filter fun f => f.name = name).getLast?).map fun f =>
        (ofDescriptor overrides vocabulary f.type).value := by
  rw [Table.find?_ofEntries, value_ofFields, List.filter_map, List.getLast?_map, Option.map_map]
  rfl

/-- The properties of an object as they stand in a document. -/
def propertiesOf (overrides : Overrides) (vocabulary : Vocabulary) (fields : List Field) :
    Table Value :=
  valuesOf (Table.ofEntries (ofFields overrides vocabulary fields).value)

theorem toValue_object (fields : List Field) :
    (ofDescriptor overrides vocabulary (.object fields)).value.toValue =
      .object [("type", .text "object"),
        ("properties", .object (propertiesOf overrides vocabulary fields))] := by
  simp only [ofDescriptor, Noted.value_bind, Noted.value_pure, toValue, propertiesOf]

theorem keys_propertiesOf (fields : List Field) :
    Table.keys (propertiesOf overrides vocabulary fields) =
      (fields.map fun f => f.name).eraseDups := by
  rw [propertiesOf, valuesOf_eq, Table.keys_map, keys_properties]

theorem find?_propertiesOf (fields : List Field) (name : String) :
    Table.find? (propertiesOf overrides vocabulary fields) name =
      ((fields.filter fun f => f.name = name).getLast?).map fun f =>
        (ofDescriptor overrides vocabulary f.type).value.toValue := by
  rw [propertiesOf, valuesOf_eq, Table.find?_map, find?_properties, Option.map_map]
  rfl

/-! ### Where two schemas part -/

mutual
/-- Two schemas of one descriptor part at a reference that is given two names, or below one. -/
theorem parted_ofDescriptor (d : Descriptor) (hs : d.Speaks vocabulary) (path : List String)
    (h : PartedAt (ofDescriptor one vocabulary d).value.toValue
      (ofDescriptor other vocabulary d).value.toValue path) :
    ∃ place name, place <+: path ∧ d.PointsAt place name ∧
      overridden one name ≠ overridden other name := by
  match d with
  | .primitive name =>
    obtain ⟨fields, hf⟩ := Option.isSome_iff_exists.mp hs
    simp only [ofDescriptor, hf] at h
    exact absurd rfl h
  | .array element =>
    simp only [ofDescriptor, Noted.value_map, toValue] at h
    obtain ⟨rest, rfl, hrest⟩ := h.of_kind
    obtain ⟨place, name, hplace, hpoints, hne⟩ := parted_ofDescriptor element hs rest hrest
    exact ⟨_, name, List.prefix_cons_inj _ |>.mpr hplace, hpoints.array, hne⟩
  | .map value =>
    simp only [ofDescriptor, Noted.value_map, toValue] at h
    obtain ⟨rest, rfl, hrest⟩ := h.of_kind
    obtain ⟨place, name, hplace, hpoints, hne⟩ := parted_ofDescriptor value hs rest hrest
    exact ⟨_, name, List.prefix_cons_inj _ |>.mpr hplace, hpoints.map, hne⟩
  | .enumeration members =>
    simp only [ofDescriptor] at h
    exact absurd rfl h
  | .object fields =>
    rw [toValue_object, toValue_object] at h
    obtain ⟨inner, rfl, hinner⟩ := h.of_kind
    obtain ⟨property, rest, v, w, rfl, hv, hw, hrest⟩ := hinner.inside
      (by rw [keys_propertiesOf, keys_propertiesOf])
    rw [find?_propertiesOf] at hv hw
    obtain ⟨field, hlast, rfl⟩ := Option.map_eq_some_iff.mp hv
    rw [hlast] at hw
    obtain rfl := Option.some.inj hw
    obtain ⟨hmem, hname⟩ := List.mem_filter.mp (List.mem_of_getLast? hlast)
    obtain rfl : field.name = property := of_decide_eq_true hname
    obtain ⟨place, name, hplace, hpoints, hne⟩ := parted_ofFields fields hs field hmem rest hrest
    refine ⟨_, name, ?_, .object hlast hpoints, hne⟩
    exact (List.prefix_cons_inj _).mpr ((List.prefix_cons_inj _).mpr hplace)
  | .reference name =>
    refine ⟨[], name, List.nil_prefix, .reference name, fun he => h ?_⟩
    simp only [ofDescriptor, ofName_congr he]

theorem parted_ofFields (fields : List Field) (hs : Descriptor.FieldsSpeak vocabulary fields)
    (field : Field) (hf : field ∈ fields) (path : List String)
    (h : PartedAt (ofDescriptor one vocabulary field.type).value.toValue
      (ofDescriptor other vocabulary field.type).value.toValue path) :
    ∃ place name, place <+: path ∧ field.type.PointsAt place name ∧
      overridden one name ≠ overridden other name := by
  match fields with
  | [] => cases hf
  | ⟨_, type, _, _, _⟩ :: rest =>
    rcases List.mem_cons.mp hf with rfl | hf
    · exact parted_ofDescriptor type hs.1 path h
    · exact parted_ofFields rest hs.2 field hf path h
end

/-- At a reference stands the schema of its name. -/
theorem at?_of_pointsAt {d : Descriptor} {place : List String} {name : String}
    (h : d.PointsAt place name) :
    (ofDescriptor overrides vocabulary d).value.toValue.at? place =
      some (ofName overrides vocabulary name).value.toValue := by
  induction h with
  | reference name =>
    simp only [ofDescriptor]
    rfl
  | array _ ih =>
    simp only [ofDescriptor, Noted.value_map, toValue]
    exact ih
  | map _ ih =>
    simp only [ofDescriptor, Noted.value_map, toValue]
    exact ih
  | object last _ ih =>
    rw [toValue_object]
    change ((Table.find? (propertiesOf overrides vocabulary _) _).bind _) = _
    rw [find?_propertiesOf, last]
    exact ih

/-- The tables part two schemas of one descriptor at references, and at no reference to which they
give one name. -/
structure PartedByNames (one other : Overrides) (d : Descriptor) (s t : Schema) : Prop where
  same : (∀ name ∈ d.references, overridden one name = overridden other name) → s = t
  parted : ∀ path, PartedAt s.toValue t.toValue path →
    ∃ place name, place <+: path ∧ d.PointsAt place name ∧
      overridden one name ≠ overridden other name

theorem partedByNames_ofDescriptor {d : Descriptor} (hs : d.Speaks vocabulary) :
    PartedByNames one other d (ofDescriptor one vocabulary d).value
      (ofDescriptor other vocabulary d).value :=
  ⟨fun h => by rw [ofDescriptor_congr d hs h], parted_ofDescriptor d hs⟩

/-- What is read as a descriptor is lowered under every table of overrides, and two tables part the
schemas only at references that they name differently. The same holds of descriptors made otherwise,
as long as their primitives are those of the vocabulary. At each reference stands what the name that
it is given leads to. -/
theorem overrides_touch_references [Stack] (vocabulary : Vocabulary) (one other : Overrides) :
    (∀ raw d, (Descriptor.classify vocabulary raw).result = .ok d →
      ∃ s t, (ofRaw one vocabulary raw).result = .ok s ∧
        (ofRaw other vocabulary raw).result = .ok t ∧ PartedByNames one other d s t) ∧
    (∀ d : Descriptor, d.Speaks vocabulary →
      PartedByNames one other d (ofDescriptor one vocabulary d).value
        (ofDescriptor other vocabulary d).value) ∧
    ∀ (d : Descriptor) place name, d.PointsAt place name →
      (ofDescriptor one vocabulary d).value.toValue.at? place =
        some (ofName one vocabulary name).value.toValue := by
  refine ⟨fun raw d h => ?_, fun d => partedByNames_ofDescriptor,
    fun d place name => at?_of_pointsAt⟩
  have lowered : ∀ overrides : Overrides, (ofRaw overrides vocabulary raw).result =
      .ok (ofDescriptor overrides vocabulary d).value := fun overrides =>
    Traced.bind_ok_iff.mpr ⟨d, h, Traced.result_lift _⟩
  exact ⟨_, _, lowered one, lowered other,
    partedByNames_ofDescriptor (Descriptor.speaks_classify vocabulary raw d h)⟩

/-- A primitive, a field and a member that share their name with a type, and a field that comes
again. -/
def sharedNames : Value :=
  .object
    [("fields", .list
      [.object [("Item", .object [("type", .text "vector of Item")])],
        .object [("kind", .object
          [("type", .object [("values", .list [.object [("name", .text "Item")]])])])],
        .object [("size", .object [("type", .text "int32")])],
        .object [("Item", .object [("type", .text "map of Part")])]])]

/-- What it is read as. -/
def sharedDescriptor : Descriptor :=
  .object
    [⟨"Item", .array (.reference "Item"), none, false, none⟩,
      ⟨"kind", .enumeration [⟨"Item", none, none⟩], none, false, none⟩,
      ⟨"size", .primitive "int32", none, false, none⟩,
      ⟨"Item", .map (.reference "Part"), none, false, none⟩]

theorem sharedNames_read [Stack] :
    (Descriptor.classify Vocabulary.standard sharedNames).result = .ok sharedDescriptor := by
  obtain ⟨more, hmore⟩ := Nat.exists_eq_add_of_le' (Stack.ample .readType)
  have harray : TypeName.classify .standard (more + 6) "vector of Item".toList =
      .ok (.array (.reference "Item")) :=
    Descriptor.classify_of_spelling (by decide +kernel)
      ⟨by decide +kernel, by decide +kernel, by decide +kernel⟩ (Nat.le_add_left 1 (more + 5))
  have hsize : TypeName.classify .standard (more + 6) "int32".toList = .ok (.primitive "int32") :=
    Descriptor.classify_of_spelling rfl ⟨by decide +kernel, by decide +kernel, by decide +kernel⟩
      (Nat.zero_le _)
  have hmap : TypeName.classify .standard (more + 6) "map of Part".toList =
      .ok (.map (.reference "Part")) :=
    Descriptor.classify_of_spelling (by decide +kernel)
      ⟨by decide +kernel, by decide +kernel, by decide +kernel⟩ (Nat.le_add_left 1 (more + 5))
  rw [Descriptor.classify, hmore]
  simp only [sharedNames, Descriptor.classifyAt, Table.find?, Descriptor.classifyFields,
    Descriptor.descend, Descriptor.readFields, Descriptor.readFieldList, Descriptor.readField,
    Descriptor.classifyType, harray, hsize, hmap]
  rfl

open Stack.Usual in
/-- Tables that give the two references one name each are not told apart by what else they hold; a
table that renames the last of them parts the schemas there and nowhere else. -/
theorem sharedNames_touch_references :
    (Descriptor.classify Vocabulary.standard sharedNames).result = .ok sharedDescriptor ∧
      (ofRaw [("Item", .text "Thing"), ("int32", .text "Size")] Vocabulary.standard
          sharedNames).result =
        (ofRaw [("kind", .text "Kind"), ("Item", .text "Thing"), ("size", .text "Size")]
          Vocabulary.standard sharedNames).result ∧
      sharedDescriptor.PointsAt ["properties", "Item", "additionalProperties"] "Part" ∧
      ∃ s t, (ofRaw [("Part", .text "Piece")] Vocabulary.standard sharedNames).result = .ok s ∧
        (ofRaw [] Vocabulary.standard sharedNames).result = .ok t ∧
        ∀ path, PartedAt s.toValue t.toValue path →
          ∃ place, place <+: path ∧ sharedDescriptor.PointsAt place "Part" := by
  have hread := sharedNames_read
  refine ⟨hread, ?_, ?_, ?_⟩
  · obtain ⟨s, t, hs, ht, hparted⟩ := (overrides_touch_references Vocabulary.standard
      [("Item", .text "Thing"), ("int32", .text "Size")]
      [("kind", .text "Kind"), ("Item", .text "Thing"), ("size", .text "Size")]).1 _ _ hread
    rw [hs, ht, hparted.same]
    intro name hn
    have hname : name = "Item" ∨ name = "Part" := by
      simpa [sharedDescriptor, Descriptor.references, Descriptor.referencesOfFields] using hn
    rcases hname with rfl | rfl <;> simp [overridden, Table.find?]
  · exact @PointsAt.object _ ⟨"Item", .map (.reference "Part"), none, false, none⟩ _ _ (by simp)
      (.map (.reference "Part"))
  · obtain ⟨s, t, hs, ht, hparted⟩ := (overrides_touch_references Vocabulary.standard
      [("Part", .text "Piece")] []).1 _ _ hread
    refine ⟨s, t, hs, ht, fun path hpath => ?_⟩
    obtain ⟨place, name, hplace, hpoints, hne⟩ := hparted.parted path hpath
    obtain rfl : "Part" = name := by
      by_contra hpart
      exact hne (by simp [overridden, Table.find?, hpart])
    exact ⟨place, hplace, hpoints⟩

end Schema
end ServiceAtlas
