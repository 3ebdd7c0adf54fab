import ServiceAtlas.Proofs.DocumentReferences
import ServiceAtlas.Proofs.TypeSpelling

/-!
The grammar of the schema fragments that descriptors are lowered to, as they stand in a document. No
override and no nesting leads out of it: a reference always names what can be a schema of its own.
-/

namespace ServiceAtlas

/-- A name that a reference can point at: neither degenerate nor that of a primitive. -/
structure ProperName (vocabulary : Vocabulary) (name : String) : Prop where
  notBlank : Text.isBlankText name = false
  notArray : ¬"vector of".toList <+: name.toList
  notMap : ¬"map of".toList <+: name.toList
  notNameless : name ≠ "0"
  notObject : name ≠ "object"
  notPrimitive : vocabulary.find? name = none

/-- The fragments of a document that stand for a type. -/
inductive Fragment (vocabulary : Vocabulary) : Value → Prop where
  | primitive {name : String} {fields : Table Value} (h : vocabulary.find? name = some fields) :
    Fragment vocabulary (.object fields)
  | reference {name : String} (h : ProperName vocabulary name) :
    Fragment vocabulary (.object [("$ref", .text ("#/components/schemas/" ++ name))])
  | array {items : Value} (h : Fragment vocabulary items) :
    Fragment vocabulary (.object [("type", .text "array"), ("items", items)])
  | map {values : Value} (h : Fragment vocabulary values) :
    Fragment vocabulary (.object [("type", .text "object"), ("additionalProperties", values)])
  | object {properties : Table Value} (h : ∀ e ∈ properties, Fragment vocabulary e.2) :
    Fragment vocabulary (.object [("type", .text "object"), ("properties", .object properties)])
  | enumeration (names : List String) :
    Fragment vocabulary (.object [("type", .text "string"), ("enum", .list (names.map .text))])

theorem Value.mem_refsOfFields {ref : String} {fields : Table Value}
    (htext : ∀ e ∈ fields, e.2.text? = none) (h : ref ∈ refsOfFields fields) :
    ∃ e ∈ fields, ref ∈ e.2.refs := by
  induction fields with
  | nil => simp [refsOfFields] at h
  | cons e rest ih =>
    have hnone : e.2.text? = none := htext e (by simp)
    simp only [refsOfFields, hnone, Option.toList_none, ite_self, List.nil_append,
      List.mem_append] at h
    rcases h with h | h
    · exact ⟨e, by simp, h⟩
    · obtain ⟨d, hd, hr⟩ := ih (fun d hd => htext d (List.mem_cons_of_mem e hd)) h
      exact ⟨d, List.mem_cons_of_mem e hd, hr⟩

namespace Fragment

theorem text?_eq_none {vocabulary : Vocabulary} {v : Value} (h : Fragment vocabulary v) :
    v.text? = none := by
  cases h <;> rfl

/-- All that stands under `$ref` in a fragment, at any depth, is the place of a proper name. -/
theorem properName_of_mem_refs {v : Value} (h : Fragment .standard v) {ref : String}
    (hr : ref ∈ v.refs) :
    ∃ name, ProperName .standard name ∧ ref = "#/components/schemas/" ++ name := by
  induction h with
  | primitive h =>
    rw [Value.refs, Schema.refs_standard _ (Table.mem_of_find? h)] at hr
    simp at hr
  | @reference name h =>
    obtain rfl : ref = "#/components/schemas/" ++ name := by
      simpa [Value.refs, Value.refsOfFields, Value.text?] using hr
    exact ⟨name, h, rfl⟩
  | array _ ih => exact ih (by simpa [Value.refs, Value.refsOfFields] using hr)
  | map _ ih => exact ih (by simpa [Value.refs, Value.refsOfFields] using hr)
  | @object properties h ih =>
    have hfields : ref ∈ Value.refsOfFields properties := by
      simpa [Value.refs, Value.refsOfFields] using hr
    obtain ⟨e, he, hrefs⟩ :=
      Value.mem_refsOfFields (fun e he => (h e he).text?_eq_none) hfields
    exact ih e he hrefs
  | enumeration names =>
    have hnone : Value.refsOfItems (names.map .text) = [] := Schema.refs_texts names
    simp [Value.refs, Value.refsOfFields, hnone] at hr

end Fragment

namespace TypeName

theorem proper_of_isUsable {vocabulary : Vocabulary} {name : String} (h : isUsable name = true)
    (hp : vocabulary.find? name = none) : ProperName vocabulary name := by
  simp only [isUsable, unusable, Bool.and_eq_true, Bool.not_eq_true'] at h
  obtain ⟨⟨⟨hblank, harray⟩, hmap⟩, hrest⟩ := h
  refine ⟨hblank, not_prefix_of_startsWith harray, not_prefix_of_startsWith hmap, ?_, ?_, hp⟩
  · rintro rfl
    simp [Descriptor.namelessName] at hrest
  · rintro rfl
    simp at hrest

/-- A usable name stands for itself. -/
theorem resolve_of_isUsable {name : String} (h : isUsable name = true) :
    resolve [] name = pure name := by
  simp only [isUsable, Bool.and_eq_true, Bool.not_eq_true'] at h
  obtain ⟨⟨⟨hblank, harray⟩, hmap⟩, hrest⟩ := h
  have hself : overridden [] name = .text name := rfl
  simp only [resolve, hself, hblank, harray, hmap, hrest, Bool.or_self, Bool.false_eq_true,
    if_false]

end TypeName

namespace Schema
variable {overrides : Overrides} {vocabulary : Vocabulary}

mutual
/-- A regular schema stands in a document as a fragment of the grammar. -/
theorem Regular.fragment (s : Schema) (h : s.Regular vocabulary) :
    Fragment vocabulary s.toValue := by
  match s with
  | .fixed fields =>
    obtain ⟨name, hf⟩ := h
    exact .primitive hf
  | .array items => exact .array (Regular.fragment items h)
  | .map values => exact .map (Regular.fragment values h)
  | .object properties =>
    refine .object fun e he => ?_
    rw [valuesOf_eq] at he
    obtain ⟨d, hd, rfl⟩ := List.mem_map.mp he
    exact PropertiesRegular.fragment properties h d hd
  | .enumeration names => exact .enumeration names
  | .reference name => exact .reference (TypeName.proper_of_isUsable h.1 h.2)

theorem PropertiesRegular.fragment (properties : List (String × Schema))
    (h : PropertiesRegular vocabulary properties) :
    ∀ e ∈ properties, Fragment vocabulary e.2.toValue := by
  match properties with
  | [] => exact fun _ he => nomatch he
  | (_, schema) :: rest =>
    intro e he
    rcases List.mem_cons.mp he with rfl | he
    · exact Regular.fragment schema h.1
    · exact PropertiesRegular.fragment rest h.2 e he
end

mutual
/-- Every descriptor is lowered to a regular schema. A primitive that the vocabulary does not have
is taken for a reference. -/
theorem regular_ofDescriptor (d : Descriptor) :
    (ofDescriptor overrides vocabulary d).value.Regular vocabulary := by
  match d with
  | .primitive name =>
    cases hf : vocabulary.find? name with
    | some fields =>
      simp only [ofDescriptor, hf, Noted.value_pure]
      exact ⟨name, hf⟩
    | none =>
      simp only [ofDescriptor, hf]
      exact (within_ofName name).regular
  | .array element =>
    simp only [ofDescriptor, Noted.value_map]
    exact regular_ofDescriptor element
  | .map value =>
    simp only [ofDescriptor, Noted.value_map]
    exact regular_ofDescriptor value
  | .enumeration members =>
    simp only [ofDescriptor, Noted.value_pure]
    trivial
  | .object fields =>
    simp only [ofDescriptor, Noted.value_bind, Noted.value_pure]
    refine propertiesRegular_iff.mpr fun e he => ?_
    exact regular_ofFields fields e (Table.mem_ofEntries he)
  | .reference name =>
    rw [ofDescriptor]
    exact (within_ofName name).regular

theorem regular_ofFields (fields : List Field) :
    ∀ e ∈ (ofFields overrides vocabulary fields).value, e.2.Regular vocabulary := by
  match fields with
  | [] => simp [ofFields]
  | ⟨_, type, _, _, _⟩ :: rest =>
    intro e he
    simp only [ofFields, Noted.value_bind, Noted.value_pure, List.mem_cons] at he
    rcases he with rfl | he
    · exact regular_ofDescriptor type
    · exact regular_ofFields rest e he
end

/-- Whatever is lowered, read from a document or made beforehand, under any table of overrides, is a
fragment of the grammar at every depth. With the standard vocabulary nothing but proper names stands
under `$ref` there. A name that has been resolved is left alone from then on. -/
theorem lowered_by_grammar [Stack] (overrides : Overrides) :
    (∀ vocabulary raw, (Descriptor.classify vocabulary raw).Succeeds →
      ∃ s, (ofRaw overrides vocabulary raw).result = .ok s ∧ Fragment vocabulary s.toValue) ∧
    (∀ vocabulary d, Fragment vocabulary (ofDescriptor overrides vocabulary d).value.toValue) ∧
    (∀ fragment, Fragment .standard fragment → ∀ ref ∈ fragment.refs,
      ∃ name, ProperName .standard name ∧ ref = "#/components/schemas/" ++ name) ∧
    ∀ name, TypeName.resolve [] (TypeName.resolve overrides name).value =
      pure (TypeName.resolve overrides name).value := by
  have lowered : ∀ vocabulary d,
      Fragment vocabulary (ofDescriptor overrides vocabulary d).value.toValue :=
    fun _ d => (regular_ofDescriptor d).fragment
  refine ⟨?_, lowered, fun _ h _ => h.properName_of_mem_refs, fun name => ?_⟩
  · rintro vocabulary raw ⟨d, hd⟩
    exact ⟨_, Traced.bind_ok_iff.mpr ⟨d, hd, Traced.result_lift _⟩, lowered vocabulary d⟩
  · exact TypeName.resolve_of_isUsable (TypeName.isUsable_resolve overrides name)

/-- Where an override leads to a primitive, the schema of the primitive stands in place. -/
example :
    (ofDescriptor [("Id", .text "int32")] Vocabulary.standard
      (.array (.reference "Id"))).value.toValue =
      .object [("type", .text "array"),
        ("items", .object [("type", .text "number"), ("format", .text "int32")])] :=
  rfl

/-- A raw descriptor whose names are overridden to a primitive, to a degenerate name and to the
spelling of an array. -/
def overriddenShape : Value :=
  .object
    [("fields", .list
      [.object [("id", .object [("type", .text "vector of map of Id")])],
        .object [("owner", .object [("type", .object [("Owner", .object [])])])],
        .object [("tags", .object [("type", .text "map of Tags")])],
        .object [("none", .object [])]])]

open Stack.Usual in
theorem overriddenShape_by_grammar :
    (Descriptor.classify Vocabulary.standard overriddenShape).Succeeds ∧
      ∃ s, (ofRaw [("Id", .text "int32"), ("Owner", .text "object"),
          ("Tags", .text "vector of string")] Vocabulary.standard overriddenShape).result = .ok s ∧
        Fragment Vocabulary.standard s.toValue ∧
        ∀ ref ∈ s.toValue.refs,
          ∃ name, ProperName .standard name ∧ ref = "#/components/schemas/" ++ name := by
  have h : (Descriptor.classify Vocabulary.standard overriddenShape).Succeeds :=
    Traced.succeeds_of_isOk (by decide +kernel)
  obtain ⟨hlowered, _, hrefs, _⟩ := lowered_by_grammar
    [("Id", .text "int32"), ("Owner", .text "object"), ("Tags", .text "vector of string")]
  obtain ⟨s, hs, hfragment⟩ := hlowered _ _ h
  exact ⟨h, s, hs, hfragment, hrefs _ hfragment⟩

end Schema
end ServiceAtlas
