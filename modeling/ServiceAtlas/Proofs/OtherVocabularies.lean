import ServiceAtlas.Proofs.Shapes

/-!
Descriptors read with one vocabulary and lowered with another. A name may be a primitive to the one and
a reference to the other, but as long as the primitives can be referred to by their own names both come
to the same schema.
-/

namespace ServiceAtlas

/-- The primitives can be referred to: none is renamed, and none has a name that references give up. -/
structure Vocabulary.Referable (overrides : Overrides) (vocabulary : Vocabulary) : Prop where
  notRenamed : ∀ name ∈ vocabulary.keys, overrides.find? name = none
  notBlank : ∀ name ∈ vocabulary.keys, Text.isBlankText name = false
  notNameless : "0" ∉ vocabulary.keys
  notObject : "object" ∉ vocabulary.keys

open Vocabulary (Referable)

namespace TypeName
variable {overrides : Overrides} {words vocabulary : Vocabulary} {name : String}

theorem resolve_of_referable (h : Referable overrides vocabulary) (hn : name ∈ vocabulary.keys)
    (ha : looksLikeArray name = false) (hm : looksLikeMap name = false) :
    resolve overrides name = pure name := by
  have hself : overridden overrides name = .text name := by
    rw [overridden, h.notRenamed name hn, Option.getD_none]
  have hunusable : unusable.contains name = false := by
    have hzero : name ≠ "0" := fun he => h.notNameless (he ▸ hn)
    have hobject : name ≠ "object" := fun he => h.notObject (he ▸ hn)
    simp [unusable, Descriptor.namelessName, hzero, hobject]
  simp only [resolve, hself, h.notBlank name hn, ha, hm, hunusable, Bool.or_self,
    Bool.false_eq_true, if_false]

theorem after?_eq_none_of_not_startsWith {lead longer : String} {cs : List Char}
    (hl : lead.toList <+: longer.toList) (h : Text.startsWith (String.ofList cs) lead = false) :
    Text.after? longer.toList cs = none := by
  have hnot := not_prefix_of_startsWith h
  rw [String.toList_ofList] at hnot
  cases hr : Text.after? longer.toList cs with
  | none => rfl
  | some rest => exact absurd (hl.trans ⟨rest, (Text.after?_eq_some_iff.mp hr).symm⟩) hnot

theorem isPrimitive_nil (name : String) : ¬isPrimitive [] name = true := by
  simp [isPrimitive, Table.contains, Table.find?]

end TypeName

namespace Schema
variable {overrides : Overrides} {words vocabulary : Vocabulary} {name : String}

/-- A primitive is lowered as a reference to its name. -/
theorem ofDescriptor_primitive (h : Referable overrides vocabulary)
    (ha : TypeName.looksLikeArray name = false) (hm : TypeName.looksLikeMap name = false) :
    ofDescriptor overrides vocabulary (.primitive name) =
      ofDescriptor overrides vocabulary (.reference name) := by
  simp only [ofDescriptor]
  cases hf : vocabulary.find? name with
  | none => rfl
  | some fields =>
    have hn : name ∈ vocabulary.keys := (Table.find?_isSome_iff _ _).mp (by rw [hf]; rfl)
    rw [ofName, TypeName.resolve_of_referable h hn ha hm, pure_bind, hf]

/-- Without any primitives a name is read as what is lowered alike. -/
theorem ofDescriptor_named (h : Referable overrides vocabulary) (words : Vocabulary)
    (cs : List Char) :
    ofDescriptor overrides vocabulary (TypeName.descriptor words cs) =
      ofDescriptor overrides vocabulary (TypeName.descriptor [] cs) := by
  induction cs using TypeName.descriptor.induct words with
  | case1 cs hp =>
    have hlooks := hp
    simp only [TypeName.isPrimitive, Bool.and_eq_true, Bool.not_eq_true'] at hlooks
    obtain ⟨⟨_, ha⟩, hm⟩ := hlooks
    have harray : Text.after? TypeName.arrayLead.toList cs = none :=
      TypeName.after?_eq_none_of_not_startsWith (by decide) ha
    have hmap : Text.after? TypeName.mapLead.toList cs = none :=
      TypeName.after?_eq_none_of_not_startsWith (by decide) hm
    rw [TypeName.descriptor_primitive hp,
      TypeName.descriptor_reference (TypeName.isPrimitive_nil _) harray hmap,
      ofDescriptor_primitive h ha hm]
  | case2 cs hp rest hr _ ih =>
    rw [TypeName.descriptor_array hp hr, TypeName.descriptor_array (TypeName.isPrimitive_nil _) hr]
    simp only [ofDescriptor, ih]
  | case3 cs hp ha rest hr _ ih =>
    rw [TypeName.descriptor_map hp ha hr, TypeName.descriptor_map (TypeName.isPrimitive_nil _) ha hr]
    simp only [ofDescriptor, ih]
  | case4 cs hp ha hm =>
    rw [TypeName.descriptor_reference hp ha hm,
      TypeName.descriptor_reference (TypeName.isPrimitive_nil _) ha hm]

/-! ### Whole descriptors -/

open Descriptor (classify classifyAt descend fieldEntries fieldsOf? makeField readField)
open Traced (Succeeds)

/-- Two fields with one name, whose types are lowered alike. -/
def FieldsAlike (overrides : Overrides) (vocabulary : Vocabulary) (f g : Field) : Prop :=
  f.name = g.name ∧
    ofDescriptor overrides vocabulary f.type = ofDescriptor overrides vocabulary g.type

theorem ofFields_alike {fields others : List Field}
    (h : List.Forall₂ (FieldsAlike overrides vocabulary) fields others) :
    ofFields overrides vocabulary fields = ofFields overrides vocabulary others := by
  induction h with
  | nil => rfl
  | @cons f g fields others hfg _ ih =>
    obtain ⟨hname, htype⟩ := hfg
    cases f
    cases g
    simp only at hname htype
    simp only [ofFields, hname, htype, ih]

/-- Whether a field can be made does not depend on its type. -/
theorem makeField_retyped {spec : Table Value} {type : Descriptor} {field : Field}
    (h : (makeField name spec type).result = .ok field) (other : Descriptor) :
    (makeField name spec other).result = .ok { field with type := other } := by
  obtain ⟨text, htext, h⟩ := Traced.bind_ok_iff.mp h
  obtain rfl := Except.ok.inj h
  exact Traced.bind_ok_iff.mpr ⟨text, htext, rfl⟩

section
variable [Stack] {levels : Nat}

/-- A type read with some vocabulary is lowered as it would be if no name were a primitive. What two
vocabularies read of one type is compared by way of this third reading. -/
def LoweredBare (overrides : Overrides) (vocabulary words : Vocabulary) (levels : Nat)
    (raw : Value) : Prop :=
  ∀ d, (classifyAt words levels raw).result = .ok d →
    ∃ e, (classifyAt [] levels raw).result = .ok e ∧
      ofDescriptor overrides vocabulary d = ofDescriptor overrides vocabulary e

theorem LoweredBare.field {v : Value}
    (h : ∀ left, LoweredBare overrides vocabulary words left (v.getD "type"))
    {field : Field} (hf : (readField words levels name v).result = .ok field) :
    ∃ other, (readField [] levels name v).result = .ok other ∧
      FieldsAlike overrides vocabulary field other := by
  rw [Descriptor.readField_eq, Traced.bind_ok_iff] at hf
  obtain ⟨type, htype, hmade⟩ := hf
  obtain ⟨left, rfl, htype⟩ := Descriptor.descend_ok_iff.mp htype
  obtain ⟨other, hother, hlowered⟩ := h left type htype
  refine ⟨{ field with type := other }, ?_, rfl, ?_⟩
  · rw [Descriptor.readField_eq, Traced.bind_ok_iff]
    exact ⟨other, Descriptor.descend_ok_iff.mpr ⟨left, rfl, hother⟩, makeField_retyped hmade other⟩
  · rw [Descriptor.type_makeField hmade]
    exact hlowered

/-- The step for the fields of an object, whose types stand inside it. -/
theorem LoweredBare.object {fields : Table Value} {given : Value}
    (shape : fieldsOf? fields = some given)
    (ih : ∀ (left : Nat) (type : Value), sizeOf type < sizeOf fields →
      LoweredBare overrides vocabulary words left type) :
    LoweredBare overrides vocabulary words levels (.object fields) := by
  intro d hd
  rw [Descriptor.classifyAt_fields shape, Descriptor.descend_ok_iff] at hd
  obtain ⟨left, rfl, hd⟩ := hd
  obtain ⟨read, hread, rfl⟩ := Traced.map_ok_iff.mp hd
  obtain ⟨hskip, heach⟩ := Descriptor.readFields_ok_iff.mp hread
  obtain ⟨others, hothers, halike⟩ :
      ∃ others, List.Forall₂ (fun e f => (readField [] left e.1 e.2).result = .ok f)
          (fieldEntries given) others ∧
        List.Forall₂ (FieldsAlike overrides vocabulary) read others := by
    refine exists_forall₂ heach fun e he field hf => ?_
    exact LoweredBare.field (fun rest => ih rest _ (Descriptor.sizeOf_typeOf_lt shape he)) hf
  refine ⟨.object others, ?_, ?_⟩
  · rw [Descriptor.classifyAt_fields shape, Descriptor.descend_ok_iff]
    exact ⟨left, rfl, Traced.map_ok_iff.mpr
      ⟨others, Descriptor.readFields_ok_iff.mpr ⟨hskip, hothers⟩, rfl⟩⟩
  · simp only [ofDescriptor, ofFields_alike halike]

theorem loweredBare (h : Referable overrides vocabulary) (words : Vocabulary) (levels : Nat)
    (raw : Value) : LoweredBare overrides vocabulary words levels raw := by
  cases raw with
  | text s =>
    intro d hd
    rw [classifyAt] at hd ⊢
    obtain ⟨hleads, rfl⟩ := TypeName.classify_ok_iff.mp hd
    exact ⟨_, TypeName.classify_ok_iff.mpr ⟨hleads, rfl⟩, ofDescriptor_named h words s.toList⟩
  | object fields =>
    obtain ⟨members, hv⟩ | ⟨hv, hs⟩ | ⟨given, hs⟩ := Descriptor.shape_cases fields
    · intro d hd
      rw [Descriptor.classifyAt_values hv] at hd ⊢
      exact ⟨d, hd, rfl⟩
    · intro d hd
      rw [Descriptor.classifyAt_shapeless hv hs] at hd ⊢
      exact ⟨d, hd, rfl⟩
    · exact LoweredBare.object hs fun left type hlt => loweredBare h words left type
  | _ =>
    intro d hd
    rw [classifyAt] at hd ⊢
    · exact ⟨d, hd, rfl⟩
    all_goals simp
termination_by sizeOf raw
decreasing_by
  simp only [Value.object.sizeOf_spec]
  omega

/-- As long as the primitives of a vocabulary can be referred to, it does not matter with which
vocabulary a descriptor was read that is lowered with it: neither whether it can be read, nor which
schema it comes to, nor what is noted on the way. -/
theorem vocabulary_of_reading (h : Referable overrides vocabulary) (words : Vocabulary)
    (raw : Value) :
    (Succeeds (classify words raw) ↔ Succeeds (classify vocabulary raw)) ∧
      ∀ d e, (classify words raw).result = .ok d → (classify vocabulary raw).result = .ok e →
        ofDescriptor overrides vocabulary d = ofDescriptor overrides vocabulary e := by
  refine ⟨?_, fun d e hd he => ?_⟩
  · rw [Descriptor.succeeds_classify_iff, Descriptor.succeeds_classify_iff]
  · obtain ⟨bare, hbare, hsame⟩ := loweredBare h words _ raw d hd
    obtain ⟨other, hother, hsameOther⟩ := loweredBare h vocabulary _ raw e he
    obtain rfl := Except.ok.inj (hbare.symm.trans hother)
    rw [hsame, hsameOther]

end

/-- An object with a primitive of the standard vocabulary and a type that is none. -/
def painted : Value :=
  .object [("fields", .list
    [.object [("depth", .object [("type", .text "vector of int32")])],
      .object [("hue", .object [("type", .text "Hue")])]])]

open Stack.Usual in
theorem painted_lowered :
    Referable [("Hue", .text "Colour")] .standard ∧
      ∃ d e, (classify [("Hue", Vocabulary.scalar "string")] painted).result = .ok d ∧
        (classify .standard painted).result = .ok e ∧
        ofDescriptor [("Hue", .text "Colour")] .standard d =
          ofDescriptor [("Hue", .text "Colour")] .standard e := by
  have h : Referable [("Hue", .text "Colour")] .standard :=
    ⟨by decide, by decide +kernel, by decide, by decide⟩
  obtain ⟨d, hd⟩ : Succeeds (classify [("Hue", Vocabulary.scalar "string")] painted) :=
    Traced.succeeds_of_isOk (by decide +kernel)
  obtain ⟨hreads, hsame⟩ := vocabulary_of_reading h [("Hue", Vocabulary.scalar "string")] painted
  obtain ⟨e, he⟩ := hreads.mp ⟨d, hd⟩
  exact ⟨h, d, e, hd, he, hsame d e hd he⟩

/-- A primitive that is renamed is another type where it is taken for a reference. -/
example :
    (ofDescriptor [("int", .text "Whole")] .standard (.primitive "int")).value =
        .fixed (Vocabulary.scalar "integer") ∧
      (ofDescriptor [("int", .text "Whole")] .standard (.reference "int")).value =
        .reference "Whole" :=
  ⟨rfl, rfl⟩

end Schema
end ServiceAtlas
