import ServiceAtlas.Proofs.NamedTypes

/-!
The entries of a catalogue of schemas. The named types keep their names and their order, the fallback
type stands behind them, and each schema is made of the descriptor under its name and nothing else.
-/

namespace ServiceAtlas.Schema
variable {overrides : Overrides} {vocabulary : Vocabulary} {raw : Value} {schema other : Schema}

/-- The schema that a named type with this raw descriptor has: that of an opaque object where the
descriptor only refers to another type, and what it is translated to otherwise. -/
inductive NamedBy [Stack] (overrides : Overrides) (vocabulary : Vocabulary) (raw : Value) : Schema → Prop
  | shapeless {name : String}
    (read : (Descriptor.classify vocabulary raw).result = .ok (.reference name)) :
    NamedBy overrides vocabulary raw opaqueObject
  | shaped {d : Descriptor} {schema : Schema}
    (read : (Descriptor.classify vocabulary raw).result = .ok d)
    (shape : ∀ name, d ≠ .reference name)
    (translated : (ofRaw overrides vocabulary raw).result = .ok schema) :
    NamedBy overrides vocabulary raw schema

example : opaqueObject.toValue = .object [("type", .text "object"), ("properties", .object [])] :=
  rfl

/-- The name of a type has no influence on its schema. -/
theorem ofNamed_ok_iff [Stack] {name : String} :
    (ofNamed overrides vocabulary name raw).result = .ok schema ↔
      NamedBy overrides vocabulary raw schema := by
  rw [ofNamed, Traced.bind_ok_iff]
  constructor
  · rintro ⟨d, hd, h⟩
    cases d with
    | reference other =>
      obtain rfl := Except.ok.inj h
      exact .shapeless hd
    | _ =>
      obtain rfl := Except.ok.inj h
      exact .shaped hd nofun (result_ofRaw_of_read hd)
  · intro h
    cases h with
    | shapeless read => exact ⟨_, read, rfl⟩
    | @shaped d _ read shape translated =>
      refine ⟨d, read, ?_⟩
      rw [result_ofRaw_of_read read] at translated
      cases d with
      | reference other => exact absurd rfl (shape other)
      | _ => exact translated

/-- A raw descriptor makes one schema at most. -/
theorem NamedBy.unique [Stack] (h : NamedBy overrides vocabulary raw schema)
    (ho : NamedBy overrides vocabulary raw other) : schema = other := by
  have hs : (ofNamed overrides vocabulary "" raw).result = .ok schema := ofNamed_ok_iff.mpr h
  have ht : (ofNamed overrides vocabulary "" raw).result = .ok other := ofNamed_ok_iff.mpr ho
  exact Except.ok.inj (hs.symm.trans ht)

/-! ### A whole catalogue -/

/-- The schemas of a catalogue of named types: which names they have, in which order, and what stands
under each. -/
structure Catalogues [Stack] (overrides : Overrides) (vocabulary : Vocabulary) (entries : Table Value)
    (schemas : Table Schema) : Prop where
  names : schemas.keys =
    entries.keys.filter (fun name => name ≠ TypeName.anyType) ++ [TypeName.anyType]
  fallback : schemas.find? TypeName.anyType = some anyValue
  entry : ∀ name raw, (name, raw) ∈ entries → name ≠ TypeName.anyType →
    ∃ schema, schemas.find? name = some schema ∧ NamedBy overrides vocabulary raw schema

section Whole
variable {entries others : Table Value} {schemas otherSchemas : Table Schema} {name : String}

theorem catalogues_of_ok [Stack] (hd : entries.Distinct)
    (h : (ofCatalogue overrides vocabulary (.object entries)).result = .ok schemas) :
    Catalogues overrides vocabulary entries schemas := by
  obtain ⟨named, hnamed, rfl⟩ := ofCatalogue_ok h
  have hkeys : Table.keys named = entries.keys := names_catalogue hnamed
  have hdistinct : Table.Distinct named := by
    unfold Table.Distinct
    rw [hkeys]
    exact hd
  rw [Table.ofEntries_eq hdistinct]
  constructor
  · rw [Table.keys_putLast, hkeys]
  · rw [Table.find?_putLast, if_pos rfl]
  · intro name raw hm hne
    obtain ⟨⟨made, schema⟩, hmade, he⟩ := exists_of_mem_right hnamed.flip hm
    obtain ⟨rfl, hschema⟩ := ofEntry_ok he
    refine ⟨schema, ?_, ofNamed_ok_iff.mp hschema⟩
    rw [Table.find?_putLast, if_neg (Ne.symm hne)]
    exact Table.find?_of_mem hdistinct hmade

/-- A name that the catalogue does not list has no schema, unless it is that of the fallback type. -/
theorem Catalogues.find?_eq_none [Stack] (h : Catalogues overrides vocabulary entries schemas)
    (hn : entries.find? name = none) (hne : name ≠ TypeName.anyType) :
    schemas.find? name = none := by
  rw [Table.find?_eq_none_iff] at hn ⊢
  rw [h.names]
  simp [hn, hne]

/-- Two catalogues that have the same under a name give it the same schema. -/
theorem Catalogues.find?_congr [Stack] (h : Catalogues overrides vocabulary entries schemas)
    (ho : Catalogues overrides vocabulary others otherSchemas)
    (he : entries.find? name = others.find? name) :
    schemas.find? name = otherSchemas.find? name := by
  by_cases hany : name = TypeName.anyType
  · rw [hany, h.fallback, ho.fallback]
  cases hfound : entries.find? name with
  | none => rw [h.find?_eq_none hfound hany, ho.find?_eq_none (he ▸ hfound) hany]
  | some raw =>
    obtain ⟨schema, hs, hnamed⟩ := h.entry name raw (Table.mem_of_find? hfound) hany
    obtain ⟨other, ht, hother⟩ := ho.entry name raw (Table.mem_of_find? (he ▸ hfound)) hany
    rw [hs, ht, hnamed.unique hother]

end Whole

/-- Whatever the overrides, a catalogue has the schemas of its named types in their order, the
fallback type at the end in place of any of its name, and the schema under a name depends on nothing
but what the catalogue has under this name. -/
theorem catalogue_entries [Stack] {entries : Table Value} {schemas : Table Schema} (hd : entries.Distinct)
    (h : (ofCatalogue overrides vocabulary (.object entries)).result = .ok schemas) :
    Catalogues overrides vocabulary entries schemas ∧
      ∀ (others : Table Value) (otherSchemas : Table Schema), others.Distinct →
        (ofCatalogue overrides vocabulary (.object others)).result = .ok otherSchemas →
        ∀ name, entries.find? name = others.find? name →
          schemas.find? name = otherSchemas.find? name := by
  have hentries := catalogues_of_ok hd h
  refine ⟨hentries, fun others otherSchemas hod ho name he => ?_⟩
  exact hentries.find?_congr (catalogues_of_ok hod ho) he

/-- A catalogue that defines the fallback type itself, with a type that only refers to another. -/
def shadowing : Table Value :=
  [("Hue", .object [("values", .list [.object [("name", .text "RED")]])]),
    ("AnyType", .object [("fields", .list [])]),
    ("Paint", .object [("fields", .list [.object [("hue", .object [("type", .text "Hue")])]])]),
    ("Handle", .object [("Hue", .object [])])]

open Stack.Usual in
theorem shadowing_entries :
    shadowing.Distinct ∧
      ∃ schemas, (ofCatalogue [("Hue", .text "Colour")] .standard (.object shadowing)).result =
          .ok schemas ∧
        schemas.keys = ["Hue", "Paint", "Handle", "AnyType"] ∧
        schemas.find? "AnyType" = some anyValue ∧
        ∃ schema, schemas.find? "Handle" = some schema ∧
          NamedBy [("Hue", .text "Colour")] .standard (.object [("Hue", .object [])]) schema := by
  have hd : shadowing.Distinct := by simp [shadowing, Table.Distinct, Table.keys]
  obtain ⟨schemas, h⟩ : Traced.Succeeds
      (ofCatalogue [("Hue", .text "Colour")] .standard (.object shadowing)) := ⟨_, rfl⟩
  have hentries := (catalogue_entries hd h).1
  refine ⟨hd, schemas, h, hentries.names, hentries.fallback, ?_⟩
  exact hentries.entry "Handle" _ (by simp [shadowing]) (by decide)

end ServiceAtlas.Schema
