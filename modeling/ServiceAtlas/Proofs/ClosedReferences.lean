import ServiceAtlas.Proofs.NamedTypes

/-!
A document is closed: whatever it refers to, it declares, as far as its catalogue does.
-/

namespace ServiceAtlas

/-- Every type that is mentioned is declared, but for primitives and names that no schema can
have. -/
def Payloads.DeclaresMentioned [Stack] (p : Payloads) : Prop :=
  ∀ r ∈ Descriptor.mentioned p.descriptors,
    TypeName.isUsable r = true → Vocabulary.standard.find? r = none → r ∈ p.types.keys

namespace Generation
variable {payloads : Payloads} {generator : Generator} {overrides : Overrides}
  {baseUrl : Option String} {g : Generation}

section
variable [Stack]

theorem generate_ok (h : (generate payloads generator overrides baseUrl).result = .ok g) :
    ∃ schemas routes, (Schema.ofCatalogue overrides .standard payloads.types).result = .ok schemas ∧
      (Routes.build payloads.console payloads.full overrides generator.options).result =
        .ok routes ∧
      g = assemble payloads generator baseUrl schemas routes := by
  unfold generate at h
  dsimp only at h
  split at h
  on_goal 1 => rw [Traced.note_bind_result] at h
  all_goals
    obtain ⟨schemas, hschemas, h⟩ := Traced.bind_ok_iff.mp h
    obtain ⟨routes, hroutes, h⟩ := Traced.bind_ok_iff.mp h
    exact ⟨schemas, routes, hschemas, hroutes, (Except.ok.inj h).symm⟩

variable {schemas : Table Schema} {routes : Routes}

/-- Every operation of the document makes the answers that the options ask for, and refers to what
the payloads mention. -/
theorem within_placed
    (h : (Routes.build payloads.console payloads.full overrides generator.options).result =
      .ok routes) {r : Route} (hr : r ∈ Routes.placed routes) :
    r.operation.responses.forbidden = generator.forbidden ∧
      ∀ s ∈ r.operation.schemas,
        s.Within overrides .standard (Descriptor.mentioned payloads.descriptors) := by
  obtain ⟨f, hf, view, method, inputs, returns, hc, hb⟩ := Routes.builtFrom_of_mem_placed h hr
  refine ⟨(Operation.within_returns hb.responses).1, fun s hs => ?_⟩
  refine (Operation.within_schemas hc hb s hs).mono (Descriptor.mentioned_subset fun d hd => ?_)
  exact List.mem_append_right _ (List.mem_flatMap.mpr ⟨f, hf, hd⟩)

/-- Every reference to a schema in the document comes from a schema that refers to what the payloads
mention. The fallback type refers to nothing. -/
theorem within_schemaRefs (h : (generate payloads generator overrides baseUrl).result = .ok g)
    {ref : String} (href : ref ∈ Document.schemaRefs g.document.toValue) :
    ∃ s : Schema, s.Within overrides .standard (Descriptor.mentioned payloads.descriptors) ∧
      ref ∈ s.toValue.refs := by
  obtain ⟨schemas, routes, hschemas, hroutes, rfl⟩ := generate_ok h
  obtain ⟨v, hv, href⟩ := List.mem_flatMap.mp href
  rw [Document.get_schemas, Document.operationsIn_toValue _ rfl] at hv
  rcases List.mem_append.mp hv with hv | hv
  · obtain ⟨e, he, rfl⟩ : ∃ e ∈ schemas, e.2.toValue = v := by
      simpa [Value.entries, Value.fields?, assemble, schemaTable, Schema.valuesOf_eq] using hv
    rcases Schema.within_catalogue hschemas e he with hany | hs
    · rw [hany, Schema.refs_anyValue] at href
      cases href
    · refine ⟨e.2, hs.mono (Descriptor.mentioned_subset fun d hd => ?_), href⟩
      exact List.mem_append_left _ hd
  · obtain ⟨o, ho, hv⟩ := List.mem_flatMap.mp hv
    obtain ⟨r, hr, rfl⟩ := List.mem_map.mp ho
    rw [Operation.schemasOf_toValue] at hv
    obtain ⟨s, hs, rfl⟩ := List.mem_map.mp hv
    exact ⟨s, (within_placed hroutes hr).2 s hs, href⟩

/-- What a document refers to is the resolved form of a name that the payloads mention, and never a
primitive. -/
theorem resolved_schemaRefs (h : (generate payloads generator overrides baseUrl).result = .ok g)
    {ref : String} (href : ref ∈ Document.schemaRefs g.document.toValue) :
    ∃ r ∈ Descriptor.mentioned payloads.descriptors,
      ref = Schema.place ++ (TypeName.resolve overrides r).value ∧
      Vocabulary.standard.find? (TypeName.resolve overrides r).value = none := by
  obtain ⟨s, hs, href⟩ := within_schemaRefs h href
  rw [Schema.refs_toValue s hs.regular] at href
  obtain ⟨n, hn, rfl⟩ := List.mem_map.mp href
  obtain ⟨r, hr, rfl⟩ := hs.resolved n hn
  exact ⟨r, hr, rfl, (hs.regular.references s _ hn).2⟩

/-- A document refers only to responses that it declares, each operation to all of them, and to
schemas only by resolved names of types that the payloads mention. Without overrides it declares all
of these, the fallback type among them, if the catalogue declares every type that is mentioned. -/
theorem references_closed (h : (generate payloads generator overrides baseUrl).result = .ok g) :
    let document := g.document.toValue
    Document.declaredResponses document =
      "UnauthorizedError" :: (if generator.forbidden then ["ForbiddenError"] else []) ∧
    (∀ o ∈ Document.operationsIn document, Document.responseRefs o =
      (Document.declaredResponses document).map ("#/components/responses/" ++ ·)) ∧
    (∀ ref ∈ Document.schemaRefs document, ∃ r ∈ Descriptor.mentioned payloads.descriptors,
      ref = "#/components/schemas/" ++ (TypeName.resolve overrides r).value) ∧
    "AnyType" ∈ Document.declaredSchemas document ∧
    (overrides = [] → payloads.DeclaresMentioned → ∀ ref ∈ Document.schemaRefs document,
      ∃ n ∈ Document.declaredSchemas document, ref = "#/components/schemas/" ++ n) := by
  obtain ⟨schemas, routes, hschemas, hroutes, hg⟩ := generate_ok h
  have hresponses : Document.declaredResponses g.document.toValue =
      Table.keys (Document.responses generator.forbidden) := by
    rw [Document.declaredResponses_toValue, hg]
    rfl
  have hdeclared : ∀ n, n ∈ Document.declaredSchemas g.document.toValue ↔
      n = TypeName.anyType ∨ n ∈ payloads.types.keys := by
    intro n
    rw [Document.declaredSchemas_toValue, ← Schema.mem_keys_catalogue hschemas, hg]
    simp [assemble, schemaTable, Schema.valuesOf_eq, Table.keys]
  refine ⟨?_, ?_, ?_, (hdeclared _).mpr (Or.inl rfl), ?_⟩
  · rw [hresponses]
    cases generator.forbidden <;> rfl
  · intro o ho
    rw [hg, Document.operationsIn_toValue _ rfl] at ho
    obtain ⟨r, hr, rfl⟩ := List.mem_map.mp ho
    rw [hresponses, Operation.responseRefs_toValue, (within_placed hroutes hr).1]
  · intro ref href
    obtain ⟨r, hr, he, _⟩ := resolved_schemaRefs h href
    exact ⟨r, hr, he⟩
  · rintro rfl hmentioned ref href
    obtain ⟨r, hr, rfl, hnone⟩ := resolved_schemaRefs h href
    refine ⟨_, (hdeclared _).mpr ?_, rfl⟩
    rw [TypeName.value_resolve_nil] at hnone ⊢
    by_cases hu : TypeName.isUsable r = true
    · rw [if_pos hu] at hnone ⊢
      exact Or.inr (hmentioned r hr hu hnone)
    · rw [if_neg hu]
      exact Or.inl rfl

end

/-- A type that refers to itself, one that refers to nothing, and a function that takes and returns
values of them. -/
def parts : Payloads where
  console :=
    [("types", .object
      [("Part", .object
        [("fields", .list
          [.object [("id", .object [("type", .text "int32")])],
            .object [("parent", .object [("type", .text "Part")])]])]),
        ("Kind", .object [("values", .list [.object [("name", .text "BIG")]])])]),
      ("functions", .object
        [("MovePart", .object
          [("http_method", .text "POST"), ("url", .text "/parts"),
            ("usage", .text "MovePart <parts>"),
            ("arguments", .list [.object [("parts", .object [("type", .text "vector of Part")])]]),
            ("returns", .object [("Kind", .object [])])])])]
  full := [("functions", .list [.object [("name", .text "MovePart")]])]

open Stack.Usual in
theorem references_closed_parts :
    ∃ g, (generate parts { forbidden := true } [] none).result = .ok g ∧
      Document.schemaRefs g.document.toValue =
        ["#/components/schemas/Part", "#/components/schemas/Part", "#/components/schemas/Kind"] ∧
      parts.DeclaresMentioned ∧
      ∀ ref ∈ Document.schemaRefs g.document.toValue,
        ∃ n ∈ Document.declaredSchemas g.document.toValue, ref = "#/components/schemas/" ++ n := by
  have hdeclares : parts.DeclaresMentioned := by
    unfold Payloads.DeclaresMentioned
    decide +kernel
  obtain ⟨g, hg, hrefs⟩ : ∃ g, (generate parts { forbidden := true } [] none).result = .ok g ∧
      Document.schemaRefs g.document.toValue =
        ["#/components/schemas/Part", "#/components/schemas/Part", "#/components/schemas/Kind"] :=
    exists_ok_of_toOption (by decide +kernel)
  exact ⟨g, hg, hrefs, hdeclares, (references_closed hg).2.2.2.2 rfl hdeclares⟩

end Generation
end ServiceAtlas
