import ServiceAtlas.Proofs.DocumentReferences

/-!
The types that a service names: the descriptors in its catalogue, in the declared arguments of its
functions and in what they return. No schema of its document refers to anything else.
-/

namespace ServiceAtlas

/-- The descriptor in a raw value, if it can be read as one. -/
def Descriptor.ofRaw? [Stack] (raw : Value) : Option Descriptor :=
  (Descriptor.classify .standard raw).result.toOption

/-- The names that the references inside any of the descriptors point at. -/
def Descriptor.mentioned (descriptors : List Descriptor) : List String :=
  descriptors.flatMap Descriptor.references

namespace Operation

/-- The descriptor of a declared argument. -/
def Arguments.descriptor? [Stack] (a : Arguments) (name : String) : Option Descriptor :=
  (a.rawType name).result.toOption.bind Descriptor.ofRaw?

/-- The arguments that either view declares. -/
def Arguments.declared (a : Arguments) : List String := Table.keys a.console ++ Table.keys a.full

/-- The descriptor of what is returned, if anything is. -/
def returnDescriptor? [Stack] (returns : Value) : Option Descriptor :=
  match returns with
  | .null | .text "" => none
  | .object _ => some (.reference (Descriptor.referenceName returns))
  | returns => Descriptor.ofRaw? returns

end Operation

/-- The descriptors of the arguments of a function and of what it returns. A function that cannot be
called over HTTP has none. -/
def JoinedFunction.descriptors [Stack] (f : JoinedFunction) : List Descriptor :=
  match f.console with
  | none => []
  | some console =>
    let a := Operation.argumentsOf f.full console []
    a.declared.filterMap a.descriptor? ++
      ((Operation.returned f.full console).toOption.bind Operation.returnDescriptor?).toList

/-- The shape of a type in a catalogue. An entry that only refers to another type gives none. -/
def Descriptor.shape? [Stack] (raw : Value) : Option Descriptor :=
  match ofRaw? raw with
  | some (.reference _) => none
  | d => d

namespace Payloads

def types (p : Payloads) : Value := (p.console.find? "types").getD .null

/-- All descriptors that the two catalogues hold. -/
def descriptors [Stack] (p : Payloads) : List Descriptor :=
  p.types.entries.filterMap Descriptor.shape? ++
    (JoinedFunction.join p.console p.full).value.flatMap JoinedFunction.descriptors

end Payloads

/-! ### What the schemas refer to -/

namespace Descriptor

theorem ofRaw?_of_ok [Stack] {raw : Value} {d : Descriptor}
    (h : (classify .standard raw).result = .ok d) : ofRaw? raw = some d := by
  rw [ofRaw?, h]
  rfl

theorem mem_mentioned {descriptors : List Descriptor} {d : Descriptor} {name : String}
    (hd : d ∈ descriptors) (hn : name ∈ d.references) : name ∈ mentioned descriptors :=
  List.mem_flatMap.mpr ⟨d, hd, hn⟩

/-- More descriptors mention no less. -/
theorem mentioned_subset {descriptors more : List Descriptor}
    (h : ∀ d ∈ descriptors, d ∈ more) : ∀ r ∈ mentioned descriptors, r ∈ mentioned more := by
  intro r hr
  obtain ⟨d, hd, hr⟩ := List.mem_flatMap.mp hr
  exact mem_mentioned (h d hd) hr

end Descriptor

namespace Operation
variable {a : Arguments} {overrides : Overrides} {options : Options} {name : String} {s : Schema}

theorem rawType_undeclared (h : name ∉ a.declared) : (a.rawType name).result = .ok .null := by
  have hc : a.console.find? name = none :=
    Table.find?_eq_none_iff.mpr fun hm => h (List.mem_append_left _ hm)
  have hf : a.full.find? name = none :=
    Table.find?_eq_none_iff.mpr fun hm => h (List.mem_append_right _ hm)
  change Argument.rawType (a.consoleOf name) (a.fullOf name) = _
  rw [Arguments.consoleOf, Arguments.fullOf, hc, hf]
  rfl

variable [Stack]

/-- The names that the declared types of the arguments mention. -/
def Arguments.mentioned (a : Arguments) : List String :=
  Descriptor.mentioned (a.declared.filterMap a.descriptor?)

theorem within_declared (hn : name ∈ a.declared) {raw : Value}
    (hraw : (a.rawType name).result = .ok raw)
    (h : (Schema.ofRaw overrides .standard raw).result = .ok s) :
    s.Within overrides .standard a.mentioned := by
  obtain ⟨d, hd, hs⟩ := Schema.ofRaw_ok h
  have hdescriptor : a.descriptor? name = some d := by
    rw [Arguments.descriptor?, hraw]
    exact Descriptor.ofRaw?_of_ok hd
  exact hs.mono fun r hr =>
    Descriptor.mem_mentioned (List.mem_filterMap.mpr ⟨name, hn, hdescriptor⟩) hr

theorem within_schema (hn : name ∈ a.declared) (h : (a.schema name).result = .ok s) :
    s.Within a.overrides .standard a.mentioned := by
  obtain ⟨raw, hraw, h⟩ := Traced.bind_ok_iff.mp h
  exact within_declared hn hraw h

/-- A variable of the URL that is not declared is a text, which refers to nothing. -/
theorem within_variableSchema (h : (a.variableSchema name).result = .ok s) :
    s.Within a.overrides .standard a.mentioned := by
  obtain ⟨raw, hraw, h⟩ := Traced.bind_ok_iff.mp h
  by_cases hnull : raw = .null
  · subst hnull
    obtain rfl := Except.ok.inj h
    exact Schema.within_fixed (show Table.find? Vocabulary.standard "string" = some _ from rfl)
  · have hn : name ∈ a.declared := by
      by_contra hn
      rw [rawType_undeclared hn] at hraw
      exact hnull (Except.ok.inj hraw).symm
    refine within_declared hn hraw ?_
    cases raw with
    | null => exact absurd rfl hnull
    | _ => exact h

theorem within_returns {returns : Value} {r : Responses}
    (h : (Responses.make overrides options returns).result = .ok r) :
    r.forbidden = options.forbidden ∧
      ∀ s ∈ r.returns, ∃ d, returnDescriptor? returns = some d ∧
        s.Within overrides .standard d.references := by
  obtain ⟨schema, hschema, h⟩ := Traced.bind_ok_iff.mp h
  obtain rfl := Except.ok.inj h
  refine ⟨rfl, fun s hs => ?_⟩
  obtain rfl : schema = some s := hs
  unfold Responses.returnSchema at hschema
  split at hschema
  · cases hschema
  · cases hschema
  · obtain ⟨made, hmade, he⟩ := Traced.map_ok_iff.mp hschema
    obtain rfl := Option.some.inj he
    obtain rfl := Except.ok.inj hmade
    exact ⟨_, rfl, Schema.within_ofName _⟩
  · rename_i hnull hempty hobject
    obtain ⟨made, hmade, he⟩ := Traced.map_ok_iff.mp hschema
    obtain rfl := Option.some.inj he
    obtain ⟨d, hd, hs⟩ := Schema.ofRaw_ok hmade
    refine ⟨d, ?_, hs⟩
    -- Unfolded only here: the split above would take this match apart as well.
    unfold returnDescriptor?
    split
    · exact absurd rfl hnull
    · exact absurd rfl hempty
    · exact absurd rfl (hobject _)
    · exact Descriptor.ofRaw?_of_ok hd

/-- What the usage line mentions is declared. -/
theorem within_used {full : FullView} {view : ConsoleView} {method : String} {p : Parameter}
    (hp : p ∈ usedBy view method)
    (h : ((argumentsOf full view overrides).schema p.name).result = .ok s) :
    s.Within overrides .standard (argumentsOf full view overrides).mentioned := by
  obtain ⟨token, _, _, _, hknown⟩ := Usage.parameters_declared hp
  have hn : p.name ∈ Table.keys (Argument.consoleLookup view.arguments).value := by
    simpa [settingOf, Usage.Setting.make, Usage.Setting.knows] using hknown
  exact within_schema (List.mem_append_left _ hn) h

/-- No schema of an operation refers to anything but what its function mentions. -/
theorem within_schemas {f : JoinedFunction} {view : ConsoleView} {url method : String}
    {o : Operation} {inputs : Inputs} {returns : Value} (hc : f.console = some view)
    (hb : BuiltFrom f.full view overrides options url method o inputs returns) :
    ∀ s ∈ o.schemas, s.Within overrides .standard (Descriptor.mentioned f.descriptors) := by
  obtain ⟨henters, hbody⟩ := addParameters_ok hb.used
  obtain ⟨added, hps, hfills⟩ := addVariables_ok hb.placeholders
  have hmentioned : Descriptor.mentioned f.descriptors =
      (argumentsOf f.full view overrides).mentioned ++
        Descriptor.mentioned (returnDescriptor? returns).toList := by
    simp only [JoinedFunction.descriptors, hc, hb.returned, Descriptor.mentioned,
      List.flatMap_append]
    rfl
  intro s hs
  rw [hmentioned]
  simp only [schemas, hps, List.map_append, List.mem_append, List.mem_map, Option.mem_toList] at hs
  rcases hs with ((⟨e, he, rfl⟩ | ⟨e, he, rfl⟩) | ⟨b, hmade, rfl⟩) | hs
  · obtain ⟨p, hp, schema, hschema, rfl⟩ := exists_of_mem_right henters he
    exact (within_used (List.mem_filter.mp hp).1 hschema).mono fun r hr =>
      List.mem_append_left _ hr
  · obtain ⟨name, _, schema, hschema, rfl⟩ := exists_of_mem_right hfills he
    exact (within_variableSchema hschema).mono fun r hr => List.mem_append_left _ hr
  · rw [← hb.body, hmade] at hbody
    obtain ⟨p, hp, schema, hschema, rfl⟩ := exists_of_rel_some hbody
    exact (within_used (List.mem_filter.mp (List.mem_of_getLast? hp)).1 hschema).mono fun r hr =>
      List.mem_append_left _ hr
  · obtain ⟨d, hd, hw⟩ := (within_returns hb.responses).2 s hs
    rw [hd]
    exact hw.mono fun r hr =>
      List.mem_append_right _ (Descriptor.mem_mentioned (List.mem_singleton_self d) hr)

end Operation

/-! ### The catalogue -/

namespace Schema
variable {overrides : Overrides} {vocabulary : Vocabulary} {types : Value} {schemas : Table Schema}

variable [Stack]

theorem within_ofNamed {name : String} {raw : Value} {s : Schema}
    (h : (ofNamed overrides .standard name raw).result = .ok s) :
    s.Within overrides .standard (Descriptor.mentioned (Descriptor.shape? raw).toList) := by
  obtain ⟨d, hd, h⟩ := Traced.bind_ok_iff.mp h
  have hspeaks := Descriptor.speaks_classify _ raw d hd
  unfold Descriptor.shape?
  rw [Descriptor.ofRaw?_of_ok hd]
  cases d with
  | reference other =>
    obtain rfl := Except.ok.inj h
    exact ⟨trivial, by simp [opaqueObject, references, referencesOf]⟩
  | _ =>
    obtain rfl := Except.ok.inj h
    exact (within_ofDescriptor _ hspeaks).mono fun r hr =>
      Descriptor.mem_mentioned (List.mem_singleton_self _) hr

omit [Stack] in
theorem result_namedTypes (types : Value) :
    (namedTypes types).result = .ok (types.fields?.getD []) := by
  cases types <;> rfl

theorem ofCatalogue_ok (h : (ofCatalogue overrides vocabulary types).result = .ok schemas) :
    ∃ named, List.Forall₂ (fun e made => (ofEntry overrides vocabulary e).result = .ok made)
        (types.fields?.getD []) named ∧
      schemas = (Table.ofEntries named).putLast TypeName.anyType anyValue := by
  obtain ⟨fields, hfields, h⟩ := Traced.bind_ok_iff.mp h
  rw [result_namedTypes] at hfields
  obtain rfl := Except.ok.inj hfields
  obtain ⟨named, hnamed, h⟩ := Traced.bind_ok_iff.mp h
  refine ⟨named, Traced.mapM_ok hnamed, ?_⟩
  dsimp only at h
  split at h
  · exact (Except.ok.inj h).symm
  · exact (Except.ok.inj h).symm

theorem ofEntry_ok {e : String × Value} {made : String × Schema}
    (h : (ofEntry overrides vocabulary e).result = .ok made) :
    made.1 = e.1 ∧ (ofNamed overrides vocabulary e.1 e.2).result = .ok made.2 := by
  obtain ⟨s, hs, h⟩ := Traced.bind_ok_iff.mp h
  obtain rfl := Except.ok.inj h
  exact ⟨rfl, hs⟩

theorem names_catalogue {entries : Table Value} {named : List (String × Schema)}
    (h : List.Forall₂ (fun e made => (ofEntry overrides vocabulary e).result = .ok made) entries
      named) : named.map Prod.fst = Table.keys entries := by
  induction h with
  | nil => rfl
  | cons he _ ih => simp [Table.keys, (ofEntry_ok he).1, ih]

/-- The catalogue has the schemas of its named types and the fallback type. -/
theorem mem_keys_catalogue (h : (ofCatalogue overrides .standard types).result = .ok schemas)
    (name : String) :
    name ∈ Table.keys schemas ↔ name = TypeName.anyType ∨ name ∈ types.keys := by
  obtain ⟨named, hnamed, rfl⟩ := ofCatalogue_ok h
  have hkeys : named.map Prod.fst = types.keys := names_catalogue hnamed
  rw [Table.keys_putLast, Table.keys_ofEntries, hkeys]
  simp only [List.mem_append, List.mem_filter, List.mem_eraseDups, List.mem_singleton]
  by_cases hany : name = TypeName.anyType <;> simp [hany]

theorem within_catalogue (h : (ofCatalogue overrides .standard types).result = .ok schemas) :
    ∀ e ∈ schemas, e.2 = anyValue ∨ e.2.Within overrides .standard
      (Descriptor.mentioned (types.entries.filterMap Descriptor.shape?)) := by
  obtain ⟨named, hnamed, rfl⟩ := ofCatalogue_ok h
  intro e he
  rcases List.mem_append.mp he with he | he
  · right
    obtain ⟨raw, hraw, hmade⟩ :=
      exists_of_mem_right hnamed (Table.mem_ofEntries (List.mem_filter.mp he).1)
    obtain ⟨_, hmade⟩ := ofEntry_ok hmade
    refine (within_ofNamed hmade).mono (Descriptor.mentioned_subset fun d hd => ?_)
    exact List.mem_filterMap.mpr
      ⟨raw.2, List.mem_map.mpr ⟨raw, hraw, rfl⟩, Option.mem_toList.mp hd⟩
  · left
    rw [List.mem_singleton.mp he]

end Schema
end ServiceAtlas
