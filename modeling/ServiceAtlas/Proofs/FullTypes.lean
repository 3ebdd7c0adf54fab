import ServiceAtlas.Proofs.DeclaredInputs
import ServiceAtlas.Proofs.Descriptions
import ServiceAtlas.Proofs.RouteTable
import ServiceAtlas.Proofs.TypeSpelling

/-!
The types of the Full view against those of the Console view. A pair of `type` and `elementType`
means the array or the map of its element if the element is a name; an element of another shape that
is given stops the translation of the whole catalogue.
-/

namespace ServiceAtlas

/-- The types that are made of one other type. -/
inductive Collection where
  | array
  | map

namespace Collection

/-- What the Full view calls it. -/
def fullName : Collection → String
  | array => "vector"
  | map => "map"

/-- What the Console view puts in front of the other type. -/
def lead : Collection → String
  | array => TypeName.arrayLead
  | map => TypeName.mapLead

def schemaOf : Collection → Schema → Schema
  | array => .array
  | map => .map

theorem leads_lead (c : Collection) (name : String) :
    TypeName.leads (c.lead ++ name).toList = TypeName.leads name.toList + 1 := by
  cases c with
  | array => exact TypeName.leads_of_some (TypeName.lead?_arrayLead name)
  | map => exact TypeName.leads_of_some (TypeName.lead?_mapLead name)

end Collection

namespace Argument

/-- The name that an element counts as: text is a name, and nothing given is the empty name. -/
def elementName? : Value → Option String
  | .text s => some s
  | v => if v.isGiven then none else some ""

theorem elementName?_of_not_text {v : Value} (h : ∀ s, v ≠ .text s) :
    elementName? v = if v.isGiven then none else some "" := by
  cases v with
  | text s => exact absurd rfl (h s)
  | _ => rfl

theorem elementName?_eq_none_iff {v : Value} :
    elementName? v = none ↔ v.isGiven = true ∧ ∀ s, v ≠ .text s := by
  cases v with
  | text s => simp [elementName?]
  | _ => simp [elementName?]

theorem prefixed_eq (lead : String) (element : Value) :
    prefixed lead element =
      match elementName? element with
      | some name => .ok (.text (lead ++ name))
      | none => .error .wrongType := by
  unfold prefixed
  cases element with
  | text s =>
    by_cases hs : s = ""
    · subst hs
      simp [elementName?, Value.isGiven]
    · simp [elementName?, Value.isGiven, hs]
  | _ =>
    simp only [elementName?]
    split <;> simp_all

/-- A table of `type` and `elementType` alone that the Full view has for a collection. -/
structure Collects (fields : Table Value) (c : Collection) : Prop where
  keys : ∀ k ∈ Table.keys fields, k = "type" ∨ k = "elementType"
  type : fields.find? "type" = some (.text c.fullName)

theorem pairKeys_iff {fields : Table Value} :
    ((Table.keys fields).all fun k => k == "type" || k == "elementType") = true ↔
      ∀ k ∈ Table.keys fields, k = "type" ∨ k = "elementType" := by
  simp

theorem descriptorOfFull_of_collects {fields : Table Value} {c : Collection}
    (h : Collects fields c) :
    descriptorOfFull (.object fields) =
      prefixed c.lead ((Table.find? fields "elementType").getD .null) := by
  simp only [descriptorOfFull, Table.contains, h.type, pairKeys_iff.mpr h.keys, Option.isSome_some,
    Bool.and_self, if_true, Option.getD_some]
  cases c <;> rfl

/-- What is no collection is rewritten without a look at its element. -/
theorem descriptorOfFull_of_not_collects {v : Value}
    (h : ∀ fields c, v = .object fields → ¬Collects fields c) :
    ∃ raw, descriptorOfFull v = .ok raw := by
  cases v with
  | object fields =>
    simp only [descriptorOfFull]
    split
    · rename_i hpair
      obtain ⟨hcontains, hkeys⟩ := Bool.and_eq_true_iff.mp hpair
      obtain ⟨type, htype⟩ := Option.isSome_iff_exists.mp hcontains
      have hkeys := pairKeys_iff.mp hkeys
      rw [htype, Option.getD_some]
      split
      · exact absurd ⟨hkeys, htype⟩ (h fields .array rfl)
      · exact absurd ⟨hkeys, htype⟩ (h fields .map rfl)
      · exact ⟨_, rfl⟩
    · exact ⟨_, rfl⟩
  | _ => exact ⟨_, rfl⟩

/-- The value is a collection of what is given, and is no name. -/
def HasNamelessElement (v : Value) : Prop :=
  ∃ (fields : Table Value) (c : Collection) (element : Value), v = .object fields ∧
    Collects fields c ∧ fields.find? "elementType" = some element ∧ element.isGiven = true ∧
    ∀ s, element ≠ .text s

theorem descriptorOfFull_ok_iff {v : Value} :
    (∃ raw, descriptorOfFull v = .ok raw) ↔ ¬HasNamelessElement v := by
  constructor
  · rintro ⟨raw, hraw⟩ ⟨fields, c, element, rfl, hcollects, hfound, hnameless⟩
    rw [descriptorOfFull_of_collects hcollects, hfound, Option.getD_some, prefixed_eq,
      elementName?_eq_none_iff.mpr hnameless] at hraw
    cases hraw
  · intro h
    by_cases hc : ∃ fields c, v = .object fields ∧ Collects fields c
    · obtain ⟨fields, c, rfl, hcollects⟩ := hc
      rw [descriptorOfFull_of_collects hcollects, prefixed_eq]
      cases hfound : Table.find? fields "elementType" with
      | none => exact ⟨_, rfl⟩
      | some element =>
        rw [Option.getD_some]
        cases hname : elementName? element with
        | some name => exact ⟨_, rfl⟩
        | none =>
          have hnameless := elementName?_eq_none_iff.mp hname
          exact absurd ⟨fields, c, element, rfl, hcollects, hfound, hnameless⟩ h
    · exact descriptorOfFull_of_not_collects fun fields c he hcollects =>
        hc ⟨fields, c, he, hcollects⟩

end Argument

theorem TypeName.leads_nil : TypeName.leads [] = 0 := leads_of_none rfl

namespace Schema
open Argument (elementName?)
variable {overrides : Overrides} {schema : Schema}

theorem schemaOf_inj {c : Collection} {s t : Schema} : c.schemaOf s = c.schemaOf t ↔ s = t := by
  cases c <;> simp [Collection.schemaOf]

/-- What the Full view has for a collection of this element. -/
def pair (c : Collection) (element : Value) : Value :=
  .object [("type", .text c.fullName), ("elementType", element)]

theorem descriptorOfFull_pair (c : Collection) (element : Value) :
    Argument.descriptorOfFull (pair c element) = Argument.prefixed c.lead element := by
  cases c <;> rfl

section
variable [Stack]

theorem result_ofRaw_text_iff {name : String} :
    (ofRaw overrides .standard (.text name)).result = .ok schema ↔
      TypeName.leads name.toList ≤ Stack.levels .readType ∧
        schema = (ofDescriptor overrides .standard
          (TypeName.descriptor .standard name.toList)).value := by
  rw [ofRaw, Traced.bind_ok_iff]
  simp only [Descriptor.result_classify_text, TypeName.classify_ok_iff, Traced.result_lift,
    Except.ok.injEq]
  constructor
  · rintro ⟨d, ⟨hleads, rfl⟩, rfl⟩
    exact ⟨hleads, rfl⟩
  · rintro ⟨hleads, rfl⟩
    exact ⟨_, ⟨hleads, rfl⟩, rfl⟩

/-- A lead in front of a name makes the collection of what the name means, with one more call. -/
theorem result_ofRaw_lead_iff {c : Collection} {name : String} :
    (ofRaw overrides .standard (.text (c.lead ++ name))).result = .ok (c.schemaOf schema) ↔
      TypeName.leads name.toList < Stack.levels .readType ∧
        (ofRaw overrides .standard (.text name)).result = .ok schema := by
  have hcollected : (ofDescriptor overrides .standard
      (TypeName.descriptor .standard (c.lead ++ name).toList)).value =
        c.schemaOf (ofDescriptor overrides .standard
          (TypeName.descriptor .standard name.toList)).value := by
    cases c with
    | array =>
      change (ofDescriptor overrides .standard
        (TypeName.descriptor .standard (TypeName.arrayLead ++ name).toList)).value = _
      rw [TypeName.descriptor_arrayLead, ofDescriptor]
      rfl
    | map =>
      change (ofDescriptor overrides .standard
        (TypeName.descriptor .standard (TypeName.mapLead ++ name).toList)).value = _
      rw [TypeName.descriptor_mapLead, ofDescriptor]
      rfl
  rw [result_ofRaw_text_iff, result_ofRaw_text_iff, hcollected, schemaOf_inj, c.leads_lead,
    Nat.succ_le_iff]
  constructor
  · rintro ⟨hleads, hschema⟩
    exact ⟨hleads, hleads.le, hschema⟩
  · rintro ⟨hleads, _, hschema⟩
    exact ⟨hleads, hschema⟩

/-- The value of the Full view is rewritten, and the schema translates what it is rewritten to. -/
def OfFull (overrides : Overrides) (v : Value) (schema : Schema) : Prop :=
  ∃ raw, Argument.descriptorOfFull v = .ok raw ∧
    (ofRaw overrides .standard raw).result = .ok schema

/-- The pair of a collection translates to the collection of what the element's name means. -/
theorem ofFull_pair_iff {c : Collection} {element : Value} :
    OfFull overrides (pair c element) (c.schemaOf schema) ↔
      ∃ name, elementName? element = some name ∧
        TypeName.leads name.toList < Stack.levels .readType ∧
          (ofRaw overrides .standard (.text name)).result = .ok schema := by
  rw [OfFull, descriptorOfFull_pair, Argument.prefixed_eq]
  cases elementName? element with
  | none => simp
  | some name =>
    simp only [Except.ok.injEq, exists_eq_left', Option.some.injEq, result_ofRaw_lead_iff]

theorem result_ofRaw_empty :
    (ofRaw overrides .standard (.text "")).result = .ok (ofName overrides .standard "").value := by
  have hdescriptor : TypeName.descriptor .standard "".toList = .reference "" :=
    TypeName.descriptor_reference (by decide) rfl rfl
  rw [result_ofRaw_text_iff, hdescriptor, ofDescriptor, String.toList_empty, TypeName.leads_nil]
  exact ⟨Nat.zero_le _, rfl⟩

/-- Whatever counts as nothing, and is no text, has the nameless name. -/
theorem result_ofRaw_not_given {v : Value} (h : v.isGiven = false) (htext : ∀ s, v ≠ .text s) :
    (ofRaw overrides .standard v).result =
      .ok (ofName overrides .standard Descriptor.namelessName).value := by
  have hclassify : Descriptor.classify .standard v = pure (.reference Descriptor.namelessName) := by
    cases v with
    | text s => exact absurd rfl (htext s)
    | object fields =>
      obtain rfl : fields = [] := by simpa [Value.isGiven] using h
      exact Descriptor.classifyAt_shapeless nofun rfl
    | _ =>
      rw [Descriptor.classify, Descriptor.classifyAt]
      all_goals simp
  rw [ofRaw, hclassify, pure_bind, Traced.result_lift, ofDescriptor]

/-- The pair of a collection means the collection of its element exactly if the element is text with
room for one more lead, or counts as nothing where the empty name means the same as the nameless
one. -/
theorem ofFull_pair_iff_of_ok {c : Collection} {e : Value}
    (h : (ofRaw overrides .standard e).result = .ok schema) :
    OfFull overrides (pair c e) (c.schemaOf schema) ↔
      (∃ s, e = .text s ∧ TypeName.leads s.toList < Stack.levels .readType) ∨
        e.isGiven = false ∧
          (ofName overrides .standard "").value =
            (ofName overrides .standard Descriptor.namelessName).value := by
  have hroom : 0 < Stack.levels .readType := Nat.lt_of_lt_of_le (by decide) (Stack.ample .readType)
  rw [ofFull_pair_iff]
  by_cases htext : ∃ s, e = .text s
  · obtain ⟨s, rfl⟩ := htext
    by_cases hs : s = ""
    · subst hs
      rw [← TypeName.leads_nil] at hroom
      exact iff_of_true ⟨_, rfl, hroom, h⟩ (Or.inl ⟨_, rfl, hroom⟩)
    · simp [elementName?, Value.isGiven, hs, h]
  · have hne := not_exists.mp htext
    rw [Argument.elementName?_of_not_text hne]
    cases hgiven : e.isGiven with
    | true => simp [hne]
    | false =>
      have hschema := Except.ok.inj ((result_ofRaw_not_given hgiven hne).symm.trans h)
      simp [hne, result_ofRaw_empty, hschema, TypeName.leads_nil, hroom]

end

end Schema

namespace Operation
open Argument (HasNamelessElement)
open Traced (Succeeds)
variable {full : FullView} {console : ConsoleView} {overrides : Overrides} {options : Options}
  {a : Arguments}

/-! ### What a translation reads -/

section
variable [Stack]

/-- The declared type can be translated: the Console view's if there is one, otherwise the Full
view's, which has to be rewritten first. -/
structure Declaration.Readable (d : Declaration) : Prop where
  own : ∀ type, d.console.find? "type" = some type →
    Descriptor.Readable (Stack.levels .readType) type
  other : d.console.find? "type" = none → ∀ type, d.full.find? "type" = some type →
    ¬HasNamelessElement type ∧ ∀ raw, Argument.descriptorOfFull type = .ok raw →
      Descriptor.Readable (Stack.levels .readType) raw

theorem readable_null {levels : Nat} : Descriptor.Readable levels .null :=
  ⟨nofun, nofun, nofun⟩

theorem Declaration.readable_iff {d : Declaration} :
    d.Readable ↔ ∃ raw, d.Types raw ∧ Descriptor.Readable (Stack.levels .readType) raw := by
  constructor
  · rintro ⟨own, other⟩
    cases hown : d.console.find? "type" with
    | some type => exact ⟨type, .own hown, own type hown⟩
    | none =>
      cases hother : d.full.find? "type" with
      | none => exact ⟨.null, .neither hown hother, readable_null⟩
      | some type =>
        obtain ⟨hnamed, hreadable⟩ := other hown type hother
        obtain ⟨raw, hraw⟩ := Argument.descriptorOfFull_ok_iff.mpr hnamed
        exact ⟨raw, .other hown hother hraw, hreadable raw hraw⟩
  · rintro ⟨raw, htypes, hreadable⟩
    refine ⟨fun type hown => ?_, fun hnone type hother => ?_⟩
    · have hraw := rawType_ok_iff.mpr htypes
      rw [rawType_ok_iff.mpr (.own hown)] at hraw
      obtain rfl := Except.ok.inj hraw
      exact hreadable
    · cases htypes with
      | own hown =>
        rw [hnone] at hown
        cases hown
      | neither _ hnone' =>
        rw [hother] at hnone'
        cases hnone'
      | other _ hother' hraw =>
        obtain rfl := Option.some.inj (hother.symm.trans hother')
        refine ⟨Argument.descriptorOfFull_ok_iff.mp ⟨raw, hraw⟩, fun other h => ?_⟩
        obtain rfl := Except.ok.inj (hraw.symm.trans h)
        exact hreadable

theorem succeeds_schema_iff {name : String} :
    Succeeds ((argumentsOf full console overrides).schema name) ↔
      (declarationOf full console name).Readable := by
  rw [Arguments.schema, Traced.succeeds_bind_iff, Declaration.readable_iff]
  simp only [rawType_argumentsOf_ok_iff, Schema.succeeds_ofRaw_iff,
    Descriptor.succeeds_classify_iff]

theorem succeeds_variableSchema_iff {name : String} :
    Succeeds (a.variableSchema name) ↔ Succeeds (a.schema name) := by
  rw [Arguments.variableSchema, Arguments.schema, Traced.succeeds_bind_iff,
    Traced.succeeds_bind_iff]
  refine exists_congr fun raw => and_congr_right fun _ => ?_
  split
  · refine iff_of_true (Traced.succeeds_pure _) ?_
    rw [Schema.succeeds_ofRaw_iff, Descriptor.succeeds_classify_iff]
    exact readable_null
  · rfl

theorem succeeds_addParameter_iff (a : Arguments) (inputs : Inputs) (p : Parameter) :
    Succeeds (addParameter a inputs p) ↔ Succeeds (a.schema p.name) := by
  refine Traced.succeeds_bind_of_forall fun schema => ?_
  dsimp only
  split
  · split <;> exact ⟨_, rfl⟩
  · exact Traced.succeeds_pure _

theorem succeeds_addVariable {ps : List OperationParameter} {name : String}
    (h : Succeeds (a.schema name)) : Succeeds (addVariable a ps name) := by
  unfold addVariable
  split
  · exact Traced.succeeds_pure _
  · obtain ⟨schema, hs⟩ := succeeds_variableSchema_iff.mpr h
    exact ⟨_, Traced.bind_ok_iff.mpr ⟨(), rfl, Traced.bind_ok_iff.mpr ⟨schema, hs, rfl⟩⟩⟩

/-- What a function returns is translated by its name where it is an object, and has no description
otherwise, so that only the leads of a name can be too many. -/
theorem succeeds_make_iff {returns : Value} :
    Succeeds (Responses.make overrides options returns) ↔
      ∀ s, returns = .text s → TypeName.leads s.toList ≤ Stack.levels .readType := by
  refine (Traced.succeeds_bind_of_forall fun _ => Traced.succeeds_pure _).trans ?_
  unfold Responses.returnSchema
  split
  · exact iff_of_true (Traced.succeeds_pure _) nofun
  · refine iff_of_true (Traced.succeeds_pure _) ?_
    rintro s ⟨⟩
    rw [String.toList_empty, TypeName.leads_nil]
    exact Nat.zero_le _
  · exact iff_of_true (Traced.succeeds_map_iff.mpr (Traced.succeeds_lift _)) nofun
  · rename_i hobject
    rw [Traced.succeeds_map_iff, Schema.succeeds_ofRaw_iff, Descriptor.succeeds_classify_iff,
      Descriptor.readable_iff_of_not_object hobject]

/-- The names of the arguments that an operation needs the types of. -/
def argumentsRead (console : ConsoleView) (url method : String) : List String :=
  (usedBy console method).map Parameter.name ++ UrlTemplate.placeholders url

/-- An operation is built exactly if the type of each argument that it needs can be translated, and
what the function returns can be rewritten and read. -/
theorem succeeds_build_iff {url method : String} :
    Succeeds (build full console overrides options url method) ↔
      (∀ n ∈ argumentsRead console url method,
        Succeeds ((argumentsOf full console overrides).schema n)) ∧
      ∃ returns, returned full console = .ok returns ∧
        ∀ s, returns = .text s → TypeName.leads s.toList ≤ Stack.levels .readType := by
  constructor
  · rintro ⟨o, ho⟩
    obtain ⟨inputs, returns, hb⟩ := build_ok ho
    have hused := (Traced.succeeds_foldlM_iff (succeeds_addParameter_iff _)).mp ⟨inputs, hb.used⟩
    obtain ⟨henters, _⟩ := addParameters_ok hb.used
    obtain ⟨added, _, hfills⟩ := addVariables_ok hb.placeholders
    refine ⟨fun n hn => ?_, returns, hb.returned,
      succeeds_make_iff.mp ⟨_, hb.responses⟩⟩
    rcases List.mem_append.mp hn with hn | hn
    · obtain ⟨p, hp, rfl⟩ := List.mem_map.mp hn
      exact hused p hp
    -- A placeholder is in the path because of an argument, or it was missing.
    by_cases hpath : n ∈ pathNames inputs.parameters
    · rw [pathNames_of_enters henters] at hpath
      obtain ⟨p, hp, rfl⟩ := List.mem_map.mp hpath
      exact hused p (List.mem_filter.mp (List.mem_filter.mp hp).1).1
    · obtain ⟨_, _, schema, hs, _⟩ :=
        exists_of_mem_right hfills.flip (mem_missing.mpr ⟨hn, hpath⟩)
      exact succeeds_variableSchema_iff.mp ⟨schema, hs⟩
  · rintro ⟨hread, returns, hreturns, hleads⟩
    obtain ⟨inputs, hinputs⟩ : Succeeds ((usedBy console method).foldlM
        (addParameter (argumentsOf full console overrides)) ⟨[], none⟩) :=
      (Traced.succeeds_foldlM_iff (succeeds_addParameter_iff _)).mpr fun p hp =>
        hread p.name (List.mem_append_left _ (List.mem_map_of_mem hp))
    obtain ⟨parameters, hparameters⟩ : Succeeds ((UrlTemplate.placeholders url).foldlM
        (addVariable (argumentsOf full console overrides)) inputs.parameters) :=
      Traced.succeeds_foldlM
        (fun _ n hn => succeeds_addVariable (hread n (List.mem_append_right _ hn))) _
    obtain ⟨responses, hresponses⟩ : Succeeds (Responses.make overrides options returns) :=
      succeeds_make_iff.mpr hleads
    simp only [Succeeds, build, Traced.lift_bind_result, Traced.note_bind_result]
    exact ⟨_, Traced.bind_ok_iff.mpr ⟨inputs, hinputs, Traced.bind_ok_iff.mpr ⟨parameters,
      hparameters, Traced.bind_ok_iff.mpr ⟨returns, hreturns, Traced.bind_ok_iff.mpr
        ⟨responses, hresponses, rfl⟩⟩⟩⟩⟩

/-- The function is called with this Console view and this method. -/
structure Called (f : JoinedFunction) (view : ConsoleView) (given : String) : Prop where
  console : f.console = some view
  url : urlOf view ≠ ""
  method : filled view.method = some given

theorem succeeds_translate_iff {f : JoinedFunction} :
    Succeeds (translate f.full f.console overrides options) ↔
      ∀ view method, Called f view method →
        Succeeds (build f.full view overrides options (urlOf view) (methodOf method)) := by
  rcases translate_cases f.full f.console overrides options with
    ⟨hnone, he⟩ | ⟨view, hview, ⟨hurl, he⟩ | ⟨_, hmethod, he⟩ | ⟨method, hurl, hmethod, he⟩⟩
  · refine iff_of_true ⟨none, by rw [he, result_refused]⟩ fun view method h => ?_
    cases hnone.symm.trans h.console
  · refine iff_of_true ⟨none, by rw [he, result_refused]⟩ fun other method h => ?_
    obtain rfl := Option.some.inj (hview.symm.trans h.console)
    exact absurd hurl h.url
  · refine iff_of_true ⟨none, by rw [he, result_refused]⟩ fun other method h => ?_
    obtain rfl := Option.some.inj (hview.symm.trans h.console)
    cases hmethod.symm.trans h.method
  · rw [he, Traced.succeeds_map_iff]
    refine ⟨fun hs other method' h => ?_, fun hall => hall view method ⟨hview, hurl, hmethod⟩⟩
    obtain rfl := Option.some.inj (hview.symm.trans h.console)
    obtain rfl := Option.some.inj (hmethod.symm.trans h.method)
    exact hs

/-- All types that a function called so needs can be translated. -/
structure TypesReadable (f : JoinedFunction) (view : ConsoleView) (method : String) : Prop where
  arguments : ∀ n ∈ argumentsRead view (urlOf view) (methodOf method),
    (declarationOf f.full view n).Readable
  returns : view.returns = .null → ¬HasNamelessElement f.full.returns
  named : ∀ s, returned f.full view = .ok (.text s) → TypeName.leads s.toList ≤ Stack.levels .readType

omit [Stack] in
theorem returned_ok_iff :
    (∃ returns, returned full console = .ok returns) ↔
      (console.returns = .null → ¬HasNamelessElement full.returns) := by
  rw [← Argument.descriptorOfFull_ok_iff]
  unfold returned
  cases console.returns <;> simp [Value.isNull]

theorem succeeds_build_iff_readable {f : JoinedFunction} {view : ConsoleView} {method : String} :
    Succeeds (build f.full view overrides options (urlOf view) (methodOf method)) ↔
      TypesReadable f view method := by
  rw [succeeds_build_iff]
  simp only [succeeds_schema_iff]
  constructor
  · rintro ⟨harguments, returns, hreturns, hleads⟩
    refine ⟨harguments, returned_ok_iff.mp ⟨returns, hreturns⟩, fun s hs => hleads s ?_⟩
    exact Except.ok.inj (hreturns.symm.trans hs)
  · rintro ⟨harguments, hreturns, hnamed⟩
    obtain ⟨returns, hreturned⟩ := returned_ok_iff.mpr hreturns
    exact ⟨harguments, returns, hreturned, fun s hs => hnamed s (hs ▸ hreturned)⟩

end

end Operation

namespace Routes
open Operation (Called TypesReadable)
open Schema (OfFull ofName ofRaw pair)
open Traced (Succeeds)

/-- One function that cannot be translated stops them all. -/
theorem succeeds_build_iff [Stack] {console full : Table Value} {overrides : Overrides}
    {options : Options} :
    Succeeds (build console full overrides options) ↔
      ∀ f ∈ (JoinedFunction.join console full).value, ∀ view method, Called f view method →
        TypesReadable f view method := by
  have hstep : ∀ routes f, Succeeds (addFunction overrides options routes f) ↔
      ∀ view method, Called f view method → TypesReadable f view method := by
    intro routes f
    simp only [← @Operation.succeeds_build_iff_readable overrides options,
      ← Operation.succeeds_translate_iff]
    refine Traced.succeeds_bind_of_forall fun made => ?_
    cases made with
    | none => exact Traced.succeeds_pure _
    | some r => exact Traced.succeeds_lift _
  rw [← Traced.succeeds_foldlM_iff hstep]
  rfl

/-- Where an element can be translated, the Full view's pair for a collection of it means the
collection of that translation exactly if the element is text and the stack has room for one more
lead, or it counts as nothing and the empty name means the same as the nameless one. Only a nameless element cannot be rewritten, and the routes
are built exactly if every function called over HTTP needs readable types alone. -/
theorem full_types_iff [Stack] (overrides : Overrides) :
    (∀ c e schema, (ofRaw overrides .standard e).result = .ok schema →
      (OfFull overrides (pair c e) (c.schemaOf schema) ↔
        (∃ s, e = .text s ∧ TypeName.leads s.toList < Stack.levels .readType) ∨
          e.isGiven = false ∧
            (ofName overrides .standard "").value =
              (ofName overrides .standard Descriptor.namelessName).value)) ∧
    (∀ v, (∃ raw, Argument.descriptorOfFull v = .ok raw) ↔ ¬Argument.HasNamelessElement v) ∧
    ∀ console full options, Succeeds (build console full overrides options) ↔
      ∀ f ∈ (JoinedFunction.join console full).value, ∀ view method, Called f view method →
        TypesReadable f view method :=
  ⟨fun _ _ _ => Schema.ofFull_pair_iff_of_ok, fun _ => Argument.descriptorOfFull_ok_iff,
    fun _ _ _ => succeeds_build_iff⟩

/-- A Console catalogue of one function, which leaves the type of its argument to the Full view. -/
def untypedConsole : Table Value :=
  [("functions", .object
    [("F", .object
      [("http_method", .text "GET"), ("url", .text "/x"), ("usage", .text "F [id]"),
        ("arguments", .list [.object [("id", .object [])]])])])]

/-- The Full catalogue with the type of the argument. -/
def typedFull (type : Value) : Table Value :=
  [("functions", .object
    [("F", .object
      [("name", .text "F"),
        ("arguments", .list [.object [("name", .text "id"), ("type", type)]])])])]

open Stack.Usual in
theorem full_types_iff_named :
    OfFull [] (pair .map (.text "Foo")) (.map (.reference "Foo")) ∧
      Succeeds (build untypedConsole (typedFull (pair .map (.text "Foo"))) [] {}) := by
  have hleads : TypeName.leads "Foo".toList = 0 := TypeName.leads_of_none rfl
  have hfoo : (ofRaw [] .standard (.text "Foo")).result = .ok (.reference "Foo") := by
    refine Schema.result_ofRaw_text_iff.mpr ⟨by rw [hleads]; decide, ?_⟩
    rw [TypeName.descriptor_reference (by decide) rfl rfl]
    rfl
  have hroom : TypeName.leads "Foo".toList < Stack.levels .readType := by
    rw [hleads]
    decide
  exact ⟨((full_types_iff []).1 .map _ _ hfoo).mpr (Or.inl ⟨"Foo", rfl, hroom⟩),
    Traced.succeeds_of_isOk (by decide +kernel)⟩

open Stack.Usual in
/-- A wrapper stops the run as an element, and null is another name as an element, though each can be
translated itself. -/
theorem nameless_element_stops :
    let wrapper : Value := .object [("Foo", .object [])]
    let zero : Overrides := [("0", .text "Zero")]
    (ofRaw [] .standard wrapper).result = .ok (.reference "Foo") ∧
      Argument.descriptorOfFull (pair .array wrapper) = .error .wrongType ∧
      (build untypedConsole (typedFull (pair .array wrapper)) [] {}).result = .error .wrongType ∧
      (ofRaw zero .standard .null).result = .ok (.reference "Zero") ∧
      ¬OfFull zero (pair .array .null) (.array (.reference "Zero")) := by
  have hnull : (ofRaw [("0", .text "Zero")] .standard .null).result = .ok (.reference "Zero") := rfl
  refine ⟨rfl, rfl, rfl, hnull, fun h => ?_⟩
  rcases (Schema.ofFull_pair_iff_of_ok (c := .array) hnull).mp h with ⟨s, hs, _⟩ | ⟨_, hname⟩
  · cases hs
  · have hsame : "AnyType" = "Zero" := Schema.reference.inj hname
    exact absurd hsame (by decide)

end Routes
end ServiceAtlas
