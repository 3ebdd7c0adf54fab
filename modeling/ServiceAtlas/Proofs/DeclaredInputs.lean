import ServiceAtlas.Proofs.Parameters
import ServiceAtlas.Proofs.Quiet

/-!
The inputs of an operation against what the two views declare: which parameter and which body comes
from which argument, what type each is given, and what a body that replaces another leaves behind.
-/

namespace ServiceAtlas

namespace Argument

/-- The name and the declaration in one item of the Console view's arguments. -/
def consoleSpec? : Value → Option (String × Table Value)
  | .object ((name, spec) :: _) => some (name, tableOf spec)
  | _ => none

/-- The name and the declaration in one item of the Full view's arguments. -/
def fullSpec? (entry : Value) : Option (String × Table Value) :=
  if (entry.getD "name").isGiven then some ((entry.getD "name").display, tableOf entry) else none

/-- The last declaration of a name; without one nothing is declared. -/
def lastNamed (declared : List (String × Table Value)) (name : String) : Table Value :=
  ((declared.filter fun e => e.1 = name).getLast?.map Prod.snd).getD []

/-- Where each item puts into the lookup what it declares, the lookup ends as the table of all that
is declared. -/
theorem value_foldlM_declared {add : Table (Table Value) → Value → Noted (Table (Table Value))}
    {spec? : Value → Option (String × Table Value)}
    (hadd : ∀ lookup entry, (add lookup entry).value = Table.overwrite lookup (spec? entry).toList)
    (entries : List Value) :
    (entries.foldlM add []).value = Table.ofEntries (entries.filterMap spec?) := by
  have go : ∀ lookup,
      (entries.foldlM add lookup).value = Table.overwrite lookup (entries.filterMap spec?) := by
    induction entries with
    | nil => exact fun _ => rfl
    | cons entry entries ih =>
      intro lookup
      rw [List.foldlM_cons, Noted.value_bind, ih, hadd, List.filterMap_cons]
      cases spec? entry <;> rfl
  exact go []

theorem value_addConsole (lookup : Table (Table Value)) (entry : Value) :
    (addConsole lookup entry).value = Table.overwrite lookup (consoleSpec? entry).toList := by
  unfold addConsole
  split
  · rfl
  · rename_i h
    have hnone : consoleSpec? entry = none := by
      unfold consoleSpec?
      split
      · exact absurd rfl (h _ _ _)
      · rfl
    rw [hnone]
    rfl

theorem value_addFull (lookup : Table (Table Value)) (entry : Value) :
    (addFull lookup entry).value = Table.overwrite lookup (fullSpec? entry).toList := by
  unfold addFull fullSpec?
  dsimp only
  split <;> rfl

end Argument

namespace Operation

/-- What the two views declare of one argument. -/
structure Declaration where
  console : Table Value
  full : Table Value

/-- In both views the last declaration of a name counts. -/
def declarationOf (full : FullView) (console : ConsoleView) (name : String) : Declaration :=
  ⟨Argument.lastNamed (console.arguments.filterMap Argument.consoleSpec?) name,
    Argument.lastNamed (full.arguments.filterMap Argument.fullSpec?) name⟩

namespace Declaration
variable {d : Declaration}

/-- The declared type: the Console view's, or else the Full view's in the syntax of the Console
view. -/
inductive Types (d : Declaration) : Value → Prop
  | own {type : Value} (h : d.console.find? "type" = some type) : Types d type
  | other {type raw : Value} (hown : d.console.find? "type" = none)
      (hother : d.full.find? "type" = some type) (h : Argument.descriptorOfFull type = .ok raw) :
      Types d raw
  | neither (hown : d.console.find? "type" = none) (hother : d.full.find? "type" = none) :
      Types d .null

theorem rawType_ok_iff {raw : Value} :
    Argument.rawType d.console d.full = .ok raw ↔ d.Types raw := by
  unfold Argument.rawType
  constructor
  · intro h
    split at h
    · rename_i type hown
      obtain rfl := Except.ok.inj h
      exact .own hown
    · rename_i hown
      split at h
      · rename_i type hother
        exact .other hown hother h
      · rename_i hother
        obtain rfl := Except.ok.inj h
        exact .neither hown hother
  · rintro (hown | ⟨hown, hother, h⟩ | ⟨hown, hother⟩)
    · simp only [hown]
    · simp only [hown, hother, h]
    · simp only [hown, hother]

def description (d : Declaration) : Option Value := Argument.description d.console d.full

/-- The declaration says that the argument is not optional. -/
def Demanded (d : Declaration) : Prop := d.console.find? "optional" = some (.bool false)

theorem isRequired_iff : Argument.isRequired d.console = true ↔ d.Demanded := by
  unfold Argument.isRequired Demanded
  split
  · rename_i h
    simp [h]
  · rename_i h
    exact iff_of_false Bool.false_ne_true h

/-- The schema translates the declared type. -/
def Typed [Stack] (d : Declaration) (overrides : Overrides) (schema : Schema) : Prop :=
  ∃ raw, d.Types raw ∧ (Schema.ofRaw overrides .standard raw).result = .ok schema

/-- The schema translates the declared type, and is plain text where that is null. -/
inductive TypedOrText [Stack] (d : Declaration) (overrides : Overrides) : Schema → Prop
  | text (h : d.Types .null) : TypedOrText d overrides (.fixed (Vocabulary.scalar "string"))
  | typed {raw : Value} {schema : Schema} (h : d.Types raw) (hne : raw ≠ .null)
      (hs : (Schema.ofRaw overrides .standard raw).result = .ok schema) :
      TypedOrText d overrides schema

end Declaration
variable {full : FullView} {console : ConsoleView} {overrides : Overrides} {options : Options}
  {a : Arguments}

theorem consoleOf_argumentsOf (overrides : Overrides) (name : String) :
    (argumentsOf full console overrides).consoleOf name =
      (declarationOf full console name).console := by
  simp only [Arguments.consoleOf, argumentsOf, Argument.consoleLookup, declarationOf,
    Argument.lastNamed, Argument.value_foldlM_declared Argument.value_addConsole,
    Table.find?_ofEntries]

theorem fullOf_argumentsOf (overrides : Overrides) (name : String) :
    (argumentsOf full console overrides).fullOf name = (declarationOf full console name).full := by
  simp only [Arguments.fullOf, argumentsOf, Argument.fullLookup, declarationOf, Argument.lastNamed,
    Argument.value_foldlM_declared Argument.value_addFull, Table.find?_ofEntries]

theorem rawType_argumentsOf_ok_iff {name : String} {raw : Value} :
    ((argumentsOf full console overrides).rawType name).result = .ok raw ↔
      (declarationOf full console name).Types raw := by
  rw [← Declaration.rawType_ok_iff, ← consoleOf_argumentsOf overrides,
    ← fullOf_argumentsOf overrides]
  rfl

theorem description_argumentsOf (name : String) :
    (argumentsOf full console overrides).description name =
      (declarationOf full console name).description := by
  rw [Arguments.description, consoleOf_argumentsOf, fullOf_argumentsOf, Declaration.description]

theorem isRequired_argumentsOf_iff (overrides : Overrides) {name : String} :
    (argumentsOf full console overrides).isRequired name = true ↔
      (declarationOf full console name).Demanded := by
  rw [Arguments.isRequired, consoleOf_argumentsOf, Declaration.isRequired_iff]

/-! ### Warnings -/

def warnings (notes : List Diagnostic) : List Diagnostic := notes.filter fun d => d.level = .warning

theorem warnings_append (before after : List Diagnostic) :
    warnings (before ++ after) = warnings before ++ warnings after := List.filter_append ..

theorem warnings_of_aside {notes : List Diagnostic} (h : ∀ d ∈ notes, d.Aside) :
    warnings notes = [] := by
  refine List.filter_eq_nil_iff.mpr fun d hd hw => ?_
  have hlevel := (h d hd).detail.symm.trans (of_decide_eq_true hw)
  cases hlevel

theorem warnings_cons_of_aside {d : Diagnostic} {notes : List Diagnostic} (h : d.Aside) :
    warnings (d :: notes) = warnings notes :=
  List.filter_cons_of_neg (by simp [h.detail])

/-! ### Inputs -/

section
variable [Stack]

theorem typed_of_schema {name : String} {schema : Schema}
    (h : ((argumentsOf full console overrides).schema name).result = .ok schema) :
    (declarationOf full console name).Typed overrides schema := by
  obtain ⟨raw, hraw, hs⟩ := Traced.bind_ok_iff.mp h
  exact ⟨raw, rawType_argumentsOf_ok_iff.mp hraw, hs⟩

theorem typedOrText_of_variableSchema {name : String} {schema : Schema}
    (h : ((argumentsOf full console overrides).variableSchema name).result = .ok schema) :
    (declarationOf full console name).TypedOrText overrides schema := by
  obtain ⟨raw, hraw, hs⟩ := Traced.bind_ok_iff.mp h
  have htypes := rawType_argumentsOf_ok_iff.mp hraw
  split at hs
  · obtain rfl := Except.ok.inj hs
    exact .text htypes
  · rename_i hne
    exact .typed htypes hne hs

/-! ### What each input comes from -/

/-- A parameter is declared by the usage line, and the rest of it by the argument's declaration. -/
structure StandsFor (overrides : Overrides) (declared : String → Declaration) (p : Parameter)
    (e : OperationParameter) : Prop where
  placement : e.placement = p.placement
  name : e.name = p.name
  description : e.description = (declared p.name).description
  typed : (declared p.name).Typed overrides e.schema
  required_iff : e.required = true ↔ p.placement = .path ∨ (declared p.name).Demanded

/-- A parameter of the path is declared by the URL alone. -/
structure Supplies (overrides : Overrides) (declared : String → Declaration) (placeholder : String)
    (e : OperationParameter) : Prop where
  placement : e.placement = .path
  name : e.name = placeholder
  description : e.description = (declared placeholder).description
  typed : (declared placeholder).TypedOrText overrides e.schema
  required : e.required = true

/-- A body comes from one argument and from no other. -/
structure MakesBody (overrides : Overrides) (declared : String → Declaration) (p : Parameter)
    (b : RequestBody) : Prop where
  description : b.description = (declared p.name).description
  typed : (declared p.name).Typed overrides b.schema
  required_iff : b.required = true ↔ (declared p.name).Demanded

theorem StandsFor.of_enters {p : Parameter} {e : OperationParameter}
    (h : Enters (argumentsOf full console overrides) p e) :
    StandsFor overrides (declarationOf full console) p e := by
  obtain ⟨schema, hs, rfl⟩ := h
  refine ⟨rfl, rfl, description_argumentsOf p.name, typed_of_schema hs, ?_⟩
  rw [← isRequired_argumentsOf_iff overrides]
  simp [Arguments.entry]

theorem Supplies.of_fills {name : String} {e : OperationParameter}
    (h : Fills (argumentsOf full console overrides) name e) :
    Supplies overrides (declarationOf full console) name e := by
  obtain ⟨schema, hs, rfl⟩ := h
  exact ⟨rfl, rfl, description_argumentsOf name, typedOrText_of_variableSchema hs, rfl⟩

theorem MakesBody.of_embodies {p : Parameter} {b : RequestBody}
    (h : Embodies (argumentsOf full console overrides) p b) :
    MakesBody overrides (declarationOf full console) p b := by
  obtain ⟨schema, hs, rfl⟩ := h
  exact ⟨description_argumentsOf p.name, typed_of_schema hs, isRequired_argumentsOf_iff overrides⟩

/-- The names in the path are those of the arguments that the usage line puts there. -/
theorem pathNames_of_enters {used : List Parameter} {declared : List OperationParameter}
    (h : List.Forall₂ (Enters a) used declared) :
    pathNames declared = (used.filter fun p => p.placement = .path).map Parameter.name := by
  induction h with
  | nil => rfl
  | @cons p _ _ _ henter _ ih =>
    obtain ⟨schema, _, rfl⟩ := henter
    have hplace : (a.entry p schema).placement = p.placement := rfl
    unfold pathNames at ih ⊢
    rw [List.filter_cons, List.filter_cons, hplace]
    split
    · rw [List.map_cons, List.map_cons, ih]
      rfl
    · exact ih

/-- Missing are the placeholders that the usage line does not put into the path. -/
theorem missing_listed {used : List Parameter} {listed : List OperationParameter}
    {names : List String}
    (h : List.Forall₂ (Enters a) (used.filter fun p => p.placement ≠ .body) listed) :
    missing listed names = (names.filter fun n =>
      n ∉ (used.filter fun p => p.placement = .path).map Parameter.name).eraseDups := by
  have hpath : ∀ p ∈ used, (decide (p.placement = .path) && decide (p.placement ≠ .body)) =
      decide (p.placement = .path) := by
    intro p _
    cases p.placement <;> rfl
  rw [missing, pathNames_of_enters h, List.filter_filter, List.filter_congr hpath]

/-! ### Bodies that are replaced -/

/-- Only a second body makes the step warn. -/
theorem warnings_addParameter {inputs out : Inputs} {p : Parameter}
    (h : (addParameter a inputs p).result = .ok out) :
    warnings (addParameter a inputs p).notes =
      if p.placement = .body ∧ inputs.body.isSome then [.secondBody a.function p.name] else [] := by
  unfold addParameter at h ⊢
  obtain ⟨schema, hs, h⟩ := Traced.bind_ok_iff.mp h
  rw [Traced.notes_bind_of_ok hs, warnings_append, warnings_of_aside (aside_schema a p.name),
    List.nil_append]
  cases hplace : p.placement with
  | body =>
    cases inputs.body with
    | none => rfl
    | some b => rfl
  | path => rfl
  | query => rfl

/-- Each body but the first makes the usage line warn once, in order. -/
theorem warnings_addParameters {used : List Parameter} {inputs : Inputs}
    (h : (used.foldlM (addParameter a) ⟨[], none⟩).result = .ok inputs) :
    warnings (used.foldlM (addParameter a) ⟨[], none⟩).notes =
      (used.filter fun p => p.placement = .body).tail.map fun p =>
        .secondBody a.function p.name := by
  refine (Traced.foldlM_run (fun done notes inputs =>
    warnings notes = (done.filter fun p => p.placement = .body).tail.map (fun p =>
        .secondBody a.function p.name) ∧
      (inputs.body.isSome ↔ (done.filter fun p => p.placement = .body) ≠ []))
    ?_ ⟨rfl, by simp⟩ h).1
  rintro done notes inputs p out ⟨hnotes, hbody⟩ hstep
  rw [warnings_append, warnings_addParameter hstep, hnotes, List.filter_append]
  by_cases hp : p.placement = .body
  · obtain ⟨_, b, hb, _⟩ := addParameter_body hp hstep
    rw [hb]
    refine ⟨?_, by simp [hp]⟩
    by_cases hfirst : (done.filter fun p => p.placement = .body) = []
    · have hnone : ¬inputs.body.isSome := fun hs => hbody.mp hs hfirst
      simp [hfirst, hnone, hp]
    · rw [if_pos ⟨hp, hbody.mpr hfirst⟩, List.tail_append_of_ne_nil hfirst, List.map_append]
      simp [hp]
  · obtain ⟨hsame, _⟩ := addParameter_entry hp hstep
    rw [hsame]
    simpa [hp] using hbody

/-- Of the parts of a translation only the usage line can warn. -/
theorem warnings_build {url method : String} {o : Operation}
    (h : (build full console overrides options url method).result = .ok o) :
    warnings (build full console overrides options url method).notes =
      ((usedBy console method).filter fun p => p.placement = .body).tail.map fun p =>
        .secondBody full.name p.name := by
  obtain ⟨inputs, returns, hb⟩ := build_ok h
  have hwarnings := warnings_addParameters hb.used
  have hused := hb.used
  have hplaceholders := hb.placeholders
  have hreturned : Traced.result (ExceptT.mk (pure (returned full console))) = .ok returns :=
    hb.returned
  have hrouted : Diagnostic.Aside (.routed (Text.upper method) url full.name) := ⟨rfl, rfl⟩
  have hvariables := warnings_of_aside <|
    Traced.Only.foldlM (aside_addVariable (argumentsOf full console overrides)) inputs.parameters
      (UrlTemplate.placeholders url)
  simp only [usedBy, settingOf, argumentsOf] at hwarnings hused hplaceholders hvariables
  simp only [build, Traced.lift_bind_notes, Traced.note_bind_notes]
  rw [Traced.notes_bind_of_ok hused, Traced.notes_bind_of_ok hplaceholders,
    Traced.notes_bind_of_ok hreturned, Traced.notes_bind_of_ok hb.responses]
  simp only [warnings_append, warnings_cons_of_aside hrouted,
    warnings_of_aside (Argument.aside_consoleLookup _),
    warnings_of_aside (Argument.aside_fullLookup _), warnings_of_aside (Usage.aside_parameters _ _),
    warnings_of_aside (aside_make overrides options returns), hvariables, hwarnings, List.nil_append]
  exact List.append_nil _

theorem warnings_translate {r : Route}
    (h : (translate full (some console) overrides options).result = .ok (some r)) :
    warnings (translate full (some console) overrides options).notes =
      ((usedBy console r.method).filter fun p => p.placement = .body).tail.map fun p =>
        .secondBody full.name p.name := by
  rcases translate_cases full (some console) overrides options with
    ⟨hnone, _⟩ | ⟨view, hview, ⟨_, he⟩ | ⟨_, _, he⟩ | ⟨method, _, _, he⟩⟩
  · cases hnone
  · simp [he] at h
  · simp [he] at h
  · obtain rfl := Option.some.inj hview
    rw [he] at h ⊢
    obtain ⟨o, ho, hr⟩ := Traced.map_ok_iff.mp h
    obtain rfl := Option.some.inj hr
    rw [Traced.notes_map, warnings_build ho]

/-- The parameters of an operation are the members of the usage line outside the body, in order, and
behind them the variables of the URL that are not in the path yet, each at its first place. The body
comes from the last member that makes one, and each that it replaces leaves one warning. -/
theorem inputs_declared {r : Route}
    (h : (translate full (some console) overrides options).result = .ok (some r)) :
    let used := usedBy console r.method
    let declared := declarationOf full console
    let inPath := (used.filter fun p => p.placement = .path).map Parameter.name
    let bodies := used.filter fun p => p.placement = .body
    (∃ listed added, r.operation.parameters = listed ++ added ∧
      List.Forall₂ (StandsFor overrides declared) (used.filter fun p => p.placement ≠ .body)
        listed ∧
      List.Forall₂ (Supplies overrides declared)
        ((UrlTemplate.placeholders r.url).filter fun n => n ∉ inPath).eraseDups added) ∧
    (∀ e ∈ r.operation.parameters, e.placement = .query →
      (e.required = true ↔ (declared e.name).Demanded)) ∧
    Option.Rel (MakesBody overrides declared) bodies.getLast? r.operation.body ∧
    warnings (translate full (some console) overrides options).notes =
      bodies.tail.map fun p => .secondBody full.name p.name := by
  intro used declared inPath bodies
  obtain ⟨view, _, hview, _, _, _, _, hbuild⟩ := translate_some h
  obtain rfl := Option.some.inj hview
  obtain ⟨inputs, returns, hb⟩ := build_ok hbuild
  obtain ⟨henters, hbody⟩ := addParameters_ok hb.used
  obtain ⟨added, hps, hfills⟩ := addVariables_ok hb.placeholders
  have hlisted : List.Forall₂ (StandsFor overrides declared)
      (used.filter fun p => p.placement ≠ .body) inputs.parameters :=
    henters.imp fun _ _ => StandsFor.of_enters
  have hadded : List.Forall₂ (Supplies overrides declared)
      ((UrlTemplate.placeholders r.url).filter fun n => n ∉ inPath).eraseDups added := by
    rw [← missing_listed henters]
    exact hfills.imp fun _ _ => Supplies.of_fills
  refine ⟨⟨_, added, hps, hlisted, hadded⟩, ?_, ?_, warnings_translate h⟩
  · intro e he hquery
    rw [hps] at he
    rcases List.mem_append.mp he with he | he
    · obtain ⟨p, _, hp⟩ := exists_of_mem_right hlisted he
      rw [hp.required_iff, hp.name, ← hp.placement, hquery]
      simp
    · obtain ⟨n, _, hn⟩ := exists_of_mem_right hadded he
      rw [hn.placement] at hquery
      cases hquery
  · rw [hb.body]
    exact rel_imp hbody fun _ _ => MakesBody.of_embodies

end

/-- A Console view with two bodies and a demanded argument in the query, and a URL with two variables
that the usage line leaves out. -/
def sendView : ConsoleView where
  method := some "POST"
  url := some "/x/\x7ba\x7d/\x7bb\x7d/\x7bc\x7d"
  usage := some "Send <a> <one> [q] <two>"
  arguments :=
    [.object [("a", .object [])],
      .object [("one", .object [("type", .text "string"), ("optional", .bool false)])],
      .object [("q", .object [("type", .text "int32"), ("optional", .bool false)])],
      .object [("two", .object [("type", .text "Part")])]]
  returns := .null
  description := none
  help := none
  extra := []

/-- The Full view beside it; it alone declares the types of the variables `a` and `b`. -/
def sendFull : FullView where
  name := "Send"
  description := none
  help := none
  tags := []
  arguments :=
    [.object [("name", .text "a"), ("type", .object
        [("type", .text "vector"), ("elementType", .text "string")])],
      .object [("name", .text "b"), ("type", .text "int32")]]
  returns := .null
  deprecated := none
  extra := []

open Stack.Usual in
theorem inputs_declared_send :
    ∃ r, (translate sendFull (some sendView) [] {}).result = .ok (some r) ∧
      r.operation.parameters.map (fun e => (key e, e.required)) =
        [(("path", "a"), true), (("query", "q"), true), (("path", "b"), true),
          (("path", "c"), true)] ∧
      Option.Rel (MakesBody [] (declarationOf sendFull sendView)) (some ⟨"two", .body, false⟩)
        r.operation.body ∧
      warnings (translate sendFull (some sendView) [] {}).notes = [.secondBody "Send" "two"] := by
  obtain ⟨r, hr, hshown⟩ : ∃ r,
      (translate sendFull (some sendView) [] {}).result = .ok (some r) ∧
        (r.operation.parameters.map (fun e => (key e, e.required)), r.method) =
          ([(("path", "a"), true), (("query", "q"), true), (("path", "b"), true),
            (("path", "c"), true)], "post") :=
    exists_some_of_toOption (by decide +kernel)
  obtain ⟨hkeys, hmethod⟩ := Prod.mk.inj hshown
  have hbodies : (usedBy sendView "post").filter (fun p => p.placement = .body) =
      [⟨"one", .body, false⟩, ⟨"two", .body, false⟩] := by decide +kernel
  obtain ⟨_, _, hbody, hwarnings⟩ := inputs_declared hr
  rw [hmethod, hbodies] at hbody hwarnings
  exact ⟨r, hr, hkeys, hbody, hwarnings⟩

/-- A view that gives a variable of the URL the type null. -/
def nullView : ConsoleView where
  method := some "GET"
  url := some "/x/\x7bid\x7d"
  usage := some "F"
  arguments := [.object [("id", .object [("type", .null)])]]
  returns := .null
  description := none
  help := none
  extra := []

def nullFull : FullView := ⟨"F", none, none, [], [], .null, none, []⟩

open Stack.Usual in
/-- The type null of a variable of the URL is not translated. -/
theorem null_variable_not_typed :
    ∃ r e, (translate nullFull (some nullView) [] {}).result = .ok (some r) ∧
      r.operation.parameters = [e] ∧ e.name = "id" ∧
      (declarationOf nullFull nullView "id").console.find? "type" = some .null ∧
      ¬(declarationOf nullFull nullView "id").Typed [] e.schema := by
  refine ⟨_, _, rfl, rfl, rfl, rfl, ?_⟩
  rintro ⟨raw, htypes, hs⟩
  obtain rfl : .null = raw := Except.ok.inj (Declaration.rawType_ok_iff.mpr htypes)
  cases hs

end Operation
end ServiceAtlas
