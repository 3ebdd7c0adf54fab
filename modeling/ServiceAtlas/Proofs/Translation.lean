import ServiceAtlas.Operation.Translate
import ServiceAtlas.Proofs.Tables
import ServiceAtlas.Proofs.UsageLine

/-!
The translation of one function taken apart: the way to a route, the parameters that the usage line
declares, and the variables of the URL that are declared beside them.
-/

namespace ServiceAtlas.Operation
variable {full : FullView} {console : ConsoleView} {overrides : Overrides} {options : Options}
  {a : Arguments}

/-- What the arguments of a function are looked up in. -/
def argumentsOf (full : FullView) (console : ConsoleView) (overrides : Overrides) : Arguments :=
  ⟨full.name, (Argument.consoleLookup console.arguments).value,
    (Argument.fullLookup full.arguments).value, overrides⟩

/-- What the usage line of a function is read against. -/
def settingOf (console : ConsoleView) (method : String) : Usage.Setting :=
  .make (console.url.getD "") method
    (some (Table.keys (Argument.consoleLookup console.arguments).value))

/-- The parameters that the usage line of a function declares. -/
def usedBy (console : ConsoleView) (method : String) : List Parameter :=
  (Usage.parameters (console.usage.getD "") (settingOf console method)).value

/-- The translation of a function that makes no route; the diagnostic tells why. -/
def refused (d : Diagnostic) : Traced (Option Route) := do
  Traced.note d
  return none

@[simp] theorem result_refused (d : Diagnostic) : (refused d).result = .ok none := rfl

@[simp] theorem notes_refused (d : Diagnostic) : (refused d).notes = [d] := rfl

variable [Stack]

/-- All that the translation of a function can do. -/
theorem translate_cases (full : FullView) (view : Option ConsoleView) (overrides : Overrides)
    (options : Options) :
    (view = none ∧ translate full view overrides options = refused (.noConsoleEntry full.name)) ∨
    ∃ console, view = some console ∧
      ((urlOf console = "" ∧
          translate full view overrides options = refused (.noUrl full.name)) ∨
        (urlOf console ≠ "" ∧ filled console.method = none ∧
          translate full view overrides options =
            refused (.noMethod full.name (urlOf console))) ∨
        ∃ method, urlOf console ≠ "" ∧ filled console.method = some method ∧
          translate full view overrides options =
            (fun o => some ⟨urlOf console, methodOf method, o⟩) <$>
              build full console overrides options (urlOf console) (methodOf method)) := by
  unfold translate
  cases view with
  | none => exact Or.inl ⟨rfl, rfl⟩
  | some console =>
    refine Or.inr ⟨console, rfl, ?_⟩
    by_cases hu : urlOf console = ""
    · exact Or.inl ⟨hu, by simp only [hu, if_true, refused]⟩
    · right
      simp only [hu, if_false]
      cases hm : filled console.method with
      | none => exact Or.inl ⟨hu, rfl, rfl⟩
      | some method => exact Or.inr ⟨method, hu, rfl, by simp only [map_eq_pure_bind]⟩

/-- A route comes from a Console view with a URL and a method. -/
theorem translate_some {view : Option ConsoleView} {r : Route}
    (h : (translate full view overrides options).result = .ok (some r)) :
    ∃ console method, view = some console ∧ urlOf console ≠ "" ∧
      filled console.method = some method ∧ r.url = urlOf console ∧ r.method = methodOf method ∧
      (build full console overrides options r.url r.method).result = .ok r.operation := by
  rcases translate_cases full view overrides options with
    ⟨_, he⟩ | ⟨console, hview, ⟨_, he⟩ | ⟨_, _, he⟩ | ⟨method, hu, hm, he⟩⟩
  · simp [he] at h
  · simp [he] at h
  · simp [he] at h
  · rw [he] at h
    obtain ⟨o, ho, hr⟩ := Traced.map_ok_iff.mp h
    obtain rfl := Option.some.inj hr
    exact ⟨console, method, hview, hu, hm, rfl, rfl, ho⟩

/-- What the parts of a finished operation come from. -/
structure BuiltFrom (full : FullView) (console : ConsoleView) (overrides : Overrides)
    (options : Options) (url method : String) (o : Operation) (inputs : Inputs) (returns : Value) :
    Prop where
  used : ((usedBy console method).foldlM (addParameter (argumentsOf full console overrides))
    ⟨[], none⟩).result = .ok inputs
  placeholders : ((UrlTemplate.placeholders url).foldlM
    (addVariable (argumentsOf full console overrides)) inputs.parameters).result = .ok o.parameters
  returned : returned full console = .ok returns
  responses : (Responses.make overrides options returns).result = .ok o.responses
  body : o.body = inputs.body
  id : o.id = full.name
  description : o.description = describe full console
  tags : o.tags = tagsOf full options
  deprecated : o.deprecated = isDeprecated full console

theorem build_ok {url method : String} {o : Operation}
    (h : (build full console overrides options url method).result = .ok o) :
    ∃ inputs returns, BuiltFrom full console overrides options url method o inputs returns := by
  simp only [build, Traced.lift_bind_result, Traced.note_bind_result] at h
  obtain ⟨inputs, hinputs, h⟩ := Traced.bind_ok_iff.mp h
  obtain ⟨parameters, hparameters, h⟩ := Traced.bind_ok_iff.mp h
  obtain ⟨returns, hreturns, h⟩ := Traced.bind_ok_iff.mp h
  obtain ⟨responses, hresponses, h⟩ := Traced.bind_ok_iff.mp h
  obtain rfl := Except.ok.inj h
  exact ⟨inputs, returns, hinputs, hparameters, hreturns, hresponses, rfl, rfl, rfl, rfl, rfl⟩

/-! ### The usage line -/

/-- The entry of an argument that does not travel in the body. -/
def Arguments.entry (a : Arguments) (p : Parameter) (schema : Schema) : OperationParameter :=
  ⟨p.placement, p.name, a.description p.name, schema, p.placement = .path || a.isRequired p.name⟩

/-- The body that an argument makes. -/
def Arguments.bodyOf (a : Arguments) (p : Parameter) (schema : Schema) : RequestBody :=
  ⟨a.description p.name, a.isRequired p.name, schema⟩

/-- The entry is made of the argument and of its declared type. -/
def Enters (a : Arguments) (p : Parameter) (e : OperationParameter) : Prop :=
  ∃ schema, (a.schema p.name).result = .ok schema ∧ e = a.entry p schema

/-- The body is made of the argument and of its declared type. -/
def Embodies (a : Arguments) (p : Parameter) (b : RequestBody) : Prop :=
  ∃ schema, (a.schema p.name).result = .ok schema ∧ b = a.bodyOf p schema

theorem addParameter_body {inputs out : Inputs} {p : Parameter} (hp : p.placement = .body)
    (h : (addParameter a inputs p).result = .ok out) :
    out.parameters = inputs.parameters ∧ ∃ b, out.body = some b ∧ Embodies a p b := by
  unfold addParameter at h
  obtain ⟨schema, hs, h⟩ := Traced.bind_ok_iff.mp h
  simp only [hp] at h
  split at h
  · obtain ⟨_, _, h⟩ := Traced.bind_ok_iff.mp h
    obtain rfl := Except.ok.inj h
    exact ⟨rfl, _, rfl, schema, hs, rfl⟩
  · obtain rfl := Except.ok.inj h
    exact ⟨rfl, _, rfl, schema, hs, rfl⟩

theorem addParameter_entry {inputs out : Inputs} {p : Parameter} (hp : p.placement ≠ .body)
    (h : (addParameter a inputs p).result = .ok out) :
    out.body = inputs.body ∧ ∃ e, out.parameters = inputs.parameters ++ [e] ∧ Enters a p e := by
  unfold addParameter at h
  obtain ⟨schema, hs, h⟩ := Traced.bind_ok_iff.mp h
  cases hplace : p.placement with
  | body => exact absurd hplace hp
  | path =>
    simp only [hplace] at h
    obtain rfl := Except.ok.inj h
    exact ⟨rfl, _, rfl, schema, hs, by simp [Arguments.entry, hplace]⟩
  | query =>
    simp only [hplace] at h
    obtain rfl := Except.ok.inj h
    exact ⟨rfl, _, rfl, schema, hs, by simp [Arguments.entry, hplace]⟩

/-- The parameters are those arguments that do not travel in the body, in order; the body is the
last one that does. -/
theorem addParameters_ok {used : List Parameter} {inputs : Inputs}
    (h : (used.foldlM (addParameter a) ⟨[], none⟩).result = .ok inputs) :
    List.Forall₂ (Enters a) (used.filter fun p => p.placement ≠ .body) inputs.parameters ∧
      Option.Rel (Embodies a) (used.filter fun p => p.placement = .body).getLast? inputs.body := by
  refine Traced.foldlM_run (fun done _ inputs =>
    List.Forall₂ (Enters a) (done.filter fun p => p.placement ≠ .body) inputs.parameters ∧
      Option.Rel (Embodies a) (done.filter fun p => p.placement = .body).getLast? inputs.body)
    ?_ ⟨.nil, .none⟩ h
  intro done notes inputs p out ⟨hentries, hbody⟩ hstep
  by_cases hp : p.placement = .body
  · obtain ⟨hparameters, b, hb, hemb⟩ := addParameter_body hp hstep
    rw [hparameters, hb]
    refine ⟨by simpa [List.filter_append, hp] using hentries, ?_⟩
    simpa [List.filter_append, hp] using Option.Rel.some hemb
  · obtain ⟨hsame, e, he, henters⟩ := addParameter_entry hp hstep
    rw [hsame, he]
    refine ⟨?_, by simpa [List.filter_append, hp] using hbody⟩
    simpa [List.filter_append, hp] using List.rel_append hentries (.cons henters .nil)

/-! ### The variables of the URL -/

/-- The entry of a variable that the usage line does not mention. -/
def Fills (a : Arguments) (name : String) (e : OperationParameter) : Prop :=
  ∃ schema, (a.variableSchema name).result = .ok schema ∧
    e = ⟨.path, name, a.description name, schema, true⟩

/-- The placeholders that are still to be declared, each once. -/
def missing (declared : List OperationParameter) (names : List String) : List String :=
  (names.filter fun n => n ∉ pathNames declared).eraseDups

omit [Stack] in
theorem mem_missing {declared : List OperationParameter} {names : List String} {n : String} :
    n ∈ missing declared names ↔ n ∈ names ∧ n ∉ pathNames declared := by
  simp [missing]

omit [Stack] in
theorem missing_concat (declared : List OperationParameter) (names : List String) (n : String) :
    missing declared (names ++ [n]) =
      if n ∈ pathNames declared ∨ n ∈ names then missing declared names
      else missing declared names ++ [n] := by
  unfold missing
  by_cases hd : n ∈ pathNames declared
  · simp [List.filter_append, hd]
  · rw [List.filter_append, List.filter_singleton]
    simp only [hd, not_false_eq_true, decide_true, cond_true, false_or]
    rw [eraseDups_concat]
    simp only [List.mem_filter, hd, not_false_eq_true, decide_true, and_true]

omit [Stack] in
theorem pathNames_append (ps more : List OperationParameter) :
    pathNames (ps ++ more) = pathNames ps ++ pathNames more := by
  simp [pathNames]

theorem pathNames_of_fills {names : List String} {added : List OperationParameter}
    (h : List.Forall₂ (Fills a) names added) : pathNames added = names := by
  induction h with
  | nil => rfl
  | cons hfill _ ih =>
    obtain ⟨schema, _, rfl⟩ := hfill
    simpa [pathNames] using ih

theorem addVariable_known {ps out : List OperationParameter} {n : String} (hn : n ∈ pathNames ps)
    (h : (addVariable a ps n).result = .ok out) : out = ps := by
  unfold addVariable at h
  rw [if_pos (by simpa using hn)] at h
  exact (Except.ok.inj h).symm

theorem addVariable_new {ps out : List OperationParameter} {n : String} (hn : n ∉ pathNames ps)
    (h : (addVariable a ps n).result = .ok out) : ∃ e, out = ps ++ [e] ∧ Fills a n e := by
  unfold addVariable at h
  rw [if_neg (by simpa using hn)] at h
  simp only [Traced.note_bind_result] at h
  obtain ⟨schema, hs, h⟩ := Traced.bind_ok_iff.mp h
  exact ⟨_, (Except.ok.inj h).symm, schema, hs, rfl⟩

/-- Behind the parameters declared before stand the placeholders that were missing, in order. -/
theorem addVariables_ok {declared ps : List OperationParameter} {names : List String}
    (h : (names.foldlM (addVariable a) declared).result = .ok ps) :
    ∃ added, ps = declared ++ added ∧ List.Forall₂ (Fills a) (missing declared names) added := by
  refine Traced.foldlM_run (fun done _ ps =>
    ∃ added, ps = declared ++ added ∧ List.Forall₂ (Fills a) (missing declared done) added)
    ?_ ⟨[], by simp, .nil⟩ h
  rintro done notes ps n out ⟨added, rfl, hadded⟩ hstep
  have hnames : n ∈ pathNames (declared ++ added) ↔ n ∈ pathNames declared ∨ n ∈ done := by
    rw [pathNames_append, pathNames_of_fills hadded, List.mem_append, mem_missing]
    tauto
  rw [missing_concat]
  by_cases hn : n ∈ pathNames declared ∨ n ∈ done
  · rw [if_pos hn, addVariable_known (hnames.mpr hn) hstep]
    exact ⟨added, rfl, hadded⟩
  · obtain ⟨e, rfl, hfill⟩ := addVariable_new (fun hm => hn (hnames.mp hm)) hstep
    rw [if_neg hn]
    exact ⟨added ++ [e], by simp, List.rel_append hadded (.cons hfill .nil)⟩

end ServiceAtlas.Operation
