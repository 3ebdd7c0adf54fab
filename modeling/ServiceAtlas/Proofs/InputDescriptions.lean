import ServiceAtlas.Proofs.DeclaredInputs
import ServiceAtlas.Proofs.Descriptions
import ServiceAtlas.Proofs.DocumentReferences

/-!
The descriptions in an operation. That of the function is always text. That of an argument is taken over
from the payload as it stands, so that it is text exactly where the payload has text for it.
-/

namespace ServiceAtlas

/-- What stands under `description` is text, and not an empty one. -/
def Value.Worded (v : Value) : Prop :=
  ∀ d, v.get? "description" = some d → ∃ s, d = .text s ∧ s ≠ ""

namespace Operation

/-- The descriptions of an operation, of each of its parameters and of its body are text. -/
structure WordedThroughout (operation : Value) : Prop where
  own : operation.Worded
  parameters : ∀ p ∈ (operation.getD "parameters").items, p.Worded
  body : (operation.getD "requestBody").Worded

theorem get_description (o : Operation) :
    o.toValue.get? "description" = o.description.map .text := by
  simp [toValue, Value.get?, Table.find?, Table.find?_append, Value.find?_entryOf]

theorem get_parameter_description (p : OperationParameter) :
    p.toValue.get? "description" = p.description := by
  simp [OperationParameter.toValue, Value.get?, Table.find?, Table.find?_append,
    Value.find?_entryOf, Value.find?_flagOf]

theorem get_body_description (b : RequestBody) : b.toValue.get? "description" = b.description := by
  simp [RequestBody.toValue, Value.get?, Table.find?, Table.find?_append, Value.find?_entryOf,
    Value.find?_flagOf]

/-! ### The function -/

theorem ne_empty_of_filled {text : Option String} {s : String} (h : filled text = some s) :
    s ≠ "" := by
  unfold filled at h
  split at h
  · cases h
  · rename_i hne
    rintro rfl
    exact hne h

theorem ne_empty_of_describe {full : FullView} {console : Option ConsoleView} {s : String}
    (h : describe full console = some s) : s ≠ "" := by
  unfold describe at h
  dsimp only at h
  split at h
  · rename_i d text hd htext
    split at h
    · obtain rfl := Option.some.inj h
      intro he
      have hlength := congrArg String.length he
      have hline : "\n\n".length = 2 := by decide
      simp only [String.length_append, hline, String.length_empty] at hlength
      omega
    · obtain rfl := Option.some.inj h
      exact ne_empty_of_filled hd
  · rename_i d hd htext
    obtain rfl := Option.some.inj h
    exact ne_empty_of_filled hd
  · exact ne_empty_of_filled h

namespace Declaration
variable {d : Declaration}

/-- What a view says under `description`. -/
def said (view : Table Value) : Value := (view.find? "description").getD .null

/-- The description that counts is text: that of the Console view or, where it is nothing, that of the
Full view. -/
def Worded (d : Declaration) : Prop :=
  Descriptor.Plain (said d.console) ∧
    ((said d.console).isGiven = false → Descriptor.Plain (said d.full))

/-- A value that is given is plain exactly if it is text, which is not empty then. -/
theorem plain_iff_of_isGiven {v : Value} (h : v.isGiven = true) :
    Descriptor.Plain v ↔ ∃ s, v = .text s ∧ s ≠ "" := by
  constructor
  · intro hplain
    obtain ⟨s, rfl⟩ := hplain h
    exact ⟨s, rfl, by simpa [Value.isGiven] using h⟩
  · rintro ⟨s, hs, _⟩ _
    exact ⟨s, hs⟩

theorem worded_iff : d.Worded ↔ ∀ v, d.description = some v → ∃ s, v = .text s ∧ s ≠ "" := by
  have hchoice : d.description = if (said d.console).isGiven then some (said d.console)
      else if (said d.full).isGiven then some (said d.full) else none := rfl
  cases hown : (said d.console).isGiven with
  | true => simp [hchoice, hown, Worded, plain_iff_of_isGiven hown]
  | false =>
    have hsilent : Descriptor.Plain (said d.console) := by simp [Descriptor.Plain, hown]
    cases hother : (said d.full).isGiven with
    | true => simp [hchoice, hown, hother, Worded, hsilent, plain_iff_of_isGiven hother]
    | false => simp [hchoice, hown, hother, Worded, Descriptor.Plain]

end Declaration

variable {full : FullView} {console : ConsoleView} {overrides : Overrides} {options : Options}

section
variable [Stack]

/-- The description of a function is checked to be text before it is translated. -/
theorem worded_of_translate {view : Option ConsoleView} {r : Route}
    (h : (translate full view overrides options).result = .ok (some r)) :
    r.operation.toValue.Worded := by
  obtain ⟨_, _, _, _, _, _, _, hbuild⟩ := translate_some h
  obtain ⟨_, _, hb⟩ := build_ok hbuild
  intro d hd
  rw [get_description, Option.map_eq_some_iff] at hd
  obtain ⟨s, hs, rfl⟩ := hd
  rw [hb.description] at hs
  exact ⟨s, rfl, ne_empty_of_describe hs⟩

/-- Each parameter has the description that its name is declared with. -/
theorem description_of_mem_parameters {r : Route} {e : OperationParameter}
    (h : (translate full (some console) overrides options).result = .ok (some r))
    (he : e ∈ r.operation.parameters) :
    e.description = (declarationOf full console e.name).description := by
  obtain ⟨view, _, hview, _, _, _, _, hbuild⟩ := translate_some h
  obtain rfl := Option.some.inj hview
  obtain ⟨inputs, _, hb⟩ := build_ok hbuild
  obtain ⟨added, hps, hfills⟩ := addVariables_ok hb.placeholders
  rw [hps] at he
  rcases List.mem_append.mp he with he | he
  · obtain ⟨p, _, henters⟩ := exists_of_mem_right (addParameters_ok hb.used).1 he
    have hstands := StandsFor.of_enters henters
    rw [hstands.description, hstands.name]
  · obtain ⟨name, _, hfill⟩ := exists_of_mem_right hfills he
    have hsupplies := Supplies.of_fills hfill
    rw [hsupplies.description, hsupplies.name]

/-- The arguments that make a body, in order; the last one makes it in the end. -/
def bodiesOf (console : ConsoleView) (r : Route) : List Parameter :=
  (usedBy console r.method).filter fun p => p.placement = .body

theorem description_of_body {r : Route}
    (h : (translate full (some console) overrides options).result = .ok (some r)) :
    Option.Rel (fun p b => b.description = (declarationOf full console p.name).description)
      (bodiesOf console r).getLast? r.operation.body := by
  obtain ⟨view, _, hview, _, _, _, _, hbuild⟩ := translate_some h
  obtain rfl := Option.some.inj hview
  obtain ⟨inputs, _, hb⟩ := build_ok hbuild
  rw [hb.body]
  exact rel_imp (addParameters_ok hb.used).2 fun _ _ hembodies =>
    (MakesBody.of_embodies hembodies).description

/-- The descriptions in an operation are text exactly if those are that the arguments are declared with:
each argument among the parameters, and of those that make a body the last one. -/
theorem descriptions_worded_iff {r : Route}
    (h : (translate full (some console) overrides options).result = .ok (some r)) :
    WordedThroughout r.operation.toValue ↔
      (∀ e ∈ r.operation.parameters, (declarationOf full console e.name).Worded) ∧
        ∀ p ∈ (bodiesOf console r).getLast?, (declarationOf full console p.name).Worded := by
  have hparameter : ∀ e ∈ r.operation.parameters,
      (e.toValue.Worded ↔ (declarationOf full console e.name).Worded) := by
    intro e he
    rw [Declaration.worded_iff, ← description_of_mem_parameters h he, Value.Worded,
      get_parameter_description]
  have hbody : (r.operation.toValue.getD "requestBody").Worded ↔
      ∀ p ∈ (bodiesOf console r).getLast?, (declarationOf full console p.name).Worded := by
    have hrel := description_of_body h
    rw [get_requestBody]
    generalize (bodiesOf console r).getLast? = last at hrel ⊢
    generalize r.operation.body = body at hrel ⊢
    cases hrel with
    | none => exact iff_of_true (fun _ hd => by cases hd) (fun _ hp => by cases hp)
    | @some p b hdescription =>
      simp only [Option.map_some, Option.getD_some, Option.mem_some_iff, forall_eq', Value.Worded,
        get_body_description, Declaration.worded_iff, hdescription]
  have hitems : (r.operation.toValue.getD "parameters").items =
      r.operation.parameters.map OperationParameter.toValue := by
    rw [get_parameters]
    rfl
  constructor
  · rintro ⟨_, hparameters, hrequest⟩
    rw [hitems, List.forall_mem_map] at hparameters
    exact ⟨fun e he => (hparameter e he).mp (hparameters e he), hbody.mp hrequest⟩
  · rintro ⟨hdeclared, hlast⟩
    refine ⟨worded_of_translate h, ?_, hbody.mpr hlast⟩
    rw [hitems, List.forall_mem_map]
    exact fun e he => (hparameter e he).mpr (hdeclared e he)

end

/-- A Console view that describes an argument by nothing at all, and another by a number; the body that
the latter makes is replaced. -/
def retoldView : ConsoleView where
  method := some "POST"
  url := some "/x/\x7bid\x7d"
  usage := some "Send <one> [q] <two>"
  arguments :=
    [.object [("one", .object [("description", .int 5)])],
      .object [("q", .object [("description", .int 0)])],
      .object [("two", .object [("description", .text "All of it")])]]
  returns := .null
  description := none
  help := none
  extra := []

/-- The Full view beside it, with text for the argument in the query. -/
def retoldFull : FullView where
  name := "Send"
  description := some "Sends"
  help := none
  tags := []
  arguments := [.object [("name", .text "q"), ("description", .text "How many")]]
  returns := .null
  deprecated := none
  extra := []

open Stack.Usual in
theorem descriptions_worded_retold :
    ∃ r, (translate retoldFull (some retoldView) [] {}).result = .ok (some r) ∧
      r.operation.parameters.map OperationParameter.description =
        [some (.text "How many"), none] ∧
      r.operation.body.bind RequestBody.description = some (.text "All of it") ∧
      WordedThroughout r.operation.toValue := by
  obtain ⟨r, hr, hnames, hmethod, hdescriptions⟩ : ∃ r,
      (translate retoldFull (some retoldView) [] {}).result = .ok (some r) ∧
        r.operation.parameters.map OperationParameter.name = ["q", "id"] ∧ r.method = "post" ∧
        r.operation.parameters.map OperationParameter.description =
          [some (.text "How many"), none] ∧
        r.operation.body.bind RequestBody.description = some (.text "All of it") :=
    ⟨_, rfl, by decide +kernel, by decide +kernel, rfl, rfl⟩
  refine ⟨r, hr, hdescriptions.1, hdescriptions.2, (descriptions_worded_iff hr).mpr ⟨?_, ?_⟩⟩
  · intro e he
    have hname : e.name ∈ ["q", "id"] := hnames ▸ List.mem_map_of_mem he
    simp only [List.mem_cons, List.not_mem_nil, or_false] at hname
    rcases hname with hname | hname
    · rw [hname]
      exact ⟨fun h => (by cases h), fun _ _ => ⟨"How many", rfl⟩⟩
    · rw [hname]
      exact ⟨fun h => (by cases h), fun _ h => (by cases h)⟩
  · have hlast : (bodiesOf retoldView r).getLast? = some ⟨"two", .body, false⟩ := by
      rw [bodiesOf, hmethod]
      decide +kernel
    rw [hlast]
    rintro p hp
    obtain rfl := Option.some.inj hp
    exact ⟨fun _ => ⟨"All of it", rfl⟩, fun h => (by cases h)⟩

/-- A view that describes an argument by a number. -/
def countedView : ConsoleView where
  method := some "GET"
  url := some "/x/\x7bid\x7d"
  usage := some "F <id>"
  arguments := [.object [("id", .object [("type", .text "string"), ("description", .int 5)])]]
  returns := .null
  description := none
  help := none
  extra := []

def countedFull : FullView := ⟨"F", none, none, [], [], .null, none, []⟩

open Stack.Usual in
/-- The number is the description of the parameter. -/
theorem counted_not_worded :
    ∃ r p, (translate countedFull (some countedView) [] {}).result = .ok (some r) ∧
      (r.operation.toValue.getD "parameters").items = [p] ∧
      p.get? "description" = some (.int 5) ∧ ¬WordedThroughout r.operation.toValue := by
  obtain ⟨r, hr, hnames⟩ : ∃ r, (translate countedFull (some countedView) [] {}).result =
      .ok (some r) ∧ r.operation.parameters.map OperationParameter.name = ["id"] :=
    exists_some_of_toOption (by decide +kernel)
  obtain ⟨e, hparameters, hname⟩ := List.map_eq_singleton_iff.mp hnames
  have hsaid : e.toValue.get? "description" = some (.int 5) := by
    rw [get_parameter_description,
      description_of_mem_parameters hr (hparameters ▸ List.mem_singleton_self e), hname]
    rfl
  have hitems : (r.operation.toValue.getD "parameters").items = [e.toValue] := by
    rw [get_parameters, hparameters]
    rfl
  refine ⟨r, _, hr, hitems, hsaid, fun h => ?_⟩
  obtain ⟨s, hs, _⟩ := h.parameters _ (hitems ▸ List.mem_singleton_self _) _ hsaid
  cases hs

end Operation
end ServiceAtlas
