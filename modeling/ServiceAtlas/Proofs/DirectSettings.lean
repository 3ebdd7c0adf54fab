import ServiceAtlas.Command.Line
import ServiceAtlas.Proofs.Layers
import ServiceAtlas.Proofs.Runs
import ServiceAtlas.Settings.Resolve

/-!
Settings that are said one by one, by the caller or by the environment: the layer that they make,
and what a program finds of them in its environment.
-/

namespace ServiceAtlas.Settings
open Table (Distinct find?)

/-! ### Layers of single settings -/

/-- The settings that a caller can name. -/
structure Direct where
  port : Option Int := none
  secretSource : Option String := none
  output : Option String := none
  overridesFile : Option String := none
  statusStyle : Option StatusStyle := none
  forbidden : Option Bool := none
  emitParts : Option Bool := none

namespace Direct

/-- The settings as a command hands them on. -/
def choices (d : Direct) : Choices where
  port := .ofOption .int d.port
  secretSource := .ofOption .text d.secretSource
  output := .ofOption .text d.output
  overridesFile := .ofOption .text d.overridesFile
  generator :=
    [("status_code_style", .ofOption (fun s => .text s.name) d.statusStyle),
      ("include_forbidden_response", .ofOption .bool d.forbidden),
      ("emit_parts", .ofOption .bool d.emitParts)]

def saying (d : Direct) : Saying where
  service
    | "port" => d.port.map .int
    | "secret_source" => d.secretSource.map .text
    | _ => none
  generator
    | "output" => d.output.map .text
    | "overrides_file" => d.overridesFile.map .text
    | "status_code_style" => d.statusStyle.map fun s => .text s.name
    | "include_forbidden_response" => d.forbidden.map .bool
    | "emit_parts" => d.emitParts.map .bool
    | _ => none
  name _ := none

/-- The tables of the layer that the choices make. -/
def parts (d : Direct) : Parts where
  service := said [("port", d.choices.port), ("secret_source", d.choices.secretSource)]
  generator :=
    Table.overwrite
      (said [("output", d.choices.output), ("overrides_file", d.choices.overridesFile)])
      (said d.choices.generator)
  names := []

end Direct

variable {t : Table Value} {key : String}

theorem distinct_said (h : Distinct t) : Distinct (said t) :=
  h.sublist (List.filter_sublist.map Prod.fst)

/-- A key finds what it did, unless that is null. -/
theorem find?_said (hd : Distinct t) :
    find? (said t) key = (find? t key).filter fun v => !v.isNull := by
  induction t with
  | nil => rfl
  | cons e rest ih =>
    obtain ⟨k, v⟩ := e
    have hnodup := List.nodup_cons.mp hd
    have ih := ih hnodup.2
    unfold said at ih ⊢
    by_cases hk : k = key
    · subst hk
      have hnone : find? rest k = none := Table.find?_eq_none_iff.mpr hnodup.1
      rw [hnone] at ih
      cases hv : v.isNull with
      | true => simpa [find?, hv, Option.filter_some] using ih
      | false => simp [find?, hv, Option.filter_some]
    · cases hv : v.isNull <;> simpa [find?, hv, hk] using ih

theorem filter_ofOption {α : Type} {f : α → Value} (hf : ∀ a, (f a).isNull = false) (o : Option α) :
    (some (Value.ofOption f o)).filter (fun v => !v.isNull) = o.map f := by
  cases o with
  | none => rfl
  | some a => simp [Value.ofOption, hf]

namespace Direct
variable (d : Direct)

theorem find?_service (key : String) : find? d.parts.service key = d.saying.service key := by
  unfold parts choices saying
  dsimp only
  rw [find?_said (by simp [Distinct, Table.keys])]
  split
  · exact filter_ofOption (fun _ => rfl) d.port
  · exact filter_ofOption (fun _ => rfl) d.secretSource
  · simp_all [find?, eq_comm]

theorem find?_generator (key : String) : find? d.parts.generator key = d.saying.generator key := by
  unfold parts choices saying
  dsimp only
  rw [Table.find?_overwrite (distinct_said (by simp [Distinct, Table.keys])),
    find?_said (by simp [Distinct, Table.keys]), find?_said (by simp [Distinct, Table.keys])]
  split
  · simpa [find?] using filter_ofOption (fun _ => rfl) d.output
  · simpa [find?] using filter_ofOption (fun _ => rfl) d.overridesFile
  · simpa [find?] using filter_ofOption (fun _ => rfl) d.statusStyle
  · simpa [find?] using filter_ofOption (fun _ => rfl) d.forbidden
  · simpa [find?] using filter_ofOption (fun _ => rfl) d.emitParts
  · simp_all [find?, eq_comm]

theorem parts_say : d.parts.Says d.saying :=
  ⟨fun f _ => d.find?_service f.key, fun f _ => d.find?_generator f.key, fun _ => rfl⟩

theorem service_accepts : ∀ f ∈ Service.fields, f.Accepts (d.saying.service f.key) := by
  simp only [Service.fields, List.forall_mem_cons, List.not_mem_nil, false_implies, implies_true,
    and_true]
  exact ⟨.none, .map (fun n => ⟨some n, rfl⟩) _, .none, .map (fun s => ⟨s, rfl⟩) _, .none, .none,
    .none, .none, .none⟩

theorem generator_accepts : ∀ f ∈ Generator.fields, f.Accepts (d.saying.generator f.key) := by
  have hstyle : ∀ s : StatusStyle, (StatusStyle.read (.text s.name)).Good := by
    rintro (_ | _)
    · exact ⟨.range, rfl⟩
    · exact ⟨.exact, rfl⟩
  simp only [Generator.fields, List.forall_mem_cons, List.not_mem_nil, false_implies, implies_true,
    and_true]
  exact ⟨.map (fun s => ⟨s, rfl⟩) _, .map (fun s => ⟨some s, rfl⟩) _, .map hstyle _,
    .map (fun b => ⟨b, rfl⟩) _, .map (fun b => ⟨b, rfl⟩) _, .none, .none, .none⟩

/-- What is said one by one makes a layer in order. -/
theorem holds : Holds d.choices.layer d.parts where
  distinct := by simp [Distinct, Table.keys, Choices.layer, layer]
  service := rfl
  generator := rfl
  names := by
    unfold Layer.part
    rw [show find? d.parts.generator Generator.overridesField.key = none from d.find?_generator _]
    rfl
  serviceFit := by
    refine ⟨distinct_said (by simp [Distinct, Table.keys]), fun f hf => ?_⟩
    rw [d.find?_service]
    exact d.service_accepts f hf
  generatorFit := by
    have hdistinct : Distinct d.parts.generator :=
      Table.distinct_overwrite (distinct_said (by simp [Distinct, Table.keys]))
    refine ⟨hdistinct, fun f hf => ?_⟩
    rw [d.find?_generator]
    exact d.generator_accepts f hf
  texts := ⟨List.nodup_nil, fun _ h => nomatch h⟩

end Direct

/-- What a command line chooses for a document is said one by one. -/
theorem exists_direct_of_toGenerate {p : CommandLine.Parsed} {c : Command}
    (h : CommandLine.toGenerate p = .ok c) :
    ∃ (d : Direct) (inputDirectory : Option String), c = .generate d.choices inputDirectory := by
  have hport : ∀ v, CommandLine.portOf p.marks = .ok v →
      ∃ n : Option Int, v = .ofOption .int n := by
    intro v hv
    unfold CommandLine.portOf at hv
    split at hv
    · exact ⟨none, (Except.ok.inj hv).symm⟩
    · split at hv
      · exact ⟨some _, (Except.ok.inj hv).symm⟩
      · cases hv
  have hstatus : ∀ v, CommandLine.statusOf p.marks = .ok v →
      ∃ s : Option StatusStyle, v = .ofOption (fun s => .text s.name) s := by
    intro v hv
    unfold CommandLine.statusOf at hv
    split at hv
    · exact ⟨none, (Except.ok.inj hv).symm⟩
    · split at hv
      · rename_i hknown
        obtain ⟨s, _, hs⟩ := List.any_eq_true.mp hknown
        exact ⟨some s, by rw [← Except.ok.inj hv, ← of_decide_eq_true hs]; rfl⟩
      · cases hv
  obtain ⟨port, hp, h⟩ := bind_eq_ok_iff.mp h
  obtain ⟨status, hs, h⟩ := bind_eq_ok_iff.mp h
  obtain ⟨_, _, h⟩ := bind_eq_ok_iff.mp h
  obtain ⟨n, rfl⟩ := hport port hp
  obtain ⟨s, rfl⟩ := hstatus status hs
  refine ⟨⟨n, CommandLine.valueOf p.marks "secret", CommandLine.valueOf p.marks "output",
    CommandLine.valueOf p.marks "overrides", s, CommandLine.flagOf p.marks "forbidden",
    CommandLine.flagOf p.marks "parts"⟩, CommandLine.valueOf p.marks "input", ?_⟩
  exact (Except.ok.inj h).symm

/-! ### Settings in the environment -/

/-- A variable that is set and not empty. -/
def filled (environment : Table String) (name : String) : Option String :=
  (find? environment name).filter fun s => s ≠ ""

/-- The first of the variables for the port that is filled. -/
def portText (environment : Table String) : Option String :=
  portNames.findSome? (filled environment)

/-- The variable for the port holds no whole number. -/
def BadPort (environment : Table String) : Prop :=
  ∃ raw, portText environment = some raw ∧ Text.integer? 10 raw.toList = none

def Direct.ofEnvironment (environment : Table String) : Direct where
  port := (portText environment).bind fun raw => Text.integer? 10 raw.toList
  secretSource := filled environment "HELPSPEC_SECRET_SOURCE"
  output := filled environment "HELPSPEC_OUTPUT"

/-- What the environment has no variable for stays unsaid. -/
theorem Direct.layer_ofEnvironment (environment : Table String) :
    (ofEnvironment environment).choices.layer =
      layer
        (said [("port", .ofOption .int (ofEnvironment environment).port),
          ("secret_source", .ofOption .text (filled environment "HELPSPEC_SECRET_SOURCE"))])
        (said [("output", .ofOption .text (filled environment "HELPSPEC_OUTPUT"))]) := by
  unfold choices Choices.layer ofEnvironment
  cases filled environment "HELPSPEC_OUTPUT" <;> rfl

section
open Program
variable {w : World}

theorem run_filledVariable (name : String) :
    (filledVariable name).run w = ⟨.ok (filled w.environment name), [], w⟩ := by
  refine (run_bind_of_quiet (run_request (.environment name) w)).trans ?_
  unfold filled
  split
  · rename_i h
    rw [show find? w.environment name = none from h]
    rfl
  · rename_i h
    rw [show find? w.environment name = some "" from h]
    rfl
  · rename_i s hs h
    have hne : s ≠ "" := hs
    rw [show find? w.environment name = some s from h, Option.filter_some]
    simp [hne]
    rfl

/-- The first filled variable decides. -/
theorem run_environmentPort (names : List String) :
    ∃ name, (environmentPort names).run w =
      match names.findSome? (filled w.environment) with
      | none => ⟨.ok none, [], w⟩
      | some raw =>
        match Text.integer? 10 raw.toList with
        | some n => ⟨.ok (some n), [], w⟩
        | none => ⟨.error (.invalidPort name raw), [], w⟩ := by
  induction names with
  | nil => exact ⟨"", rfl⟩
  | cons name rest ih =>
    cases hf : filled w.environment name with
    | none =>
      obtain ⟨other, h⟩ := ih
      refine ⟨other, (run_bind_of_quiet (run_filledVariable name)).trans ?_⟩
      simpa only [List.findSome?_cons, hf] using h
    | some raw =>
      refine ⟨name, (run_bind_of_quiet (run_filledVariable name)).trans ?_⟩
      simp only [List.findSome?_cons, hf]
      cases Text.integer? 10 raw.toList <;> rfl

/-- A bad port is an error of the settings. -/
theorem result_environmentLayer_of_badPort (h : BadPort w.environment) :
    ∃ e, (environmentLayer.run w).result = .error e ∧ e.family? = some .config := by
  obtain ⟨raw, hraw, hbad⟩ := h
  obtain ⟨name, hport⟩ := run_environmentPort (w := w) portNames
  rw [show portNames.findSome? (filled w.environment) = some raw from hraw] at hport
  simp only [hbad] at hport
  exact ⟨_, result_bind_of_error (congrArg Run.result hport), rfl⟩

theorem run_environmentLayer (h : ¬BadPort w.environment) :
    environmentLayer.run w = ⟨.ok (Direct.ofEnvironment w.environment).choices.layer, [], w⟩ := by
  have hport : (environmentPort portNames).run w =
      ⟨.ok (Direct.ofEnvironment w.environment).port, [], w⟩ := by
    obtain ⟨name, hport⟩ := run_environmentPort (w := w) portNames
    unfold Direct.ofEnvironment portText
    cases hraw : portNames.findSome? (filled w.environment) with
    | none => simpa [hraw] using hport
    | some raw =>
      cases hn : Text.integer? 10 raw.toList with
      | none => exact absurd ⟨raw, hraw, hn⟩ h
      | some n => simpa [hraw, hn] using hport
  refine (run_bind_of_quiet hport).trans ?_
  refine (run_bind_of_quiet (run_filledVariable "HELPSPEC_SECRET_SOURCE")).trans ?_
  refine (run_bind_of_quiet (run_filledVariable "HELPSPEC_OUTPUT")).trans ?_
  rw [Direct.layer_ofEnvironment]
  rfl

end
end ServiceAtlas.Settings
