import ServiceAtlas.Proofs.Tables
import ServiceAtlas.Settings

/-!
The records of the settings, field by field: a record can be read exactly if each of its fields can,
and every field then has the value read or its default.
-/

namespace ServiceAtlas

namespace Checked
variable {α β : Type}

/-- The reading gives a value. -/
def Good (x : Checked α) : Prop := ∃ a, x = .good a

theorem map_eq_good_iff {f : α → β} {x : Checked α} {b : β} :
    f <$> x = .good b ↔ ∃ a, x = .good a ∧ f a = b := by
  change map f x = .good b ↔ _
  cases x <;> simp [map]

theorem seq_eq_good_iff {f : Checked (α → β)} {x : Checked α} {b : β} :
    f <*> x = .good b ↔ ∃ g a, f = .good g ∧ x = .good a ∧ g a = b := by
  change apply f x = .good b ↔ _
  cases f <;> cases x <;> simp [apply]

theorem good_map_iff {f : α → β} {x : Checked α} : Good (f <$> x) ↔ Good x := by
  simp [Good, map_eq_good_iff]

theorem good_seq_iff {f : Checked (α → β)} {x : Checked α} :
    Good (f <*> x) ↔ Good f ∧ Good x := by
  simp [Good, seq_eq_good_iff]

theorem under_eq_good_iff {step : String} {x : Checked α} {a : α} :
    under step x = .good a ↔ x = .good a := by
  cases x <;> simp [under]

theorem toOption_eq_some_iff {x : Checked α} {a : α} : x.toOption = some a ↔ x = .good a := by
  cases x <;> simp [toOption]

/-- A table of texts is read as what it holds. -/
theorem entries_text_eq_good_iff {fields : List (String × Value)} {t : List (String × String)} :
    entries text fields = .good t ↔ fields = t.map fun e => (e.1, .text e.2) := by
  induction fields generalizing t with
  | nil =>
    constructor
    · intro h
      cases h
      rfl
    · intro h
      obtain rfl : t = [] := by simpa using h.symm
      rfl
  | cons e rest ih =>
    obtain ⟨key, v⟩ := e
    simp only [entries, seq_eq_good_iff, map_eq_good_iff, under_eq_good_iff, ih]
    constructor
    · rintro ⟨_, more, ⟨_, ⟨s, hs, rfl⟩, rfl⟩, rfl, rfl⟩
      cases v with
      | text s' =>
        obtain rfl : s' = s := by simpa [text] using hs
        rfl
      | _ => cases hs
    · intro h
      cases t with
      | nil => cases h
      | cons d more =>
        obtain ⟨he, rfl⟩ := List.cons.inj h
        cases he
        exact ⟨_, more, ⟨_, ⟨d.2, rfl, rfl⟩, rfl⟩, rfl, rfl⟩

theorem good_record_iff {read : Table Value → Checked α} {v : Value} :
    Good (record read v) ↔ ∃ t, v = .object t ∧ Good (read t) := by
  cases v with
  | object t => simp [record]
  | _ => simp [record, Good, complain]

theorem good_table_text_iff {v : Value} :
    Good (table text v) ↔ ∃ t, v = .object t ∧ ∀ e ∈ t, ∃ s, e.2 = .text s := by
  cases v with
  | object t =>
    simp only [Good, table, entries_text_eq_good_iff, Value.object.injEq, exists_eq_left']
    constructor
    · rintro ⟨names, rfl⟩ e he
      obtain ⟨d, _, rfl⟩ := List.mem_map.mp he
      exact ⟨d.2, rfl⟩
    · intro h
      refine ⟨t.map fun e => (e.1, (e.2.text?).getD ""), ?_⟩
      rw [List.map_map]
      refine (List.map_id t).symm.trans (List.map_congr_left fun e he => ?_)
      obtain ⟨key, v⟩ := e
      obtain ⟨s, rfl⟩ := h _ he
      rfl
  | _ => simp [table, Good, complain]

end Checked

/-- A field of a record: its key, how its value is read, and where the record has it. -/
structure RecordField (ρ : Type) where
  {α : Type}
  key : String
  read : Value → Checked α
  get : ρ → α

namespace RecordField
variable {ρ : Type}

/-- The record has what a raw value is read as or, without one, what the record `plain` has. -/
def Gives (f : RecordField ρ) (plain : ρ) (found : Option Value) (r : ρ) : Prop :=
  match found with
  | some v => f.read v = .good (f.get r)
  | none => f.get r = f.get plain

/-- A raw value, if there is one, can be read. -/
def Accepts (f : RecordField ρ) (found : Option Value) : Prop :=
  ∀ v, found = some v → (f.read v).Good

theorem Accepts.none {f : RecordField ρ} : f.Accepts none := fun _ h => nomatch h

theorem Accepts.map {f : RecordField ρ} {β : Type} {g : β → Value} (h : ∀ b, (f.read (g b)).Good)
    (o : Option β) : f.Accepts (o.map g) := by
  intro v hv
  obtain ⟨b, _, rfl⟩ := Option.map_eq_some_iff.mp hv
  exact h b

/-- The field takes no table. -/
def Flat (f : RecordField ρ) : Prop := ∀ t, ¬(f.read (.object t)).Good

/-- The field out of a table, with the record `plain` for the defaults. -/
def readFrom (f : RecordField ρ) (plain : ρ) (given : Table Value) : Checked f.α :=
  Checked.field given f.key (f.get plain) f.read

variable {f : RecordField ρ} {given : Table Value}

theorem readFrom_eq_good_iff {plain r : ρ} :
    f.readFrom plain given = .good (f.get r) ↔ f.Gives plain (given.find? f.key) r := by
  unfold readFrom Checked.field Gives
  cases given.find? f.key with
  | none => simp [eq_comm]
  | some v => simp [Checked.under_eq_good_iff]

theorem good_readFrom_iff (plain : ρ) :
    (f.readFrom plain given).Good ↔ f.Accepts (given.find? f.key) := by
  unfold readFrom Checked.field Accepts Checked.Good
  cases given.find? f.key with
  | none => simp
  | some v => simp [Checked.under_eq_good_iff]

end RecordField

/-! ### The two records of the settings -/

section
variable {given : Table Value}

def Service.fields : List (RecordField Service) :=
  [⟨"host", Checked.text, Service.host⟩,
    ⟨"port", Checked.optional Checked.int, Service.port⟩,
    ⟨"username", Checked.text, Service.username⟩,
    ⟨"secret_source", Checked.text, Service.secretSource⟩,
    ⟨"verify_ssl", Checked.bool, Service.verifyTls⟩,
    ⟨"timeout", Checked.int, Service.timeout⟩,
    ⟨"max_retries", Checked.int, Service.maxRetries⟩,
    ⟨"help_path", Checked.text, Service.helpPath⟩,
    ⟨"app_info_path", Checked.text, Service.appInfoPath⟩]

theorem Service.readFields_eq_good_iff {s : Service} :
    Service.readFields given = .good s ↔
      ∀ f ∈ Service.fields, f.Gives {} (Table.find? given f.key) s := by
  obtain ⟨host, port, username, secretSource, verifyTls, timeout, maxRetries, help, appInfo⟩ := s
  simp only [fields, List.forall_mem_cons, List.not_mem_nil, false_implies, implies_true, and_true,
    ← RecordField.readFrom_eq_good_iff]
  simp only [readFields, RecordField.readFrom, Checked.optionalField, Checked.seq_eq_good_iff,
    Checked.map_eq_good_iff, existsAndEq, mk.injEq, true_and, and_true, and_assoc]

theorem Service.good_readFields_iff :
    (Service.readFields given).Good ↔
      ∀ f ∈ Service.fields, f.Accepts (Table.find? given f.key) := by
  simp only [fields, List.forall_mem_cons, List.not_mem_nil, false_implies, implies_true, and_true,
    ← RecordField.good_readFrom_iff ({} : Service)]
  simp only [readFields, RecordField.readFrom, Checked.optionalField, Checked.good_seq_iff,
    Checked.good_map_iff, and_assoc]

theorem Service.flat : ∀ f ∈ Service.fields, f.Flat := by
  simp only [fields, List.forall_mem_cons, List.not_mem_nil, false_implies, implies_true, and_true]
  and_intros
  all_goals
    rintro t ⟨_, h⟩
    cases h

/-- The fields that hold one thing each. -/
def Generator.fields : List (RecordField Generator) :=
  [⟨"output", Checked.text, Generator.output⟩,
    ⟨"overrides_file", Checked.optional Checked.text, Generator.overridesFile⟩,
    ⟨"status_code_style", StatusStyle.read, Generator.statusStyle⟩,
    ⟨"include_forbidden_response", Checked.bool, Generator.forbidden⟩,
    ⟨"emit_parts", Checked.bool, Generator.emitParts⟩,
    ⟨"openapi_version", Checked.text, Generator.openapiVersion⟩,
    ⟨"default_tag", Checked.text, Generator.defaultTag⟩,
    ⟨"ignored_tags", Checked.list Checked.text, Generator.ignoredTags⟩]

/-- The field that is a table of its own. -/
def Generator.overridesField : RecordField Generator :=
  ⟨"object_name_overrides", Checked.table Checked.text, Generator.overrides⟩

theorem Generator.readFields_eq_good_iff {g : Generator} :
    Generator.readFields given = .good g ↔
      overridesField.Gives {} (Table.find? given overridesField.key) g ∧
        ∀ f ∈ Generator.fields, f.Gives {} (Table.find? given f.key) g := by
  obtain ⟨output, file, overrides, style, forbidden, parts, version, tag, ignored⟩ := g
  simp only [fields, List.forall_mem_cons, List.not_mem_nil, false_implies, implies_true, and_true,
    ← RecordField.readFrom_eq_good_iff]
  simp only [readFields, RecordField.readFrom, overridesField, Checked.optionalField,
    Checked.seq_eq_good_iff, Checked.map_eq_good_iff, existsAndEq, mk.injEq, true_and, and_true,
    and_assoc]
  tauto

theorem Generator.good_readFields_iff :
    (Generator.readFields given).Good ↔
      overridesField.Accepts (Table.find? given overridesField.key) ∧
        ∀ f ∈ Generator.fields, f.Accepts (Table.find? given f.key) := by
  simp only [fields, List.forall_mem_cons, List.not_mem_nil, false_implies, implies_true, and_true,
    ← RecordField.good_readFrom_iff ({} : Generator)]
  simp only [readFields, RecordField.readFrom, overridesField, Checked.optionalField,
    Checked.good_seq_iff, Checked.good_map_iff, and_assoc]
  tauto

theorem Generator.flat : ∀ f ∈ Generator.fields, f.Flat := by
  simp only [fields, List.forall_mem_cons, List.not_mem_nil, false_implies, implies_true, and_true]
  and_intros
  all_goals
    rintro t ⟨_, h⟩
    cases h

/-! ### The settings -/

def Settings.serviceField : RecordField Settings := ⟨"service", Service.read, Settings.service⟩

def Settings.generatorField : RecordField Settings :=
  ⟨"generator", Generator.read, Settings.generator⟩

theorem Settings.readFields_eq_good_iff {s : Settings} :
    Settings.readFields given = .good s ↔
      serviceField.Gives {} (Table.find? given serviceField.key) s ∧
        generatorField.Gives {} (Table.find? given generatorField.key) s := by
  obtain ⟨service, generator⟩ := s
  simp only [← RecordField.readFrom_eq_good_iff]
  simp only [readFields, RecordField.readFrom, serviceField, generatorField,
    Checked.seq_eq_good_iff, Checked.map_eq_good_iff, existsAndEq, mk.injEq, true_and, and_true]

theorem Settings.good_readFields_iff :
    (Settings.readFields given).Good ↔
      serviceField.Accepts (Table.find? given serviceField.key) ∧
        generatorField.Accepts (Table.find? given generatorField.key) := by
  simp only [← RecordField.good_readFrom_iff ({} : Settings)]
  simp only [readFields, RecordField.readFrom, serviceField, generatorField, Checked.good_seq_iff,
    Checked.good_map_iff]

end
end ServiceAtlas
