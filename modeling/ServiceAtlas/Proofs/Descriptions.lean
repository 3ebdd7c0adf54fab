import ServiceAtlas.Proofs.NamedTypes
import ServiceAtlas.Proofs.TypeNames

/-!
When a raw descriptor can be read. Whatever else is malformed is skipped or has a default, but a
description that is given has to be text: one that is not stops the reading, at any depth. What is
skipped is shown, and what stands inside a type is read by calls of its own, so that a value that cannot
be shown and a type with too many calls stop it as well.
-/

namespace ServiceAtlas

namespace Descriptor
open Traced (Succeeds)

/-- The entry of a table that has no other. -/
def soleEntry? : Value → Option (String × Value)
  | .object [e] => some e
  | _ => none

/-- The entries that the fields of an object are read from: those of a table, or those of the tables
with one entry in a list. -/
def fieldEntries : Value → List (String × Value)
  | .object entries => entries
  | .list entries => entries.filterMap soleEntry?
  | _ => []

/-- What the fields of an object are read from. A list of values comes before it. -/
def fieldsOf? (fields : Table Value) : Option Value :=
  match fields.find? "values" with
  | some (.list _) => none
  | _ => fields.find? "fields"

/-- A description that stands in what is read from a raw descriptor: with a member of an enumeration
that has a name, with a field of an object, or inside the type of a field. -/
inductive Describes : Value → Value → Prop
  | member {fields entry : Table Value} {members : List Value} {text : Value}
    (values : fields.find? "values" = some (.list members)) (mem : .object entry ∈ members)
    (named : (entry.find? "name").getD .null ≠ .null)
    (found : entry.find? "description" = some text) : Describes (.object fields) text
  | field {fields spec : Table Value} {given text : Value} {name : String}
    (shape : fieldsOf? fields = some given) (mem : (name, .object spec) ∈ fieldEntries given)
    (found : spec.find? "description" = some text) : Describes (.object fields) text
  | inner {fields spec : Table Value} {given type text : Value} {name : String}
    (shape : fieldsOf? fields = some given) (mem : (name, .object spec) ∈ fieldEntries given)
    (typed : spec.find? "type" = some type) (inside : Describes type text) :
    Describes (.object fields) text

/-- The value is text, or counts as nothing given. -/
def Plain (text : Value) : Prop := text.isGiven = true → ∃ s, text = .text s

/-- A value that is shown when a raw descriptor is read: the name of a member, or what is skipped, a
member without a name or a field that is malformed. -/
inductive Shows : Value → Value → Prop
  | name {fields : Table Value} {members : List Value} {entry : Value}
    (values : fields.find? "values" = some (.list members)) (mem : entry ∈ members)
    (named : entry.getD "name" ≠ .null) : Shows (.object fields) (entry.getD "name")
  | member {fields : Table Value} {members : List Value} {entry : Value}
    (values : fields.find? "values" = some (.list members)) (mem : entry ∈ members)
    (nameless : entry.getD "name" = .null) : Shows (.object fields) entry
  | field {fields : Table Value} {entries : List Value} {entry : Value}
    (shape : fieldsOf? fields = some (.list entries)) (mem : entry ∈ entries)
    (malformed : holdsOneField entry = false) : Shows (.object fields) entry
  | inner {fields : Table Value} {given shown : Value} {e : String × Value}
    (shape : fieldsOf? fields = some given) (mem : e ∈ fieldEntries given)
    (inside : Shows (e.2.getD "type") shown) : Shows (.object fields) shown

/-- How many calls wait for each other somewhere in the reading of a raw descriptor: one for each lead
of a name, one for the fields of an object and one more for the type of each. -/
inductive Descends : Value → Nat → Prop
  | leads (s : String) : Descends (.text s) (TypeName.leads s.toList)
  | fields {fields : Table Value} {given : Value} (shape : fieldsOf? fields = some given) :
    Descends (.object fields) 1
  | field {fields : Table Value} {given : Value} {e : String × Value}
    (shape : fieldsOf? fields = some given) (mem : e ∈ fieldEntries given) :
    Descends (.object fields) 2
  | inner {fields : Table Value} {given : Value} {e : String × Value} {n : Nat}
    (shape : fieldsOf? fields = some given) (mem : e ∈ fieldEntries given)
    (inside : Descends (e.2.getD "type") n) : Descends (.object fields) (n + 2)

/-- Nothing in a raw descriptor is in the way of its reading, with room for so many calls. -/
structure Readable [Stack] (levels : Nat) (raw : Value) : Prop where
  plain : ∀ text, Describes raw text → Plain text
  shown : ∀ v, Shows raw v → v.Within .showValue
  shallow : ∀ n, Descends raw n → n ≤ levels

/-! ### Members and fields -/

theorem succeeds_ofChecked_iff {α : Type} {record : String} {x : Checked α} :
    Succeeds (Traced.ofChecked record x) ↔ ∃ a, x = .good a := by
  cases x with
  | good a => exact ⟨fun _ => ⟨a, rfl⟩, fun _ => ⟨a, rfl⟩⟩
  | bad issues =>
    constructor
    · rintro ⟨a, h⟩
      cases h
    · rintro ⟨a, h⟩
      cases h

theorem description_good_iff {fields : Table Value} :
    (∃ a, description fields = .good a) ↔
      ∀ text, fields.find? "description" = some text → Plain text := by
  unfold description
  cases hf : fields.find? "description" with
  | none => simp
  | some text =>
    simp only [Option.some.injEq, forall_eq']
    by_cases hg : text.isGiven = true
    · rw [if_pos hg]
      constructor
      · rintro ⟨a, ha⟩ _
        cases text with
        | text s => exact ⟨s, rfl⟩
        | _ => cases ha
      · intro h
        obtain ⟨s, rfl⟩ := h hg
        exact ⟨some s, rfl⟩
    · rw [if_neg hg]
      exact ⟨fun _ h => absurd h hg, fun _ => ⟨none, rfl⟩⟩

theorem succeeds_makeField_iff {name : String} {spec : Table Value} {type : Descriptor} :
    Succeeds (makeField name spec type) ↔
      ∀ text, spec.find? "description" = some text → Plain text := by
  unfold makeField
  rw [Traced.succeeds_bind_of_forall fun _ => Traced.succeeds_pure _, succeeds_ofChecked_iff,
    description_good_iff]

theorem succeeds_descend_iff {α : Type} {levels : Nat} {next : Nat → Traced α} :
    Succeeds (descend levels next) ↔ ∃ left, levels = left + 1 ∧ Succeeds (next left) := by
  simp only [Succeeds, descend_ok_iff]
  constructor
  · rintro ⟨a, left, hlevels, ha⟩
    exact ⟨left, hlevels, a, ha⟩
  · rintro ⟨left, hlevels, a, ha⟩
    exact ⟨a, left, hlevels, ha⟩

theorem getD_of_not_object {v : Value} {key : String} (h : ∀ fields : Table Value, v ≠ .object fields) :
    v.getD key = .null := by
  cases v with
  | object fields => exact absurd rfl (h fields)
  | _ => rfl

section
variable [Stack]

theorem succeeds_written_iff {d : Descent} {form : Value → String} {v : Value} :
    Succeeds (Traced.ofExcept (v.written d form)) ↔ v.Within d := by
  constructor
  · rintro ⟨text, h⟩
    exact (Value.written_ok_iff.mp h).1
  · intro h
    exact ⟨form v, Value.written_of_within h⟩

theorem succeeds_skip_iff {noted : Value → Diagnostic} {entry : Value} :
    Succeeds (skip noted entry) ↔ entry.Within .showValue := by
  unfold skip
  rw [Traced.succeeds_bind_of_forall fun _ => ⟨(), rfl⟩]
  exact succeeds_written_iff

/-- A member without a name is skipped, so that its description does not count. -/
theorem succeeds_readMember_iff {entry : Value} :
    Succeeds (readMember entry) ↔
      (entry.getD "name" = .null → entry.Within .showValue) ∧
        (entry.getD "name" ≠ .null → (entry.getD "name").Within .showValue) ∧
          ∀ fields : Table Value, entry = .object fields → (fields.find? "name").getD .null ≠ .null →
            ∀ text, fields.find? "description" = some text → Plain text := by
  unfold readMember
  split
  · rename_i hname
    rw [Traced.succeeds_bind_of_forall fun _ => Traced.succeeds_pure _, succeeds_skip_iff]
    refine ⟨fun h => ⟨fun _ => h, fun hnamed => absurd hname hnamed, fun fields he hnamed => ?_⟩,
      fun h => h.1 hname⟩
    subst he
    exact absurd hname hnamed
  · rename_i fields hname
    rw [Traced.succeeds_bind_iff]
    simp only [Traced.succeeds_bind_of_forall fun _ => Traced.succeeds_pure _, succeeds_ofChecked_iff,
      description_good_iff]
    constructor
    · rintro ⟨shown, hshown, h⟩
      refine ⟨fun hnull => absurd hnull hname, fun _ => (Value.written_ok_iff.mp hshown).1,
        fun other he _ => ?_⟩
      cases he
      exact h
    · rintro ⟨_, hwithin, h⟩
      exact ⟨_, Value.written_of_within (hwithin hname), h fields rfl hname⟩
  · rename_i hobject hname
    exact absurd (getD_of_not_object hobject) hname

theorem succeeds_readMembers_iff {entries : List Value} :
    Succeeds (readMembers entries) ↔ ∀ entry ∈ entries, Succeeds (readMember entry) := by
  unfold readMembers
  rw [Traced.succeeds_bind_of_forall fun _ => Traced.succeeds_pure _, Traced.succeeds_mapM_iff]

theorem succeeds_skipMalformedFields_iff {entries : List Value} :
    Succeeds (skipMalformedFields entries) ↔
      ∀ entry ∈ entries, holdsOneField entry = false → entry.Within .showValue := by
  have hskip : ∀ malformed : List Value, Succeeds (malformed.forM (skip .malformedField)) ↔
      ∀ entry ∈ malformed, entry.Within .showValue := by
    intro malformed
    induction malformed with
    | nil => simp [Traced.succeeds_pure]
    | cons e rest ih =>
      rw [List.forall_mem_cons, ← ih, ← succeeds_skip_iff]
      refine Traced.succeeds_bind_iff.trans ?_
      constructor
      · rintro ⟨_, he, h⟩
        exact ⟨⟨_, he⟩, h⟩
      · rintro ⟨⟨_, he⟩, h⟩
        exact ⟨_, he, h⟩
  rw [skipMalformedFields, hskip]
  simp

variable {vocabulary : Vocabulary} {levels : Nat}

/-! ### Shapes -/

theorem classifyFields_eq (fields : Table Value) :
    classifyFields vocabulary levels fields =
      (fields.find? "fields").map fun given =>
        descend levels fun left => object <$> readFields vocabulary left given := by
  induction fields with
  | nil => rfl
  | cons e rest ih =>
    obtain ⟨key, v⟩ := e
    simp only [classifyFields, Table.find?]
    split
    · rfl
    · exact ih

theorem classifyAt_null : classifyAt vocabulary levels .null = pure (reference namelessName) := by
  rw [classifyAt] <;> simp

theorem classifyType_eq (fields : Table Value) :
    classifyType vocabulary levels fields =
      classifyAt vocabulary levels ((fields.find? "type").getD .null) := by
  induction fields with
  | nil => exact classifyAt_null.symm
  | cons e rest ih =>
    obtain ⟨key, v⟩ := e
    simp only [classifyType, Table.find?]
    split
    · rfl
    · exact ih

/-- A field that is no table has no type and no description. -/
theorem readField_eq (name : String) (v : Value) :
    readField vocabulary levels name v =
      descend levels (fun left => classifyAt vocabulary left (v.getD "type")) >>=
        makeField name (v.fields?.getD []) := by
  cases v with
  | object spec =>
    rw [readField]
    simp only [classifyType_eq]
    rfl
  | _ =>
    rw [readField]
    · simp only [Value.getD, Value.get?, Option.getD_none, classifyAt_null]
      rfl
    · simp

/-- A list of fields is read as the table of those entries that are in order. -/
theorem readFieldList_eq (entries : List Value) :
    readFieldList vocabulary levels entries =
      readFieldTable vocabulary levels (entries.filterMap soleEntry?) := by
  induction entries with
  | nil => simp [readFieldList, readFieldTable]
  | cons e rest ih =>
    cases e with
    | object fields =>
      rcases fields with _ | ⟨⟨name, spec⟩, _ | ⟨second, more⟩⟩
      · rw [readFieldList, ih]
        · rfl
        · simp
      · rw [readFieldList, ih]
        rfl
      · rw [readFieldList, ih]
        · rfl
        · simp
    | _ =>
      rw [readFieldList, ih]
      · rfl
      · simp

theorem classifyAt_values {fields : Table Value} {members : List Value}
    (h : fields.find? "values" = some (.list members)) :
    classifyAt vocabulary levels (.object fields) = enumeration <$> readMembers members := by
  rw [classifyAt]
  simp only [h]

/-- What has no list of values is read by its fields, if it has any. -/
theorem classifyAt_valueless {fields : Table Value}
    (hv : ∀ members, fields.find? "values" ≠ some (.list members)) :
    classifyAt vocabulary levels (.object fields) =
      ((fields.find? "fields").map fun given =>
        descend levels fun left => object <$> readFields vocabulary left given).getD
        (pure (reference (referenceName (.object fields)))) := by
  rw [classifyAt, classifyFields_eq]
  split
  · rename_i members hm
    exact absurd hm (hv members)
  · rfl

end

theorem fieldsOf?_eq {fields : Table Value}
    (hv : ∀ members, fields.find? "values" ≠ some (.list members)) :
    fieldsOf? fields = fields.find? "fields" := by
  unfold fieldsOf?
  split
  · rename_i members hm
    exact absurd hm (hv members)
  · rfl

theorem values_ne_of_fieldsOf? {fields : Table Value} {given : Value}
    (shape : fieldsOf? fields = some given) (members : List Value) :
    fields.find? "values" ≠ some (.list members) := by
  intro hv
  simp [fieldsOf?, hv] at shape

theorem fieldsOf?_of_values {fields : Table Value} {members : List Value}
    (hv : fields.find? "values" = some (.list members)) : fieldsOf? fields = none := by
  simp [fieldsOf?, hv]

/-- A table makes an enumeration, has no shape, or makes an object. -/
theorem shape_cases (fields : Table Value) :
    (∃ members, fields.find? "values" = some (.list members)) ∨
      ((∀ members, fields.find? "values" ≠ some (.list members)) ∧ fieldsOf? fields = none) ∨
      ∃ given, fieldsOf? fields = some given := by
  by_cases hv : ∃ members, fields.find? "values" = some (.list members)
  · exact .inl hv
  · cases hs : fieldsOf? fields with
    | none => exact .inr (.inl ⟨not_exists.mp hv, rfl⟩)
    | some given => exact .inr (.inr ⟨given, rfl⟩)

theorem sizeOf_lt_of_mem_fieldEntries {given v : Value} {name : String}
    (h : (name, v) ∈ fieldEntries given) : sizeOf v < sizeOf given := by
  cases given with
  | object entries =>
    have hm : (name, v) ∈ entries := h
    have := List.sizeOf_lt_of_mem hm
    simp only [Prod.mk.sizeOf_spec, Value.object.sizeOf_spec] at this ⊢
    omega
  | list entries =>
    obtain ⟨entry, he, hs⟩ := List.mem_filterMap.mp h
    obtain rfl : entry = .object [(name, v)] := by
      unfold soleEntry? at hs
      split at hs
      · rw [Option.some.inj hs]
      · cases hs
    have := List.sizeOf_lt_of_mem he
    simp only [Value.object.sizeOf_spec, List.cons.sizeOf_spec, Prod.mk.sizeOf_spec,
      Value.list.sizeOf_spec] at this ⊢
    omega
  | _ => cases h

theorem sizeOf_lt_of_fieldsOf? {fields : Table Value} {given : Value}
    (shape : fieldsOf? fields = some given) : sizeOf given < sizeOf fields := by
  unfold fieldsOf? at shape
  split at shape
  · cases shape
  · exact Value.sizeOf_lt_of_find? shape

/-- The type of a field stands inside the table that the field is read from. -/
theorem sizeOf_typeOf_lt {fields : Table Value} {given : Value} {e : String × Value}
    (shape : fieldsOf? fields = some given) (mem : e ∈ fieldEntries given) :
    sizeOf (e.2.getD "type") < sizeOf fields := by
  have hgiven := sizeOf_lt_of_fieldsOf? shape
  have hentry := sizeOf_lt_of_mem_fieldEntries mem
  have htype := Value.sizeOf_getD_le e.2 "type"
  omega

theorem mem_of_snd_eq {entries : List (String × Value)} {e : String × Value} {v : Value}
    (h : e ∈ entries) (he : e.2 = v) : (e.1, v) ∈ entries := by
  subst he
  exact h

theorem typed_of_getD {v : Value} {text : Value} (h : Describes (v.getD "type") text) :
    ∃ (spec : Table Value) (type : Value),
      v = .object spec ∧ spec.find? "type" = some type ∧ Describes type text := by
  cases v with
  | object spec =>
    change Describes ((Table.find? spec "type").getD .null) text at h
    cases ht : Table.find? spec "type" with
    | none =>
      rw [ht] at h
      cases h
    | some type =>
      rw [ht] at h
      exact ⟨spec, type, rfl, ht, h⟩
  | _ => cases h

section
variable [Stack] {vocabulary : Vocabulary} {levels : Nat}

theorem classifyAt_fields {fields : Table Value} {given : Value}
    (shape : fieldsOf? fields = some given) :
    classifyAt vocabulary levels (.object fields) =
      descend levels fun left => object <$> readFields vocabulary left given := by
  have hv := values_ne_of_fieldsOf? shape
  rw [classifyAt_valueless hv, ← fieldsOf?_eq hv, shape]
  rfl

theorem classifyAt_shapeless {fields : Table Value}
    (hv : ∀ members, fields.find? "values" ≠ some (.list members)) (h : fieldsOf? fields = none) :
    classifyAt vocabulary levels (.object fields) =
      pure (reference (referenceName (.object fields))) := by
  rw [classifyAt_valueless hv, ← fieldsOf?_eq hv, h]
  rfl

/-! ### What is in the way -/

theorem succeeds_readFieldTable_iff {entries : List (String × Value)} :
    Succeeds (readFieldTable vocabulary levels entries) ↔
      ∀ e ∈ entries, Succeeds (readField vocabulary levels e.1 e.2) := by
  induction entries with
  | nil => simp [readFieldTable, Traced.succeeds_pure]
  | cons e rest ih =>
    obtain ⟨name, spec⟩ := e
    rw [readFieldTable, List.forall_mem_cons, ← ih, Traced.succeeds_bind_iff]
    simp only [Traced.succeeds_bind_of_forall fun more => Traced.succeeds_pure (_ :: more)]
    constructor
    · rintro ⟨a, ha, h⟩
      exact ⟨⟨a, ha⟩, h⟩
    · rintro ⟨⟨a, ha⟩, h⟩
      exact ⟨a, ha, h⟩

theorem succeeds_readFields_iff {given : Value} :
    Succeeds (readFields vocabulary levels given) ↔
      (∀ entries, given = .list entries → Succeeds (skipMalformedFields entries)) ∧
        ∀ e ∈ fieldEntries given, Succeeds (readField vocabulary levels e.1 e.2) := by
  cases given with
  | object entries =>
    rw [readFields, succeeds_readFieldTable_iff]
    refine ⟨fun h => ⟨?_, h⟩, fun h => h.2⟩
    intro others hothers
    cases hothers
  | list entries =>
    rw [readFields, readFieldList_eq, Traced.succeeds_bind_iff, fieldEntries,
      ← succeeds_readFieldTable_iff]
    simp only [Value.list.injEq, forall_eq']
    constructor
    · rintro ⟨_, hskip, h⟩
      exact ⟨⟨_, hskip⟩, h⟩
    · rintro ⟨⟨_, hskip⟩, h⟩
      exact ⟨_, hskip, h⟩
  | _ => simp [readFields, fieldEntries, Traced.succeeds_pure]

theorem succeeds_readField_iff {name : String} {v : Value} :
    Succeeds (readField vocabulary levels name v) ↔
      (∃ left, levels = left + 1 ∧ Succeeds (classifyAt vocabulary left (v.getD "type"))) ∧
        ∀ spec : Table Value, v = .object spec →
          ∀ text, spec.find? "description" = some text → Plain text := by
  rw [readField_eq, Traced.succeeds_bind_iff, ← succeeds_descend_iff]
  simp only [succeeds_makeField_iff]
  constructor
  · rintro ⟨a, ha, h⟩
    refine ⟨⟨a, ha⟩, fun spec he => ?_⟩
    subst he
    exact h
  · rintro ⟨⟨a, ha⟩, h⟩
    refine ⟨a, ha, fun text hf => ?_⟩
    cases v with
    | object spec => exact h spec rfl text hf
    | _ => cases hf

/-- What the members of an enumeration ask for. -/
theorem readable_values_iff {fields : Table Value} {members : List Value}
    (hv : fields.find? "values" = some (.list members)) :
    Readable levels (.object fields) ↔ ∀ entry ∈ members, Succeeds (readMember entry) := by
  have hnone := fieldsOf?_of_values hv
  simp only [succeeds_readMember_iff]
  constructor
  · rintro ⟨plain, shown, _⟩ entry hm
    refine ⟨fun h => shown _ (.member hv hm h), fun h => shown _ (.name hv hm h), ?_⟩
    rintro other rfl hn text hf
    exact plain text (.member hv hm hn hf)
  · intro h
    refine ⟨fun text hd => ?_, fun v hd => ?_, fun n hd => ?_⟩
    · cases hd with
      | member values mem named found =>
        obtain rfl := Value.list.inj (Option.some.inj (hv.symm.trans values))
        exact (h _ mem).2.2 _ rfl named text found
      | field shape => cases hnone.symm.trans shape
      | inner shape => cases hnone.symm.trans shape
    · cases hd with
      | name values mem named =>
        obtain rfl := Value.list.inj (Option.some.inj (hv.symm.trans values))
        exact (h _ mem).2.1 named
      | member values mem nameless =>
        obtain rfl := Value.list.inj (Option.some.inj (hv.symm.trans values))
        exact (h _ mem).1 nameless
      | field shape => cases hnone.symm.trans shape
      | inner shape => cases hnone.symm.trans shape
    · cases hd with
      | fields shape => cases hnone.symm.trans shape
      | field shape => cases hnone.symm.trans shape
      | inner shape => cases hnone.symm.trans shape

theorem readable_shapeless {fields : Table Value}
    (hv : ∀ members, fields.find? "values" ≠ some (.list members)) (hs : fieldsOf? fields = none) :
    Readable levels (.object fields) := by
  refine ⟨fun text hd => ?_, fun v hd => ?_, fun n hd => ?_⟩
  · cases hd with
    | member values => exact absurd values (hv _)
    | field shape => cases hs.symm.trans shape
    | inner shape => cases hs.symm.trans shape
  · cases hd with
    | name values => exact absurd values (hv _)
    | member values => exact absurd values (hv _)
    | field shape => cases hs.symm.trans shape
    | inner shape => cases hs.symm.trans shape
  · cases hd with
    | fields shape => cases hs.symm.trans shape
    | field shape => cases hs.symm.trans shape
    | inner shape => cases hs.symm.trans shape

/-- What a field asks for, with the room that is left for it. -/
structure FieldReadable (levels : Nat) (v : Value) : Prop where
  plain : ∀ spec : Table Value, v = .object spec →
    ∀ text, spec.find? "description" = some text → Plain text
  type : ∃ left, levels = left + 1 ∧ Readable left (v.getD "type")

/-- What the fields of an object ask for: one call for all of them, and what each asks for behind it. -/
theorem readable_fields_iff {fields : Table Value} {given : Value}
    (hs : fieldsOf? fields = some given) :
    Readable levels (.object fields) ↔ ∃ left, levels = left + 1 ∧
      (∀ entries, given = .list entries → ∀ entry ∈ entries, holdsOneField entry = false →
        entry.Within .showValue) ∧
      ∀ e ∈ fieldEntries given, FieldReadable left e.2 := by
  constructor
  · rintro ⟨plain, shown, shallow⟩
    have hone := shallow 1 (.fields hs)
    obtain ⟨left, rfl⟩ : ∃ left, levels = left + 1 := ⟨levels - 1, by omega⟩
    refine ⟨left, rfl, ?_, fun e hm => ⟨?_, ?_⟩⟩
    · rintro entries rfl entry hm hmalformed
      exact shown _ (.field hs hm hmalformed)
    · intro spec he text hf
      exact plain text (.field hs (mem_of_snd_eq hm he) hf)
    · have htwo := shallow 2 (.field hs hm)
      obtain ⟨rest, rfl⟩ : ∃ rest, left = rest + 1 := ⟨left - 1, by omega⟩
      refine ⟨rest, rfl, fun text hd => ?_, fun v hd => shown v (.inner hs hm hd), fun n hd => ?_⟩
      · obtain ⟨spec, type, he, htype, hinside⟩ := typed_of_getD hd
        exact plain text (.inner hs (mem_of_snd_eq hm he) htype hinside)
      · have := shallow (n + 2) (.inner hs hm hd)
        omega
  · rintro ⟨left, rfl, hskip, heach⟩
    refine ⟨fun text hd => ?_, fun v hd => ?_, fun n hd => ?_⟩
    · cases hd with
      | member values => exact absurd values (values_ne_of_fieldsOf? hs _)
      | field shape mem found =>
        obtain rfl := Option.some.inj (hs.symm.trans shape)
        exact (heach _ mem).plain _ rfl text found
      | inner shape mem typed inside =>
        obtain rfl := Option.some.inj (hs.symm.trans shape)
        obtain ⟨rest, -, hreadable⟩ := (heach _ mem).type
        refine hreadable.plain text ?_
        simp only [Value.getD, Value.get?, typed, Option.getD_some]
        exact inside
    · cases hd with
      | name values => exact absurd values (values_ne_of_fieldsOf? hs _)
      | member values => exact absurd values (values_ne_of_fieldsOf? hs _)
      | field shape mem malformed =>
        exact hskip _ (Option.some.inj (hs.symm.trans shape)) _ mem malformed
      | inner shape mem inside =>
        obtain rfl := Option.some.inj (hs.symm.trans shape)
        obtain ⟨rest, -, hreadable⟩ := (heach _ mem).type
        exact hreadable.shown v inside
    · cases hd with
      | fields => omega
      | field shape mem =>
        obtain rfl := Option.some.inj (hs.symm.trans shape)
        obtain ⟨rest, rfl, -⟩ := (heach _ mem).type
        omega
      | inner shape mem inside =>
        obtain rfl := Option.some.inj (hs.symm.trans shape)
        obtain ⟨rest, rfl, hreadable⟩ := (heach _ mem).type
        have := hreadable.shallow _ inside
        omega

/-- The step for the fields of an object, whose types stand inside it. -/
theorem succeeds_classifyAt_fields {fields : Table Value} {given : Value}
    (hs : fieldsOf? fields = some given)
    (ih : ∀ (left : Nat) (type : Value), sizeOf type < sizeOf fields →
      (Succeeds (classifyAt vocabulary left type) ↔ Readable left type)) :
    Succeeds (classifyAt vocabulary levels (.object fields)) ↔ Readable levels (.object fields) := by
  rw [classifyAt_fields hs, succeeds_descend_iff, readable_fields_iff hs]
  refine exists_congr fun left => and_congr_right fun _ => ?_
  rw [Traced.succeeds_map_iff, succeeds_readFields_iff]
  simp only [succeeds_skipMalformedFields_iff]
  refine and_congr_right fun _ => forall_congr' fun e => forall_congr' fun hm => ?_
  rw [succeeds_readField_iff]
  simp only [ih _ _ (sizeOf_typeOf_lt hs hm)]
  exact ⟨fun ⟨htype, hplain⟩ => ⟨hplain, htype⟩, fun ⟨hplain, htype⟩ => ⟨htype, hplain⟩⟩

/-- What is no table asks for nothing but a call for each lead of a name. -/
theorem readable_iff_of_not_object {v : Value} (h : ∀ fields : Table Value, v ≠ .object fields) :
    Readable levels v ↔ ∀ s, v = .text s → TypeName.leads s.toList ≤ levels := by
  constructor
  · rintro ⟨_, _, shallow⟩ s rfl
    exact shallow _ (.leads s)
  · intro hleads
    refine ⟨fun text hd => ?_, fun w hd => ?_, fun n hd => ?_⟩
    · cases hd <;> exact absurd rfl (h _)
    · cases hd <;> exact absurd rfl (h _)
    · cases hd with
      | leads s => exact hleads s rfl
      | fields => exact absurd rfl (h _)
      | field => exact absurd rfl (h _)
      | inner => exact absurd rfl (h _)

theorem readable_text_iff {s : String} :
    Readable levels (.text s) ↔ TypeName.leads s.toList ≤ levels := by
  simp [readable_iff_of_not_object]

theorem succeeds_classifyAt_text {s : String} :
    Succeeds (classifyAt vocabulary levels (.text s)) ↔ Readable levels (.text s) := by
  rw [classifyAt, readable_text_iff]
  constructor
  · rintro ⟨d, hd⟩
    exact (TypeName.classify_ok_iff.mp hd).1
  · intro h
    exact ⟨_, TypeName.classify_ok_iff.mpr ⟨h, rfl⟩⟩

/-- A descriptor is read exactly if nothing in it is in the way. -/
theorem succeeds_classifyAt_iff (levels : Nat) (v : Value) :
    Succeeds (classifyAt vocabulary levels v) ↔ Readable levels v := by
  cases v with
  | object fields =>
    obtain ⟨members, hv⟩ | ⟨hv, hs⟩ | ⟨given, hs⟩ := shape_cases fields
    · rw [classifyAt_values hv, Traced.succeeds_map_iff, succeeds_readMembers_iff,
        readable_values_iff hv]
    · rw [classifyAt_shapeless hv hs]
      exact iff_of_true (Traced.succeeds_pure _) (readable_shapeless hv hs)
    · exact succeeds_classifyAt_fields hs fun left type hlt => succeeds_classifyAt_iff left type
  | text s => exact succeeds_classifyAt_text
  | _ =>
    rw [classifyAt]
    · refine iff_of_true (Traced.succeeds_pure _) ⟨?_, ?_, ?_⟩
      · intro text h
        cases h
      · intro shown h
        cases h
      · intro n h
        cases h
    all_goals simp
termination_by sizeOf v
decreasing_by
  simp only [Value.object.sizeOf_spec]
  omega

theorem succeeds_classify_iff (v : Value) :
    Succeeds (classify vocabulary v) ↔ Readable (Stack.levels .readType) v :=
  succeeds_classifyAt_iff _ v

end

end Descriptor

namespace Schema
open Traced (Succeeds)
open Descriptor (Readable)

section
variable {overrides : Overrides} {vocabulary : Vocabulary} [Stack]

theorem succeeds_ofRaw_iff {raw : Value} :
    Succeeds (ofRaw overrides vocabulary raw) ↔ Succeeds (Descriptor.classify vocabulary raw) :=
  Traced.succeeds_bind_of_forall fun _ => Traced.succeeds_lift _

theorem succeeds_ofNamed_iff {name : String} {raw : Value} :
    Succeeds (ofNamed overrides vocabulary name raw) ↔
      Succeeds (Descriptor.classify vocabulary raw) := by
  refine Traced.succeeds_bind_of_forall fun d => ?_
  cases d with
  | reference other => exact ⟨opaqueObject, rfl⟩
  | _ => exact Traced.succeeds_lift _

theorem succeeds_ofCatalogue_iff {types : Value} :
    Succeeds (ofCatalogue overrides vocabulary types) ↔
      ∀ e ∈ types.fields?.getD [], Succeeds (Descriptor.classify vocabulary e.2) := by
  have hentries : ∀ entries : Table Value,
      Succeeds (entries.mapM (ofEntry overrides vocabulary)) ↔
        ∀ e ∈ entries, Succeeds (Descriptor.classify vocabulary e.2) := by
    intro entries
    rw [Traced.succeeds_mapM_iff]
    refine forall_congr' fun e => forall_congr' fun _ => ?_
    have hnamed : Succeeds (ofNamed overrides vocabulary e.1 e.2) ↔
        Succeeds (Descriptor.classify vocabulary e.2) := succeeds_ofNamed_iff
    rw [← hnamed]
    exact Traced.succeeds_bind_of_forall fun _ => Traced.succeeds_pure _
  rw [← hentries, ofCatalogue, Traced.succeeds_bind_iff, result_namedTypes]
  simp only [Except.ok.injEq, exists_eq_left']
  refine Traced.succeeds_bind_of_forall fun named => ?_
  split
  · exact ⟨_, rfl⟩
  · exact ⟨_, rfl⟩

end

/-- Reading a descriptor, translating it and building a whole catalogue give a result exactly if nothing
that is read is in the way: a description that is neither text nor counts as nothing given, a value that
is to be shown and cannot be, or more calls inside of each other than the stack has room for. Nothing
else that is malformed is. -/
theorem readable_iff_descriptions_plain [Stack] (overrides : Overrides) (vocabulary : Vocabulary)
    (raw types : Value) :
    (Succeeds (Descriptor.classify vocabulary raw) ↔ Readable (Stack.levels .readType) raw) ∧
      (Succeeds (ofRaw overrides vocabulary raw) ↔ Readable (Stack.levels .readType) raw) ∧
      (Succeeds (ofCatalogue overrides vocabulary types) ↔
        ∀ e ∈ types.fields?.getD [], Readable (Stack.levels .readType) e.2) := by
  refine ⟨Descriptor.succeeds_classify_iff raw, ?_, ?_⟩
  · rw [succeeds_ofRaw_iff]
    exact Descriptor.succeeds_classify_iff raw
  · rw [succeeds_ofCatalogue_iff]
    exact forall_congr' fun e => forall_congr' fun _ => Descriptor.succeeds_classify_iff e.2

/-- An enumeration with a number for a description. -/
def numbered : Value :=
  .object [("values", .list [.object [("name", .text "RED"), ("description", .int 5)]])]

open Stack.Usual in
/-- The number is not skipped: nothing that it stands in can be read. -/
theorem numbered_unreadable :
    (Descriptor.classify .standard numbered).result =
        .error (.invalid ⟨"EnumValue", [⟨["description"], .notText⟩]⟩) ∧
      ¬Succeeds (ofRaw [] .standard numbered) ∧
      ¬Succeeds (ofCatalogue [] .standard (.object [("Colour", numbered)])) := by
  have hplain : ¬Descriptor.Plain (.int 5) := by
    intro h
    obtain ⟨s, hs⟩ := h rfl
    cases hs
  have hunread : ¬Readable (Stack.levels .readType) numbered := by
    intro h
    exact hplain (h.plain _ (.member rfl (List.mem_singleton_self _) nofun rfl))
  refine ⟨rfl, ?_, ?_⟩
  · rw [succeeds_ofRaw_iff, Descriptor.succeeds_classify_iff]
    exact hunread
  · rw [succeeds_ofCatalogue_iff]
    intro h
    exact hunread ((Descriptor.succeeds_classify_iff _).mp (h _ (List.mem_singleton_self _)))

end Schema
end ServiceAtlas
