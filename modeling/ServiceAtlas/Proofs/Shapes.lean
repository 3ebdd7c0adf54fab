import ServiceAtlas.Proofs.Descriptions
import ServiceAtlas.Proofs.RenamedReferences

/-!
The shapes of a raw descriptor and what they are translated to. Of several fields with one name the
object keeps the first place and the last type; what is malformed leaves a diagnostic and nothing else;
a list of values comes before fields, however deep it stands.
-/

namespace ServiceAtlas

namespace Descriptor
open Traced (Succeeds)
variable {vocabulary : Vocabulary} {levels : Nat} {fields : Table Value} {given : Value}

/-! ### Fields -/

theorem name_makeField {name : String} {spec : Table Value} {type : Descriptor} {field : Field}
    (h : (makeField name spec type).result = .ok field) : field.name = name := by
  obtain ⟨text, _, h⟩ := Traced.bind_ok_iff.mp h
  obtain rfl := Except.ok.inj h
  rfl

section
variable [Stack]

theorem readField_ok {name : String} {v : Value} {field : Field}
    (h : (readField vocabulary levels name v).result = .ok field) :
    field.name = name ∧ ∃ left, levels = left + 1 ∧
      (classifyAt vocabulary left (v.getD "type")).result = .ok field.type := by
  rw [readField_eq] at h
  obtain ⟨type, htype, h⟩ := Traced.bind_ok_iff.mp h
  rw [type_makeField h]
  exact ⟨name_makeField h, descend_ok_iff.mp htype⟩

theorem readFieldTable_ok_iff {entries : List (String × Value)} {found : List Field} :
    (readFieldTable vocabulary levels entries).result = .ok found ↔
      List.Forall₂ (fun e f => (readField vocabulary levels e.1 e.2).result = .ok f) entries found := by
  induction entries generalizing found with
  | nil => simp [readFieldTable, eq_comm]
  | cons e rest ih =>
    rw [readFieldTable, List.forall₂_cons_left_iff, Traced.bind_ok_iff]
    refine exists_congr fun field => ?_
    constructor
    · rintro ⟨hfield, h⟩
      obtain ⟨more, hmore, h⟩ := Traced.bind_ok_iff.mp h
      exact ⟨more, hfield, ih.mp hmore, (Except.ok.inj h).symm⟩
    · rintro ⟨more, hfield, hmore, rfl⟩
      exact ⟨hfield, Traced.bind_ok_iff.mpr ⟨more, ih.mpr hmore, rfl⟩⟩

/-- In whichever form the fields are given, they are read one by one, once the malformed ones have
been skipped. -/
theorem readFields_ok_iff {found : List Field} :
    (readFields vocabulary levels given).result = .ok found ↔
      (∀ entries, given = .list entries → Succeeds (skipMalformedFields entries)) ∧
        List.Forall₂ (fun e f => (readField vocabulary levels e.1 e.2).result = .ok f)
          (fieldEntries given) found := by
  cases given with
  | object entries =>
    rw [readFields, readFieldTable_ok_iff]
    refine ⟨fun h => ⟨?_, h⟩, fun h => h.2⟩
    intro others hothers
    cases hothers
  | list entries =>
    rw [readFields, readFieldList_eq, Traced.bind_ok_iff, fieldEntries, ← readFieldTable_ok_iff]
    simp only [Value.list.injEq, forall_eq']
    constructor
    · rintro ⟨_, hskip, h⟩
      exact ⟨⟨_, hskip⟩, h⟩
    · rintro ⟨⟨_, hskip⟩, h⟩
      exact ⟨_, hskip, h⟩
  | _ => simp [readFields, fieldEntries, eq_comm]

theorem names_of_read {entries : List (String × Value)} {read : List Field}
    (h : List.Forall₂ (fun e f => (readField vocabulary levels e.1 e.2).result = .ok f) entries read) :
    read.map (fun f => f.name) = entries.map Prod.fst := by
  induction h with
  | nil => rfl
  | cons hr _ ih => rw [List.map_cons, List.map_cons, ih, (readField_ok hr).1]

/-- The step for the fields of an object: each type stands inside it, so that it is read with more room
as well. -/
theorem classifyAt_fields_mono {more : Nat} (hle : levels ≤ more)
    (hs : fieldsOf? fields = some given)
    (ih : ∀ (less more : Nat) (type : Value) (d : Descriptor), sizeOf type < sizeOf fields →
      less ≤ more → (classifyAt vocabulary less type).result = .ok d →
        (classifyAt vocabulary more type).result = .ok d)
    {d : Descriptor} (h : (classifyAt vocabulary levels (.object fields)).result = .ok d) :
    (classifyAt vocabulary more (.object fields)).result = .ok d := by
  rw [classifyAt_fields hs, descend_ok_iff] at h ⊢
  obtain ⟨left, rfl, h⟩ := h
  obtain ⟨read, hread, rfl⟩ := Traced.map_ok_iff.mp h
  obtain ⟨hskip, heach⟩ := readFields_ok_iff.mp hread
  refine ⟨more - 1, by omega, Traced.map_ok_iff.mpr ⟨read, ?_, rfl⟩⟩
  refine readFields_ok_iff.mpr ⟨hskip, ?_⟩
  have hinside := (List.forall₂_and_left _ _).mpr ⟨fun e (hm : e ∈ fieldEntries given) => hm, heach⟩
  refine hinside.imp ?_
  rintro e field ⟨hm, hfield⟩
  rw [readField_eq, Traced.bind_ok_iff] at hfield ⊢
  obtain ⟨type, htype, hmade⟩ := hfield
  obtain ⟨rest, rfl, htype⟩ := descend_ok_iff.mp htype
  have hmore := ih rest (more - 2) _ type (sizeOf_typeOf_lt hs hm) (by omega) htype
  exact ⟨type, descend_ok_iff.mpr ⟨more - 2, by omega, hmore⟩, hmade⟩

/-- With more room the result is the same. -/
theorem classifyAt_mono (v : Value) : ∀ {less more : Nat} {d : Descriptor}, less ≤ more →
    (classifyAt vocabulary less v).result = .ok d → (classifyAt vocabulary more v).result = .ok d := by
  cases v with
  | object fields =>
    intro less more d hle h
    obtain ⟨members, hv⟩ | ⟨hv, hs⟩ | ⟨given, hs⟩ := shape_cases fields
    · rwa [classifyAt_values hv] at h ⊢
    · rwa [classifyAt_shapeless hv hs] at h ⊢
    · exact classifyAt_fields_mono hle hs
        (fun _ _ type _ hlt hle h => classifyAt_mono type hle h) h
  | text s =>
    intro less more d hle h
    rw [classifyAt] at h ⊢
    obtain ⟨hleads, rfl⟩ := TypeName.classify_ok_iff.mp h
    exact TypeName.classify_ok_iff.mpr ⟨hleads.trans hle, rfl⟩
  | _ =>
    intro less more d _ h
    rw [classifyAt] at h ⊢
    · exact h
    all_goals simp
termination_by sizeOf v
decreasing_by
  simp only [Value.object.sizeOf_spec]
  omega

/-- Wherever a type is read, it is read alone as well. -/
theorem classify_of_readField {name : String} {v : Value} {field : Field}
    (hle : levels ≤ Stack.levels .readType)
    (h : (readField vocabulary levels name v).result = .ok field) :
    (classify vocabulary (v.getD "type")).result = .ok field.type := by
  obtain ⟨_, left, rfl, htype⟩ := readField_ok h
  exact classifyAt_mono _ (by omega) htype

end

/-- Other fields in the place of the ones given. -/
theorem fieldsOf?_insert (shape : fieldsOf? fields = some given) (other : Value) :
    fieldsOf? (fields.insert "fields" other) = some other := by
  have hvalues : ∀ members,
      Table.find? (fields.insert "fields" other) "values" ≠ some (.list members) := by
    intro members
    rw [Table.find?_insert, if_neg (by decide)]
    exact values_ne_of_fieldsOf? shape members
  rw [fieldsOf?_eq hvalues, Table.find?_insert, if_pos rfl]

/-! ### Malformed fields -/

theorem soleEntry?_eq_none {v : Value} (h : holdsOneField v = false) : soleEntry? v = none := by
  cases v with
  | object fields =>
    rcases fields with _ | ⟨first, _ | ⟨second, more⟩⟩
    · rfl
    · cases h
    · rfl
  | _ => rfl

theorem filterMap_soleEntry?_filter (entries : List Value) :
    (entries.filter holdsOneField).filterMap soleEntry? = entries.filterMap soleEntry? := by
  rw [List.filterMap_filter]
  refine List.filterMap_congr fun v _ => ?_
  split
  · rfl
  · rename_i h
    exact (soleEntry?_eq_none (by simpa using h)).symm

section
variable [Stack]

/-- What has been skipped was shown, and nothing but its diagnostic is left of it. -/
theorem skip_ok {noted : Value → Diagnostic} {entry : Value} (h : Succeeds (skip noted entry)) :
    skip noted entry = Traced.note (noted entry) := by
  have hquote : entry.quote = .ok entry.inspected :=
    Value.written_of_within (succeeds_skip_iff.mp h)
  rw [skip, hquote]
  rfl

theorem notes_skipMalformedFields {entries : List Value} (h : Succeeds (skipMalformedFields entries)) :
    (skipMalformedFields entries).notes =
      (entries.filter fun e => !holdsOneField e).map .malformedField := by
  unfold skipMalformedFields at h ⊢
  generalize entries.filter (fun e => !holdsOneField e) = malformed at h ⊢
  induction malformed with
  | nil => rfl
  | cons e rest ih =>
    obtain ⟨_, hskip, hrest⟩ := Traced.succeeds_bind_iff.mp h
    change (skip .malformedField e >>= fun _ => rest.forM (skip .malformedField)).notes = _
    rw [skip_ok ⟨(), hskip⟩, Traced.note_bind_notes, ih hrest, List.map_cons]

/-- The malformed entries of a list of fields are skipped; reading goes on as if they were not there. -/
theorem readFields_list (entries : List Value) :
    readFields vocabulary levels (.list entries) =
      skipMalformedFields entries >>= fun _ =>
        readFields vocabulary levels (.list (entries.filter holdsOneField)) := by
  have hsound : skipMalformedFields (entries.filter holdsOneField) = pure () := by
    have hnone : (entries.filter holdsOneField).filter (fun e => !holdsOneField e) = [] := by
      simp
    rw [skipMalformedFields, hnone]
    rfl
  simp only [readFields, hsound, pure_bind, readFieldList_eq, filterMap_soleEntry?_filter]

theorem classify_fields (vocabulary : Vocabulary) (shape : fieldsOf? fields = some given) :
    ∃ left, Stack.levels .readType = left + 1 ∧
      classify vocabulary (.object fields) = object <$> readFields vocabulary left given := by
  have hroom := Stack.ample .readType
  obtain ⟨left, hleft⟩ : ∃ left, Stack.levels .readType = left + 1 :=
    ⟨Stack.levels .readType - 1, by omega⟩
  refine ⟨left, hleft, ?_⟩
  rw [classify, classifyAt_fields shape, hleft, descend]

theorem classify_list {entries : List Value} (shape : fieldsOf? fields = some (.list entries)) :
    classify vocabulary (.object fields) =
      skipMalformedFields entries >>= fun _ =>
        classify vocabulary
          (.object (fields.insert "fields" (.list (entries.filter holdsOneField)))) := by
  obtain ⟨left, hleft, hread⟩ := classify_fields vocabulary shape
  rw [hread, readFields_list, map_bind, classify, classifyAt_fields (fieldsOf?_insert shape _), hleft,
    descend]

/-- The fields of a list that are in order make the same descriptor as a table. -/
theorem result_classify_table {entries : List Value}
    (shape : fieldsOf? fields = some (.list entries))
    (hd : Table.Distinct (entries.filterMap soleEntry?))
    (h : Succeeds (classify vocabulary (.object fields))) :
    (classify vocabulary (.object (fields.insert "fields"
        (.object (Table.ofEntries (entries.filterMap soleEntry?)))))).result =
      (classify vocabulary (.object fields)).result := by
  obtain ⟨left, hleft, hread⟩ := classify_fields vocabulary shape
  obtain ⟨d, hresult⟩ := h
  rw [hresult]
  rw [hread] at hresult
  obtain ⟨read, hlist, rfl⟩ := Traced.map_ok_iff.mp hresult
  obtain ⟨_, heach⟩ := readFields_ok_iff.mp hlist
  rw [classify, classifyAt_fields (fieldsOf?_insert shape _), hleft, descend]
  refine Traced.map_ok_iff.mpr ⟨read, readFields_ok_iff.mpr ⟨?_, ?_⟩, rfl⟩
  · intro others hothers
    cases hothers
  · rw [Table.ofEntries_eq hd]
    exact heach

end

/-! ### Members -/

/-- The name of an entry of `values`, unless the entry is malformed. -/
def memberName? (entry : Value) : Option String :=
  match entry.getD "name" with
  | .null => none
  | name => some name.display

section
variable [Stack]

/-- A malformed member is skipped; any other keeps its name. -/
theorem readMember_cases (entry : Value) :
    (memberName? entry = none ∧
      readMember entry = (skip .malformedMember entry >>= fun _ => pure none)) ∨
    ∃ (name : Value) (fields : Table Value), memberName? entry = some name.display ∧
      readMember entry = (Traced.ofExcept name.nameOf >>= fun shown =>
        Traced.ofChecked "EnumValue" (description fields) >>= fun text =>
          pure (some ⟨shown, number? (entry.getD "value"), text⟩)) := by
  unfold memberName?
  split
  · rename_i hname
    refine .inl ⟨rfl, ?_⟩
    rw [readMember.eq_def]
    simp only [hname]
  · rename_i hnull
    cases entry with
    | object fields =>
      refine .inr ⟨_, fields, rfl, ?_⟩
      rw [readMember.eq_def]
      split
      · rename_i h
        exact absurd h hnull
      · rename_i h _
        cases h
        rfl
      · rename_i hobject
        exact (hobject _ rfl).elim
    | _ => exact absurd rfl hnull

theorem readMember_ok {entry : Value} {member : Option EnumMember}
    (h : (readMember entry).result = .ok member) :
    member.map EnumMember.name = memberName? entry ∧
      (readMember entry).notes =
        if (memberName? entry).isNone then [.malformedMember entry] else [] := by
  obtain ⟨hnone, he⟩ | ⟨name, fields, hname, he⟩ := readMember_cases entry
  · rw [he] at h ⊢
    obtain ⟨⟨⟩, hskip, h⟩ := Traced.bind_ok_iff.mp h
    obtain rfl := Except.ok.inj h
    rw [skip_ok ⟨(), hskip⟩, hnone]
    exact ⟨rfl, rfl⟩
  · rw [he] at h ⊢
    obtain ⟨shown, hshown, h⟩ := Traced.bind_ok_iff.mp h
    obtain ⟨text, htext, h⟩ := Traced.bind_ok_iff.mp h
    obtain rfl := Except.ok.inj h
    obtain ⟨_, rfl⟩ := Value.written_ok_iff.mp hshown
    refine ⟨hname.symm, ?_⟩
    rw [Traced.notes_bind_of_ok hshown, Traced.notes_bind_of_ok htext, Traced.notes_ofChecked, hname]
    rfl

theorem members_of_read {entries : List Value} {read : List (Option EnumMember)}
    (h : List.Forall₂ (fun e member => (readMember e).result = .ok member) entries read) :
    (read.filterMap id).map EnumMember.name = entries.filterMap memberName? ∧
      (entries.flatMap fun e => (readMember e).notes) =
        (entries.filter fun e => (memberName? e).isNone).map .malformedMember := by
  induction h with
  | nil => exact ⟨rfl, rfl⟩
  | @cons entry member entries read hr _ ih =>
    obtain ⟨hname, hnotes⟩ := readMember_ok hr
    obtain ⟨hnames, hmore⟩ := ih
    constructor
    · cases member with
      | none =>
        rw [List.filterMap_cons_none rfl, List.filterMap_cons_none hname.symm, hnames]
      | some member =>
        rw [List.filterMap_cons_some hname.symm, ← hnames]
        rfl
    · rw [List.flatMap_cons, hnotes, hmore, List.filter_cons]
      split <;> rfl

theorem readMembers_ok {entries : List Value} {members : List EnumMember}
    (h : (readMembers entries).result = .ok members) :
    members.map EnumMember.name = entries.filterMap memberName? ∧
      (readMembers entries).notes =
        (entries.filter fun e => (memberName? e).isNone).map .malformedMember := by
  obtain ⟨read, hread, hmembers⟩ := Traced.bind_ok_iff.mp h
  obtain rfl := Except.ok.inj hmembers
  rw [readMembers, Traced.notes_bind_of_ok hread, Traced.notes_mapM_of_ok hread, Traced.notes_pure,
    List.append_nil]
  exact members_of_read (Traced.mapM_ok hread)

end

/-! ### Descriptors inside descriptors -/

/-- The raw type at a place inside a raw descriptor: at every step the type of the field at a
position. -/
inductive TypeAt : Value → List Nat → Value → Prop
  | here (type : Value) : TypeAt type [] type
  | field {fields : Table Value} {given spec type : Value} {name : String} {i : Nat}
    {place : List Nat} (shape : fieldsOf? fields = some given)
    (found : (fieldEntries given)[i]? = some (name, spec))
    (inside : TypeAt (spec.getD "type") place type) : TypeAt (.object fields) (i :: place) type

/-- The type of the field at a place inside a descriptor. -/
def at? : List Nat → Descriptor → Option Descriptor
  | [], d => some d
  | i :: place, .object fields => fields[i]?.bind fun field => field.type.at? place
  | _, _ => none

/-- What stands at a place is read as it would be alone. -/
theorem read_at [Stack] {raw type : Value} {place : List Nat} (h : TypeAt raw place type)
    {d : Descriptor} (hd : (classifyAt vocabulary levels raw).result = .ok d) :
    ∃ e, d.at? place = some e ∧ (classifyAt vocabulary levels type).result = .ok e := by
  induction h generalizing levels d with
  | here type => exact ⟨d, rfl, hd⟩
  | @field fields given spec type name i place shape found inside ih =>
    rw [classifyAt_fields shape] at hd
    obtain ⟨left, rfl, hd⟩ := descend_ok_iff.mp hd
    obtain ⟨read, hread, rfl⟩ := Traced.map_ok_iff.mp hd
    have heach := (readFields_ok_iff.mp hread).2
    obtain ⟨hi, hentry⟩ := List.getElem?_eq_some_iff.mp found
    have hj : i < read.length := heach.length_eq ▸ hi
    have hfield := heach.get hi hj
    simp only [List.get_eq_getElem, hentry] at hfield
    obtain ⟨_, rest, rfl, htype⟩ := readField_ok hfield
    obtain ⟨e, he, hinside⟩ := ih htype
    refine ⟨e, ?_, classifyAt_mono _ (by omega) hinside⟩
    rw [at?, List.getElem?_eq_getElem hj]
    exact he

/-! ### Types without a usable name -/

/-- The raw descriptor has no shape and does nothing but refer to a name: that of its text, of its
first key, or the one that stands for no name at all. -/
inductive Refers (vocabulary : Vocabulary) : Value → String → Prop
  | nameless {v : Value} (noText : v.text? = none) (noKey : v.fields?.getD [] = []) :
    Refers vocabulary v namelessName
  | text {s : String} (primitive : TypeName.isPrimitive vocabulary s = false)
    (array : Text.after? TypeName.arrayLead.toList s.toList = none)
    (map : Text.after? TypeName.mapLead.toList s.toList = none) : Refers vocabulary (.text s) s
  | key {key : String} {v : Value} {rest : Table Value}
    (values : ∀ members, Table.find? ((key, v) :: rest) "values" ≠ some (.list members))
    (shapeless : fieldsOf? ((key, v) :: rest) = none) :
    Refers vocabulary (.object ((key, v) :: rest)) key

theorem classify_of_refers [Stack] {v : Value} {name : String} (h : Refers vocabulary v name) :
    classify vocabulary v = pure (reference name) := by
  cases h with
  | nameless noText noKey =>
    cases v with
    | text s => cases noText
    | object fields =>
      obtain rfl : fields = [] := noKey
      exact classifyAt_shapeless nofun rfl
    | _ => rw [classify, classifyAt] <;> simp
  | text primitive array map =>
    have hread : TypeName.classify vocabulary (Stack.levels .readType) name.toList =
        .ok (.reference name) := by
      rw [TypeName.classify.eq_def, String.ofList_toList, if_neg (by simp [primitive]),
        TypeName.lead?_none array map]
    rw [classify, classifyAt, hread]
    rfl
  | key values shapeless => exact classifyAt_shapeless values shapeless

end Descriptor

namespace Schema
open Descriptor (Refers TypeAt classify fieldsOf? holdsOneField memberName? readField readFields
  soleEntry?)
open Traced (Succeeds)
variable {overrides : Overrides} {vocabulary : Vocabulary} {fields : Table Value} {schema : Schema}

/-- What stands with the last field of a name in a list. -/
def lastField? (entries : List Value) (name : String) : Option Value :=
  (((entries.filterMap soleEntry?).filter fun e => e.1 = name).getLast?).map Prod.snd

section
variable [Stack]

/-- The properties of an object whose fields are given in a list: the names of the sound entries, each
at its first place and with the translation of its last type. A type that only refers to an unusable
name is the fallback type, unless the overrides have another name for it. -/
structure PropertiesOf (overrides : Overrides) (vocabulary : Vocabulary) (entries : List Value)
    (properties : Table Schema) : Prop where
  names : properties.keys = ((entries.filterMap soleEntry?).map Prod.fst).eraseDups
  last : ∀ name spec, lastField? entries name = some spec →
    ∃ property, properties.find? name = some property ∧
      (ofRaw overrides vocabulary (spec.getD "type")).result = .ok property
  fallback : ∀ name spec other, lastField? entries name = some spec →
    Refers vocabulary (spec.getD "type") other → TypeName.isUsable other = false →
    overrides.find? other = none → vocabulary.find? TypeName.anyType = none →
    properties.find? name = some (.reference TypeName.anyType)

/-- Without its malformed fields an object is translated to the same, and one diagnostic for each of
them is all that is missing. -/
structure SkipsMalformed (overrides : Overrides) (vocabulary : Vocabulary) (fields : Table Value)
    (entries : List Value) (sound : Value) : Prop where
  result : (ofRaw overrides vocabulary (.object fields)).result =
    (ofRaw overrides vocabulary sound).result
  notes : (ofRaw overrides vocabulary (.object fields)).notes =
    (entries.filter fun e => !holdsOneField e).map .malformedField ++
      (ofRaw overrides vocabulary sound).notes

theorem ofRaw_of_refers {raw : Value} {name : String} (h : Refers vocabulary raw name)
    (hu : TypeName.isUsable name = false) (ho : overrides.find? name = none)
    (hv : vocabulary.find? TypeName.anyType = none) :
    (ofRaw overrides vocabulary raw).result = .ok (.reference TypeName.anyType) := by
  have hresolved : (TypeName.resolve overrides name).value = TypeName.anyType := by
    simp [TypeName.value_resolve, TypeName.overridden, ho, hu]
  have hread : (classify vocabulary raw).result = .ok (.reference name) := by
    rw [Descriptor.classify_of_refers h, Traced.result_pure]
  rw [result_ofRaw_of_read hread, ofDescriptor, ofName, Noted.value_bind, hresolved, hv]
  rfl

theorem propertiesOf_read {entries : List Value} {read : List Field}
    {levels : Nat} (hle : levels ≤ Stack.levels .readType)
    (h : (readFields vocabulary levels (.list entries)).result = .ok read) :
    PropertiesOf overrides vocabulary entries
      (Table.ofEntries (ofFields overrides vocabulary read).value) := by
  have heach := (Descriptor.readFields_ok_iff.mp h).2
  simp only [Descriptor.fieldEntries] at heach
  have last : ∀ name spec, lastField? entries name = some spec →
      ∃ property, Table.find? (Table.ofEntries (ofFields overrides vocabulary read).value) name =
          some property ∧
        (ofRaw overrides vocabulary (spec.getD "type")).result = .ok property := by
    intro name spec hlast
    obtain ⟨e, he, rfl⟩ := Option.map_eq_some_iff.mp hlast
    -- The fields of a name are read from the entries of this name, so that the last one is from the last.
    have hsame : List.Forall₂ (fun e f => (readField vocabulary levels e.1 e.2).result = .ok f)
        ((entries.filterMap soleEntry?).filter fun e => e.1 = name)
        (read.filter fun f => f.name = name) := by
      refine List.rel_filter (fun e f hr => ?_) heach
      simp only [(Descriptor.readField_ok hr).1]
    obtain ⟨field, hfield, hr⟩ := exists_getLast?_right hsame he
    refine ⟨(ofDescriptor overrides vocabulary field.type).value, ?_,
      result_ofRaw_of_read (Descriptor.classify_of_readField hle hr)⟩
    rw [find?_properties, hfield, Option.map_some]
  refine ⟨?_, last, ?_⟩
  · rw [keys_properties, Descriptor.names_of_read heach]
  · intro name spec other hlast hrefers hu ho hv
    obtain ⟨property, hproperty, hr⟩ := last name spec hlast
    rw [hproperty, Except.ok.inj (hr.symm.trans (ofRaw_of_refers hrefers hu ho hv))]

theorem skipsMalformed {entries : List Value} (shape : fieldsOf? fields = some (.list entries))
    (h : Succeeds (ofRaw overrides vocabulary (.object fields))) :
    SkipsMalformed overrides vocabulary fields entries
      (.object (fields.insert "fields" (.list (entries.filter holdsOneField)))) := by
  have heq : ofRaw overrides vocabulary (.object fields) =
      Descriptor.skipMalformedFields entries >>= fun _ =>
        ofRaw overrides vocabulary
          (.object (fields.insert "fields" (.list (entries.filter holdsOneField)))) := by
    rw [ofRaw, Descriptor.classify_list shape, bind_assoc]
    rfl
  obtain ⟨⟨⟩, hskipped, _⟩ := Traced.succeeds_bind_iff.mp (heq ▸ h)
  constructor
  · rw [heq, Traced.result_bind, hskipped]
    rfl
  · rw [heq, Traced.notes_bind_of_ok hskipped, Descriptor.notes_skipMalformedFields ⟨(), hskipped⟩]

theorem enumeration_of_values {members : List Value}
    (hv : fields.find? "values" = some (.list members))
    (h : (ofRaw overrides vocabulary (.object fields)).result = .ok schema) :
    schema = .enumeration (members.filterMap memberName?) ∧
      (ofRaw overrides vocabulary (.object fields)).notes =
        (members.filter fun e => (memberName? e).isNone).map .malformedMember := by
  rw [ofRaw, classify, Descriptor.classifyAt_values hv] at h ⊢
  obtain ⟨d, hd, hs⟩ := Traced.bind_ok_iff.mp h
  obtain ⟨shown, hshown, rfl⟩ := Traced.map_ok_iff.mp hd
  obtain rfl := Except.ok.inj hs
  obtain ⟨hnames, hnotes⟩ := Descriptor.readMembers_ok hshown
  constructor
  · simp only [ofDescriptor, hnames]
    rfl
  · rw [Traced.notes_bind_of_ok hd, Traced.notes_map, hnotes]
    simp [ofDescriptor]

/-- What the shapes of a raw descriptor that can be translated come to: an object with its fields in a
list, also if the fields come as a table; an enumeration; and the enumerations inside, which a list of
values makes whatever fields stand beside it. -/
theorem shapes_translated (h : (ofRaw overrides vocabulary (.object fields)).result = .ok schema) :
    (∀ entries, fieldsOf? fields = some (.list entries) →
      (∃ properties, schema = .object properties ∧
        PropertiesOf overrides vocabulary entries properties) ∧
      SkipsMalformed overrides vocabulary fields entries
        (.object (fields.insert "fields" (.list (entries.filter holdsOneField)))) ∧
      (Table.Distinct (entries.filterMap soleEntry?) →
        (classify vocabulary (.object (fields.insert "fields"
          (.object (Table.ofEntries (entries.filterMap soleEntry?)))))).result =
            (classify vocabulary (.object fields)).result)) ∧
    (∀ members, fields.find? "values" = some (.list members) →
      schema = .enumeration (members.filterMap memberName?) ∧
        (ofRaw overrides vocabulary (.object fields)).notes =
          (members.filter fun e => (memberName? e).isNone).map .malformedMember) ∧
    ∀ place inner members, TypeAt (.object fields) place (.object inner) →
      Table.find? inner "values" = some (.list members) →
      ∃ d shown, (classify vocabulary (.object fields)).result = .ok d ∧
        d.at? place = some (.enumeration shown) ∧
        shown.map EnumMember.name = members.filterMap memberName? := by
  obtain ⟨d, hd, hs⟩ := Traced.bind_ok_iff.mp h
  refine ⟨fun entries shape => ⟨?_, skipsMalformed shape ⟨schema, h⟩, fun hdistinct =>
    Descriptor.result_classify_table shape hdistinct ⟨d, hd⟩⟩,
    fun members hv => enumeration_of_values hv h, ?_⟩
  · obtain ⟨left, hleft, hfields⟩ := Descriptor.classify_fields vocabulary shape
    rw [hfields] at hd
    obtain ⟨read, hread, rfl⟩ := Traced.map_ok_iff.mp hd
    obtain rfl := Except.ok.inj hs
    refine ⟨_, ?_, propertiesOf_read (by omega) hread⟩
    simp only [ofDescriptor]
    rfl
  · intro place inner members hat hv
    obtain ⟨e, he, hr⟩ := Descriptor.read_at hat hd
    rw [Descriptor.classifyAt_values hv] at hr
    obtain ⟨shown, hshown, rfl⟩ := Traced.map_ok_iff.mp hr
    exact ⟨d, shown, hd, he, (Descriptor.readMembers_ok hshown).1⟩

end

/-- An object that lists one field twice and another without a type, with a stray entry among them and
an enumeration that has fields as well. -/
def mixedFields : List Value :=
  [.object [("hue", .object [("type", .text "int32")])],
    .text "stray",
    .object [("depth", .object [])],
    .object [("kind", .object [("type", .object
      [("fields", .list []), ("values", .list [.object [("name", .text "MATT")], .null])])])],
    .object [("hue", .object [("type", .object [("Hue", .object [])])])]]

open Stack.Usual in
theorem mixedFields_translated :
    ∃ schema, (ofRaw [] .standard (.object [("fields", .list mixedFields)])).result = .ok schema ∧
      (∃ properties : Table Schema, schema = .object properties ∧
        properties.keys = ["hue", "depth", "kind"] ∧
        properties.find? "hue" = some (.reference "Hue") ∧
        properties.find? "depth" = some (.reference TypeName.anyType)) ∧
      ∃ d shown, (classify .standard (.object [("fields", .list mixedFields)])).result = .ok d ∧
        d.at? [2] = some (.enumeration shown) ∧ shown.map EnumMember.name = ["MATT"] := by
  obtain ⟨schema, h⟩ : Traced.Succeeds
      (ofRaw [] .standard (.object [("fields", .list mixedFields)])) :=
    Traced.succeeds_of_isOk (by decide +kernel)
  obtain ⟨hobject, _, hvalues⟩ := shapes_translated h
  obtain ⟨⟨properties, hproperties, hof⟩, _⟩ := hobject mixedFields rfl
  refine ⟨schema, h, ⟨properties, hproperties, hof.names, ?_, ?_⟩, ?_⟩
  · obtain ⟨property, hfound, hr⟩ :=
      hof.last "hue" (.object [("type", .object [("Hue", .object [])])]) rfl
    rw [hfound, ← Except.ok.inj hr]
    rfl
  · exact hof.fallback "depth" (.object []) _ rfl (.nameless rfl rfl) (by decide +kernel) rfl rfl
  · exact hvalues [2] _ _ (.field rfl rfl (.here _)) rfl

open Stack.Usual in
/-- A table of overrides that has another name for the missing one makes this the type of a field that
has none. -/
theorem missing_type_renamed :
    ∃ property, (ofRaw [("0", .text "Zero")] .standard
        (.object [("fields", .list [.object [("a", .object [])]])])).result =
          .ok (.object [("a", property)]) ∧
      property = .reference "Zero" ∧ property ≠ .reference TypeName.anyType := by
  refine ⟨.reference "Zero", rfl, rfl, ?_⟩
  simp [TypeName.anyType]

end Schema
end ServiceAtlas
