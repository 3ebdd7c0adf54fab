import ServiceAtlas.Proofs.SchemaGrammar

/-!
How a name spells a type: the name of a primitive or of another type, behind the leads of the arrays
and maps around it. Every name spells one type, and a type whose leaf is plain is read from its own
spelling.
-/

namespace ServiceAtlas

namespace TypeName
variable {vocabulary : Vocabulary}

theorem not_prefix_of_startsWith {name lead : String} (h : Text.startsWith name lead = false) :
    ¬lead.toList <+: name.toList := by
  rintro ⟨rest, hr⟩
  have hs : Text.startsWith name lead = true := Text.startsWith_iff.mpr ⟨rest, hr.symm⟩
  rw [h] at hs
  cases hs

theorem after?_lead (lead s : String) : Text.after? lead.toList (lead ++ s).toList = some s.toList :=
  Text.after?_eq_some_iff.mpr (String.toList_append ..)

/-- No name begins with both leads. -/
theorem after?_arrayLead_of_map (cs : List Char) :
    Text.after? arrayLead.toList (mapLead.toList ++ cs) = none := rfl

theorem lead?_arrayLead (s : String) : lead? (arrayLead ++ s).toList = some (.array, s.toList) :=
  lead?_array (after?_lead arrayLead s)

theorem after?_arrayLead_mapLead (s : String) :
    Text.after? arrayLead.toList (mapLead ++ s).toList = none := by
  rw [String.toList_append]
  exact after?_arrayLead_of_map _

theorem lead?_mapLead (s : String) : lead? (mapLead ++ s).toList = some (.map, s.toList) :=
  lead?_map (after?_arrayLead_mapLead s) (after?_lead mapLead s)

theorem descriptor_arrayLead (s : String) :
    descriptor vocabulary (arrayLead ++ s).toList = .array (descriptor vocabulary s.toList) :=
  descriptor_array (not_isPrimitive_of_lead (lead?_arrayLead s)) (after?_lead arrayLead s)

theorem descriptor_mapLead (s : String) :
    descriptor vocabulary (mapLead ++ s).toList = .map (descriptor vocabulary s.toList) :=
  descriptor_map (not_isPrimitive_of_lead (lead?_mapLead s)) (after?_arrayLead_mapLead s)
    (after?_lead mapLead s)

end TypeName

namespace Descriptor
variable {vocabulary : Vocabulary}

/-- The name that spells a type. Enumerations and objects have none, nor has what holds one. -/
def spelling? : Descriptor → Option String
  | primitive name => some name
  | array element => element.spelling?.map (TypeName.arrayLead ++ ·)
  | map value => value.spelling?.map (TypeName.mapLead ++ ·)
  | reference name => some name
  | enumeration _ => none
  | object _ => none

example : (array (map (primitive "int"))).spelling? = some "vector of map of int" := by
  decide +kernel

/-- The leaf has a name that nothing but this leaf is read from. -/
def HasPlainLeaf (vocabulary : Vocabulary) : Descriptor → Prop
  | primitive name =>
    vocabulary.contains name = true ∧ TypeName.looksLikeArray name = false ∧
      TypeName.looksLikeMap name = false
  | array element => element.HasPlainLeaf vocabulary
  | map value => value.HasPlainLeaf vocabulary
  | reference name =>
    Text.startsWith name TypeName.arrayLead = false ∧
      Text.startsWith name TypeName.mapLead = false ∧
      TypeName.isPrimitive vocabulary name = false
  | enumeration _ => False
  | object _ => False

/-- No text is lost when a name is read. -/
theorem spelling?_descriptor (vocabulary : Vocabulary) (cs : List Char) :
    (TypeName.descriptor vocabulary cs).spelling? = some (String.ofList cs) := by
  induction cs using TypeName.descriptor.induct vocabulary with
  | case1 cs h =>
    rw [TypeName.descriptor_primitive h]
    rfl
  | case2 cs h rest hr _ ih =>
    rw [TypeName.descriptor_array h hr, spelling?, ih, Text.after?_eq_some_iff.mp hr,
      String.ofList_append, String.ofList_toList]
    rfl
  | case3 cs h ha rest hr _ ih =>
    rw [TypeName.descriptor_map h ha hr, spelling?, ih, Text.after?_eq_some_iff.mp hr,
      String.ofList_append, String.ofList_toList]
    rfl
  | case4 cs h ha hm =>
    rw [TypeName.descriptor_reference h ha hm]
    rfl

theorem hasPlainLeaf_descriptor (vocabulary : Vocabulary) (cs : List Char) :
    (TypeName.descriptor vocabulary cs).HasPlainLeaf vocabulary := by
  induction cs using TypeName.descriptor.induct vocabulary with
  | case1 cs h =>
    rw [TypeName.descriptor_primitive h]
    simpa [HasPlainLeaf, TypeName.isPrimitive, and_assoc] using h
  | case2 cs h rest hr _ ih =>
    rw [TypeName.descriptor_array h hr]
    exact ih
  | case3 cs h ha rest hr _ ih =>
    rw [TypeName.descriptor_map h ha hr]
    exact ih
  | case4 cs h ha hm =>
    rw [TypeName.descriptor_reference h ha hm]
    refine ⟨?_, ?_, by simpa using h⟩
    · rw [Text.startsWith, String.toList_ofList, ha]
      rfl
    · rw [Text.startsWith, String.toList_ofList, hm]
      rfl

/-- A type with a plain leaf is what its spelling is read as. -/
theorem descriptor_of_spelling {d : Descriptor} {s : String} (hs : d.spelling? = some s)
    (hl : d.HasPlainLeaf vocabulary) : TypeName.descriptor vocabulary s.toList = d := by
  match d with
  | .primitive name =>
    obtain rfl : name = s := Option.some.inj hs
    obtain ⟨hc, ha, hm⟩ := hl
    have h : TypeName.isPrimitive vocabulary (String.ofList name.toList) = true := by
      rw [String.ofList_toList]
      simp [TypeName.isPrimitive, hc, ha, hm]
    rw [TypeName.descriptor_primitive h, String.ofList_toList]
  | .array element =>
    obtain ⟨inner, hi, rfl⟩ := Option.map_eq_some_iff.mp hs
    rw [TypeName.descriptor_arrayLead, descriptor_of_spelling hi hl]
  | .map value =>
    obtain ⟨inner, hi, rfl⟩ := Option.map_eq_some_iff.mp hs
    rw [TypeName.descriptor_mapLead, descriptor_of_spelling hi hl]
  | .reference name =>
    obtain rfl : name = s := Option.some.inj hs
    obtain ⟨ha, hm, hp⟩ := hl
    have h : ¬TypeName.isPrimitive vocabulary (String.ofList name.toList) = true := by
      rw [String.ofList_toList, hp]
      exact Bool.false_ne_true
    rw [TypeName.descriptor_reference h (by simpa [Text.startsWith] using ha)
      (by simpa [Text.startsWith] using hm), String.ofList_toList]
  | .enumeration _ => cases hs
  | .object _ => cases hs

/-- How many arrays and maps stand around the leaf. -/
def leads : Descriptor → Nat
  | array element => element.leads + 1
  | map value => value.leads + 1
  | _ => 0

theorem leads_of_spelling {d : Descriptor} {s : String} (hs : d.spelling? = some s)
    (hl : d.HasPlainLeaf vocabulary) : TypeName.leads s.toList = d.leads := by
  match d with
  | .primitive name =>
    obtain rfl : name = s := Option.some.inj hs
    obtain ⟨hc, ha, hm⟩ := hl
    refine TypeName.leads_of_none (@TypeName.lead?_of_isPrimitive vocabulary _ ?_)
    rw [String.ofList_toList]
    simp [TypeName.isPrimitive, hc, ha, hm]
  | .array element =>
    obtain ⟨inner, hi, rfl⟩ := Option.map_eq_some_iff.mp hs
    rw [TypeName.leads_of_some (TypeName.lead?_arrayLead inner), leads_of_spelling hi hl, leads]
  | .map value =>
    obtain ⟨inner, hi, rfl⟩ := Option.map_eq_some_iff.mp hs
    rw [TypeName.leads_of_some (TypeName.lead?_mapLead inner), leads_of_spelling hi hl, leads]
  | .reference name =>
    obtain rfl : name = s := Option.some.inj hs
    obtain ⟨ha, hm, _⟩ := hl
    exact TypeName.leads_of_none (TypeName.lead?_none (by simpa [Text.startsWith] using ha)
      (by simpa [Text.startsWith] using hm))
  | .enumeration _ => cases hs
  | .object _ => cases hs

/-- So it is read by as many levels as there are leads. -/
theorem classify_of_spelling {d : Descriptor} {s : String} {levels : Nat}
    (hs : d.spelling? = some s) (hl : d.HasPlainLeaf vocabulary) (hlevels : d.leads ≤ levels) :
    TypeName.classify vocabulary levels s.toList = .ok d := by
  rw [← leads_of_spelling hs hl] at hlevels
  exact TypeName.classify_ok_iff.mpr ⟨hlevels, (descriptor_of_spelling hs hl).symm⟩

section
variable [Stack]

theorem result_classify_text (vocabulary : Vocabulary) (s : String) :
    (classify vocabulary (.text s)).result =
      TypeName.classify vocabulary (Stack.levels .readType) s.toList := by
  rw [classify, classifyAt, Traced.result_ofExcept]

/-- Every name is read as one type, the one with a plain leaf that it spells, as long as the stack has a
level for each of its leads. A name with more leads is not read at all. -/
theorem classify_text_iff (vocabulary : Vocabulary) (s : String) :
    (TypeName.leads s.toList ≤ Stack.levels .readType →
        ∃ d, (classify vocabulary (.text s)).result = .ok d ∧ d.spelling? = some s) ∧
      (∀ d, (classify vocabulary (.text s)).result = .ok d ↔
        TypeName.leads s.toList ≤ Stack.levels .readType ∧
          d.spelling? = some s ∧ d.HasPlainLeaf vocabulary) ∧
      (Stack.levels .readType < TypeName.leads s.toList →
        (classify vocabulary (.text s)).result = .error .nestedTooDeep) := by
  have hspelled : (TypeName.descriptor vocabulary s.toList).spelling? = some s := by
    rw [spelling?_descriptor, String.ofList_toList]
  rw [result_classify_text]
  refine ⟨fun h => ⟨_, TypeName.classify_ok_iff.mpr ⟨h, rfl⟩, hspelled⟩, fun d => ?_, fun h => ?_⟩
  · rw [TypeName.classify_ok_iff]
    refine and_congr_right fun _ => ⟨?_, fun ⟨hs, hl⟩ => (descriptor_of_spelling hs hl).symm⟩
    rintro rfl
    exact ⟨hspelled, hasPlainLeaf_descriptor vocabulary s.toList⟩
  · rw [TypeName.classify_eq, if_neg (Nat.not_le.mpr h)]

/-- Arrays inside each other, so many of them. -/
def vectors : Nat → String
  | 0 => "int"
  | n + 1 => TypeName.arrayLead ++ vectors n

omit [Stack] in
theorem leads_vectors (n : Nat) : TypeName.leads (vectors n).toList = n := by
  induction n with
  | zero => exact TypeName.leads_of_none rfl
  | succ n ih => rw [vectors, TypeName.leads_of_some (TypeName.lead?_arrayLead _), ih]

/-- A stack has an end, and beyond it a name of the grammar is no longer read. -/
theorem classify_vectors {n : Nat} (h : Stack.levels .readType < n) (vocabulary : Vocabulary) :
    (classify vocabulary (.text (vectors n))).result = .error .nestedTooDeep := by
  rw [result_classify_text, TypeName.classify_eq, leads_vectors, if_neg (Nat.not_le.mpr h)]

end

open Stack.Usual in
theorem vectors_unread :
    (classify .standard (.text (vectors 1000))).result = .error .nestedTooDeep ∧
      ¬∃ d, (classify .standard (.text (vectors 1000))).result = .ok d := by
  have hdeep := classify_vectors (show Stack.levels .readType < 1000 by decide) .standard
  refine ⟨hdeep, ?_⟩
  rintro ⟨d, hd⟩
  cases hdeep.symm.trans hd

end Descriptor
end ServiceAtlas
