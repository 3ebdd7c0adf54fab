import ServiceAtlas.Descriptor.Classify
import ServiceAtlas.Proofs.Traced

/-!
How a name is read as a type. Each lead in front of it takes the reading a level further down; as long as
there are levels enough, what comes of it is the one descriptor that the name has by itself.
-/

namespace ServiceAtlas

theorem Text.startsWith_iff {s lead : String} :
    startsWith s lead = true ↔ ∃ rest, s.toList = lead.toList ++ rest := by
  simp only [startsWith, Option.isSome_iff_exists, after?_eq_some_iff]

namespace TypeName

/-- The descriptor of a name, however many leads it has. -/
def descriptor (vocabulary : Vocabulary) (cs : List Char) : Descriptor :=
  if isPrimitive vocabulary (String.ofList cs) then .primitive (String.ofList cs)
  else
    match h : Text.after? arrayLead.toList cs with
    | some rest =>
      have : rest.length < cs.length := by
        have := Text.length_of_after? h
        have : arrayLead.toList.length = 10 := by decide
        omega
      .array (descriptor vocabulary rest)
    | none =>
      match h : Text.after? mapLead.toList cs with
      | some rest =>
        have : rest.length < cs.length := by
          have := Text.length_of_after? h
          have : mapLead.toList.length = 7 := by decide
          omega
        .map (descriptor vocabulary rest)
      | none => .reference (String.ofList cs)
termination_by cs.length

variable {vocabulary : Vocabulary} {cs rest : List Char} {levels : Nat}

theorem descriptor_primitive (h : isPrimitive vocabulary (String.ofList cs) = true) :
    descriptor vocabulary cs = .primitive (String.ofList cs) := by
  rw [descriptor, if_pos h]

theorem descriptor_array (h : ¬isPrimitive vocabulary (String.ofList cs) = true)
    (hr : Text.after? arrayLead.toList cs = some rest) :
    descriptor vocabulary cs = .array (descriptor vocabulary rest) := by
  rw [descriptor, if_neg h]
  split <;> simp_all

theorem descriptor_map (h : ¬isPrimitive vocabulary (String.ofList cs) = true)
    (ha : Text.after? arrayLead.toList cs = none)
    (hr : Text.after? mapLead.toList cs = some rest) :
    descriptor vocabulary cs = .map (descriptor vocabulary rest) := by
  rw [descriptor, if_neg h]
  split
  · simp_all
  · split <;> simp_all

theorem descriptor_reference (h : ¬isPrimitive vocabulary (String.ofList cs) = true)
    (ha : Text.after? arrayLead.toList cs = none) (hm : Text.after? mapLead.toList cs = none) :
    descriptor vocabulary cs = .reference (String.ofList cs) := by
  rw [descriptor, if_neg h]
  split
  · simp_all
  · split <;> simp_all

/-! ### Leads -/

theorem looksLikeArray_of_after? (h : Text.after? arrayLead.toList cs = some rest) :
    looksLikeArray (String.ofList cs) = true := by
  refine Text.startsWith_iff.mpr ⟨' ' :: rest, ?_⟩
  rw [String.toList_ofList, Text.after?_eq_some_iff.mp h]
  rfl

theorem looksLikeMap_of_after? (h : Text.after? mapLead.toList cs = some rest) :
    looksLikeMap (String.ofList cs) = true := by
  refine Text.startsWith_iff.mpr ⟨' ' :: rest, ?_⟩
  rw [String.toList_ofList, Text.after?_eq_some_iff.mp h]
  rfl

theorem lead?_array (h : Text.after? arrayLead.toList cs = some rest) :
    lead? cs = some (.array, rest) := by
  rw [lead?, h]

theorem lead?_map (ha : Text.after? arrayLead.toList cs = none)
    (h : Text.after? mapLead.toList cs = some rest) : lead? cs = some (.map, rest) := by
  rw [lead?, ha, h]
  rfl

theorem lead?_none (ha : Text.after? arrayLead.toList cs = none)
    (hm : Text.after? mapLead.toList cs = none) : lead? cs = none := by
  rw [lead?, ha, hm]
  rfl

/-- No name of a primitive begins with a lead. -/
theorem lead?_of_isPrimitive (h : isPrimitive vocabulary (String.ofList cs) = true) :
    lead? cs = none := by
  simp only [isPrimitive, Bool.and_eq_true, Bool.not_eq_true'] at h
  obtain ⟨⟨_, harray⟩, hmap⟩ := h
  refine lead?_none ?_ ?_
  · cases ha : Text.after? arrayLead.toList cs with
    | none => rfl
    | some rest => cases (looksLikeArray_of_after? ha).symm.trans harray
  · cases hm : Text.after? mapLead.toList cs with
    | none => rfl
    | some rest => cases (looksLikeMap_of_after? hm).symm.trans hmap

theorem not_isPrimitive_of_lead {around : Descriptor → Descriptor}
    (h : lead? cs = some (around, rest)) : ¬isPrimitive vocabulary (String.ofList cs) = true := by
  intro hp
  cases (lead?_of_isPrimitive hp).symm.trans h

theorem length_lt_of_lead? {around : Descriptor → Descriptor} (h : lead? cs = some (around, rest)) :
    rest.length < cs.length := by
  have harray : arrayLead.toList.length = 10 := by decide
  have hmap : mapLead.toList.length = 7 := by decide
  unfold lead? at h
  split at h
  · rename_i other ha
    obtain ⟨-, rfl⟩ := Prod.mk.inj (Option.some.inj h)
    have := Text.length_of_after? ha
    omega
  · obtain ⟨other, hm, h⟩ := Option.map_eq_some_iff.mp h
    obtain ⟨-, rfl⟩ := Prod.mk.inj h
    have := Text.length_of_after? hm
    omega

/-- How many leads stand in front of the leaf of a name. -/
def leads (cs : List Char) : Nat :=
  match h : lead? cs with
  | some (_, rest) =>
    have : rest.length < cs.length := length_lt_of_lead? h
    leads rest + 1
  | none => 0
termination_by cs.length

theorem leads_of_some {around : Descriptor → Descriptor} (h : lead? cs = some (around, rest)) :
    leads cs = leads rest + 1 := by
  rw [leads]
  split
  · rename_i other more hm
    obtain ⟨-, rfl⟩ := Prod.mk.inj (Option.some.inj (hm.symm.trans h))
    rfl
  · rename_i hn
    cases hn.symm.trans h

theorem leads_of_none (h : lead? cs = none) : leads cs = 0 := by
  rw [leads]
  split
  · rename_i other more hm
    cases h.symm.trans hm
  · rfl

/-! ### The reading -/

/-- One lead, and the levels that are left behind it. -/
theorem classify_lead {around : Descriptor → Descriptor} (hl : lead? cs = some (around, rest))
    (ih : ∀ levels, classify vocabulary levels rest =
      if leads rest ≤ levels then .ok (descriptor vocabulary rest) else .error .nestedTooDeep)
    (levels : Nat) :
    classify vocabulary levels cs =
      if leads cs ≤ levels then .ok (around (descriptor vocabulary rest))
      else .error .nestedTooDeep := by
  have h : ¬isPrimitive vocabulary (String.ofList cs) = true := not_isPrimitive_of_lead hl
  rw [leads_of_some hl]
  cases levels with
  | zero => rw [classify.eq_def, if_neg h, hl, if_neg (by omega)]
  | succ levels =>
    rw [classify.eq_def, if_neg h, hl]
    simp only [ih, Nat.succ_le_succ_iff]
    split <;> rfl

/-- A name is read as its descriptor if there is a level for each of its leads. -/
theorem classify_eq (vocabulary : Vocabulary) (levels : Nat) (cs : List Char) :
    classify vocabulary levels cs =
      if leads cs ≤ levels then .ok (descriptor vocabulary cs) else .error .nestedTooDeep := by
  induction cs using descriptor.induct vocabulary generalizing levels with
  | case1 cs h =>
    rw [classify.eq_def, if_pos h, descriptor_primitive h, leads_of_none (lead?_of_isPrimitive h),
      if_pos (Nat.zero_le _)]
  | case2 cs h rest hr _ ih =>
    rw [descriptor_array h hr]
    exact classify_lead (lead?_array hr) ih levels
  | case3 cs h ha rest hr _ ih =>
    rw [descriptor_map h ha hr]
    exact classify_lead (lead?_map ha hr) ih levels
  | case4 cs h ha hm =>
    have hl := lead?_none ha hm
    rw [classify.eq_def, if_neg h, hl, descriptor_reference h ha hm, leads_of_none hl,
      if_pos (Nat.zero_le _)]

theorem classify_ok_iff {d : Descriptor} :
    classify vocabulary levels cs = .ok d ↔ leads cs ≤ levels ∧ d = descriptor vocabulary cs := by
  rw [classify_eq]
  split
  · rename_i h
    simp [h, eq_comm]
  · rename_i h
    simp [h]

end TypeName
end ServiceAtlas
