import Mathlib.Data.List.TakeWhile
import ServiceAtlas.Json.Reader
import ServiceAtlas.Proofs.Results
import ServiceAtlas.Proofs.Tables

/-!
What is true of every value that is read from JSON text: one induction over the reader, and by it that
every object inside has distinct keys.
-/

namespace ServiceAtlas

namespace Value

theorem wellFormedFields_iff {fields : List (String × Value)} :
    WellFormedFields fields ↔ ∀ e ∈ fields, e.2.WellFormed := by
  induction fields with
  | nil => simp [WellFormedFields]
  | cons e rest ih => simp [WellFormedFields, ih]

theorem wellFormedItems_iff {items : List Value} :
    WellFormedItems items ↔ ∀ v ∈ items, v.WellFormed := by
  induction items with
  | nil => simp [WellFormedItems]
  | cons v rest ih => simp [WellFormedItems, ih]

theorem WellFormed.find? {fields : Table Value} {key : String} {v : Value}
    (h : (object fields).WellFormed) (hf : fields.find? key = some v) : v.WellFormed :=
  wellFormedFields_iff.mp h.2 _ (Table.mem_of_find? hf)

/-- However often a key is written, the table has it once. -/
theorem wellFormed_ofEntries {fields : List (String × Value)}
    (h : ∀ e ∈ fields, e.2.WellFormed) : (object (Table.ofEntries fields)).WellFormed := by
  refine ⟨?_, wellFormedFields_iff.mpr fun e he => ?_⟩
  · unfold Table.Distinct
    rw [Table.keys_ofEntries]
    exact nodup_eraseDups _
  · exact h e (Table.mem_ofEntries he)

end Value

namespace Json

/-- The cases of an induction over what is read, with numbers of so many digits at most. -/
structure Cases (digits : Nat) (motive : Value → Prop) : Prop where
  text : ∀ s, motive (.text s)
  constant : ∀ word v, (word, v) ∈ constants → motive v
  number : ∀ cs rest v, readNumber digits cs = .ok (v, rest) → motive v
  list : ∀ items : List Value, (∀ v ∈ items, motive v) → motive (.list items)
  object : ∀ fields : List (String × Value), (∀ e ∈ fields, motive e.2) →
    motive (.object (Table.ofEntries fields))

/-- Everything that is read with some fuel has the property. -/
structure ReadsOnly (motive : Value → Prop) (digits fuel : Nat) : Prop where
  value : ∀ {levels : Nat} {cs rest : List Char} {v : Value},
    readValue digits fuel levels cs = .ok (v, rest) → motive v
  items : ∀ {levels : Nat} {cs rest : List Char} {items : List Value},
    readItems digits fuel levels cs = .ok (items, rest) → ∀ v ∈ items, motive v
  fields : ∀ {levels : Nat} {cs rest : List Char} {fields : List (String × Value)},
    readFields digits fuel levels cs = .ok (fields, rest) → ∀ e ∈ fields, motive e.2

variable {digits : Nat} {motive : Value → Prop}

theorem Cases.readConstant? (h : Cases digits motive) {cs rest : List Char} {v : Value}
    (hc : readConstant? cs = some (v, rest)) : motive v := by
  obtain ⟨⟨word, w⟩, hm, hc⟩ := List.exists_of_findSome?_eq_some hc
  obtain ⟨_, _, he⟩ := Option.map_eq_some_iff.mp hc
  obtain rfl : w = v := congrArg Prod.fst he
  exact h.constant word w hm

theorem Cases.readsOnly (h : Cases digits motive) (fuel : Nat) : ReadsOnly motive digits fuel := by
  -- Each kind of step uses one unit of fuel for the others.
  induction fuel with
  | zero =>
    refine ⟨?_, ?_, ?_⟩
    · intro levels cs rest v hr
      cases hr
    · intro levels cs rest items hr
      cases hr
    · intro levels cs rest fields hr
      cases hr
  | succ fuel ih =>
    refine ⟨?_, ?_, ?_⟩
    · intro levels cs rest v hr
      unfold readValue at hr
      split at hr
      · obtain ⟨_, _, hr⟩ := bind_eq_ok_iff.mp hr
        cases hr
        exact h.text _
      · cases hr
      · cases hr
      · split at hr
        · cases hr
          exact h.list [] (by simp)
        · obtain ⟨_, hitems, hr⟩ := bind_eq_ok_iff.mp hr
          cases hr
          exact h.list _ (ih.items hitems)
      · split at hr
        · cases hr
          exact h.object [] (by simp)
        · obtain ⟨_, hfields, hr⟩ := bind_eq_ok_iff.mp hr
          cases hr
          exact h.object _ (ih.fields hfields)
      · split at hr
        · rename_i hc
          cases hr
          exact h.readConstant? hc
        · exact h.number _ _ _ hr
    · intro levels cs rest items hr
      unfold readItems at hr
      obtain ⟨⟨v, more⟩, hv, hr⟩ := bind_eq_ok_iff.mp hr
      dsimp only at hr
      split at hr
      · cases hr
        exact List.forall_mem_singleton.mpr (ih.value hv)
      · obtain ⟨_, hitems, hr⟩ := bind_eq_ok_iff.mp hr
        cases hr
        exact List.forall_mem_cons.mpr ⟨ih.value hv, ih.items hitems⟩
      · cases hr
    · intro levels cs rest fields hr
      unfold readFields at hr
      split at hr
      · obtain ⟨⟨key, afterKey⟩, _, hr⟩ := bind_eq_ok_iff.mp hr
        dsimp only at hr
        split at hr
        · obtain ⟨⟨v, more⟩, hv, hr⟩ := bind_eq_ok_iff.mp hr
          dsimp only at hr
          split at hr
          · cases hr
            exact List.forall_mem_singleton.mpr (ih.value hv)
          · obtain ⟨_, hfields, hr⟩ := bind_eq_ok_iff.mp hr
            cases hr
            exact List.forall_mem_cons.mpr ⟨ih.value hv, ih.fields hfields⟩
          · cases hr
        · cases hr
      · cases hr

/-- What the cases show is true of the value that a text holds. -/
theorem Cases.of_readChars [Stack] (h : Cases Text.digitLimit motive) {cs : List Char} {v : Value}
    (hr : readChars cs = .ok v) : motive v := by
  unfold readChars at hr
  split at hr
  · cases hr
  · unfold readWhole at hr
    split at hr
    · cases hr
    · rename_i hv
      split at hr
      · cases hr
        exact (h.readsOnly _).value hv
      · cases hr

/-- The words that stand for a value. -/
theorem constants_cases {word : String} {v : Value} (h : (word, v) ∈ constants) :
    v = .null ∨ (∃ b, v = .bool b) ∨ ∃ x, v = .float x := by
  simp only [constants, List.mem_cons, Prod.mk.injEq, List.not_mem_nil, or_false] at h
  rcases h with ⟨_, rfl⟩ | ⟨_, rfl⟩ | ⟨_, rfl⟩ | ⟨_, rfl⟩ | ⟨_, rfl⟩ | ⟨_, rfl⟩ <;> simp

/-- A number that is read is a float or a whole one within the limit. -/
theorem readUnsigned_cases {negative : Bool} {whole more rest : List Char} {v : Value}
    (h : readUnsigned digits negative whole more = .ok (v, rest)) :
    (∃ x, v = .float x) ∨ whole.length ≤ digits ∧
      ∃ n : Int, v = .int n ∧ n.natAbs = Text.valueOf 10 (digitsOf whole) := by
  unfold readUnsigned at h
  dsimp only at h
  split at h
  · cases h
    exact .inl ⟨_, rfl⟩
  · split at h
    · cases h
    · rename_i hlong
      cases h
      refine .inr ⟨Nat.le_of_not_lt hlong, _, rfl, ?_⟩
      split
      · exact Int.natAbs_neg _
      · rfl

theorem readNumber_cases {cs rest : List Char} {v : Value}
    (h : readNumber digits cs = .ok (v, rest)) :
    (∃ x, v = .float x) ∨ ∃ whole : List Char, (∀ c ∈ whole, c.isDigit = true) ∧
      whole.length ≤ digits ∧
      ∃ n : Int, v = .int n ∧ n.natAbs = Text.valueOf 10 (digitsOf whole) := by
  unfold readNumber at h
  dsimp only at h
  split at h
  · exact (readUnsigned_cases h).imp_right fun hn => ⟨['0'], List.forall_mem_singleton.mpr rfl, hn⟩
  · rename_i c more _
    split at h
    · rename_i hc
      refine (readUnsigned_cases h).imp_right fun hn => ⟨_, ?_, hn⟩
      refine List.forall_mem_cons.mpr ⟨hc, fun d hd => ?_⟩
      exact List.mem_takeWhile_imp hd
    · cases h
  · cases h

/-- A value that a text holds is in order. -/
theorem wellFormed_readChars [Stack] {cs : List Char} {v : Value} (h : readChars cs = .ok v) :
    v.WellFormed := by
  refine Cases.of_readChars (motive := Value.WellFormed) ⟨?_, ?_, ?_, ?_, ?_⟩ h
  · intro s
    trivial
  · intro word v hm
    rcases constants_cases hm with rfl | ⟨b, rfl⟩ | ⟨x, rfl⟩ <;> trivial
  · intro cs rest v hn
    rcases readNumber_cases hn with ⟨x, rfl⟩ | ⟨_, _, _, n, rfl, _⟩ <;> trivial
  · intro items hitems
    exact Value.wellFormedItems_iff.mpr hitems
  · intro fields hfields
    exact Value.wellFormed_ofEntries hfields

end Json
end ServiceAtlas
