import ServiceAtlas.Proofs.Tables
import ServiceAtlas.Settings.Layer

/-!
One table laid over another: which keys the result has and what each of them finds.
-/

namespace ServiceAtlas.Layer
open Table (Distinct find? insert keys)

variable {base layer : Table Value} {key : String}

/-- Anything but a table takes the place of what was there. -/
theorem overlayValue_of_fields?_eq_none {v : Value} (h : v.fields? = none) (base : Value) :
    overlayValue base v = v := by
  cases v with
  | object fields => cases h
  | _ => simp [overlayValue]

theorem overlayValue_null (v : Value) : overlayValue .null v = v := by
  cases v <;> simp [overlayValue]

/-- A key of the upper table finds what the upper value makes of the lower one; any other key finds
what it did. -/
theorem find?_overlay (hd : Distinct layer) :
    find? (overlay base layer) key =
      match find? layer key with
      | some v => some (overlayValue ((find? base key).getD .null) v)
      | none => find? base key := by
  induction layer generalizing base with
  | nil => simp [overlay, find?]
  | cons e rest ih =>
    obtain ⟨k, v⟩ := e
    have hnodup := List.nodup_cons.mp hd
    rw [overlay, ih hnodup.2, Table.find?_insert]
    by_cases hk : k = key
    · subst hk
      have hnone : find? rest k = none := Table.find?_eq_none_iff.mpr hnodup.1
      simp [find?, hnone]
    · simp [find?, hk]

/-- Where the upper table has no table at a key, the key finds what stands highest. -/
theorem find?_overlay_of_flat (hd : Distinct layer)
    (hflat : ∀ v, find? layer key = some v → v.fields? = none) :
    find? (overlay base layer) key = (find? layer key).or (find? base key) := by
  rw [find?_overlay hd]
  cases h : find? layer key with
  | none => rfl
  | some v => exact congrArg some (overlayValue_of_fields?_eq_none (hflat v h) _)

theorem distinct_overlay (h : Distinct base) : Distinct (overlay base layer) := by
  induction layer generalizing base with
  | nil => simpa [overlay] using h
  | cons e rest ih =>
    rw [overlay]
    exact ih (Table.distinct_insert h _ _)

/-- Tables that share no key stand one behind the other. -/
theorem overlay_of_distinct_append (hd : Distinct (base ++ layer)) :
    overlay base layer = base ++ layer := by
  induction layer generalizing base with
  | nil => simp [overlay]
  | cons e rest ih =>
    obtain ⟨k, v⟩ := e
    have hnew : k ∉ keys base := by
      have hnodup : (keys base ++ k :: keys rest).Nodup := by simpa [Distinct, keys] using hd
      exact fun h => (List.nodup_append.mp hnodup).2.2 k h k List.mem_cons_self rfl
    rw [overlay, Table.find?_eq_none_iff.mpr hnew, Option.getD_none, overlayValue_null,
      Table.insert_of_notMem hnew]
    have happend : base ++ [(k, v)] ++ rest = base ++ (k, v) :: rest := by simp
    rw [ih (happend ▸ hd), happend]

/-! ### Tables in tables -/

/-- What a table has under a name; what is missing is an empty table. -/
def part (t : Table Value) (name : String) : Value := (find? t name).getD (.object [])

/-- Tables under one name are laid over each other. -/
theorem part_overlay {name : String} {lower upper : Table Value} (hd : Distinct layer)
    (hbase : part base name = .object lower) (hlayer : part layer name = .object upper)
    (hupper : Distinct upper) :
    part (overlay base layer) name = .object (overlay lower upper) := by
  unfold part at *
  rw [find?_overlay hd]
  cases hl : find? layer name with
  | none =>
    rw [hl] at hlayer
    cases hlayer
    simpa [overlay] using hbase
  | some v =>
    obtain rfl : v = .object upper := by rw [hl] at hlayer; exact hlayer
    cases hb : find? base name with
    | none =>
      rw [hb] at hbase
      cases hbase
      have hnil : overlay [] upper = upper := overlay_of_distinct_append hupper
      simp [overlayValue, hnil]
    | some w =>
      obtain rfl : w = .object lower := by rw [hb] at hbase; exact hbase
      simp [overlayValue]

/-- To look into a part is to look into what is there, if anything is. -/
theorem get?_part (t : Table Value) (name key : String) :
    (part t name).get? key = ((Value.object t).getD name).get? key := by
  unfold part Value.getD Value.get?
  dsimp only
  cases find? t name with
  | none => rfl
  | some v => rfl

end ServiceAtlas.Layer
