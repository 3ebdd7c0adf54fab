import ServiceAtlas.Proofs.DistinctKeys
import ServiceAtlas.Proofs.Overlay

/-!
The laws of merging: what a path of keys finds in one table laid over another, in which order the keys
stand, and which tables make no difference when they are laid over or under.
-/

namespace ServiceAtlas

namespace Table
variable {α : Type} {t u : Table α} {key : String} {value : α}

/-- A key that takes the value it has changes nothing. -/
theorem insert_of_find? (h : find? t key = some value) : insert t key value = t := by
  induction t with
  | nil => cases h
  | cons e rest ih =>
    obtain ⟨k, v⟩ := e
    by_cases hk : k = key
    · have hv : v = value := by simpa [find?, hk] using h
      rw [insert, if_pos hk, hv]
    · have hrest : find? rest key = some value := by simpa [find?, hk] using h
      rw [insert, if_neg hk, ih hrest]

/-- A table is known by the order of its keys and what each of them finds. -/
theorem eq_of_find? (hd : Distinct t) (hkeys : keys t = keys u)
    (hfind : ∀ key ∈ keys t, find? t key = find? u key) : t = u := by
  induction t generalizing u with
  | nil =>
    cases u with
    | nil => rfl
    | cons e rest => cases hkeys
  | cons e rest ih =>
    obtain ⟨k, v⟩ := e
    cases u with
    | nil => cases hkeys
    | cons d more =>
      obtain ⟨l, w⟩ := d
      obtain ⟨hkl, hmore⟩ : k = l ∧ keys rest = keys more := List.cons.inj hkeys
      subst hkl
      have hnodup := List.nodup_cons.mp hd
      have hvw : v = w := by simpa [find?] using hfind k List.mem_cons_self
      have hrest : rest = more := by
        refine ih hnodup.2 hmore fun j hj => ?_
        have hne : k ≠ j := fun he => hnodup.1 (he ▸ hj)
        simpa [find?, hne] using hfind j (List.mem_cons_of_mem _ hj)
      rw [hvw, hrest]

end Table

namespace Value

theorem WellFormed.get? {v w : Value} {key : String} (h : v.WellFormed)
    (hget : v.get? key = some w) : w.WellFormed := by
  cases v with
  | object fields => exact h.find? hget
  | _ => cases hget

theorem WellFormed.at? {v w : Value} {path : List String} (h : v.WellFormed)
    (hat : v.at? path = some w) : w.WellFormed := by
  induction path generalizing v with
  | nil =>
    cases hat
    exact h
  | cons key path ih =>
    obtain ⟨u, hu, hrest⟩ := Option.bind_eq_some_iff.mp hat
    exact ih (h.get? hu) hrest

/-- The path leads through something that is no object. -/
def CutOff (v : Value) (path : List String) : Prop :=
  ∃ front, front <+: path ∧ front ≠ path ∧ ∃ w, v.at? front = some w ∧ w.fields? = none

theorem cutOff_nil (v : Value) : ¬v.CutOff [] := by
  intro ⟨front, hfront, hne, _⟩
  exact hne (List.prefix_nil.mp hfront)

theorem cutOff_cons_of_fields?_eq_none {v : Value} (h : v.fields? = none) (key : String)
    (path : List String) : v.CutOff (key :: path) :=
  ⟨[], List.nil_prefix, (List.cons_ne_nil _ _).symm, v, rfl, h⟩

theorem cutOff_cons {fields : Table Value} {key : String} {path : List String} :
    (object fields).CutOff (key :: path) ↔ ∃ v, fields.find? key = some v ∧ v.CutOff path := by
  constructor
  · intro ⟨front, hfront, hne, w, hat, hw⟩
    cases front with
    | nil =>
      cases hat
      cases hw
    | cons k front =>
      obtain ⟨rfl, hprefix⟩ := List.cons_prefix_cons.mp hfront
      obtain ⟨v, hv, hrest⟩ := Option.bind_eq_some_iff.mp hat
      exact ⟨v, hv, front, hprefix, fun he => hne (he ▸ rfl), w, hrest, hw⟩
  · intro ⟨v, hv, front, hprefix, hne, w, hat, hw⟩
    refine ⟨key :: front, List.cons_prefix_cons.mpr ⟨rfl, hprefix⟩, ?_, w, ?_, hw⟩
    · intro he
      exact hne (List.cons.inj he).2
    · exact Option.bind_eq_some_iff.mpr ⟨v, hv, hat⟩

end Value

namespace Layer
open Table (Distinct find? insert keys)
open Value (CutOff)

variable {base layer : Table Value} {key : String}

/-- Only what is no table can make something that is no table. -/
theorem overlayValue_of_flat {lower upper : Value} (h : (overlayValue lower upper).fields? = none) :
    overlayValue lower upper = upper := by
  cases upper with
  | object layer =>
    cases lower <;>
      · simp only [overlayValue] at h
        cases h
  | _ => exact overlayValue_of_fields?_eq_none rfl _

/-! ### Paths -/

/-- A key of the upper object finds what its value makes of the lower one, whatever lies below. -/
theorem get?_overlayValue (hd : Distinct layer) (lower : Value) :
    (overlayValue lower (.object layer)).get? key =
      match find? layer key with
      | some v => some (overlayValue (lower.getD key) v)
      | none => lower.get? key := by
  cases lower with
  | object base =>
    simp only [overlayValue]
    exact find?_overlay hd
  | _ =>
    simp only [overlayValue]
    cases h : find? layer key with
    | none => exact h
    | some v => exact h.trans (congrArg some (overlayValue_null v).symm)

/-- What a path finds: what stands at its end above, laid over what stands there below. -/
theorem at?_overlayValue_of_some (lower : Value) {upper v : Value} {path : List String}
    (h : upper.WellFormed) (hv : upper.at? path = some v) :
    (overlayValue lower upper).at? path = some (overlayValue ((lower.at? path).getD .null) v) := by
  induction path generalizing lower upper with
  | nil =>
    cases hv
    rfl
  | cons key path ih =>
    obtain ⟨u, hu, hrest⟩ := Option.bind_eq_some_iff.mp hv
    cases upper with
    | object layer =>
      have hfind : find? layer key = some u := hu
      rw [Value.at?, get?_overlayValue h.1, hfind]
      refine (ih _ (h.find? hfind) hrest).trans (congrArg some ?_)
      rw [Value.at?, Value.getD]
      cases hl : lower.get? key with
      | some w => rfl
      | none =>
        -- The path ends here, or it leads on from a null: below there is nothing either way.
        cases path <;> rfl
    | _ => cases hu

/-- Where the path finds nothing above, it finds what stands at its end below, unless it is cut off
above. -/
theorem at?_overlayValue_of_none (lower : Value) {upper : Value} {path : List String}
    (h : upper.WellFormed) (hv : upper.at? path = none) (hcut : ¬upper.CutOff path) :
    (overlayValue lower upper).at? path = lower.at? path := by
  induction path generalizing lower upper with
  | nil => cases hv
  | cons key path ih =>
    cases upper with
    | object layer =>
      rw [Value.at?, get?_overlayValue h.1, Value.at?]
      cases hu : find? layer key with
      | none => rfl
      | some u =>
        have hrest : u.at? path = none := by
          simpa [Value.at?, Value.get?, hu] using hv
        have hopen : ¬u.CutOff path := fun hc => hcut (Value.cutOff_cons.mpr ⟨u, hu, hc⟩)
        refine (ih _ (h.find? hu) hrest hopen).trans ?_
        rw [Value.getD]
        cases lower.get? key with
        | some w => rfl
        | none =>
          cases path with
          | nil => cases hrest
          | cons => rfl
    | _ => exact absurd (Value.cutOff_cons_of_fields?_eq_none rfl _ _) hcut

theorem at?_overlayValue_of_cutOff (lower : Value) {upper : Value} {path : List String}
    (h : upper.WellFormed) (hcut : upper.CutOff path) :
    (overlayValue lower upper).at? path = none := by
  induction path generalizing lower upper with
  | nil => exact absurd hcut (Value.cutOff_nil upper)
  | cons key path ih =>
    cases upper with
    | object layer =>
      obtain ⟨u, hu, hrest⟩ := Value.cutOff_cons.mp hcut
      rw [Value.at?, get?_overlayValue h.1, hu]
      exact ih _ (h.find? hu) hrest
    | _ =>
      rw [overlayValue_of_fields?_eq_none rfl]
      rfl

/-! ### The order of the keys -/

/-- The keys of the lower table come first, then the new ones of the upper. -/
theorem keys_overlay (hd : Distinct layer) :
    keys (overlay base layer) = keys base ++ (keys layer).filter (· ∉ keys base) := by
  induction layer generalizing base with
  | nil => simp [overlay, keys]
  | cons e rest ih =>
    obtain ⟨k, v⟩ := e
    have hnodup := List.nodup_cons.mp hd
    rw [overlay, ih hnodup.2, Table.keys_insert]
    change _ = keys base ++ (k :: keys rest).filter _
    by_cases hk : k ∈ keys base
    · simp [hk]
    · have hrest : (keys rest).filter (· ∉ keys base ++ [k]) =
          (keys rest).filter (· ∉ keys base) := by
        refine List.filter_congr fun j hj => ?_
        have hne : j ≠ k := fun he => hnodup.1 (he ▸ hj)
        simp [hne]
      rw [if_neg hk, hrest, List.filter_cons_of_pos (by simpa using hk)]
      simp

/-! ### Laying over again -/

/-- A layer makes no difference if each of its values makes none to what is there. -/
theorem overlay_eq_self
    (h : ∀ e ∈ layer, ∃ v, find? base e.1 = some v ∧ overlayValue v e.2 = v) :
    overlay base layer = base := by
  induction layer with
  | nil => rw [overlay]
  | cons e rest ih =>
    obtain ⟨k, w⟩ := e
    obtain ⟨v, hv, hsame⟩ := h (k, w) List.mem_cons_self
    rw [overlay, hv, Option.getD_some, hsame, Table.insert_of_find? hv]
    exact ih fun d hd => h d (List.mem_cons_of_mem _ hd)

/-- Nothing changes if a value is laid over itself. -/
theorem overlayValue_self (v : Value) (h : v.WellFormed) : overlayValue v v = v := by
  match v with
  | .object fields =>
    rw [overlayValue]
    refine congrArg Value.object (overlay_eq_self fun e he => ?_)
    have hfind : find? fields e.1 = some e.2 := Table.find?_of_mem h.1 he
    exact ⟨e.2, hfind, overlayValue_self e.2 (h.find? hfind)⟩
  | .null | .bool _ | .int _ | .float _ | .text _ | .list _ =>
    exact overlayValue_of_fields?_eq_none rfl _
termination_by sizeOf v
decreasing_by
  have := Value.sizeOf_lt_of_find? hfind
  simp only [Value.object.sizeOf_spec]
  omega

/-- What has been laid over makes no difference when it is laid over once more. -/
theorem overlayValue_again (v lower : Value) (h : v.WellFormed) :
    overlayValue (overlayValue lower v) v = overlayValue lower v := by
  match v with
  | .object fields =>
    cases lower with
    | object base =>
      simp only [overlayValue]
      refine congrArg Value.object (overlay_eq_self fun e he => ?_)
      have hfind : find? fields e.1 = some e.2 := Table.find?_of_mem h.1 he
      refine ⟨_, ?_, overlayValue_again e.2 ((find? base e.1).getD .null) (h.find? hfind)⟩
      rw [find?_overlay h.1, hfind]
    | _ =>
      simp only [overlayValue]
      simpa only [overlayValue] using overlayValue_self _ h
  | .null | .bool _ | .int _ | .float _ | .text _ | .list _ =>
    rw [overlayValue_of_fields?_eq_none rfl, overlayValue_of_fields?_eq_none rfl]
termination_by sizeOf v
decreasing_by
  have := Value.sizeOf_lt_of_find? hfind
  simp only [Value.object.sizeOf_spec]
  omega

/-- What lies below makes no difference when what has been laid over it is laid over it once more. -/
theorem overlayValue_below (v lower : Value) (h : v.WellFormed) (hlower : lower.WellFormed) :
    overlayValue lower (overlayValue lower v) = overlayValue lower v := by
  match v with
  | .object fields =>
    cases lower with
    | object base =>
      have hd : Distinct (overlay base fields) := distinct_overlay hlower.1
      simp only [overlayValue]
      refine congrArg Value.object (Table.eq_of_find? (distinct_overlay hlower.1) ?_ ?_)
      · rw [keys_overlay hd, keys_overlay h.1]
        simp
      · intro key _
        rw [find?_overlay hd, find?_overlay h.1]
        cases hu : find? fields key with
        | some u =>
          have hbelow : ((find? base key).getD .null).WellFormed := by
            cases hw : find? base key with
            | some w => exact hlower.find? hw
            | none => trivial
          exact congrArg some (overlayValue_below u _ (h.find? hu) hbelow)
        | none =>
          cases hw : find? base key with
          | some w => exact congrArg some (overlayValue_self w (hlower.find? hw))
          | none => rfl
    | _ => simp only [overlayValue]
  | .null | .bool _ | .int _ | .float _ | .text _ | .list _ =>
    rw [overlayValue_of_fields?_eq_none rfl, overlayValue_of_fields?_eq_none rfl]
termination_by sizeOf v
decreasing_by
  have := Value.sizeOf_lt_of_find? hu
  simp only [Value.object.sizeOf_spec]
  omega

/-! ### The laws -/

/-- What a merged table holds, in terms of the two it was merged from. -/
structure Merges (base layer merged : Table Value) : Prop where
  /-- Above counts. -/
  above : ∀ path w, (Value.object layer).at? path = some w → w.fields? = none →
    (Value.object merged).at? path = some w
  /-- Below counts where nothing stands above, at the end of the path or on the way. -/
  below : ∀ path w, (Value.object base).at? path = some w → w.fields? = none →
    (Value.object layer).at? path = none → ¬(Value.object layer).CutOff path →
    (Value.object merged).at? path = some w
  /-- Nothing comes from elsewhere. -/
  origin : ∀ path w, (Value.object merged).at? path = some w → w.fields? = none →
    (Value.object base).at? path = some w ∨ (Value.object layer).at? path = some w
  /-- Where both have tables, the new keys go last. -/
  order : ∀ path lower upper, (Value.object base).at? path = some (.object lower) →
    (Value.object layer).at? path = some (.object upper) →
    ∃ table, (Value.object merged).at? path = some (.object table) ∧
      keys table = keys lower ++ (keys upper).filter (· ∉ keys lower)

theorem merges_overlay (h : (Value.object layer).WellFormed) :
    Merges base layer (overlay base layer) where
  above := by
    intro path w hw hflat
    have hat := at?_overlayValue_of_some (.object base) h hw
    rw [overlayValue_of_fields?_eq_none hflat, overlayValue] at hat
    exact hat
  below := by
    intro path w hw _ hnone hopen
    have hat := at?_overlayValue_of_none (.object base) h hnone hopen
    rw [overlayValue, hw] at hat
    exact hat
  origin := by
    intro path w hw hflat
    cases hu : (Value.object layer).at? path with
    | some u =>
      have hat := at?_overlayValue_of_some (.object base) h hu
      rw [overlayValue, hw] at hat
      obtain rfl := Option.some.inj hat
      exact .inr (congrArg some (overlayValue_of_flat hflat).symm)
    | none =>
      by_cases hcut : (Value.object layer).CutOff path
      · have hat := at?_overlayValue_of_cutOff (.object base) h hcut
        rw [overlayValue, hw] at hat
        cases hat
      · have hat := at?_overlayValue_of_none (.object base) h hu hcut
        rw [overlayValue, hw] at hat
        exact .inl hat.symm
  order := by
    intro path lower upper hlower hupper
    have hat := at?_overlayValue_of_some (.object base) h hupper
    rw [overlayValue, hlower] at hat
    refine ⟨overlay lower upper, hat, ?_⟩
    exact keys_overlay (h.at? hupper).1

/-- Merging, table by table and layer by layer. -/
theorem overlay_laws (hbase : (Value.object base).WellFormed)
    (hlayer : (Value.object layer).WellFormed) :
    Merges base layer (overlay base layer) ∧
      overlay base [] = base ∧ overlay [] layer = layer ∧ overlay base base = base ∧
      overlay (overlay base layer) layer = overlay base layer := by
  have hself := overlayValue_self _ hbase
  have hagain := overlayValue_again _ (.object base) hlayer
  simp only [overlayValue, Value.object.injEq] at hself hagain
  refine ⟨merges_overlay hlayer, ?_, overlay_of_distinct_append hlayer.1, hself, hagain⟩
  rw [overlay]

/-- A table meets a table, a table takes the place of a number and a number that of a table. -/
theorem overlay_laws_mixed :
    let base : Table Value :=
      [("a", .object [("x", .int 1), ("y", .object [])]), ("b", .int 2)]
    let layer : Table Value :=
      [("b", .object [("c", .null)]), ("a", .object [("z", .int 4), ("y", .int 3)])]
    (Value.object base).WellFormed ∧ (Value.object layer).WellFormed ∧
      Merges base layer (overlay base layer) ∧
      overlay base [] = base ∧ overlay [] layer = layer ∧ overlay base base = base ∧
      overlay (overlay base layer) layer = overlay base layer := by
  intro base layer
  have hbase : (Value.object base).WellFormed := by
    simp [base, Value.WellFormed, Value.WellFormedFields, Distinct, keys]
  have hlayer : (Value.object layer).WellFormed := by
    simp [layer, Value.WellFormed, Value.WellFormedFields, Distinct, keys]
  exact ⟨hbase, hlayer, overlay_laws hbase hlayer⟩

end Layer
end ServiceAtlas
