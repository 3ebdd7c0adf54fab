import Mathlib.Data.List.Forall2
import ServiceAtlas.Noted
import ServiceAtlas.Proofs.Results

/-!
Runs taken apart: what a step that succeeded was made of, what a fold over many steps keeps, and
which diagnostics a run can leave behind.
-/

namespace ServiceAtlas

/-- In two lists related item by item, every item of the second has its own in the first. -/
theorem exists_of_mem_right {α β : Type} {r : α → β → Prop} {as : List α} {bs : List β} {b : β}
    (h : List.Forall₂ r as bs) (hb : b ∈ bs) : ∃ a ∈ as, r a b := by
  induction h with
  | nil => cases hb
  | cons hr _ ih =>
    rcases List.mem_cons.mp hb with rfl | hb
    · exact ⟨_, List.mem_cons_self, hr⟩
    · obtain ⟨a, ha, hr⟩ := ih hb
      exact ⟨a, List.mem_cons_of_mem _ ha, hr⟩

/-- If the first of two lists related item by item ends in an item, the second ends in a related
one. -/
theorem exists_getLast?_right {α β : Type} {r : α → β → Prop} {as : List α} {bs : List β} {a : α}
    (h : List.Forall₂ r as bs) (ha : as.getLast? = some a) : ∃ b, bs.getLast? = some b ∧ r a b := by
  have hreverse := List.rel_reverse h
  rw [List.getLast?_eq_head?_reverse] at ha ⊢
  cases hbs : bs.reverse with
  | nil =>
    rw [hbs, List.forall₂_nil_right_iff] at hreverse
    rw [hreverse] at ha
    cases ha
  | cons b rest =>
    rw [hbs, List.forall₂_cons_right_iff] at hreverse
    obtain ⟨first, more, hr, _, hfirst⟩ := hreverse
    rw [hfirst] at ha
    obtain rfl := Option.some.inj ha
    exact ⟨b, rfl, hr⟩

/-- Where related items always have a third that goes with both, related lists have one too. -/
theorem exists_forall₂ {α β γ : Type} {r : α → β → Prop} {s : α → γ → Prop} {t : β → γ → Prop}
    {as : List α} {bs : List β} (h : List.Forall₂ r as bs)
    (each : ∀ a ∈ as, ∀ b, r a b → ∃ c, s a c ∧ t b c) :
    ∃ cs, List.Forall₂ s as cs ∧ List.Forall₂ t bs cs := by
  induction h with
  | nil => exact ⟨[], .nil, .nil⟩
  | cons hr _ ih =>
    obtain ⟨c, hs, ht⟩ := each _ List.mem_cons_self _ hr
    obtain ⟨cs, hss, hts⟩ := ih fun a ha => each a (List.mem_cons_of_mem _ ha)
    exact ⟨c :: cs, .cons hs hss, .cons ht hts⟩

theorem exists_of_rel_some {α β : Type} {r : α → β → Prop} {x : Option α} {b : β}
    (h : Option.Rel r x (some b)) : ∃ a, x = some a ∧ r a b := by
  cases h with
  | some hr => exact ⟨_, rfl, hr⟩

theorem rel_imp {α β : Type} {r s : α → β → Prop} {x : Option α} {y : Option β}
    (h : Option.Rel r x y) (himp : ∀ a b, r a b → s a b) : Option.Rel s x y := by
  cases h with
  | some hr => exact .some (himp _ _ hr)
  | none => exact .none

namespace Noted
variable {α β σ : Type}

theorem ext {x y : Noted α} (hn : x.notes = y.notes) (hv : x.value = y.value) : x = y := by
  cases x
  cases y
  cases hn
  cases hv
  rfl

@[simp] theorem notes_map (f : α → β) (x : Noted α) : (f <$> x).notes = x.notes := by
  change x.notes ++ [] = x.notes
  exact List.append_nil _

@[simp] theorem value_map (f : α → β) (x : Noted α) : (f <$> x).value = f x.value := rfl

@[simp] theorem notes_note (d : Diagnostic) : (note d).notes = [d] := rfl

theorem value_mapM (f : α → Noted β) (items : List α) :
    (items.mapM f).value = items.map fun a => (f a).value := by
  induction items with
  | nil => rfl
  | cons a items ih => simp [List.mapM_cons, ih]

theorem notes_mapM (f : α → Noted β) (items : List α) :
    (items.mapM f).notes = items.flatMap fun a => (f a).notes := by
  induction items with
  | nil => rfl
  | cons a items ih => simp [List.mapM_cons, ih]

/-- What every step keeps, the whole fold keeps. The property may speak of the items gone through
and of the diagnostics so far. -/
theorem foldlM_run {step : σ → α → Noted σ} (Keeps : List α → List Diagnostic → σ → Prop)
    (each : ∀ done notes s a, Keeps done notes s →
      Keeps (done ++ [a]) (notes ++ (step s a).notes) (step s a).value)
    {start : σ} (first : Keeps [] [] start) (items : List α) :
    Keeps items (items.foldlM step start).notes (items.foldlM step start).value := by
  have go : ∀ (items done : List α) (notes : List Diagnostic) (s : σ), Keeps done notes s →
      Keeps (done ++ items) (notes ++ (items.foldlM step s).notes) (items.foldlM step s).value := by
    intro items
    induction items with
    | nil =>
      intro done notes s hs
      simpa using hs
    | cons a items ih =>
      intro done notes s hs
      simpa using ih _ _ _ (each done notes s a hs)
  simpa using go items [] [] start first

/-- Every diagnostic of a run has the property `p`. -/
def Only (p : Diagnostic → Prop) (x : Noted α) : Prop := ∀ d ∈ x.notes, p d

section Only
variable {p : Diagnostic → Prop}

theorem Only.pure (a : α) : Only p (pure a : Noted α) := by
  intro d hd
  cases hd

theorem Only.note {d : Diagnostic} (h : p d) : Only p (Noted.note d) := by
  intro e he
  rw [List.mem_singleton.mp he]
  exact h

theorem Only.bind {x : Noted α} {f : α → Noted β} (hx : Only p x) (hf : ∀ a, Only p (f a)) :
    Only p (x >>= f) := by
  intro d hd
  rcases List.mem_append.mp hd with hd | hd
  · exact hx d hd
  · exact hf _ d hd

theorem Only.map {x : Noted α} (f : α → β) (hx : Only p x) : Only p (f <$> x) := by
  intro d hd
  exact hx d (by simpa using hd)

theorem Only.foldlM {step : σ → α → Noted σ} (h : ∀ s a, Only p (step s a)) (s : σ)
    (items : List α) : Only p (items.foldlM step s) := by
  induction items generalizing s with
  | nil => exact Only.pure s
  | cons a items ih => exact (h s a).bind fun t => ih t

end Only
end Noted

namespace Traced
variable {α β σ : Type}

@[simp] theorem result_pure (a : α) : (pure a : Traced α).result = .ok a := rfl

@[simp] theorem notes_pure (a : α) : (pure a : Traced α).notes = [] := rfl

@[simp] theorem result_note (d : Diagnostic) : (note d).result = .ok () := rfl

@[simp] theorem notes_note (d : Diagnostic) : (note d).notes = [d] := rfl

@[simp] theorem result_ofExcept (x : Except Failure α) : (ofExcept x).result = x := rfl

@[simp] theorem notes_ofExcept (x : Except Failure α) : (ofExcept x).notes = [] := rfl

@[simp] theorem result_lift (x : Noted α) : result (ExceptT.lift x) = .ok x.value := rfl

@[simp] theorem notes_lift (x : Noted α) : notes (ExceptT.lift x) = x.notes := by
  change x.notes ++ [] = x.notes
  exact List.append_nil _

theorem result_bind (x : Traced α) (f : α → Traced β) :
    (x >>= f).result = x.result.bind fun a => (f a).result := by
  change ((ExceptT.bindCont f x.run.value).value : Except Failure β) = x.run.value.bind _
  cases x.run.value <;> rfl

/-- A run of two steps succeeds when both do. -/
theorem bind_ok_iff {x : Traced α} {f : α → Traced β} {b : β} :
    (x >>= f).result = .ok b ↔ ∃ a, x.result = .ok a ∧ (f a).result = .ok b := by
  rw [result_bind]
  cases x.result <;> simp [Except.bind]

theorem map_ok_iff {x : Traced α} {f : α → β} {b : β} :
    (f <$> x).result = .ok b ↔ ∃ a, x.result = .ok a ∧ f a = b := by
  rw [map_eq_pure_bind, bind_ok_iff]
  simp

@[simp] theorem result_map (f : α → β) (x : Traced α) : (f <$> x).result = x.result.map f := by
  rw [map_eq_pure_bind, result_bind]
  cases x.result <;> rfl

theorem notes_bind_of_ok {x : Traced α} {f : α → Traced β} {a : α} (h : x.result = .ok a) :
    (x >>= f).notes = x.notes ++ (f a).notes := by
  have hv : x.run.value = .ok a := h
  change x.run.notes ++ (ExceptT.bindCont f x.run.value).notes = _
  rw [hv]
  rfl

theorem notes_bind_of_error {x : Traced α} {f : α → Traced β} {e : Failure}
    (h : x.result = .error e) : (x >>= f).notes = x.notes := by
  have hv : x.run.value = .error e := h
  change x.run.notes ++ (ExceptT.bindCont f x.run.value).notes = _
  rw [hv]
  exact List.append_nil _

@[simp] theorem notes_map (f : α → β) (x : Traced α) : (f <$> x).notes = x.notes := by
  rw [map_eq_pure_bind]
  cases h : x.result with
  | ok a => rw [notes_bind_of_ok h, notes_pure, List.append_nil]
  | error e => rw [notes_bind_of_error h]

@[simp] theorem lift_bind_notes (x : Noted α) (f : α → Traced β) :
    notes (ExceptT.lift x >>= f) = x.notes ++ (f x.value).notes := by
  rw [notes_bind_of_ok (result_lift x), notes_lift]

@[simp] theorem lift_bind_result (x : Noted α) (f : α → Traced β) :
    result (ExceptT.lift x >>= f) = (f x.value).result := rfl

@[simp] theorem note_bind_result (d : Diagnostic) (f : Unit → Traced β) :
    (note d >>= f).result = (f ()).result := rfl

@[simp] theorem note_bind_notes (d : Diagnostic) (f : Unit → Traced β) :
    (note d >>= f).notes = d :: (f ()).notes := lift_bind_notes (Noted.note d) f

/-- What every step that succeeds keeps, a fold that succeeds keeps. The property may speak of the
items gone through and of the diagnostics so far. -/
theorem foldlM_run {step : σ → α → Traced σ} (Keeps : List α → List Diagnostic → σ → Prop)
    (each : ∀ done notes s a t, Keeps done notes s → (step s a).result = .ok t →
      Keeps (done ++ [a]) (notes ++ (step s a).notes) t)
    {start stop : σ} (first : Keeps [] [] start) {items : List α}
    (h : (items.foldlM step start).result = .ok stop) :
    Keeps items (items.foldlM step start).notes stop := by
  have go : ∀ (items done : List α) (notes : List Diagnostic) (s : σ), Keeps done notes s →
      (items.foldlM step s).result = .ok stop →
      Keeps (done ++ items) (notes ++ (items.foldlM step s).notes) stop := by
    intro items
    induction items with
    | nil =>
      intro done notes s hs hr
      obtain rfl : s = stop := by simpa using hr
      simpa using hs
    | cons a items ih =>
      intro done notes s hs hr
      rw [List.foldlM_cons] at hr ⊢
      obtain ⟨t, ht, hr⟩ := bind_ok_iff.mp hr
      rw [notes_bind_of_ok ht]
      simpa using ih _ _ _ (each done notes s a t hs ht) hr
  simpa using go items [] [] start first h

theorem mapM_ok {f : α → Traced β} {items : List α} {made : List β}
    (h : (items.mapM f).result = .ok made) :
    List.Forall₂ (fun a b => (f a).result = .ok b) items made := by
  induction items generalizing made with
  | nil =>
    obtain rfl : [] = made := by simpa using h
    exact .nil
  | cons a items ih =>
    rw [List.mapM_cons] at h
    obtain ⟨b, hb, h⟩ := bind_ok_iff.mp h
    obtain ⟨bs, hbs, h⟩ := bind_ok_iff.mp h
    obtain rfl : b :: bs = made := by simpa using h
    exact .cons hb (ih hbs)

theorem notes_mapM_of_ok {f : α → Traced β} {items : List α} {made : List β}
    (h : (items.mapM f).result = .ok made) :
    (items.mapM f).notes = items.flatMap fun a => (f a).notes := by
  induction items generalizing made with
  | nil => rfl
  | cons a items ih =>
    rw [List.mapM_cons] at h ⊢
    obtain ⟨b, hb, h⟩ := bind_ok_iff.mp h
    obtain ⟨bs, hbs, _⟩ := bind_ok_iff.mp h
    rw [notes_bind_of_ok hb, notes_bind_of_ok hbs, ih hbs, notes_pure, List.append_nil,
      List.flatMap_cons]

theorem notes_ofChecked (record : String) (x : Checked α) : (ofChecked record x).notes = [] := by
  cases x <;> rfl

/-- The run gives a result. -/
def Succeeds (x : Traced α) : Prop := ∃ a, x.result = .ok a

theorem succeeds_of_isOk {x : Traced α} (h : x.result.isOk = true) : Succeeds x := by
  cases hresult : x.result with
  | ok a => exact ⟨a, hresult⟩
  | error f =>
    rw [hresult] at h
    cases h

theorem succeeds_pure (a : α) : Succeeds (pure a : Traced α) := ⟨a, rfl⟩

theorem succeeds_lift (x : Noted α) : Succeeds (ExceptT.lift x : Traced α) := ⟨x.value, rfl⟩

theorem succeeds_bind_iff {x : Traced α} {f : α → Traced β} :
    Succeeds (x >>= f) ↔ ∃ a, x.result = .ok a ∧ Succeeds (f a) := by
  constructor
  · rintro ⟨b, h⟩
    obtain ⟨a, ha, hb⟩ := bind_ok_iff.mp h
    exact ⟨a, ha, b, hb⟩
  · rintro ⟨a, ha, b, hb⟩
    exact ⟨b, bind_ok_iff.mpr ⟨a, ha, hb⟩⟩

/-- Where what follows a step always succeeds, the step alone decides. -/
theorem succeeds_bind_of_forall {x : Traced α} {f : α → Traced β} (hf : ∀ a, Succeeds (f a)) :
    Succeeds (x >>= f) ↔ Succeeds x := by
  rw [succeeds_bind_iff]
  exact ⟨fun ⟨a, ha, _⟩ => ⟨a, ha⟩, fun ⟨a, ha⟩ => ⟨a, ha, hf a⟩⟩

theorem succeeds_map_iff {x : Traced α} {f : α → β} : Succeeds (f <$> x) ↔ Succeeds x := by
  rw [map_eq_pure_bind]
  exact succeeds_bind_of_forall fun a => succeeds_pure (f a)

theorem succeeds_mapM_iff {f : α → Traced β} {items : List α} :
    Succeeds (items.mapM f) ↔ ∀ a ∈ items, Succeeds (f a) := by
  induction items with
  | nil => simp [Succeeds]
  | cons a items ih =>
    rw [List.mapM_cons, List.forall_mem_cons, ← ih, succeeds_bind_iff]
    simp only [succeeds_bind_of_forall fun bs => succeeds_pure (_ :: bs)]
    exact ⟨fun ⟨b, hb, h⟩ => ⟨⟨b, hb⟩, h⟩, fun ⟨⟨b, hb⟩, h⟩ => ⟨b, hb, h⟩⟩

theorem succeeds_foldlM {step : σ → α → Traced σ} {items : List α}
    (h : ∀ s, ∀ a ∈ items, Succeeds (step s a)) (s : σ) : Succeeds (items.foldlM step s) := by
  induction items generalizing s with
  | nil => exact succeeds_pure s
  | cons a items ih =>
    obtain ⟨t, ht⟩ := h s a List.mem_cons_self
    rw [List.foldlM_cons, succeeds_bind_iff]
    exact ⟨t, ht, ih (fun s b hb => h s b (List.mem_cons_of_mem a hb)) t⟩

/-- Where it does not depend on the state whether a step succeeds, a fold succeeds exactly if all its
steps do. -/
theorem succeeds_foldlM_iff {step : σ → α → Traced σ} {p : α → Prop}
    (h : ∀ s a, Succeeds (step s a) ↔ p a) {s : σ} {items : List α} :
    Succeeds (items.foldlM step s) ↔ ∀ a ∈ items, p a := by
  refine ⟨fun hs => ?_, fun hall => succeeds_foldlM (fun s a ha => (h s a).mpr (hall a ha)) s⟩
  induction items generalizing s with
  | nil => simp
  | cons a items ih =>
    rw [List.foldlM_cons, succeeds_bind_iff] at hs
    obtain ⟨t, ht, hrest⟩ := hs
    exact List.forall_mem_cons.mpr ⟨(h s a).mp ⟨t, ht⟩, ih hrest⟩

/-- Every diagnostic of a run has the property `p`, whether the run succeeds or not. -/
def Only (p : Diagnostic → Prop) (x : Traced α) : Prop := ∀ d ∈ x.notes, p d

section Only
variable {p : Diagnostic → Prop}

theorem Only.pure (a : α) : Only p (pure a : Traced α) := Noted.Only.pure _

theorem Only.mk (x : Except Failure α) : Only p (ExceptT.mk (Pure.pure x) : Traced α) :=
  Noted.Only.pure x

theorem Only.ofExcept (x : Except Failure α) : Only p (Traced.ofExcept x) := Only.mk x

theorem Only.note {d : Diagnostic} (h : p d) : Only p (Traced.note d) := by
  intro e he
  rw [List.mem_singleton.mp he]
  exact h

theorem Only.lift {x : Noted α} (h : Noted.Only p x) : Only p (ExceptT.lift x : Traced α) := by
  intro d hd
  exact h d (by simpa using hd)

theorem Only.bind {x : Traced α} {f : α → Traced β} (hx : Only p x) (hf : ∀ a, Only p (f a)) :
    Only p (x >>= f) := by
  refine Noted.Only.bind hx fun r => ?_
  cases r with
  | ok a => exact hf a
  | error e => exact Noted.Only.pure _

theorem Only.map {x : Traced α} (f : α → β) (hx : Only p x) : Only p (f <$> x) := by
  rw [map_eq_pure_bind]
  exact hx.bind fun a => Only.pure (f a)

theorem Only.ofChecked (record : String) (x : Checked α) : Only p (ofChecked record x) := by
  cases x <;> exact Noted.Only.pure _

theorem Only.foldlM {step : σ → α → Traced σ} (h : ∀ s a, Only p (step s a)) (s : σ)
    (items : List α) : Only p (items.foldlM step s) := by
  induction items generalizing s with
  | nil => exact Only.pure s
  | cons a items ih => exact (h s a).bind fun t => ih t

theorem Only.mapM {f : α → Traced β} (h : ∀ a, Only p (f a)) (items : List α) :
    Only p (items.mapM f) := by
  induction items with
  | nil => exact Only.pure []
  | cons a items ih =>
    rw [List.mapM_cons]
    exact (h a).bind fun b => ih.bind fun bs => Only.pure (b :: bs)

theorem Only.forM {f : α → Traced PUnit} (h : ∀ a, Only p (f a)) (items : List α) :
    Only p (items.forM f) := by
  induction items with
  | nil => exact Only.pure _
  | cons a items ih => exact (h a).bind fun _ => ih

end Only
end Traced
end ServiceAtlas
