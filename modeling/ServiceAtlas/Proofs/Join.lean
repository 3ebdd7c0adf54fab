import ServiceAtlas.Function
import ServiceAtlas.Proofs.Tables
import ServiceAtlas.Proofs.Traced

/-!
The two views of each function joined: one entry of the Full catalogue at a time, and the names that
the joined functions end up with.
-/

namespace ServiceAtlas.JoinedFunction

/-- All that one entry of the Full catalogue can do to the index. -/
theorem addFull_cases (index : Table FullView) (entry : Value) :
    ((entry.getD "name").isGiven = false ∧
      addFull index entry = ⟨[.namelessFunction entry], index⟩) ∨
    (∃ report, (FullView.read entry).toExcept "FullFunction" = .error report ∧
      addFull index entry = ⟨[.malformedFunction (entry.getD "name") report], index⟩) ∨
    (∃ full, (entry.getD "name").isGiven = true ∧ FullView.read entry = .good full ∧
      addFull index entry =
        ⟨if index.contains full.name then [.repeatedFunction full.name] else [],
          index.putLast full.name full⟩) := by
  cases hg : (entry.getD "name").isGiven with
  | false =>
    refine Or.inl ⟨rfl, ?_⟩
    simp only [addFull, hg]
    rfl
  | true =>
    refine Or.inr ?_
    cases hr : FullView.read entry with
    | bad issues =>
      refine Or.inl ⟨⟨"FullFunction", issues⟩, rfl, ?_⟩
      simp only [addFull, hg, hr]
      rfl
    | good full =>
      refine Or.inr ⟨full, rfl, rfl, ?_⟩
      simp only [addFull, hg, hr, Checked.toExcept]
      by_cases hc : index.contains full.name = true
      · rw [hc]
        rfl
      · rw [Bool.not_eq_true] at hc
        rw [hc]
        rfl

/-- Each function stands under its own name, and no name stands twice. -/
structure Indexed (index : Table FullView) : Prop where
  distinct : index.Distinct
  named : ∀ e ∈ index, e.2.name = e.1

theorem Indexed.nil : Indexed [] := ⟨List.nodup_nil, by simp⟩

theorem Indexed.addFull {index : Table FullView} (h : Indexed index) (entry : Value) :
    Indexed (addFull index entry).value := by
  rcases addFull_cases index entry with ⟨_, he⟩ | ⟨_, _, he⟩ | ⟨full, _, _, he⟩
  · rw [he]
    exact h
  · rw [he]
    exact h
  · rw [he]
    refine ⟨Table.distinct_putLast h.distinct, fun e hm => ?_⟩
    rcases List.mem_append.mp hm with hm | hm
    · exact h.named e (List.mem_filter.mp hm).1
    · rw [List.mem_singleton.mp hm]

theorem indexed_fullIndex (functions : Value) : Indexed (fullIndex functions).value := by
  simp only [fullIndex, Noted.value_bind]
  exact Noted.foldlM_run (fun _ _ index => Indexed index)
    (fun _ _ index entry h => h.addFull entry) .nil _

/-- The index of the Full catalogue. -/
def fullsOf (full : Table Value) : Table FullView :=
  (fullIndex ((full.find? "functions").getD .null)).value

/-- The entries of the Console catalogue by name. -/
def consolesOf (console : Table Value) : Table Value :=
  (consoleIndex ((console.find? "functions").getD .null)).value

theorem value_join (console full : Table Value) :
    (join console full).value =
      (fullsOf full).map fun e => (ofFull (consolesOf console) e).value := by
  simp only [join, Noted.value_bind, Noted.value_mapM, fullsOf, consolesOf]

theorem name_of_mem_join {console full : Table Value} {f : JoinedFunction}
    (h : f ∈ (join console full).value) : f.full.name = f.name := by
  rw [value_join] at h
  obtain ⟨e, hm, rfl⟩ := List.mem_map.mp h
  exact (indexed_fullIndex _).named e hm

theorem names_join (console full : Table Value) :
    (join console full).value.map JoinedFunction.name = (fullsOf full).keys := by
  rw [value_join, List.map_map]
  rfl

/-- No two joined functions have one name. -/
theorem nodup_names_join (console full : Table Value) :
    ((join console full).value.map JoinedFunction.name).Nodup := by
  rw [names_join]
  exact (indexed_fullIndex _).distinct

theorem eq_of_name_eq {console full : Table Value} {f g : JoinedFunction}
    (hf : f ∈ (join console full).value) (hg : g ∈ (join console full).value)
    (he : f.name = g.name) : f = g :=
  List.inj_on_of_nodup_map (nodup_names_join console full) hf hg he

end ServiceAtlas.JoinedFunction
