import ServiceAtlas.Proofs.Join
import ServiceAtlas.Proofs.RecordFields

/-!
Which entry of a catalogue stands for a name that comes more than once. In both catalogues the last
sound one does; the joined functions stand in the order of these last entries.
-/

namespace ServiceAtlas

namespace JoinedFunction

/-- What a catalogue has under `functions`. -/
def functionsOf (catalogue : Table Value) : Value := (catalogue.find? "functions").getD .null

/-! ### The Full catalogue -/

/-- The Full view in an entry that has a name and is sound. -/
def sound? (entry : Value) : Option FullView :=
  if (entry.getD "name").isGiven then (FullView.read entry).toOption else none

/-- The sound entries of a Full catalogue, in its order. -/
def soundFulls : Value → List FullView
  | .list entries => entries.filterMap sound?
  | .object entries => (entries.map withKey).filterMap sound?
  | _ => []

theorem value_addFull (index : Table FullView) (entry : Value) :
    (addFull index entry).value =
      match sound? entry with
      | some full => index.putLast full.name full
      | none => index := by
  rcases addFull_cases index entry with ⟨hg, he⟩ | ⟨_, hr, he⟩ | ⟨full, hg, hr, he⟩
  · rw [he, sound?, hg]
    rfl
  · have hbad : (FullView.read entry).toOption = none := by
      cases hread : FullView.read entry with
      | good full =>
        rw [hread] at hr
        cases hr
      | bad issues => rfl
    rw [he, sound?, hbad, ite_self]
  · rw [he, sound?, if_pos hg, hr]
    rfl

/-- The index of views of which the last one of each name counts, at its own place. -/
def lastOf (views : List FullView) : Table FullView :=
  views.foldl (fun index full => index.putLast full.name full) []

theorem value_foldlM_addFull (entries : List Value) (index : Table FullView) :
    (entries.foldlM addFull index).value =
      (entries.filterMap sound?).foldl (fun index full => index.putLast full.name full) index := by
  induction entries generalizing index with
  | nil => rfl
  | cons entry entries ih =>
    rw [List.foldlM_cons, Noted.value_bind, ih, value_addFull, List.filterMap_cons]
    cases sound? entry <;> rfl

theorem value_fullIndex (functions : Value) :
    (fullIndex functions).value = lastOf (soundFulls functions) := by
  simp only [fullIndex, Noted.value_bind, value_foldlM_addFull]
  cases functions <;> rfl

theorem lastOf_concat (views : List FullView) (full : FullView) :
    lastOf (views ++ [full]) = (lastOf views).putLast full.name full := by
  simp [lastOf]

theorem keys_lastOf (views : List FullView) :
    (lastOf views).keys = (views.map FullView.name).dedup := by
  induction views using List.reverseRecOn with
  | nil => rfl
  | append_singleton views full ih =>
    rw [lastOf_concat, Table.keys_putLast, ih, List.map_append, List.map_singleton, dedup_concat]

theorem find?_lastOf (views : List FullView) (name : String) :
    (lastOf views).find? name = (views.filter fun full => full.name = name).getLast? := by
  induction views using List.reverseRecOn with
  | nil => rfl
  | append_singleton views full ih =>
    rw [lastOf_concat, Table.find?_putLast, ih, List.filter_append]
    by_cases hn : full.name = name <;> simp [hn]

theorem name_of_read {entry : Value} {full : FullView} (h : FullView.read entry = .good full) :
    entry.getD "name" = .text full.name := by
  cases entry with
  | object fields =>
    simp only [FullView.read, Checked.openRecord] at h
    split at h
    · cases h
    · simp only [FullView.readFields, Checked.seq_eq_good_iff, Checked.map_eq_good_iff] at h
      obtain ⟨_, _, ⟨_, _, ⟨_, _, ⟨_, _, ⟨_, _, ⟨_, _, ⟨_, _, ⟨name, hn, rfl⟩, -, rfl⟩, -, rfl⟩, -,
        rfl⟩, -, rfl⟩, -, rfl⟩, -, rfl⟩, -, rfl⟩ := h
      rw [Checked.required, Checked.under_eq_good_iff] at hn
      cases hf : Table.find? fields "name" with
      | none =>
        rw [hf] at hn
        cases hn
      | some given =>
        rw [hf] at hn
        cases given with
        | text s =>
          cases hn
          simp only [Value.getD, Value.get?, hf, Option.getD_some]
        | _ => cases hn
  | _ => cases h

theorem sound?_eq_some_iff {entry : Value} {full : FullView} :
    sound? entry = some full ↔
      (entry.getD "name").isGiven = true ∧ FullView.read entry = .good full := by
  unfold sound?
  split
  · rename_i hg
    simp [hg, Checked.toOption_eq_some_iff]
  · rename_i hg
    simp [hg]

theorem name_ne_of_mem_soundFulls {functions : Value} {full : FullView}
    (h : full ∈ soundFulls functions) : full.name ≠ "" := by
  have hsound : ∃ entry, sound? entry = some full := by
    unfold soundFulls at h
    split at h
    · obtain ⟨entry, _, he⟩ := List.mem_filterMap.mp h
      exact ⟨entry, he⟩
    · obtain ⟨entry, _, he⟩ := List.mem_filterMap.mp h
      exact ⟨entry, he⟩
    · cases h
  obtain ⟨entry, he⟩ := hsound
  obtain ⟨hg, hr⟩ := sound?_eq_some_iff.mp he
  rw [name_of_read hr] at hg
  simpa [Value.isGiven] using hg

/-! ### The Console catalogue -/

/-- The entry of a list has a name, and shows this one. -/
def goesBy (name : String) (entry : Value) : Bool :=
  (entry.getD "name").isGiven && (entry.getD "name").display == name

/-- The last entry of a Console catalogue under a name: in a list the last that goes by the name, in
a table the one that has it as its key. -/
def consoleOf? (functions : Value) (name : String) : Option Value :=
  match functions with
  | .list entries => (entries.filter (goesBy name)).getLast?
  | .object entries => Table.find? entries name
  | _ => none

theorem filter_named (entries : List Value) (name : String) :
    (entries.filterMap namedEntry?).filter (fun e => e.1 = name) =
      (entries.filter (goesBy name)).map fun entry => (name, entry) := by
  induction entries with
  | nil => rfl
  | cons entry entries ih =>
    cases hg : (entry.getD "name").isGiven with
    | false =>
      have hn : namedEntry? entry = none := by simp [ namedEntry?, hg]
      simp [goesBy, hg, hn, ih]
    | true =>
      have hn : namedEntry? entry = some ((entry.getD "name").display, entry) := by
        simp [ namedEntry?, hg]
      by_cases hd : (entry.getD "name").display = name <;> simp [goesBy, hg, hn, hd, ih]

theorem find?_consoleIndex (functions : Value) (name : String) :
    (consoleIndex functions).value.find? name = consoleOf? functions name := by
  cases functions with
  | list entries =>
    change Table.find? (Table.ofEntries (entries.filterMap namedEntry?)) name = _
    rw [Table.find?_ofEntries, filter_named, List.getLast?_map, Option.map_map]
    exact Option.map_id'
  | _ => rfl

theorem value_readConsole (name : String) (raw : Value) :
    (readConsole name raw).value = (ConsoleView.read raw).toOption := by
  unfold readConsole
  cases raw with
  | null => rfl
  | _ =>
    simp only [Value.isNull, Bool.false_eq_true, if_false]
    cases ConsoleView.read _ <;> rfl

/-! ### The functions joined -/

/-- The functions joined from Full views: for each name the last view of this name, at its place. -/
structure LastOfEach (views : List FullView) (joined : List JoinedFunction) : Prop where
  distinct : (joined.map JoinedFunction.name).Nodup
  order : joined.map JoinedFunction.name = (views.map FullView.name).dedup
  given : ∀ f ∈ joined, f.name ≠ ""
  last : ∀ f ∈ joined, (views.filter fun full => full.name = f.name).getLast? = some f.full

/-- The Console view of a function is that of the last Console entry under its name. -/
structure ReadFromLast (functions : Value) (f : JoinedFunction) : Prop where
  some_iff : ∀ console, f.console = some console ↔
    ∃ raw, consoleOf? functions f.name = some raw ∧ ConsoleView.read raw = .good console
  none_iff : f.console = none ↔
    consoleOf? functions f.name = none ∨ consoleOf? functions f.name = some .null ∨
      ∃ raw issues, consoleOf? functions f.name = some raw ∧ ConsoleView.read raw = .bad issues

theorem mem_join {console full : Table Value} {f : JoinedFunction}
    (h : f ∈ (join console full).value) :
    (lastOf (soundFulls (functionsOf full))).find? f.name = some f.full ∧
      f.console = ((consoleOf? (functionsOf console) f.name).bind fun raw =>
        (ConsoleView.read raw).toOption) := by
  rw [value_join] at h
  obtain ⟨e, hm, rfl⟩ := List.mem_map.mp h
  refine ⟨?_, ?_⟩
  · rw [functionsOf, ← value_fullIndex]
    exact Table.find?_of_mem (indexed_fullIndex _).distinct hm
  · change (readConsole e.1 (((consolesOf console).find? e.1).getD .null)).value = _
    rw [value_readConsole, consolesOf, find?_consoleIndex]
    change (ConsoleView.read ((consoleOf? (functionsOf console) e.1).getD .null)).toOption = _
    change _ = (consoleOf? (functionsOf console) e.1).bind _
    cases consoleOf? (functionsOf console) e.1 <;> rfl

theorem lastOfEach_join (console full : Table Value) :
    LastOfEach (soundFulls (functionsOf full)) (join console full).value := by
  have horder : (join console full).value.map JoinedFunction.name =
      ((soundFulls (functionsOf full)).map FullView.name).dedup := by
    rw [names_join, fullsOf, value_fullIndex, keys_lastOf]
    rfl
  refine ⟨nodup_names_join console full, horder, fun f hf => ?_, fun f hf => ?_⟩
  · have hm : f.name ∈ ((soundFulls (functionsOf full)).map FullView.name).dedup :=
      horder ▸ List.mem_map_of_mem hf
    obtain ⟨view, hv, he⟩ := List.mem_map.mp (List.mem_dedup.mp hm)
    exact he ▸ name_ne_of_mem_soundFulls hv
  · rw [← find?_lastOf]
    exact (mem_join hf).1

theorem readFromLast_of_mem_join {console full : Table Value} {f : JoinedFunction}
    (h : f ∈ (join console full).value) : ReadFromLast (functionsOf console) f := by
  have he := (mem_join h).2
  constructor
  · intro c
    simp only [he, Option.bind_eq_some_iff, Checked.toOption_eq_some_iff]
  · rw [he]
    cases hf : consoleOf? (functionsOf console) f.name with
    | none => simp
    | some raw =>
      cases hr : ConsoleView.read raw with
      | good c =>
        have hnull : raw ≠ .null := by
          rintro rfl
          cases hr
        simp [Checked.toOption, hr, hnull]
      | bad issues => simp [Checked.toOption, hr]

theorem functionsOf_insert (catalogue : Table Value) (functions : Value) :
    functionsOf (catalogue.insert "functions" functions) = functions := by
  simp [functionsOf, Table.find?_insert]

/-- Of the Full catalogue nothing but the sound entries has an influence. -/
theorem join_of_soundFulls {console full other : Table Value}
    (h : soundFulls (functionsOf full) = soundFulls (functionsOf other)) :
    (join console full).value = (join console other).value := by
  have hfulls : fullsOf full = fullsOf other := by
    rw [fullsOf, fullsOf, value_fullIndex, value_fullIndex]
    exact congrArg lastOf h
  rw [value_join, value_join, hfulls]

/-- The functions joined have the names of the sound Full entries, each once and where it comes last,
with what the last entry of each catalogue gives. A malformed Full entry, wherever it stands, changes
nothing. -/
theorem join_last_entries (console full : Table Value) :
    LastOfEach (soundFulls (functionsOf full)) (join console full).value ∧
      (∀ f ∈ (join console full).value, ReadFromLast (functionsOf console) f) ∧
      (∀ before entry after, sound? entry = none →
        (join console (full.insert "functions" (.list (before ++ entry :: after)))).value =
          (join console (full.insert "functions" (.list (before ++ after)))).value) ∧
      ∀ before entry after, sound? (withKey entry) = none →
        (join console (full.insert "functions" (.object (before ++ entry :: after)))).value =
          (join console (full.insert "functions" (.object (before ++ after)))).value := by
  refine ⟨lastOfEach_join console full, fun _ hf => readFromLast_of_mem_join hf, ?_, ?_⟩
  · intro before entry after h
    apply join_of_soundFulls
    simp [functionsOf_insert, soundFulls, h]
  · intro before entry after h
    apply join_of_soundFulls
    simp [functionsOf_insert, soundFulls, h]

/-- Two functions, the first of which comes again behind the second and once more, malformed, in the
last place. -/
def repeatedFulls : List Value :=
  [.object [("name", .text "Help"), ("help", .text "old")],
    .object [("name", .text "Exit")],
    .object [("name", .text "Help"), ("help", .text "new")]]

theorem repeatedFulls_last_entries :
    sound? (.object [("name", .text "Help"), ("tags", .int 1)]) = none ∧
      (join [] [("functions", .list (repeatedFulls ++
          [.object [("name", .text "Help"), ("tags", .int 1)]]))]).value =
        (join [] [("functions", .list repeatedFulls)]).value ∧
      LastOfEach (soundFulls (.list repeatedFulls))
        (join [] [("functions", .list repeatedFulls)]).value ∧
      (soundFulls (.list repeatedFulls)).map FullView.name = ["Help", "Exit", "Help"] ∧
      (join [] [("functions", .list repeatedFulls)]).value.map JoinedFunction.name =
        ["Exit", "Help"] := by
  have hbad : sound? (.object [("name", .text "Help"), ("tags", .int 1)]) = none := by rfl
  refine ⟨hbad, ?_, (join_last_entries [] [("functions", .list repeatedFulls)]).1, ?_, ?_⟩
  · have h := (join_last_entries [] []).2.2.1 repeatedFulls _ [] hbad
    rw [List.append_nil] at h
    exact h
  · decide +kernel
  · decide +kernel

end JoinedFunction
end ServiceAtlas
