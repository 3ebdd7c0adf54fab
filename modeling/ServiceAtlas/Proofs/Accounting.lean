import ServiceAtlas.Proofs.Quiet
import ServiceAtlas.Proofs.RouteTable

/-!
Every function of the Full catalogue accounted for: it has an operation in the document, or exactly
one diagnostic tells why it has none. Each stage of a run keeps the balance.
-/

namespace ServiceAtlas

/-- How many diagnostics tell of functions dropped for one reason. -/
def tally (why : Drop) (notes : List Diagnostic) : Nat := notes.countP fun d => d.drop? = some why

/-- How many diagnostics tell of dropped functions. -/
def dropped (notes : List Diagnostic) : Nat := notes.countP fun d => d.drop?.isSome

theorem dropped_append (notes more : List Diagnostic) :
    dropped (notes ++ more) = dropped notes + dropped more := List.countP_append

theorem dropped_singleton {d : Diagnostic} {why : Drop} (h : d.drop? = some why) :
    dropped [d] = 1 := by
  simp [dropped, h]

theorem dropped_of_quiet {notes : List Diagnostic} (h : ∀ d ∈ notes, d.Quiet) :
    dropped notes = 0 := by
  refine List.countP_eq_zero.mpr fun d hd => ?_
  have hq : d.drop? = none := h d hd
  simp [hq]

theorem dropped_eq_tallies (notes : List Diagnostic) :
    dropped notes = tally .nameless notes + tally .malformed notes + tally .repeated notes +
      tally .unroutable notes + tally .replaced notes := by
  induction notes with
  | nil => rfl
  | cons d notes ih =>
    simp only [dropped, tally, List.countP_cons] at ih ⊢
    rw [ih]
    cases d.drop? with
    | none => simp
    | some why => cases why <;> simp <;> omega

/-! ### The join -/

namespace JoinedFunction

/-- How many entries a catalogue of functions has; nothing but a list or a table has any. -/
def entryCount : Value → Nat
  | .list entries => entries.length
  | .object entries => entries.length
  | _ => 0

theorem length_fullEntries (functions : Value) :
    (fullEntries functions).value.length = entryCount functions ∧
      dropped (fullEntries functions).notes = 0 := by
  cases functions <;> simp [fullEntries, entryCount, dropped, Diagnostic.drop?]

theorem addFull_balance {index : Table FullView} (h : Indexed index) (entry : Value) :
    (addFull index entry).value.length + dropped (addFull index entry).notes =
      index.length + 1 := by
  rcases addFull_cases index entry with ⟨_, he⟩ | ⟨report, _, he⟩ | ⟨full, _, _, he⟩
  · rw [he]
    exact congrArg (index.length + ·) (dropped_singleton rfl)
  · rw [he]
    exact congrArg (index.length + ·) (dropped_singleton rfl)
  · rw [he]
    dsimp only
    rw [Table.length_putLast h.distinct]
    by_cases hc : full.name ∈ Table.keys index
    · rw [if_pos hc, if_pos (Table.contains_iff.mpr hc), dropped_singleton rfl]
    · rw [if_neg hc, if_neg (fun hk => hc (Table.contains_iff.mp hk))]
      rfl

/-- The index holds all that was gone through, but for what the diagnostics tell of. -/
def Balanced (done : List Value) (notes : List Diagnostic) (index : Table FullView) : Prop :=
  Indexed index ∧ index.length + dropped notes = done.length

theorem Balanced.addFull {done : List Value} {notes : List Diagnostic} {index : Table FullView}
    (h : Balanced done notes index) (entry : Value) :
    Balanced (done ++ [entry]) (notes ++ (addFull index entry).notes)
      (addFull index entry).value := by
  have hb := addFull_balance h.1 entry
  refine ⟨h.1.addFull entry, ?_⟩
  rw [dropped_append, List.length_append, List.length_singleton, ← h.2]
  omega

theorem fullIndex_balance (functions : Value) :
    (fullIndex functions).value.length + dropped (fullIndex functions).notes =
      entryCount functions := by
  obtain ⟨hlength, hquiet⟩ := length_fullEntries functions
  have hfold := Noted.foldlM_run Balanced (fun _ _ _ entry h => h.addFull entry)
    ⟨.nil, rfl⟩ (fullEntries functions).value
  simp only [fullIndex, Noted.value_bind, Noted.notes_bind, dropped_append]
  rw [hquiet, Nat.zero_add, hfold.2, hlength]

theorem quiet_consoleIndex (functions : Value) :
    Noted.Only Diagnostic.Quiet (consoleIndex functions) := by
  unfold consoleIndex
  split
  · exact .pure _
  · exact .pure _
  · exact .bind (.note rfl) fun _ => .pure _

theorem quiet_ofFull (consoles : Table Value) (entry : String × FullView) :
    Noted.Only Diagnostic.Quiet (ofFull consoles entry) := by
  unfold ofFull readConsole
  refine .bind ?_ fun _ => .pure _
  split
  · exact .pure _
  · split
    · exact .pure _
    · exact .bind (.note rfl) fun _ => .pure _

/-- The join drops an entry or makes a function of it. -/
theorem join_balance (console full : Table Value) :
    (join console full).value.length + dropped (join console full).notes =
      entryCount ((full.find? "functions").getD .null) := by
  simp only [join, Noted.value_bind, Noted.notes_bind, Noted.value_mapM, Noted.notes_mapM,
    dropped_append, List.length_map]
  have hconsole : dropped (consoleIndex ((console.find? "functions").getD .null)).notes = 0 :=
    dropped_of_quiet (quiet_consoleIndex _)
  have hviews : dropped ((fullIndex ((full.find? "functions").getD .null)).value.flatMap fun e =>
      (ofFull (consoleIndex ((console.find? "functions").getD .null)).value e).notes) = 0 := by
    refine dropped_of_quiet fun d hd => ?_
    obtain ⟨e, _, hd⟩ := List.mem_flatMap.mp hd
    exact quiet_ofFull _ e d hd
  rw [hconsole, hviews, Nat.zero_add, Nat.add_zero]
  exact fullIndex_balance _

end JoinedFunction

/-! ### One function -/

namespace Operation
variable {full : FullView} {overrides : Overrides} {options : Options}

theorem refused_balance {d : Diagnostic} {made : Option Route}
    (hd : d.drop? = some .unroutable) (h : (refused d).result = .ok made) :
    made.toList.length + dropped (refused d).notes = 1 := by
  obtain rfl := Except.ok.inj h
  rw [notes_refused, dropped_singleton hd]
  rfl

/-- A function makes a route, or one diagnostic tells that it makes none. -/
theorem translate_balance [Stack] {view : Option ConsoleView} {made : Option Route}
    (h : (translate full view overrides options).result = .ok made) :
    made.toList.length + dropped (translate full view overrides options).notes = 1 := by
  rcases translate_cases full view overrides options with
    ⟨_, he⟩ | ⟨console, _, ⟨_, he⟩ | ⟨_, _, he⟩ | ⟨method, _, _, he⟩⟩
  · rw [he] at h ⊢
    exact refused_balance rfl h
  · rw [he] at h ⊢
    exact refused_balance rfl h
  · rw [he] at h ⊢
    exact refused_balance rfl h
  · rw [he] at h ⊢
    obtain ⟨o, _, rfl⟩ := Traced.map_ok_iff.mp h
    rw [Traced.notes_map, dropped_of_quiet (quiet_build full console overrides options _ _)]
    rfl

end Operation

/-! ### The routes -/

namespace Routes
variable {overrides : Overrides} {options : Options} {routes : Routes}

/-- A path item takes the place of the one under its URL, if there is one. -/
theorem operationCount_insert (routes : Routes) (url : String) (item : Table Operation) :
    operationCount (Table.insert routes url item) + (routes.item url).length =
      operationCount routes + item.length := by
  induction routes with
  | nil => simp [operationCount, Table.insert, Routes.item, Table.find?]
  | cons e rest ih =>
    obtain ⟨k, v⟩ := e
    simp only [operationCount, Routes.item, Table.insert, Table.find?] at ih ⊢
    by_cases hk : k = url
    · simp only [hk, if_true, List.map_cons, List.foldr_cons, Option.getD_some]
      omega
    · simp only [hk, if_false, List.map_cons, List.foldr_cons]
      omega

theorem operationCount_put (routes : Routes) (r : Route) :
    operationCount (put routes r) =
      if (routes.find? r.url r.method).isSome then operationCount routes
      else operationCount routes + 1 := by
  have h := operationCount_insert routes r.url ((routes.item r.url).insert r.method r.operation)
  rw [Table.length_insert] at h
  unfold put find?
  split at h
  · rename_i hs
    rw [if_pos hs]
    omega
  · rename_i hs
    rw [if_neg hs]
    omega

/-- One more route is one more operation, or one diagnostic tells of the one that it replaces. -/
theorem addRoute_balance (routes : Routes) (r : Route) :
    operationCount (addRoute routes r).value = operationCount routes + 1 -
      dropped (addRoute routes r).notes ∧ dropped (addRoute routes r).notes ≤ 1 := by
  rw [addRoute_eq]
  dsimp only
  rw [operationCount_put]
  cases routes.find? r.url r.method with
  | none => simp [dropped]
  | some before => simp [dropped, Diagnostic.drop?]

theorem addFunction_balance [Stack] {f : JoinedFunction} {out : Routes}
    (h : (addFunction overrides options routes f).result = .ok out) :
    operationCount out + dropped (addFunction overrides options routes f).notes =
      operationCount routes + 1 := by
  obtain ⟨made, hmade, h⟩ := Traced.bind_ok_iff.mp h
  have htranslate := Operation.translate_balance hmade
  unfold addFunction
  rw [Traced.notes_bind_of_ok hmade, dropped_append]
  cases made with
  | none =>
    obtain rfl := Except.ok.inj h
    simpa [dropped] using htranslate
  | some r =>
    obtain ⟨hcount, hle⟩ := addRoute_balance routes r
    obtain rfl := Except.ok.inj h
    simp only [Option.toList_some, List.length_singleton, Traced.notes_lift] at htranslate ⊢
    rw [hcount]
    omega

/-- Every entry of the Full catalogue has an operation in the document or exactly one diagnostic:
it has no name, it is malformed, its name comes again, it cannot be called over HTTP, or another
function takes its route. -/
theorem functions_accounted [Stack] {console full : Table Value}
    (h : (build console full overrides options).result = .ok routes) :
    JoinedFunction.entryCount ((full.find? "functions").getD .null) =
      routes.operationCount +
        (tally .nameless (build console full overrides options).notes +
          tally .malformed (build console full overrides options).notes +
          tally .repeated (build console full overrides options).notes +
          tally .unroutable (build console full overrides options).notes +
          tally .replaced (build console full overrides options).notes) := by
  rw [← dropped_eq_tallies, ← JoinedFunction.join_balance console full]
  unfold build at h ⊢
  simp only [Traced.lift_bind_result, Traced.lift_bind_notes, dropped_append] at h ⊢
  have hfold := Traced.foldlM_run
    (fun done notes routes => operationCount routes + dropped notes = done.length)
    (fun done notes routes f out hkept hstep => by
      have hb := addFunction_balance hstep
      rw [dropped_append, List.length_append, List.length_singleton, ← hkept]
      omega)
    rfl h
  rw [← hfold]
  omega

open Stack.Usual in
theorem functions_accounted_shared :
    ∃ routes, (build sharedConsole sharedFull [] {}).result = .ok routes ∧
      routes.operationCount = 3 ∧
      7 = routes.operationCount +
        (tally .nameless (build sharedConsole sharedFull [] {}).notes +
          tally .malformed (build sharedConsole sharedFull [] {}).notes +
          tally .repeated (build sharedConsole sharedFull [] {}).notes +
          tally .unroutable (build sharedConsole sharedFull [] {}).notes +
          tally .replaced (build sharedConsole sharedFull [] {}).notes) := by
  refine ⟨_, rfl, by decide +kernel, ?_⟩
  exact @functions_accounted [] {} _ Stack.Usual.usual sharedConsole sharedFull rfl

end Routes
end ServiceAtlas
