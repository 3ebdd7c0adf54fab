import Mathlib.Data.List.Pairwise
import ServiceAtlas.Proofs.Join
import ServiceAtlas.Proofs.Translation
import ServiceAtlas.Routes

/-!
Which operations a document ends up with: the routes of the joined functions, grouped by URL and
method in the order in which each first comes, with the last one at each route.
-/

namespace ServiceAtlas.Routes
variable {overrides : Overrides} {options : Options} {routes : Routes}

/-- The routes with one more, which takes the place of an earlier one to the same URL and method. -/
def put (routes : Routes) (r : Route) : Routes :=
  Table.insert routes r.url ((routes.item r.url).insert r.method r.operation)

def grouped (made : List Route) : Routes := made.foldl put []

/-- All operations with the way to them, in the order of the document. -/
def placed (routes : Routes) : List Route :=
  routes.flatMap fun item => item.2.map fun e => ⟨item.1, e.1, e.2⟩

/-- The route that a function makes, if it makes one. -/
def routeOf? [Stack] (overrides : Overrides) (options : Options) (f : JoinedFunction) : Option Route :=
  match (Operation.translate f.full f.console overrides options).result with
  | .ok r => r
  | .error _ => none

def routesOf [Stack] (overrides : Overrides) (options : Options) (functions : List JoinedFunction) :
    List Route :=
  functions.filterMap (routeOf? overrides options)

/-- All that one more route does. -/
theorem addRoute_eq (routes : Routes) (r : Route) :
    addRoute routes r =
      ⟨match routes.find? r.url r.method with
        | none => []
        | some before =>
          [.replacedRoute (Text.upper r.method) r.url before.id r.operation.id], put routes r⟩ := by
  simp only [addRoute, find?]
  cases (routes.item r.url).find? r.method <;> rfl

theorem addFunction_ok [Stack] {f : JoinedFunction} {out : Routes}
    (h : (addFunction overrides options routes f).result = .ok out) :
    ∃ made, (Operation.translate f.full f.console overrides options).result = .ok made ∧
      out = made.toList.foldl put routes := by
  obtain ⟨made, hmade, h⟩ := Traced.bind_ok_iff.mp h
  refine ⟨made, hmade, ?_⟩
  cases made with
  | none => exact (Except.ok.inj h).symm
  | some r =>
    rw [Traced.result_lift, addRoute_eq] at h
    exact (Except.ok.inj h).symm

theorem routeOf?_of_ok [Stack] {f : JoinedFunction} {made : Option Route}
    (h : (Operation.translate f.full f.console overrides options).result = .ok made) :
    routeOf? overrides options f = made := by
  unfold routeOf?
  rw [h]

/-- The document is made of the routes of the joined functions, all of which could be translated. -/
theorem build_ok [Stack] {console full : Table Value}
    (h : (build console full overrides options).result = .ok routes) :
    (∀ f ∈ (JoinedFunction.join console full).value,
      ∃ made, (Operation.translate f.full f.console overrides options).result = .ok made) ∧
    routes = grouped (routesOf overrides options (JoinedFunction.join console full).value) := by
  simp only [build, Traced.lift_bind_result] at h
  refine Traced.foldlM_run (fun done _ routes =>
    (∀ f ∈ done,
      ∃ made, (Operation.translate f.full f.console overrides options).result = .ok made) ∧
    routes = grouped (routesOf overrides options done)) ?_ ⟨by simp, rfl⟩ h
  rintro done notes routes f out ⟨htranslated, rfl⟩ hstep
  obtain ⟨made, hmade, rfl⟩ := addFunction_ok hstep
  refine ⟨?_, ?_⟩
  · intro g hg
    rcases List.mem_append.mp hg with hg | hg
    · exact htranslated g hg
    · rw [List.mem_singleton.mp hg]
      exact ⟨made, hmade⟩
  · simp only [grouped, routesOf, List.filterMap_append, List.foldl_append]
    cases made with
    | none => simp [routeOf?_of_ok hmade]
    | some r => simp [routeOf?_of_ok hmade]

/-! ### What grouping keeps -/

theorem grouped_concat (made : List Route) (r : Route) :
    grouped (made ++ [r]) = put (grouped made) r := by
  simp [grouped]

theorem item_put (r : Route) (url : String) :
    (put routes r).item url =
      if r.url = url then (routes.item r.url).insert r.method r.operation else routes.item url := by
  unfold item put
  rw [Table.find?_insert]
  split <;> rfl

/-- The URLs, each at its first place. -/
theorem keys_grouped (made : List Route) :
    Table.keys (grouped made) = (made.map Route.url).eraseDups := by
  induction made using List.reverseRecOn with
  | nil => rfl
  | append_singleton made r ih =>
    rw [grouped_concat, put, Table.keys_insert, ih, List.map_append, List.map_singleton,
      eraseDups_concat]
    simp only [List.mem_eraseDups]

/-- The methods of one URL, each at its first place. -/
theorem keys_item_grouped (made : List Route) (url : String) :
    Table.keys ((grouped made).item url) =
      ((made.filter fun r => r.url = url).map Route.method).eraseDups := by
  induction made using List.reverseRecOn with
  | nil => rfl
  | append_singleton made r ih =>
    rw [grouped_concat, item_put, List.filter_append, List.map_append]
    split
    · rename_i hu
      subst hu
      rw [Table.keys_insert, ih]
      simp only [List.filter_cons, List.filter_nil, decide_true, if_true, List.map_singleton,
        List.mem_eraseDups]
      rw [eraseDups_concat]
    · rename_i hu
      simpa [hu] using ih

/-- The last route to a URL and a method is the one that counts. -/
theorem find?_grouped (made : List Route) (url method : String) :
    (grouped made).find? url method =
      ((made.filter fun r => r.url = url ∧ r.method = method).getLast?).map Route.operation := by
  induction made using List.reverseRecOn with
  | nil => rfl
  | append_singleton made r ih =>
    simp only [find?] at ih ⊢
    rw [grouped_concat, item_put, List.filter_append]
    by_cases hu : r.url = url
    · subst hu
      rw [if_pos rfl, Table.find?_insert]
      by_cases hm : r.method = method
      · simp [hm]
      · simpa [hm] using ih
    · simpa [hu] using ih

theorem distinct_grouped (made : List Route) : Table.Distinct (grouped made) := by
  unfold Table.Distinct
  rw [keys_grouped]
  exact nodup_eraseDups _

/-- The methods of a path item stand in the table under its URL. -/
theorem item_eq_of_mem (hd : Table.Distinct routes) {item : String × Table Operation}
    (h : item ∈ routes) : routes.item item.1 = item.2 := by
  unfold Routes.item
  rw [Table.find?_of_mem hd h]
  rfl

theorem distinct_item_of_mem {made : List Route} {item : String × Table Operation}
    (h : item ∈ grouped made) : Table.Distinct item.2 := by
  rw [← item_eq_of_mem (distinct_grouped made) h]
  unfold Table.Distinct
  rw [keys_item_grouped]
  exact nodup_eraseDups _

theorem mem_placed {r : Route} :
    r ∈ placed routes ↔ ∃ item, (r.url, item) ∈ routes ∧ (r.method, r.operation) ∈ item := by
  simp only [placed, List.mem_flatMap, List.mem_map]
  constructor
  · rintro ⟨⟨url, item⟩, hi, ⟨method, o⟩, ho, rfl⟩
    exact ⟨item, hi, ho⟩
  · rintro ⟨item, hi, ho⟩
    exact ⟨_, hi, _, ho, rfl⟩

/-- Each placed operation is that of the last function on its route. -/
theorem last_of_mem_placed {made : List Route} {r : Route} (h : r ∈ placed (grouped made)) :
    ((made.filter fun q => q.url = r.url ∧ q.method = r.method).getLast?).map Route.operation =
      some r.operation := by
  obtain ⟨item, hi, ho⟩ := mem_placed.mp h
  rw [← find?_grouped]
  unfold find?
  rw [item_eq_of_mem (distinct_grouped made) hi]
  exact Table.find?_of_mem (distinct_item_of_mem hi) ho

/-- The routes that are placed are those that some function made. -/
theorem placed_iff {made : List Route} {url method : String} :
    (∃ o, ⟨url, method, o⟩ ∈ placed (grouped made)) ↔
      ∃ r ∈ made, r.url = url ∧ r.method = method := by
  constructor
  · rintro ⟨o, ho⟩
    obtain ⟨q, hq, _⟩ := Option.map_eq_some_iff.mp (last_of_mem_placed ho)
    have hm := List.mem_filter.mp (List.mem_of_getLast? hq)
    exact ⟨q, hm.1, of_decide_eq_true hm.2⟩
  · rintro ⟨r, hr, rfl, rfl⟩
    have hf : ((grouped made).find? r.url r.method).isSome = true := by
      rw [find?_grouped, Option.isSome_map]
      have hm : r ∈ made.filter fun q => q.url = r.url ∧ q.method = r.method :=
        List.mem_filter.mpr ⟨hr, by simp⟩
      cases hl : (made.filter fun q => q.url = r.url ∧ q.method = r.method).getLast? with
      | none =>
        rw [List.getLast?_eq_none_iff.mp hl] at hm
        cases hm
      | some q => rfl
    obtain ⟨o, ho⟩ := Option.isSome_iff_exists.mp hf
    unfold find? Routes.item at ho
    cases hi : Table.find? (grouped made) r.url with
    | none => simp [hi, Table.find?] at ho
    | some item =>
      simp only [hi, Option.getD_some] at ho
      exact ⟨o, mem_placed.mpr ⟨item, Table.mem_of_find? hi, Table.mem_of_find? ho⟩⟩

/-- No URL has a method twice. -/
theorem nodup_routes_placed (made : List Route) :
    ((placed (grouped made)).map fun r => (r.url, r.method)).Nodup := by
  have hpairs : (placed (grouped made)).map (fun r => (r.url, r.method)) =
      (grouped made).flatMap fun item => item.2.map fun e => (item.1, e.1) := by
    simp only [placed, List.map_flatMap, List.map_map]
    rfl
  rw [hpairs, List.nodup_flatMap]
  refine ⟨?_, ?_⟩
  · intro item hi
    have hd : (item.2.map Prod.fst).Nodup := distinct_item_of_mem hi
    exact List.Nodup.of_map Prod.snd (by simpa [List.map_map, Function.comp_def] using hd)
  · refine List.Pairwise.imp ?_ (List.pairwise_map.mp (distinct_grouped made))
    intro item other hne k hk hk'
    obtain ⟨e, _, rfl⟩ := List.mem_map.mp hk
    obtain ⟨d, _, he⟩ := List.mem_map.mp hk'
    exact hne (Prod.mk.inj he).1.symm

theorem mem_of_mem_placed {made : List Route} {r : Route} (h : r ∈ placed (grouped made)) :
    ∃ q ∈ made, q.url = r.url ∧ q.method = r.method ∧ q.operation = r.operation := by
  obtain ⟨q, hq, ho⟩ := Option.map_eq_some_iff.mp (last_of_mem_placed h)
  have hm := List.mem_filter.mp (List.mem_of_getLast? hq)
  have hr := of_decide_eq_true hm.2
  exact ⟨q, hm.1, hr.1, hr.2, ho⟩

theorem translate_of_routeOf? [Stack] {f : JoinedFunction} {r : Route}
    (h : routeOf? overrides options f = some r) :
    (Operation.translate f.full f.console overrides options).result = .ok (some r) := by
  unfold routeOf? at h
  split at h
  · rename_i made hmade
    rw [hmade, h]
  · cases h

/-- A route is built from the Console view of its function. -/
theorem builtFrom_of_routeOf? [Stack] {f : JoinedFunction} {r : Route}
    (h : routeOf? overrides options f = some r) :
    ∃ console method inputs returns, f.console = some console ∧
      Operation.BuiltFrom f.full console overrides options r.url method r.operation inputs
        returns := by
  obtain ⟨console, _, hc, _, _, _, _, hbuild⟩ := Operation.translate_some (translate_of_routeOf? h)
  obtain ⟨inputs, returns, hb⟩ := Operation.build_ok hbuild
  exact ⟨console, r.method, inputs, returns, hc, hb⟩

/-- An operation has the name of its function for an identifier. -/
theorem id_of_routeOf? [Stack] {f : JoinedFunction} {r : Route}
    (h : routeOf? overrides options f = some r) : r.operation.id = f.full.name := by
  obtain ⟨_, _, _, _, _, hb⟩ := builtFrom_of_routeOf? h
  exact hb.id

/-- Every placed operation is built from one of the joined functions. -/
theorem builtFrom_of_mem_placed [Stack] {console full : Table Value}
    (h : (build console full overrides options).result = .ok routes) {r : Route}
    (hr : r ∈ placed routes) :
    ∃ f ∈ (JoinedFunction.join console full).value, ∃ view method inputs returns,
      f.console = some view ∧
      Operation.BuiltFrom f.full view overrides options r.url method r.operation inputs
        returns := by
  obtain ⟨_, rfl⟩ := build_ok h
  obtain ⟨q, hq, hurl, _, ho⟩ := mem_of_mem_placed hr
  obtain ⟨f, hf, hfq⟩ := List.mem_filterMap.mp hq
  obtain ⟨view, method, inputs, returns, hc, hb⟩ := builtFrom_of_routeOf? hfq
  rw [hurl, ho] at hb
  exact ⟨f, hf, view, method, inputs, returns, hc, hb⟩

/-- No two placed operations have one identifier. -/
theorem nodup_ids_placed [Stack] (console full : Table Value) :
    ((placed (grouped (routesOf overrides options
      (JoinedFunction.join console full).value))).map fun r => r.operation.id).Nodup := by
  have hd := List.Nodup.of_map _ (nodup_routes_placed
    (routesOf overrides options (JoinedFunction.join console full).value))
  refine List.Nodup.map_on ?_ hd
  intro r hr s hs he
  obtain ⟨q, hq, hqu, hqm, hqo⟩ := mem_of_mem_placed hr
  obtain ⟨p, hp, hpu, hpm, hpo⟩ := mem_of_mem_placed hs
  obtain ⟨f, hf, hfq⟩ := List.mem_filterMap.mp hq
  obtain ⟨g, hg, hgp⟩ := List.mem_filterMap.mp hp
  -- One identifier is one name, and the join has no name twice.
  have hname : f.name = g.name := by
    rw [← JoinedFunction.name_of_mem_join hf, ← JoinedFunction.name_of_mem_join hg,
      ← id_of_routeOf? hfq, ← id_of_routeOf? hgp, hqo, hpo]
    exact he
  obtain rfl := JoinedFunction.eq_of_name_eq hf hg hname
  obtain rfl : q = p := Option.some.inj (hfq.symm.trans hgp)
  cases r
  cases s
  simp_all

/-- A document that is built has the routes of the joined functions and no others. Each has the
operation of the last function on it, URLs and methods stand in the order in which they first come,
and no identifier comes twice. -/
theorem routes_of_functions [Stack] {console full : Table Value}
    (h : (build console full overrides options).result = .ok routes) :
    let functions := (JoinedFunction.join console full).value
    let made := routesOf overrides options functions
    (∀ f ∈ functions,
      ∃ r, (Operation.translate f.full f.console overrides options).result = .ok r) ∧
    (∀ url method, (∃ o, ⟨url, method, o⟩ ∈ placed routes) ↔
      ∃ r ∈ made, r.url = url ∧ r.method = method) ∧
    (∀ r ∈ placed routes,
      ((made.filter fun q => q.url = r.url ∧ q.method = r.method).getLast?).map Route.operation =
        some r.operation) ∧
    Table.keys routes = (made.map Route.url).eraseDups ∧
    (∀ item ∈ routes, Table.keys item.2 =
      ((made.filter fun r => r.url = item.1).map Route.method).eraseDups) ∧
    ((placed routes).map fun r => r.operation.id).Nodup := by
  obtain ⟨htranslated, rfl⟩ := build_ok h
  refine ⟨htranslated, fun _ _ => placed_iff, fun r hr => last_of_mem_placed hr, keys_grouped _,
    ?_, nodup_ids_placed console full⟩
  intro item hi
  rw [← item_eq_of_mem (distinct_grouped _) hi]
  exact keys_item_grouped _ _

/-- The Console entry of a function with a method and a URL. -/
def callable (method url : String) : Value :=
  .object [("http_method", .text method), ("url", .text url)]

def entryNamed (name : String) : Value := .object [("name", .text name)]

/-- Three of four functions share a URL, two of these also the method. -/
def sharedConsole : Table Value :=
  [("functions", .object
    [("A", callable "GET" "/x"), ("B", callable "POST" "/y"), ("C", callable "get " "/x"),
      ("D", callable "PUT" "/x")])]

/-- One entry has no name, one comes again, and one is not in the Console catalogue. -/
def sharedFull : Table Value :=
  [("functions", .list
    [entryNamed "A", entryNamed "B", .null, entryNamed "E", entryNamed "D", entryNamed "A",
      entryNamed "C"])]

open Stack.Usual in
theorem routes_of_functions_shared :
    ∃ routes, (build sharedConsole sharedFull [] {}).result = .ok routes ∧
      (placed routes).map (fun r => (r.url, r.method, r.operation.id)) =
        [("/y", "post", "B"), ("/x", "put", "D"), ("/x", "get", "C")] ∧
      ((placed routes).map fun r => r.operation.id).Nodup := by
  refine ⟨_, rfl, by decide +kernel, ?_⟩
  exact (@routes_of_functions [] {} _ _ sharedConsole sharedFull rfl).2.2.2.2.2

end ServiceAtlas.Routes
