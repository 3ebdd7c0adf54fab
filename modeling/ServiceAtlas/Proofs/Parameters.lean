import ServiceAtlas.Proofs.Translation

/-!
The parameters of an operation against the placeholders of its URL. Some parameters come from the
usage line, others from the URL itself; together they declare every placeholder once.
-/

namespace ServiceAtlas.Operation
variable {full : FullView} {console : ConsoleView} {overrides : Overrides} {options : Options}
  {a : Arguments} {used : List Parameter} {declared added : List OperationParameter}
  {names : List String}

/-- The pair under which a document tells parameters apart: where they travel, and their name. -/
def key (p : OperationParameter) : String × String := (p.placement.name, p.name)

theorem name_eq_path {place : Placement} : place.name = "path" ↔ place = .path := by
  cases place <;> decide

/-- Where no two elements have one image, the elements with a given image are at most one. -/
theorem filter_of_nodup_map {α β : Type} [DecidableEq β] {f : α → β} {l : List α} {x : α}
    (hd : (l.map f).Nodup) (hx : x ∈ l) : l.filter (fun y => f y = f x) = [x] := by
  induction l with
  | nil => cases hx
  | cons y l ih =>
    have hnodup := List.nodup_cons.mp hd
    rcases List.mem_cons.mp hx with rfl | hx
    · have hrest : l.filter (fun y => f y = f x) = [] := by
        refine List.filter_eq_nil_iff.mpr fun z hz he => hnodup.1 ?_
        exact List.mem_map.mpr ⟨z, hz, of_decide_eq_true he⟩
      simpa using hrest
    · have hne : f y ≠ f x := fun he => hnodup.1 (he ▸ List.mem_map.mpr ⟨x, hx, rfl⟩)
      simpa [hne] using ih hnodup.2 hx

theorem mem_pathNames {ps : List OperationParameter} {n : String} :
    n ∈ pathNames ps ↔ ("path", n) ∈ ps.map key := by
  simp only [pathNames, key, List.mem_map, List.mem_filter, decide_eq_true_eq, Prod.mk.injEq,
    name_eq_path]
  constructor
  · rintro ⟨p, ⟨hp, hplace⟩, hn⟩
    exact ⟨p, hp, hplace, hn⟩
  · rintro ⟨p, hp, hplace, hn⟩
    exact ⟨p, ⟨hp, hplace⟩, hn⟩

section
variable [Stack]

theorem keys_of_enters (h : List.Forall₂ (Enters a) used declared) :
    declared.map key = used.map fun p => (p.placement.name, p.name) := by
  induction h with
  | nil => rfl
  | cons henter _ ih =>
    obtain ⟨schema, _, rfl⟩ := henter
    simp only [List.map_cons, ih]
    rfl

theorem keys_of_fills (h : List.Forall₂ (Fills a) names added) :
    added.map key = names.map fun n => ("path", n) := by
  induction h with
  | nil => rfl
  | cons hfill _ ih =>
    obtain ⟨schema, _, rfl⟩ := hfill
    simp only [List.map_cons, ih]
    rfl

/-- Whatever is declared in the path is required. -/
def PathRequired (ps : List OperationParameter) : Prop :=
  ∀ p ∈ ps, p.placement = .path → p.required = true

theorem pathRequired_of_enters (h : List.Forall₂ (Enters a) used declared) :
    PathRequired declared := by
  intro e he hplace
  obtain ⟨p, _, schema, _, rfl⟩ := exists_of_mem_right h he
  have hpath : p.placement = .path := hplace
  simp [Arguments.entry, hpath]

theorem pathRequired_of_fills (h : List.Forall₂ (Fills a) names added) : PathRequired added := by
  intro e he _
  obtain ⟨name, _, schema, _, rfl⟩ := exists_of_mem_right h he
  rfl

/-- Declared arguments and missing placeholders never share a key. -/
theorem nodup_keys (hd : (used.map Parameter.name).Nodup)
    (henters : List.Forall₂ (Enters a) (used.filter fun p => p.placement ≠ .body) declared)
    (hfills : List.Forall₂ (Fills a) (missing declared names) added) :
    ((declared ++ added).map key).Nodup := by
  rw [List.map_append]
  refine List.nodup_append.mpr ⟨?_, ?_, ?_⟩
  · rw [keys_of_enters henters]
    have hnames : ((used.filter fun p => p.placement ≠ .body).map Parameter.name).Nodup :=
      List.Nodup.sublist (List.filter_sublist.map _) hd
    exact List.Nodup.of_map Prod.snd (by simpa [List.map_map, Function.comp_def] using hnames)
  · rw [keys_of_fills hfills]
    exact (nodup_eraseDups _).map fun m n he => (Prod.mk.inj he).2
  · intro k hk l hl he
    subst he
    rw [keys_of_fills hfills] at hl
    obtain ⟨n, hn, rfl⟩ := List.mem_map.mp hl
    exact (mem_missing.mp hn).2 (mem_pathNames.mpr hk)

theorem pathNames_declared (hfills : List.Forall₂ (Fills a) (missing declared names) added)
    {n : String} : n ∈ pathNames (declared ++ added) ↔ n ∈ pathNames declared ∨ n ∈ names := by
  rw [pathNames_append, pathNames_of_fills hfills, List.mem_append, mem_missing]
  tauto

omit [Stack] in
theorem placeholders_urlOf (console : ConsoleView) :
    UrlTemplate.placeholders (urlOf console) = UrlTemplate.placeholders (console.url.getD "") := by
  rw [urlOf, UrlTemplate.placeholders_strip, UrlTemplate.placeholders_normalize]

/-- What the usage line puts into the path is a placeholder, unless the method carries no body. -/
theorem pathNames_used {method : String} {n : String}
    (henters : List.Forall₂ (Enters a)
      ((usedBy console method).filter fun p => p.placement ≠ .body) declared)
    (hm : Text.upper method ∉ Usage.bodiless) (hn : n ∈ pathNames declared) :
    n ∈ UrlTemplate.placeholders (urlOf console) := by
  rw [mem_pathNames, keys_of_enters henters] at hn
  obtain ⟨p, hp, he⟩ := List.mem_map.mp hn
  obtain ⟨hplace, rfl⟩ := Prod.mk.inj he
  obtain ⟨token, hd⟩ := Usage.parameters_declared (List.mem_filter.mp hp).1
  rw [placeholders_urlOf]
  exact hd.mem_placeholders (name_eq_path.mp hplace) hm

/-- The usage line makes no body where the method carries none. -/
theorem body_eq_none {method : String} {body : Option RequestBody}
    (hbody : Option.Rel (Embodies a)
      ((usedBy console method).filter fun p => p.placement = .body).getLast? body)
    (hm : Text.upper method ∈ Usage.bodiless) : body = none := by
  have hnone : ((usedBy console method).filter fun p => p.placement = .body) = [] := by
    refine List.filter_eq_nil_iff.mpr fun p hp hplace => ?_
    obtain ⟨token, hd⟩ := Usage.parameters_declared hp
    exact hd.placement_ne_body hm (of_decide_eq_true hplace)
  rw [hnone] at hbody
  cases hbody
  rfl

/-- Every placeholder of the URL is declared by exactly one parameter of the path, which is
required, and no two parameters have one key. The path holds nothing else, unless the method carries
no body; then there is no body. -/
theorem placeholders_declared {view : Option ConsoleView} {r : Route}
    (h : (translate full view overrides options).result = .ok (some r)) :
    (∀ v ∈ UrlTemplate.placeholders r.url, ∃ p,
      r.operation.parameters.filter (fun q => key q = ("path", v)) = [p] ∧
        p.required = true) ∧
    (r.operation.parameters.map key).Nodup ∧
    (Text.upper r.method ∉ ["GET", "DELETE"] →
      ∀ n, n ∈ pathNames r.operation.parameters ↔ n ∈ UrlTemplate.placeholders r.url) ∧
    (Text.upper r.method ∈ ["GET", "DELETE"] → r.operation.body = none) := by
  obtain ⟨console, method, _, _, _, hurl, _, hbuild⟩ := translate_some h
  obtain ⟨inputs, returns, hb⟩ := build_ok hbuild
  obtain ⟨henters, hbody⟩ := addParameters_ok hb.used
  obtain ⟨added, hps, hfills⟩ := addVariables_ok hb.placeholders
  have hkeys : (r.operation.parameters.map key).Nodup := by
    rw [hps]
    exact nodup_keys (Usage.parameters_nodup _ _) henters hfills
  have hrequired : PathRequired r.operation.parameters := by
    intro p hp hplace
    rw [hps] at hp
    rcases List.mem_append.mp hp with hp | hp
    · exact pathRequired_of_enters henters p hp hplace
    · exact pathRequired_of_fills hfills p hp hplace
  -- A name comes into the path from the usage line or from the URL.
  have hpath : ∀ n, n ∈ pathNames r.operation.parameters ↔
      n ∈ pathNames inputs.parameters ∨ n ∈ UrlTemplate.placeholders r.url := by
    intro n
    rw [hps]
    exact pathNames_declared hfills
  refine ⟨?_, hkeys, ?_, ?_⟩
  · intro v hv
    obtain ⟨p, hp, hk⟩ := List.mem_map.mp (mem_pathNames.mp ((hpath v).mpr (Or.inr hv)))
    refine ⟨p, ?_, hrequired p hp (name_eq_path.mp (Prod.mk.inj hk).1)⟩
    rw [← hk]
    exact filter_of_nodup_map hkeys hp
  · intro hm n
    refine (hpath n).trans ⟨?_, Or.inr⟩
    rintro (hn | hn)
    · rw [hurl]
      exact pathNames_used henters hm hn
    · exact hn
  · intro hm
    rw [hb.body]
    exact body_eq_none hbody hm

end

/-- A Console view with one name both in the path and in the query, an unknown name, a stray token,
and a URL with a modifier, a repetition and blanks around it. -/
def crowdedView : ConsoleView where
  method := some " Put "
  url := some " /v1/\x7b+path\x7d/\x7bid\x7d/\x7bid\x7d "
  usage := some "PutPart <path> [path] <path> <other> <part> [<id>] stray"
  arguments :=
    [.object [("path", .object [("type", .text "string")])],
      .object [("id", .object [("type", .text "int32")])],
      .object [("part", .object [("type", .text "vector of Part")])]]
  returns := .null
  description := none
  help := none
  extra := []

/-- The Full view beside it. -/
def crowdedFull : FullView := ⟨"PutPart", none, none, [], [], .null, none, []⟩

open Stack.Usual in
theorem placeholders_declared_crowded :
    ∃ r, (translate crowdedFull (some crowdedView) [] {}).result = .ok (some r) ∧
      UrlTemplate.placeholders r.url = ["path", "id", "id"] ∧
      r.operation.parameters.map key = [("path", "path"), ("query", "id"), ("path", "id")] ∧
      (r.operation.parameters.map key).Nodup ∧
      ∀ n, n ∈ pathNames r.operation.parameters ↔ n ∈ UrlTemplate.placeholders r.url := by
  obtain ⟨r, hr, hshown⟩ : ∃ r,
      (translate crowdedFull (some crowdedView) [] {}).result = .ok (some r) ∧
        (Text.upper r.method, UrlTemplate.placeholders r.url, r.operation.parameters.map key) =
          ("PUT", ["path", "id", "id"], [("path", "path"), ("query", "id"), ("path", "id")]) :=
    exists_some_of_toOption (by decide +kernel)
  obtain ⟨hmethod, hrest⟩ := Prod.mk.inj hshown
  obtain ⟨hurl, hlisted⟩ := Prod.mk.inj hrest
  obtain ⟨_, hkeys, hpath, _⟩ := placeholders_declared hr
  refine ⟨r, hr, hurl, hlisted, hkeys, hpath ?_⟩
  rw [hmethod]
  decide

end ServiceAtlas.Operation
