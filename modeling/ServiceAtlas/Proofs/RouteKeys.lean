import ServiceAtlas.Proofs.LowerCase
import ServiceAtlas.Proofs.RouteTable

/-!
The keys of the routes: URLs and methods as a document can use them. A method of blanks alone is the
one thing that a document cannot use and that is not dropped.
-/

namespace ServiceAtlas

namespace Text

/-- The text neither begins nor ends with a blank. -/
structure Trimmed (cs : List Char) : Prop where
  begins : ∀ c, cs.head? = some c → isBlank c = false
  ends : ∀ c, cs.getLast? = some c → isBlank c = false

theorem head?_dropWhile {p : Char → Bool} {cs : List Char} {c : Char}
    (h : (cs.dropWhile p).head? = some c) : p c = false := by
  have hnot := List.head?_dropWhile_not p cs
  rw [h] at hnot
  exact hnot

theorem trimmed_trim (cs : List Char) : Trimmed (trim cs) := by
  constructor
  · intro c hc
    obtain ⟨tail, htail⟩ : trim cs <+: trimLeft cs :=
      List.reverse_suffix.mp (by simpa [trim, trimRight] using List.dropWhile_suffix _)
    have hleft : (trimLeft cs).head? = some c := by
      rw [← htail, List.head?_append, hc]
      rfl
    exact head?_dropWhile hleft
  · intro c hc
    rw [trim, trimRight, List.getLast?_reverse] at hc
    exact head?_dropWhile hc

theorem trim_eq_nil_iff {cs : List Char} : trim cs = [] ↔ ∀ c ∈ cs, isBlank c = true := by
  obtain ⟨before, after, hbefore, hafter, hsplit⟩ := trim_split cs
  constructor
  · intro h c hc
    rw [hsplit, h, List.append_nil] at hc
    exact (List.mem_append.mp hc).elim (hbefore c) (hafter c)
  · intro h
    by_contra hne
    obtain ⟨c, hc⟩ := Option.isSome_iff_exists.mp (List.isSome_head?.mpr hne)
    have hmem : c ∈ cs := by
      rw [hsplit]
      exact List.mem_append_left _ (List.mem_append_right _ (List.mem_of_mem_head? hc))
    exact Bool.false_ne_true (((trimmed_trim cs).begins c hc).symm.trans (h c hmem))

theorem lowerAfter_eq_nil_iff {before cs : List Char} : lowerAfter before cs = [] ↔ cs = [] := by
  cases cs with
  | nil => simp [lowerAfter]
  | cons c rest =>
    obtain ⟨small, he, hne, _⟩ := lowerAfter_cons before c rest
    rw [he, List.append_eq_nil_iff]
    exact ⟨fun h => absurd h.1 hne, fun h => absurd h (List.cons_ne_nil _ _)⟩

theorem getLast?_lowerAfter {before cs : List Char} {d : Char}
    (h : (lowerAfter before cs).getLast? = some d) :
    ∃ c, cs.getLast? = some c ∧ (isBlank d = true → isBlank c = true) := by
  induction cs generalizing before with
  | nil => cases h
  | cons c rest ih =>
    obtain ⟨small, he, _, hsmall⟩ := lowerAfter_cons before c rest
    rw [he] at h
    cases rest with
    | nil =>
      rw [lowerAfter, List.append_nil] at h
      exact ⟨c, rfl, (hsmall d (List.mem_of_getLast? h)).2⟩
    | cons next rest =>
      have hrest : lowerAfter (c :: before) (next :: rest) ≠ [] :=
        mt lowerAfter_eq_nil_iff.mp (List.cons_ne_nil _ _)
      rw [List.getLast?_append_of_ne_nil _ hrest] at h
      obtain ⟨last, hlast, hblank⟩ := ih h
      exact ⟨last, by rw [List.getLast?_cons_cons, hlast], hblank⟩

/-- Lower case puts no blank at the ends. -/
theorem Trimmed.lowerAfter {before cs : List Char} (h : Trimmed cs) :
    Trimmed (lowerAfter before cs) := by
  constructor
  · intro d hd
    cases cs with
    | nil => cases hd
    | cons c rest =>
      obtain ⟨small, he, hne, hsmall⟩ := lowerAfter_cons before c rest
      rw [he, List.head?_append_of_ne_nil _ hne] at hd
      have hc := h.begins c rfl
      have hblank := (hsmall d (List.mem_of_mem_head? hd)).2
      rw [hc] at hblank
      simpa using hblank
  · intro d hd
    obtain ⟨c, hc, hblank⟩ := getLast?_lowerAfter hd
    rw [h.ends c hc] at hblank
    simpa using hblank

theorem isBlankText_iff {s : String} : isBlankText s = true ↔ trim s.toList = [] := by
  rw [trim_eq_nil_iff, isBlankText, List.all_eq_true]

end Text

theorem UrlTemplate.all_isBlank_normalizeChars (cs : List Char) :
    (normalizeChars cs).all Text.isBlank = cs.all Text.isBlank := by
  fun_induction normalizeChars cs with
  | case1 => rfl
  | case2 rest hc ih => rfl
  | case3 rest hc ih => rfl
  | case4 c rest hne ih => simp only [List.all_cons, ih]

namespace Operation
variable {full : FullView} {console : ConsoleView} {overrides : Overrides} {options : Options}

/-- Nothing is given, or only blanks. -/
def Missing (given : Option String) : Prop := ∀ s ∈ given, Text.isBlankText s = true

/-- A key of a document: it is not empty, and no blank stands at its ends. -/
structure UsableKey (key : String) : Prop where
  notEmpty : key ≠ ""
  trimmed : Text.Trimmed key.toList

theorem ofList_eq_empty_iff {cs : List Char} : String.ofList cs = "" ↔ cs = [] := by
  rw [← String.ofList_nil]
  exact String.ofList_inj

theorem urlOf_eq_empty_iff : urlOf console = "" ↔ Missing console.url := by
  have hblank : ∀ url : String, Text.strip (UrlTemplate.normalize url) = "" ↔
      Text.isBlankText url = true := by
    intro url
    rw [Text.strip, ofList_eq_empty_iff, ← Text.isBlankText_iff, Text.isBlankText,
      UrlTemplate.normalize, String.toList_ofList, UrlTemplate.all_isBlank_normalizeChars]
    rfl
  unfold urlOf Missing
  cases console.url with
  | none => exact iff_of_true (by decide) fun s hs => absurd hs (Option.not_mem_none s)
  | some url => simpa using hblank url

theorem trimmed_urlOf : Text.Trimmed (urlOf console).toList := by
  rw [urlOf, Text.strip, String.toList_ofList]
  exact Text.trimmed_trim _

theorem methodOf_eq_empty_iff {method : String} :
    methodOf method = "" ↔ Text.isBlankText method = true := by
  rw [methodOf, Text.lower, ofList_eq_empty_iff, Text.lowerAfter_eq_nil_iff, Text.strip,
    String.toList_ofList, Text.isBlankText_iff]

theorem trimmed_methodOf (method : String) : Text.Trimmed (methodOf method).toList := by
  rw [methodOf, Text.lower, Text.strip, String.toList_ofList, String.toList_ofList]
  exact (Text.trimmed_trim _).lowerAfter

theorem lower_methodOf (method : String) : Text.lower (methodOf method) = methodOf method :=
  Text.lower_lower _

theorem filled_eq_some_iff {given : Option String} {s : String} :
    filled given = some s ↔ given = some s ∧ s ≠ "" := by
  unfold filled
  split
  · rename_i h
    subst h
    simp [eq_comm]
  · rename_i h
    refine ⟨fun hs => ⟨hs, ?_⟩, And.left⟩
    rintro rfl
    exact h hs

/-- The function has a URL and a method that are more than blanks. -/
def Callable (f : JoinedFunction) : Prop :=
  ∃ view, f.console = some view ∧ ¬Missing view.url ∧ ¬Missing view.method

/-- The function has a URL, and for a method some blanks and nothing else. -/
def HasBlankMethod (f : JoinedFunction) : Prop :=
  ∃ view method, f.console = some view ∧ ¬Missing view.url ∧ view.method = some method ∧
    method ≠ "" ∧ Text.isBlankText method = true

theorem not_callable_of_hasBlankMethod {f : JoinedFunction} (h : HasBlankMethod f) :
    ¬Callable f := by
  obtain ⟨view, method, hview, _, hmethod, _, hblank⟩ := h
  rintro ⟨other, hother, _, hgiven⟩
  obtain rfl := Option.some.inj (hview.symm.trans hother)
  refine hgiven fun s hs => ?_
  rw [hmethod] at hs
  obtain rfl := Option.some.inj hs
  exact hblank

/-- Without a URL and a method nothing is made of a function, unless its method is of blanks. -/
theorem translate_of_not_callable [Stack] {f : JoinedFunction} (h : ¬Callable f)
    (hblank : ¬HasBlankMethod f) :
    (translate f.full f.console overrides options).result = .ok none := by
  rcases translate_cases f.full f.console overrides options with
    ⟨_, he⟩ | ⟨console, hview, ⟨_, he⟩ | ⟨_, _, he⟩ | ⟨method, hurl, hmethod, _⟩⟩
  · rw [he, result_refused]
  · rw [he, result_refused]
  · rw [he, result_refused]
  · obtain ⟨hgiven, hne⟩ := filled_eq_some_iff.mp hmethod
    have hnotMissing := mt urlOf_eq_empty_iff.mpr hurl
    refine absurd ⟨console, hview, hnotMissing, fun hmissing => hblank ?_⟩ h
    exact ⟨console, method, hview, hnotMissing, hgiven, hne, hmissing method hgiven⟩

/-- A function whose method is of blanks makes a route, if it can be translated. -/
theorem translate_of_hasBlankMethod [Stack] {f : JoinedFunction} (h : HasBlankMethod f) :
    (translate f.full f.console overrides options).result ≠ .ok none := by
  obtain ⟨view, method, hview, hurl, hmethod, hne, _⟩ := h
  rcases translate_cases f.full f.console overrides options with
    ⟨hnone, _⟩ | ⟨console, hconsole, ⟨hempty, _⟩ | ⟨_, hnone, _⟩ | ⟨_, _, _, he⟩⟩
  · rw [hview] at hnone
    cases hnone
  · obtain rfl := Option.some.inj (hview.symm.trans hconsole)
    exact absurd (urlOf_eq_empty_iff.mp hempty) hurl
  · obtain rfl := Option.some.inj (hview.symm.trans hconsole)
    rw [filled_eq_some_iff.mpr ⟨hmethod, hne⟩] at hnone
    cases hnone
  · rw [he]
    intro hok
    obtain ⟨_, _, hsome⟩ := Traced.map_ok_iff.mp hok
    cases hsome

end Operation

namespace Routes
open Operation (Callable HasBlankMethod UsableKey translate)
variable {overrides : Overrides} {options : Options} {routes : Routes}

/-- The route of a function is trimmed, its method is in lower case, and empty only where the method
of the function is of blanks. -/
theorem key_of_routeOf? [Stack] {f : JoinedFunction} {r : Route}
    (h : routeOf? overrides options f = some r) :
    UsableKey r.url ∧ Text.Trimmed r.method.toList ∧ Text.lower r.method = r.method ∧
      (¬HasBlankMethod f → r.method ≠ "") := by
  obtain ⟨console, method, hview, hne, hmethod, hurl, hr, _⟩ :=
    Operation.translate_some (translate_of_routeOf? h)
  rw [hurl, hr]
  refine ⟨⟨hne, Operation.trimmed_urlOf⟩, Operation.trimmed_methodOf method,
    Operation.lower_methodOf method, fun hblank he => hblank ?_⟩
  obtain ⟨hgiven, hfilled⟩ := Operation.filled_eq_some_iff.mp hmethod
  exact ⟨console, method, hview, mt Operation.urlOf_eq_empty_iff.mpr hne, hgiven, hfilled,
    Operation.methodOf_eq_empty_iff.mp he⟩

/-- Every key comes from the route of a joined function. -/
theorem exists_function_of_key [Stack] {console full : Table Value}
    (h : (build console full overrides options).result = .ok routes) :
    (∀ url ∈ Table.keys routes, ∃ f ∈ (JoinedFunction.join console full).value, ∃ r,
      routeOf? overrides options f = some r ∧ r.url = url) ∧
    ∀ item ∈ routes, ∀ method ∈ Table.keys item.2,
      ∃ f ∈ (JoinedFunction.join console full).value, ∃ r,
        routeOf? overrides options f = some r ∧ r.method = method := by
  obtain ⟨_, rfl⟩ := build_ok h
  constructor
  · intro url hurl
    rw [keys_grouped, List.mem_eraseDups] at hurl
    obtain ⟨r, hr, rfl⟩ := List.mem_map.mp hurl
    obtain ⟨f, hf, hfr⟩ := List.mem_filterMap.mp hr
    exact ⟨f, hf, r, hfr, rfl⟩
  · intro item hitem method hmethod
    rw [← item_eq_of_mem (distinct_grouped _) hitem, keys_item_grouped,
      List.mem_eraseDups] at hmethod
    obtain ⟨r, hr, rfl⟩ := List.mem_map.mp hmethod
    obtain ⟨f, hf, hfr⟩ := List.mem_filterMap.mp (List.mem_filter.mp hr).1
    exact ⟨f, hf, r, hfr, rfl⟩

/-- A document can use every URL and every method among the keys, and the methods are in lower
case. -/
structure KeysUsable (routes : Routes) : Prop where
  urls : ∀ url ∈ Table.keys routes, UsableKey url
  methods : ∀ item ∈ routes, ∀ method ∈ Table.keys item.2,
    UsableKey method ∧ Text.lower method = method

/-- All keys are usable, and nothing is made of a function without a URL and a method, exactly if no
function has a method of blanks. Whatever the methods are, the URLs are usable, no method has blanks
at its ends or is in upper case, and what is neither callable nor has a method of blanks is
dropped. -/
theorem keys_usable_iff [Stack] {console full : Table Value}
    (h : (build console full overrides options).result = .ok routes) :
    let functions := (JoinedFunction.join console full).value
    let dropped := fun f : JoinedFunction =>
      (translate f.full f.console overrides options).result = .ok none
    ((KeysUsable routes ∧ ∀ f ∈ functions, ¬Callable f → dropped f) ↔
      ∀ f ∈ functions, ¬HasBlankMethod f) ∧
    (∀ url ∈ Table.keys routes, UsableKey url) ∧
    (∀ item ∈ routes, ∀ method ∈ Table.keys item.2,
      Text.Trimmed method.toList ∧ Text.lower method = method) ∧
    ∀ f ∈ functions, ¬Callable f → ¬HasBlankMethod f → dropped f := by
  intro functions dropped
  obtain ⟨hurls, hmethods⟩ := exists_function_of_key h
  have usable : ∀ url ∈ Table.keys routes, UsableKey url := by
    intro url hurl
    obtain ⟨f, _, r, hr, rfl⟩ := hurls url hurl
    exact (key_of_routeOf? hr).1
  refine ⟨⟨?_, ?_⟩, usable, ?_, fun f _ => Operation.translate_of_not_callable⟩
  · rintro ⟨_, hdropped⟩ f hf hblank
    exact Operation.translate_of_hasBlankMethod hblank
      (hdropped f hf (Operation.not_callable_of_hasBlankMethod hblank))
  · intro hnone
    refine ⟨⟨usable, fun item hitem method hmethod => ?_⟩, fun f hf hcall =>
      Operation.translate_of_not_callable hcall (hnone f hf)⟩
    obtain ⟨f, hf, r, hr, rfl⟩ := hmethods item hitem method hmethod
    obtain ⟨_, htrimmed, hlower, hne⟩ := key_of_routeOf? hr
    exact ⟨⟨hne (hnone f hf), htrimmed⟩, hlower⟩
  · intro item hitem method hmethod
    obtain ⟨f, _, r, hr, rfl⟩ := hmethods item hitem method hmethod
    obtain ⟨_, htrimmed, hlower, _⟩ := key_of_routeOf? hr
    exact ⟨htrimmed, hlower⟩

/-- The Console catalogue of one function `F` with this method at `/x`, and of one without a
method. -/
def consoleWith (method : String) : Table Value :=
  [("functions", .object
    [("F", .object [("http_method", .text method), ("url", .text " /x ")]),
      ("G", .object [("url", .text "/y")])])]

def fullOfTwo : Table Value :=
  [("functions", .list [.object [("name", .text "F")], .object [("name", .text "G")]])]

open Stack.Usual in
/-- Blanks around a method and capitals in it do no harm. -/
theorem keys_usable_spaced :
    ∃ routes, (build (consoleWith " GET ") fullOfTwo [] {}).result = .ok routes ∧
      (placed routes).map (fun r => (r.url, r.method, r.operation.id)) = [("/x", "get", "F")] ∧
      KeysUsable routes := by
  obtain ⟨routes, hbuild, hplaced⟩ : ∃ routes,
      (build (consoleWith " GET ") fullOfTwo [] {}).result = .ok routes ∧
        (placed routes).map (fun r => (r.url, r.method, r.operation.id)) = [("/x", "get", "F")] :=
    exists_ok_of_toOption (by decide +kernel)
  refine ⟨routes, hbuild, hplaced, ((keys_usable_iff hbuild).1.mpr ?_).1⟩
  rintro f hf ⟨view, method, hview, _, hmethod, _, hblank⟩
  have hmethods : (JoinedFunction.join (consoleWith " GET ") fullOfTwo).value.map
      (fun f => f.console.bind ConsoleView.method) = [some " GET ", none] := by decide +kernel
  have hmem := List.mem_map_of_mem (f := fun f => f.console.bind ConsoleView.method) hf
  rw [hmethods, hview, Option.bind_some, hmethod] at hmem
  obtain rfl : method = " GET " := by simpa using hmem
  exact absurd hblank (by decide)

open Stack.Usual in
/-- A method of blanks becomes an empty key. -/
theorem blank_method_unusable :
    ∃ routes, (build (consoleWith "  ") fullOfTwo [] {}).result = .ok routes ∧
      (placed routes).map (fun r => (r.url, r.method, r.operation.id)) = [("/x", "", "F")] ∧
      ¬KeysUsable routes := by
  obtain ⟨routes, hbuild, hplaced⟩ : ∃ routes,
      (build (consoleWith "  ") fullOfTwo [] {}).result = .ok routes ∧
        (placed routes).map (fun r => (r.url, r.method, r.operation.id)) = [("/x", "", "F")] :=
    exists_ok_of_toOption (by decide +kernel)
  refine ⟨routes, hbuild, hplaced, fun h => ?_⟩
  obtain ⟨r, hr, he⟩ := List.mem_map.mp (hplaced ▸ List.mem_singleton.mpr rfl)
  obtain ⟨item, hitem, ho⟩ := mem_placed.mp hr
  obtain ⟨hkey, _⟩ := h.methods _ hitem r.method (Table.mem_keys_of_mem ho)
  exact hkey.notEmpty (congrArg (fun k => k.2.1) he)

end Routes
end ServiceAtlas
