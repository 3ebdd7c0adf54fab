import ServiceAtlas.Listing
import ServiceAtlas.Proofs.LowerCase
import ServiceAtlas.Proofs.Translation

/-!
The listing of the functions beside the routes that are generated from them. A row is made straight
from the views of a function: it shows the route that is generated, or that there is none, as long as
the views are written the way a document shows them and the tags are those of the default options.
-/

namespace ServiceAtlas

/-! ### Words in plain letters -/

namespace Text

/-- Plain letters change their case one by one, and back again. -/
theorem letter_facts {c : Char} (h : c.isAlpha = true) :
    c.toNat < 0x80 ∧ isBlank c = false ∧ c.toLower.toNat < 0x80 ∧
      c.toLower.toUpper = c.toUpper := by
  have hplain : c.toNat < 0x80 := by
    have hcase : c.isUpper = true ∨ c.isLower = true := Bool.or_eq_true_iff.mp h
    rcases hcase with h | h
    · have hlast : c.val ≤ 'Z'.val := (of_decide_eq_true h).2
      exact Nat.lt_of_le_of_lt (UInt32.le_iff_toNat_le.mp hlast) (by decide)
    · have hlast : c.val ≤ 'z'.val := of_decide_eq_true (Bool.and_eq_true_iff.mp h).2
      exact Nat.lt_of_le_of_lt (UInt32.le_iff_toNat_le.mp hlast) (by decide)
  obtain ⟨hblank, hcase⟩ := of_below (p := fun c => (isBlank c = true → c.isAlpha = false) ∧
    c.toLower.toNat < 0x80 ∧ c.toLower.toUpper = c.toUpper) (by decide) hplain
  refine ⟨hplain, Bool.eq_false_iff.mpr fun hb => ?_, hcase⟩
  cases h.symm.trans (hblank hb)

theorem dropWhile_isBlank_letters {cs : List Char} (h : ∀ c ∈ cs, c.isAlpha = true) :
    cs.dropWhile isBlank = cs := by
  cases cs with
  | nil => rfl
  | cons c cs =>
    exact List.dropWhile_cons_of_neg (by simp [(letter_facts (h c List.mem_cons_self)).2.1])

theorem strip_letters {s : String} (h : ∀ c ∈ s.toList, c.isAlpha = true) : strip s = s := by
  have hreverse : ∀ c ∈ s.toList.reverse, c.isAlpha = true := fun c hc =>
    h c (List.mem_reverse.mp hc)
  rw [strip, trim, trimLeft, dropWhile_isBlank_letters h, trimRight,
    dropWhile_isBlank_letters hreverse, List.reverse_reverse, String.ofList_toList]

theorem lowerAfter_letters (before : List Char) {cs : List Char} (h : ∀ c ∈ cs, c.isAlpha = true) :
    lowerAfter before cs = cs.map Char.toLower := by
  induction cs generalizing before with
  | nil => rfl
  | cons c cs ih =>
    have hc := h c List.mem_cons_self
    have hsigma : c ≠ 'Σ' := by
      rintro rfl
      cases hc
    rw [lowerAfter, if_neg hsigma, lowerChar, if_pos (letter_facts hc).1,
      ih _ fun d hd => h d (List.mem_cons_of_mem _ hd)]
    rfl

end Text

namespace Listing
open Operation

/-- The case of a method in plain letters does not matter to its row. -/
theorem upper_methodOf {method : String} (h : ∀ c ∈ method.toList, c.isAlpha = true) :
    Text.upper (methodOf method) = Text.upper method := by
  have hchar : ∀ c ∈ method.toList, Text.upperChar c.toLower = Text.upperChar c := by
    intro c hc
    obtain ⟨hplain, _, hlow, hback⟩ := Text.letter_facts (h c hc)
    rw [Text.upperChar, Text.upperChar, if_pos hlow, if_pos hplain, hback]
  rw [methodOf, Text.strip_letters h, Text.lower, Text.lowerAfter_letters [] h, Text.upper,
    String.toList_ofList, List.flatMap_map, Text.upper]
  exact congrArg String.ofList (List.flatMap_congr hchar)

/-! ### Rows and routes -/

/-- A row shows what is generated for a function: the route to it, or that there is none. -/
def Agrees (name : String) (row : List String) : Option Route → Prop
  | some r => row = [name, Text.upper r.method, r.url, Text.join ", " r.operation.tags]
  | none => ∃ tags, row = [name, blank, blank, tags]

/-- Method and URL of a function are written as its route has them, and the tags are those of the
default options. -/
structure ShowsRoute (f : JoinedFunction) (options : Options) : Prop where
  method : ∀ method ∈ f.console.bind ConsoleView.method,
    Text.upper method = Text.upper (methodOf method)
  url : ∀ url ∈ f.console.bind ConsoleView.url,
    UrlTemplate.normalize url = Text.strip (UrlTemplate.normalize url)
  tags : Text.join ", " (tagsOf f.full {}) = Text.join ", " (tagsOf f.full options)

/-- A function has neither method nor URL, or what it has looks like nothing. -/
structure ShowsNone (f : JoinedFunction) : Prop where
  method : ∀ method ∈ f.console.bind ConsoleView.method, method = "" ∨ Text.upper method = blank
  url : ∀ url ∈ f.console.bind ConsoleView.url, url = "" ∨ UrlTemplate.normalize url = blank

/-- The views of a function show what is generated for it. -/
def Shows (f : JoinedFunction) (options : Options) : Option Route → Prop
  | some _ => ShowsRoute f options
  | none => ShowsNone f

/-- A cell for something that may not be given. -/
def cell (shown : String → String) : Option String → String
  | none | some "" => blank
  | some given => shown given

theorem cell_of_ne {shown : String → String} {given : String} (h : given ≠ "") :
    cell shown (some given) = shown given := by
  unfold cell
  split
  · rename_i he
    cases he
  · rename_i he
    exact absurd (Option.some.inj he) h
  · rename_i he
    rw [Option.some.inj he]

theorem cell_eq_blank_iff (shown : String → String) (given : Option String) :
    cell shown given = blank ↔ ∀ s ∈ given, s = "" ∨ shown s = blank := by
  cases given with
  | none => exact iff_of_true rfl nofun
  | some s =>
    by_cases h : s = ""
    · subst h
      exact iff_of_true rfl fun _ hs => .inl (Option.mem_some.mp hs).symm
    · simp [cell_of_ne h, h]

theorem shownMethod_eq (console : Option ConsoleView) :
    shownMethod console = cell Text.upper (console.bind ConsoleView.method) := rfl

theorem shownUrl_eq (console : Option ConsoleView) :
    shownUrl console = cell UrlTemplate.normalize (console.bind ConsoleView.url) := rfl

theorem shownMethod_of_filled {console : ConsoleView} {method : String}
    (h : filled console.method = some method) :
    shownMethod (some console) = Text.upper method ∧ console.method = some method := by
  unfold filled at h
  split at h
  · cases h
  · rename_i hne
    have hmethod : method ≠ "" := by
      rintro rfl
      exact hne h
    refine ⟨?_, h⟩
    rw [shownMethod_eq, Option.bind_some, h, cell_of_ne hmethod]

theorem shownUrl_of_urlOf {console : ConsoleView} (h : urlOf console ≠ "") :
    ∃ url, console.url = some url ∧ shownUrl (some console) = UrlTemplate.normalize url ∧
      urlOf console = Text.strip (UrlTemplate.normalize url) := by
  cases hurl : console.url with
  | none => exact absurd (by rw [urlOf, hurl]; decide) h
  | some url =>
    have hne : url ≠ "" := by
      rintro rfl
      exact h (by rw [urlOf, hurl]; decide)
    refine ⟨url, rfl, ?_, by rw [urlOf, hurl]; rfl⟩
    rw [shownUrl_eq, Option.bind_some, hurl, cell_of_ne hne]

/-- The row of a function agrees with what is generated for it exactly if its views show that. -/
theorem functionRow_agrees_iff [Stack] (f : JoinedFunction) (overrides : Overrides) (options : Options)
    {route : Option Route}
    (h : (translate f.full f.console overrides options).result = .ok route) :
    Agrees f.name (functionRow f) route ↔ Shows f options route := by
  cases route with
  | none =>
    have hrow : Agrees f.name (functionRow f) none ↔
        shownMethod f.console = blank ∧ shownUrl f.console = blank := by
      simp [Agrees, functionRow]
    rw [hrow, shownMethod_eq, shownUrl_eq, cell_eq_blank_iff, cell_eq_blank_iff]
    exact ⟨fun ⟨hm, hu⟩ => ⟨hm, hu⟩, fun ⟨hm, hu⟩ => ⟨hm, hu⟩⟩
  | some r =>
    obtain ⟨console, method, hview, hurl, hmethod, hrurl, hrmethod, hbuild⟩ := translate_some h
    obtain ⟨_, _, hbuilt⟩ := build_ok hbuild
    obtain ⟨hshown, hgiven⟩ := shownMethod_of_filled hmethod
    obtain ⟨url, hgivenUrl, hshownUrl, hurlOf⟩ := shownUrl_of_urlOf hurl
    have hrow : Agrees f.name (functionRow f) (some r) ↔
        Text.upper method = Text.upper (methodOf method) ∧
        UrlTemplate.normalize url = Text.strip (UrlTemplate.normalize url) ∧
        Text.join ", " (tagsOf f.full {}) = Text.join ", " (tagsOf f.full options) := by
      simp [Agrees, functionRow, hview, hshown, hshownUrl, hrurl, hrmethod, hurlOf, hbuilt.tags]
    rw [hrow]
    constructor
    · rintro ⟨hm, hu, ht⟩
      refine ⟨?_, ?_, ht⟩
      · rw [hview, Option.bind_some, hgiven]
        rintro _ ⟨⟩
        exact hm
      · rw [hview, Option.bind_some, hgivenUrl]
        rintro _ ⟨⟩
        exact hu
    · rintro ⟨hm, hu, ht⟩
      rw [hview, Option.bind_some] at hm hu
      exact ⟨hm method hgiven, hu url hgivenUrl, ht⟩

/-- With its method in plain letters, no blanks around its URL and no tags of its own policy, a route is
listed as it is generated. -/
theorem functionRow_agrees_of_letters [Stack] {f : JoinedFunction} {overrides : Overrides}
    {options : Options} {r : Route}
    (h : (translate f.full f.console overrides options).result = .ok (some r))
    (hmethod : ∀ method ∈ f.console.bind ConsoleView.method,
      ∀ c ∈ method.toList, c.isAlpha = true)
    (hurl : ∀ url ∈ f.console.bind ConsoleView.url,
      Text.strip (UrlTemplate.normalize url) = UrlTemplate.normalize url)
    (htags : tagsOf f.full options = tagsOf f.full {}) :
    Agrees f.name (functionRow f) (some r) := by
  refine (functionRow_agrees_iff f overrides options h).mpr ⟨?_, ?_, by rw [htags]⟩
  · exact fun method hm => (upper_methodOf (hmethod method hm)).symm
  · exact fun url hu => (hurl url hu).symm

/-- The rows of a listing, one for each joined function, agree with what is generated under any
options exactly where the views of the function show it. -/
theorem listing_agrees_iff [Stack] (console full : Table Value) (overrides : Overrides) (options : Options) :
    let functions := (JoinedFunction.join console full).value
    List.Forall₂
      (fun f row => ∀ route, (translate f.full f.console overrides options).result = .ok route →
        (Agrees f.name row route ↔ Shows f options route))
      functions (ofFunctions functions).rows := by
  intro functions
  refine List.forall₂_map_right_iff.mpr (List.forall₂_same.mpr fun f _ route h => ?_)
  exact functionRow_agrees_iff f overrides options h

/-- A catalogue of one function. -/
def catalogue (fields : Table Value) : Table Value :=
  [("functions", .object [("F", .object fields)])]

def joined (method url : Option String) : JoinedFunction :=
  ⟨"F", ⟨"F", none, none, [], [], .null, none, []⟩,
    some ⟨method, url, none, [], .null, none, none, []⟩⟩

open Stack.Usual in
/-- A route that is listed as it is generated, but for the case of its method. -/
theorem listing_agrees_routed :
    let f := joined "get" "/\x7b+x\x7d"
    (JoinedFunction.join
        (catalogue [("http_method", .text "get"), ("url", .text "/\x7b+x\x7d")])
        (catalogue [])).value = [f] ∧
      ∃ r, (translate f.full f.console [] {}).result = .ok (some r) ∧
        Agrees "F" ["F", "GET", "/\x7bx\x7d", "core-sdk"] (some r) := by
  intro f
  refine ⟨rfl, ?_⟩
  have hroute : (translate f.full f.console [] {}).result.toOption.join.isSome = true := by
    decide +kernel
  have hshows : ShowsRoute f {} := by
    refine ⟨?_, ?_, rfl⟩
    · rintro _ ⟨⟩
      decide +kernel
    · rintro _ ⟨⟩
      decide +kernel
  have hrow : functionRow f = ["F", "GET", "/\x7bx\x7d", "core-sdk"] := by decide +kernel
  rw [← hrow]
  have hrows : List.Forall₂ _ [f] [functionRow f] := listing_agrees_iff
    (catalogue [("http_method", .text "get"), ("url", .text "/\x7b+x\x7d")]) (catalogue []) [] {}
  obtain ⟨hfirst, _⟩ := List.forall₂_cons.mp hrows
  cases hresult : (translate f.full f.console [] {}).result with
  | error e =>
    rw [hresult] at hroute
    cases hroute
  | ok route =>
    cases route with
    | none =>
      rw [hresult] at hroute
      cases hroute
    | some r => exact ⟨r, rfl, (hfirst _ hresult).mpr hshows⟩

open Stack.Usual in
/-- A function with a URL that it cannot be called at is listed with that URL. -/
theorem listing_unroutable :
    (JoinedFunction.join (catalogue [("url", .text "/x")]) (catalogue [])).value =
        [joined none "/x"] ∧
      (translate (joined none "/x").full (joined none "/x").console [] {}).result = .ok none ∧
      functionRow (joined none "/x") = ["F", "-", "/x", "core-sdk"] ∧
      ¬Agrees "F" (functionRow (joined none "/x")) none := by
  have hrow : functionRow (joined none "/x") = ["F", "-", "/x", "core-sdk"] := by decide +kernel
  refine ⟨rfl, rfl, hrow, ?_⟩
  rw [hrow]
  rintro ⟨tags, h⟩
  simp [blank] at h

end Listing
end ServiceAtlas
