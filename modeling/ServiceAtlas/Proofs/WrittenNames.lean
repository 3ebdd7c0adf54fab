import ServiceAtlas.Proofs.Parameters

/-!
The names between braces in a URL template against the names under which an operation declares them.
Normalising takes one plus sign from the front of a name, the declaration takes all of them; the two
agree exactly where no other plus sign stands in a name.
-/

namespace ServiceAtlas

namespace UrlTemplate
variable {cs name : List Char} {names : List (List Char)} {url : String}

/-- The name stands in the template with a brace on each side. -/
def Encloses (cs name : List Char) : Prop :=
  name ≠ [] ∧ Braceless name ∧ ∃ before after, cs = before ++ '{' :: name ++ '}' :: after

/-- The names that stand in the template, in order; no name stands in what is between them. -/
inductive Writes : List Char → List (List Char) → Prop
  | bare {cs : List Char} (hbare : ∀ name, ¬Encloses cs name) : Writes cs []
  | name {gap name cs : List Char} {names : List (List Char)} (hgap : ∀ n, ¬Encloses gap n)
      (hne : name ≠ []) (hb : Braceless name) (hrest : Writes cs names) :
      Writes (gap ++ '{' :: name ++ '}' :: cs) (name :: names)

theorem mem_enclosedTexts_iff_encloses : name ∈ enclosedTexts cs ↔ Encloses cs name := by
  rw [mem_enclosedTexts_iff, mentions, Text.occurs_iff]
  simp only [Encloses, List.append_assoc, List.cons_append, List.nil_append]

theorem enclosedTexts_eq_nil_iff : enclosedTexts cs = [] ↔ ∀ name, ¬Encloses cs name := by
  simp only [List.eq_nil_iff_forall_not_mem, mem_enclosedTexts_iff_encloses]

/-! ### The search finds the names that are written -/

/-- A name is found between what is found before it and what is found behind it. -/
theorem enclosedTexts_name (gap : List Char) (hne : name ≠ []) (hb : Braceless name)
    (rest : List Char) :
    enclosedTexts (gap ++ '{' :: name ++ '}' :: rest) =
      enclosedTexts gap ++ name :: enclosedTexts rest := by
  have hopen : closesNext ('{' :: (name ++ '}' :: rest)) ≠ true := fun h => by cases h
  have hfirst : enclosed? (name ++ '}' :: rest) = some name :=
    enclosed?_eq_some_iff.mpr ⟨hne, hb, rest, rfl⟩
  rw [List.append_assoc, List.cons_append, enclosedTexts_append hopen, enclosedTexts_brace, hfirst,
    enclosedTexts_prepend hb]
  rfl

theorem enclosedTexts_of_writes (h : Writes cs names) : enclosedTexts cs = names := by
  induction h with
  | bare hbare => exact enclosedTexts_eq_nil_iff.mpr hbare
  | name hgap hne hb _ ih =>
    rw [enclosedTexts_name _ hne hb, enclosedTexts_eq_nil_iff.mpr hgap, ih, List.nil_append]

/-- The first name that is found ends a part of the template in which none is found. -/
theorem split_of_enclosedTexts (h : enclosedTexts cs = name :: names) :
    ∃ gap rest, cs = gap ++ '{' :: name ++ '}' :: rest ∧ enclosedTexts gap = [] ∧ name ≠ [] ∧
      Braceless name ∧ enclosedTexts rest = names := by
  induction cs with
  | nil => cases h
  | cons c cs ih =>
    have hlater : enclosedTexts cs = name :: names →
        ∃ gap rest, c :: cs = gap ++ '{' :: name ++ '}' :: rest ∧ enclosedTexts gap = [] ∧
          name ≠ [] ∧ Braceless name ∧ enclosedTexts rest = names := by
      intro hcs
      obtain ⟨gap, rest, rfl, _, hne, hb, hrest⟩ := ih hcs
      refine ⟨c :: gap, rest, rfl, ?_, hne, hb, hrest⟩
      -- From this name on everything is found, so nothing is found before it.
      have hall : enclosedTexts (c :: gap) ++ name :: enclosedTexts rest = name :: names :=
        (enclosedTexts_name (c :: gap) hne hb rest).symm.trans h
      rw [hrest] at hall
      exact List.append_left_eq_self.mp hall
    rcases eq_or_ne c '{' with rfl | hc
    · rw [enclosedTexts_brace] at h
      cases hfirst : enclosed? cs with
      | none => exact hlater (by rwa [hfirst] at h)
      | some first =>
        rw [hfirst, Option.toList_some, List.singleton_append, List.cons.injEq] at h
        obtain ⟨rfl, hnames⟩ := h
        obtain ⟨hne, hb, rest, rfl⟩ := enclosed?_eq_some_iff.mp hfirst
        rw [enclosedTexts_prepend hb] at hnames
        exact ⟨[], rest, rfl, rfl, hne, hb, hnames⟩
    · rw [enclosedTexts_cons_of_ne hc] at h
      exact hlater h

theorem writes_of_enclosedTexts (h : enclosedTexts cs = names) : Writes cs names := by
  induction names generalizing cs with
  | nil => exact .bare (enclosedTexts_eq_nil_iff.mp h)
  | cons name names ih =>
    obtain ⟨gap, rest, rfl, hgap, hne, hb, hrest⟩ := split_of_enclosedTexts h
    exact .name (enclosedTexts_eq_nil_iff.mp hgap) hne hb (ih hrest)

theorem writes_iff : Writes cs names ↔ enclosedTexts cs = names :=
  ⟨enclosedTexts_of_writes, writes_of_enclosedTexts⟩

/-! ### What dropping plus signs does to the names -/

theorem closesNext_normalizeChars (cs : List Char) :
    closesNext (normalizeChars cs) = closesNext cs := by
  fun_induction normalizeChars cs with
  | case1 => rfl
  | case2 rest hc ih => simp [closesNext_cons, isBrace]
  | case3 rest hc ih => simp [closesNext_cons, isBrace]
  | case4 c rest hne ih => rw [closesNext_cons, closesNext_cons, ih]

theorem takeWhile_normalizeChars (cs : List Char) :
    (normalizeChars cs).takeWhile (fun c => !isBrace c) = cs.takeWhile fun c => !isBrace c := by
  fun_induction normalizeChars cs with
  | case1 => rfl
  | case2 rest hc ih => simp [isBrace]
  | case3 rest hc ih => simp [isBrace]
  | case4 c rest hne ih => rw [List.takeWhile_cons, List.takeWhile_cons, ih]

/-- Up to its first brace a template is normal. -/
theorem enclosed?_normalizeChars (cs : List Char) :
    enclosed? (normalizeChars cs) = enclosed? cs := by
  rw [enclosed?, enclosed?, takeWhile_normalizeChars, closesNext_normalizeChars]

/-- A name without the plus sign in front of it. -/
def unmarked : List Char → List Char
  | '+' :: name => name
  | name => name

theorem unmarked_of_head? (h : name.head? ≠ some '+') : unmarked name = name := by
  unfold unmarked
  split
  · exact absurd rfl h
  · rfl

theorem toList_enclosed?_plus (h : closesNext cs = true) :
    ((enclosed? ('+' :: cs)).toList.map unmarked).filter (· ≠ []) = (enclosed? cs).toList := by
  rw [toList_enclosed?, toList_enclosed?, closesNext_plus, if_pos h, if_pos h]
  rfl

theorem enclosed?_eq_none (h : closesNext cs ≠ true) : enclosed? cs = none := by
  rw [← Option.toList_eq_nil_iff, toList_enclosed?, if_neg h]

theorem toList_enclosed?_unmarked (h : cs.head? ≠ some '+') :
    ((enclosed? cs).toList.map unmarked).filter (· ≠ []) = (enclosed? cs).toList := by
  cases hfound : enclosed? cs with
  | none => rfl
  | some name =>
    obtain ⟨hne, _, rest, rfl⟩ := enclosed?_eq_some_iff.mp hfound
    have hhead : name.head? ≠ some '+' := by
      rwa [List.head?_append_of_ne_nil _ hne] at h
    rw [Option.toList_some, List.map_singleton, unmarked_of_head? hhead]
    simp [hne]

/-- Normalising takes the plus sign from the front of each name; of a name that is nothing else, no
name is left. -/
theorem enclosedTexts_normalizeChars (cs : List Char) :
    enclosedTexts (normalizeChars cs) = ((enclosedTexts cs).map unmarked).filter (· ≠ []) := by
  have hplus : ∀ cs, enclosedTexts ('+' :: cs) = enclosedTexts cs :=
    enclosedTexts_cons_of_ne (by decide)
  fun_induction normalizeChars cs with
  | case1 => rfl
  | case2 rest hc ih =>
    rw [enclosedTexts_brace, enclosedTexts_brace, hplus, enclosed?_normalizeChars,
      List.map_append, List.filter_append, toList_enclosed?_plus hc, ih]
  | case3 rest hc ih =>
    have hc' : closesNext (normalizeChars rest) ≠ true := by rwa [closesNext_normalizeChars]
    rw [enclosedTexts_brace, enclosedTexts_brace, hplus, hplus,
      enclosed?_eq_none (by rwa [closesNext_plus]), enclosed?_eq_none (by rwa [closesNext_plus]),
      ih]
    rfl
  | case4 c rest hne ih =>
    rcases eq_or_ne c '{' with rfl | hc
    · have hhead : rest.head? ≠ some '+' := by
        intro h
        obtain ⟨tail, rfl⟩ := List.head?_eq_some_iff.mp h
        exact hne tail rfl rfl
      rw [enclosedTexts_brace, enclosedTexts_brace, enclosed?_normalizeChars, List.map_append,
        List.filter_append, toList_enclosed?_unmarked hhead, ih]
    · rw [enclosedTexts_cons_of_ne hc, enclosedTexts_cons_of_ne hc, ih]

/-! ### Where the names are kept -/

theorem plus_not_mem_of_mem_without (h : name ∈ enclosedTexts (Text.without '+' cs)) :
    '+' ∉ name := by
  rw [enclosedTexts_without] at h
  obtain ⟨written, _, rfl⟩ := List.mem_map.mp (List.mem_filter.mp h).1
  simp [Text.without]

theorem enclosedTexts_without_of_plusFree (h : ∀ name ∈ enclosedTexts cs, '+' ∉ name) :
    enclosedTexts (Text.without '+' cs) = enclosedTexts cs := by
  have hsame : ∀ name ∈ enclosedTexts cs, Text.without '+' name = id name := by
    intro name hname
    refine List.filter_eq_self.mpr fun c hc => decide_eq_true ?_
    rintro rfl
    exact h name hname hc
  have hfull : ∀ name ∈ enclosedTexts cs, decide (name ≠ []) = true := fun name hname =>
    decide_eq_true (mem_enclosedTexts_iff_encloses.mp hname).1
  rw [enclosedTexts_without, List.map_congr_left hsame, List.map_id, List.filter_eq_self.mpr hfull]

theorem enclosedTexts_without_eq_iff :
    enclosedTexts (Text.without '+' cs) = enclosedTexts cs ↔
      ∀ name ∈ enclosedTexts cs, '+' ∉ name := by
  refine ⟨fun h name hname => ?_, enclosedTexts_without_of_plusFree⟩
  rw [← h] at hname
  exact plus_not_mem_of_mem_without hname

theorem plus_mem_unmarked_iff : '+' ∈ unmarked name ↔ '+' ∈ name.tail := by
  unfold unmarked
  split
  · rfl
  · rename_i hne
    cases name with
    | nil => rfl
    | cons c name =>
      have hc : c ≠ '+' := by
        rintro rfl
        exact hne name rfl
      simp [hc.symm]

theorem head?_unmarked_iff : (unmarked name).head? = some '+' ↔ ['+', '+'] <+: name := by
  unfold unmarked
  split
  · rename_i rest
    rw [List.cons_prefix_cons, List.head?_eq_some_iff]
    constructor
    · rintro ⟨tail, rfl⟩
      exact ⟨rfl, tail, rfl⟩
    · rintro ⟨_, tail, rfl⟩
      exact ⟨tail, rfl⟩
  · rename_i hne
    refine iff_of_false (fun h => ?_) ?_
    · obtain ⟨tail, rfl⟩ := List.head?_eq_some_iff.mp h
      exact hne tail rfl
    · rintro ⟨tail, rfl⟩
      exact hne _ rfl

theorem mem_normalizeChars_iff :
    name ∈ enclosedTexts (normalizeChars cs) ↔
      name ≠ [] ∧ ∃ written ∈ enclosedTexts cs, unmarked written = name := by
  rw [enclosedTexts_normalizeChars, List.mem_filter, List.mem_map, decide_eq_true_eq, and_comm]

/-- What holds of all names after normalising; the empty name is none, so it must hold of that one
anyway. -/
theorem forall_normalizeChars_iff {P : List Char → Prop} (hnil : P []) :
    (∀ name ∈ enclosedTexts (normalizeChars cs), P name) ↔
      ∀ name ∈ enclosedTexts cs, P (unmarked name) := by
  constructor
  · intro h name hname
    rcases eq_or_ne (unmarked name) [] with he | hne
    · rwa [he]
    · exact h _ (mem_normalizeChars_iff.mpr ⟨hne, name, hname, rfl⟩)
  · intro h name hname
    obtain ⟨_, written, hwritten, rfl⟩ := mem_normalizeChars_iff.mp hname
    exact h written hwritten

theorem length_normalizeChars_le (cs : List Char) : (normalizeChars cs).length ≤ cs.length := by
  fun_induction normalizeChars cs with
  | case1 => exact Nat.le_refl 0
  | case2 rest hc ih => simp only [List.length_cons]; omega
  | case3 rest hc ih => simp only [List.length_cons]; omega
  | case4 c rest hne ih => simp only [List.length_cons]; omega

/-- A template is normal exactly if no name in it begins with a plus sign. -/
theorem normalizeChars_eq_self_iff :
    normalizeChars cs = cs ↔ ∀ name ∈ enclosedTexts cs, name.head? ≠ some '+' := by
  fun_induction normalizeChars cs with
  | case1 => simp [enclosedTexts]
  | case2 rest hc ih =>
    refine iff_of_false (fun h => ?_) (fun h => ?_)
    · have hlength := congrArg List.length h
      have hle := length_normalizeChars_le rest
      simp only [List.length_cons] at hlength
      omega
    · have hfound :
          '+' :: rest.takeWhile (fun c => !isBrace c) ∈ enclosedTexts ('{' :: '+' :: rest) := by
        rw [enclosedTexts_brace, toList_enclosed?, closesNext_plus, if_pos hc]
        exact List.mem_append_left _ List.mem_cons_self
      exact h _ hfound rfl
  | case3 rest hc ih =>
    rw [enclosedTexts_brace, enclosed?_eq_none (by rwa [closesNext_plus]),
      enclosedTexts_cons_of_ne (by decide)]
    simpa using ih
  | case4 c rest hne ih =>
    rcases eq_or_ne c '{' with rfl | hc
    · have hfirst : ∀ name ∈ (enclosed? rest).toList, name.head? ≠ some '+' := by
        intro name hname hplus
        obtain ⟨tail, rfl⟩ := List.head?_eq_some_iff.mp hplus
        obtain ⟨_, _, after, rfl⟩ := enclosed?_eq_some_iff.mp (Option.mem_toList.mp hname)
        exact hne _ rfl rfl
      rw [enclosedTexts_brace, List.cons_inj_right, ih, List.forall_mem_append]
      exact (and_iff_right hfirst).symm
    · rw [enclosedTexts_cons_of_ne hc, List.cons_inj_right, ih]

/-- The placeholders of the template are the names that it writes. -/
def NamesKept (url : String) : Prop :=
  Writes url.toList ((placeholders url).map String.toList)

/-- A plus sign stands in a name at most as its first character. -/
def PlusLeads (url : String) : Prop := ∀ name, Encloses url.toList name → '+' ∉ name.tail

theorem namesKept_iff :
    NamesKept url ↔ enclosedTexts url.toList = (placeholders url).map String.toList := writes_iff

theorem toList_placeholders (url : String) :
    (placeholders url).map String.toList = enclosedTexts (plain url) := by
  rw [placeholders, List.map_map]
  exact List.map_id'' (fun _ => String.toList_ofList) _

/-- Already which names are placeholders tells whether a plus sign stands in one. -/
theorem placeholders_written_iff :
    (∀ name, String.ofList name ∈ placeholders url ↔ Encloses url.toList name) ↔
      ∀ name ∈ enclosedTexts url.toList, '+' ∉ name := by
  simp only [ofList_mem_placeholders_iff, ← mem_enclosedTexts_iff_encloses]
  constructor
  · intro h name hname
    exact plus_not_mem_of_mem_without ((h name).mpr hname)
  · intro h name
    rw [plain, enclosedTexts_without_of_plusFree h]

theorem plusFree_normalize_iff :
    (∀ name ∈ enclosedTexts (normalize url).toList, '+' ∉ name) ↔ PlusLeads url := by
  rw [normalize, String.toList_ofList, forall_normalizeChars_iff (by simp)]
  simp only [plus_mem_unmarked_iff, mem_enclosedTexts_iff_encloses, PlusLeads]

theorem namesKept_normalize_iff : NamesKept (normalize url) ↔ PlusLeads url := by
  rw [namesKept_iff, toList_placeholders, plain, eq_comm, enclosedTexts_without_eq_iff,
    plusFree_normalize_iff]

theorem normalize_twice_iff :
    normalize (normalize url) = normalize url ↔
      ∀ name, Encloses url.toList name → ¬['+', '+'] <+: name := by
  rw [normalize, normalize, String.toList_ofList, String.ofList_inj,
    normalizeChars_eq_self_iff, forall_normalizeChars_iff (by simp)]
  simp only [ne_eq, head?_unmarked_iff, mem_enclosedTexts_iff_encloses]

theorem normalize_twice_of_plusLeads (h : PlusLeads url) :
    normalize (normalize url) = normalize url := by
  refine normalize_twice_iff.mpr fun name hname hplus => ?_
  obtain ⟨tail, rfl⟩ := hplus
  exact h _ hname (by simp)

theorem namesKept_strip : NamesKept (Text.strip url) ↔ NamesKept url := by
  rw [namesKept_iff, namesKept_iff, enclosedTexts_strip, placeholders_strip]

end UrlTemplate

namespace Operation
open UrlTemplate
variable {full : FullView} {overrides : Overrides} {options : Options}

/-- All placeholders are declared in the path, and nothing else is where the method carries a body. -/
theorem pathNames_of_translate [Stack] {view : Option ConsoleView} {r : Route}
    (h : (translate full view overrides options).result = .ok (some r)) :
    (∀ n ∈ placeholders r.url, n ∈ pathNames r.operation.parameters) ∧
      (Text.upper r.method ∉ Usage.bodiless →
        ∀ n, n ∈ pathNames r.operation.parameters ↔ n ∈ placeholders r.url) := by
  obtain ⟨console, method, _, _, _, hurl, _, hbuild⟩ := translate_some h
  obtain ⟨inputs, returns, hb⟩ := build_ok hbuild
  obtain ⟨henters, _⟩ := addParameters_ok hb.used
  obtain ⟨added, hps, hfills⟩ := addVariables_ok hb.placeholders
  have hpath : ∀ n, n ∈ pathNames r.operation.parameters ↔
      n ∈ pathNames inputs.parameters ∨ n ∈ placeholders r.url := by
    intro n
    rw [hps]
    exact pathNames_declared hfills
  refine ⟨fun n hn => (hpath n).mpr (Or.inr hn), fun hm n => (hpath n).trans ⟨?_, Or.inr⟩⟩
  intro hn
  rcases hn with hn | hn
  · rw [hurl]
    exact pathNames_used henters hm hn
  · exact hn

theorem url_of_translate [Stack] {console : ConsoleView} {url : String} {r : Route}
    (hurl : console.url = some url)
    (h : (translate full (some console) overrides options).result = .ok (some r)) :
    r.url = Text.strip (normalize url) := by
  obtain ⟨view, _, hview, _, _, hr, _⟩ := translate_some h
  obtain rfl := Option.some.inj hview
  rw [hr, urlOf, hurl, Option.getD_some]

/-- The names that a URL writes are kept exactly if no plus sign stands in one behind its first
character, and normalising is done at once exactly if no name begins with two. Whatever the plus signs
are, a name that the path of a route writes is declared without them. -/
theorem names_written_iff [Stack] (url : String) :
    (∀ names, Writes (normalize url).toList names →
      placeholders (normalize url) =
        ((names.map (Text.without '+')).filter (· ≠ [])).map String.ofList) ∧
    ((NamesKept (normalize url) ∧ normalize (normalize url) = normalize url) ↔ PlusLeads url) ∧
    (normalize (normalize url) = normalize url ↔
      ∀ name, Encloses url.toList name → ¬['+', '+'] <+: name) ∧
    ∀ (full : FullView) (console : ConsoleView) (overrides : Overrides) (options : Options)
      (r : Route), console.url = some url →
      (translate full (some console) overrides options).result = .ok (some r) →
      (NamesKept r.url ↔ PlusLeads url) ∧
      (∀ name, Encloses r.url.toList name → Text.without '+' name ≠ [] →
        String.ofList (Text.without '+' name) ∈ pathNames r.operation.parameters) ∧
      (Text.upper r.method ∉ Usage.bodiless →
        ((∀ name, String.ofList name ∈ pathNames r.operation.parameters ↔
          Encloses r.url.toList name) ↔ PlusLeads url)) := by
  refine ⟨?_, ⟨?_, ?_⟩, normalize_twice_iff, ?_⟩
  · intro names hnames
    rw [placeholders, plain, enclosedTexts_without, writes_iff.mp hnames]
  · intro h
    exact namesKept_normalize_iff.mp h.1
  · intro hlead
    exact ⟨namesKept_normalize_iff.mpr hlead, normalize_twice_of_plusLeads hlead⟩
  · intro full console overrides options r hurl h
    obtain ⟨hdeclared, hpath⟩ := pathNames_of_translate h
    have hr := url_of_translate hurl h
    refine ⟨?_, ?_, ?_⟩
    · rw [hr, namesKept_strip, namesKept_normalize_iff]
    · intro name hname hne
      apply hdeclared
      rw [ofList_mem_placeholders_iff, plain, enclosedTexts_without, List.mem_filter]
      exact ⟨List.mem_map_of_mem (mem_enclosedTexts_iff_encloses.mpr hname), decide_eq_true hne⟩
    · intro hm
      simp only [hpath hm]
      rw [placeholders_written_iff, hr, enclosedTexts_strip, plusFree_normalize_iff]

open Stack.Usual in
/-- Modifiers, a name twice and blanks around the URL do no harm. -/
theorem names_written_crowded :
    ∃ r, (translate crowdedFull (some crowdedView) [] {}).result = .ok (some r) ∧
      placeholders r.url = ["path", "id", "id"] ∧ NamesKept r.url ∧
      ∀ name, String.ofList name ∈ pathNames r.operation.parameters ↔
        Encloses r.url.toList name := by
  obtain ⟨r, hr, hshown⟩ : ∃ r,
      (translate crowdedFull (some crowdedView) [] {}).result = .ok (some r) ∧
        (placeholders r.url, Text.upper r.method) = (["path", "id", "id"], "PUT") :=
    exists_some_of_toOption (by decide +kernel)
  obtain ⟨hplaceholders, hput⟩ := Prod.mk.inj hshown
  have hmethod : Text.upper r.method ∉ Usage.bodiless := by
    rw [hput]
    decide
  have hlead : PlusLeads " /v1/\x7b+path\x7d/\x7bid\x7d/\x7bid\x7d " := by
    have hnames : ∀ name ∈ enclosedTexts
        " /v1/\x7b+path\x7d/\x7bid\x7d/\x7bid\x7d ".toList, '+' ∉ name.tail := by decide +kernel
    exact fun name hname => hnames name (mem_enclosedTexts_iff_encloses.mpr hname)
  obtain ⟨_, _, _, hroutes⟩ := names_written_iff " /v1/\x7b+path\x7d/\x7bid\x7d/\x7bid\x7d "
  obtain ⟨hkept, _, hpath⟩ := hroutes crowdedFull crowdedView [] {} r rfl hr
  exact ⟨r, hr, hplaceholders, hkept.mpr hlead, (hpath hmethod).mpr hlead⟩

/-- A plus sign inside one name of the URL, and two in front of another. -/
def plusView : ConsoleView :=
  { crowdedView with url := some "/x/\x7ba+b\x7d/\x7b++c\x7d", usage := none, arguments := [] }

open Stack.Usual in
/-- Neither name of the URL is declared, and normalising the URL again changes it again. -/
theorem inner_plus_not_kept :
    ∃ r, (translate crowdedFull (some plusView) [] {}).result = .ok (some r) ∧
      Writes r.url.toList ["a+b".toList, "+c".toList] ∧
      pathNames r.operation.parameters = ["ab", "c"] ∧
      ¬NamesKept (normalize "/x/\x7ba+b\x7d/\x7b++c\x7d") ∧
      normalize (normalize "/x/\x7ba+b\x7d/\x7b++c\x7d") ≠
        normalize "/x/\x7ba+b\x7d/\x7b++c\x7d" := by
  obtain ⟨r, hr, hshown⟩ : ∃ r, (translate crowdedFull (some plusView) [] {}).result = .ok (some r) ∧
      (enclosedTexts r.url.toList, pathNames r.operation.parameters) =
        (["a+b".toList, "+c".toList], ["ab", "c"]) :=
    exists_some_of_toOption (by decide +kernel)
  obtain ⟨hwritten, hdeclared⟩ := Prod.mk.inj hshown
  refine ⟨r, hr, writes_iff.mpr hwritten, hdeclared, ?_, by decide +kernel⟩
  rw [namesKept_iff]
  decide +kernel

end Operation
end ServiceAtlas
