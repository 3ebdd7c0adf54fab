import Mathlib.Data.List.TakeWhile
import ServiceAtlas.Text.Blank
import ServiceAtlas.UrlTemplate

/-!
What the placeholders of a URL template are: the names that stand between a brace and the brace that
closes it. Plus signs and blanks around the template make no difference.
-/

namespace ServiceAtlas

namespace Text

/-- Trimming takes away blanks and nothing else. -/
theorem trim_split (cs : List Char) :
    ∃ before after, (∀ c ∈ before, isBlank c = true) ∧ (∀ c ∈ after, isBlank c = true) ∧
      cs = before ++ trim cs ++ after := by
  refine ⟨cs.takeWhile isBlank, ((trimLeft cs).reverse.takeWhile isBlank).reverse, ?_, ?_, ?_⟩
  · intro c hc
    exact List.mem_takeWhile_imp hc
  · intro c hc
    exact List.mem_takeWhile_imp (List.mem_reverse.mp hc)
  · have hr : trimLeft cs = trim cs ++ ((trimLeft cs).reverse.takeWhile isBlank).reverse := by
      have h := congrArg List.reverse
        (List.takeWhile_append_dropWhile (p := isBlank) (l := (trimLeft cs).reverse))
      rw [List.reverse_append, List.reverse_reverse] at h
      exact h.symm
    rw [List.append_assoc, ← hr]
    exact (List.takeWhile_append_dropWhile (p := isBlank) (l := cs)).symm

theorem without_cons (c b : Char) (cs : List Char) :
    without c (b :: cs) = if b = c then without c cs else b :: without c cs := by
  by_cases h : b = c <;> simp [without, h]

end Text

namespace UrlTemplate

theorem isBrace_iff {c : Char} : isBrace c = true ↔ c = '{' ∨ c = '}' := by
  simp [isBrace]

theorem isBrace_of_isBlank {c : Char} (h : Text.isBlank c = true) : isBrace c = false := by
  cases hb : isBrace c with
  | false => rfl
  | true =>
    rcases isBrace_iff.mp hb with rfl | rfl
    · exact absurd h (by decide)
    · exact absurd h (by decide)

/-- No brace stands in the text. -/
def Braceless (cs : List Char) : Prop := ∀ c ∈ cs, isBrace c = false

-- Named, for characters are finitely many, and another instance would go through them all.
instance (cs : List Char) : Decidable (Braceless cs) := List.decidableBAll _ cs

theorem closesNext_cons (c : Char) (cs : List Char) :
    closesNext (c :: cs) = if isBrace c then decide (c = '}') else closesNext cs := by
  cases hc : isBrace c <;> simp [closesNext, hc]

theorem closesNext_plus (cs : List Char) : closesNext ('+' :: cs) = closesNext cs :=
  closesNext_cons '+' cs

theorem closesNext_name {name : List Char} (hb : Braceless name) (rest : List Char) :
    closesNext (name ++ '}' :: rest) = true := by
  induction name with
  | nil => rfl
  | cons c name ih =>
    have hc : isBrace c = false := hb c List.mem_cons_self
    rw [List.cons_append, closesNext_cons, hc]
    exact ih fun b hm => hb b (List.mem_cons_of_mem c hm)

theorem not_closesNext_of_braceless {cs : List Char} (h : Braceless cs) : closesNext cs ≠ true := by
  have hrest : cs.dropWhile (fun c => !isBrace c) = [] :=
    List.dropWhile_eq_nil_iff.mpr fun c hc => by simp [h c hc]
  simp [closesNext, hrest]

/-- A name that is enclosed reaches up to the first brace, and that one closes. -/
theorem enclosed?_eq_some_iff {cs name : List Char} :
    enclosed? cs = some name ↔
      name ≠ [] ∧ Braceless name ∧ ∃ rest, cs = name ++ '}' :: rest := by
  constructor
  · intro h
    unfold enclosed? at h
    split at h
    · cases h
    · rename_i name' hempty
      split at h
      · rename_i hc
        obtain rfl : cs.takeWhile (fun c => !isBrace c) = name := Option.some.inj h
        refine ⟨by simpa using hempty, fun c hm => by simpa using List.mem_takeWhile_imp hm, ?_⟩
        obtain ⟨rest, hr⟩ : ∃ rest, cs.dropWhile (fun c => !isBrace c) = '}' :: rest :=
          List.head?_eq_some_iff.mp (by simpa [closesNext] using hc)
        exact ⟨rest, by rw [← hr, List.takeWhile_append_dropWhile]⟩
      · cases h
  · rintro ⟨hne, hb, rest, rfl⟩
    have hall : ∀ c ∈ name, (!isBrace c) = true := fun c hm => by simp [hb c hm]
    have ht : (name ++ '}' :: rest).takeWhile (fun c => !isBrace c) = name := by
      rw [List.takeWhile_append_of_pos hall]
      simp [isBrace]
    unfold enclosed?
    rw [ht, closesNext_name hb rest]
    cases name with
    | nil => exact absurd rfl hne
    | cons c cs => rfl

theorem enclosedTexts_brace (cs : List Char) :
    enclosedTexts ('{' :: cs) = (enclosed? cs).toList ++ enclosedTexts cs := rfl

theorem enclosedTexts_cons_of_ne {c : Char} (hc : c ≠ '{') (cs : List Char) :
    enclosedTexts (c :: cs) = enclosedTexts cs := if_neg hc

/-- The enclosed texts are the names that stand somewhere in the template with their braces. -/
theorem mem_enclosedTexts_iff {cs name : List Char} :
    name ∈ enclosedTexts cs ↔ name ≠ [] ∧ Braceless name ∧ mentions cs name = true := by
  induction cs with
  | nil => simp [enclosedTexts, mentions, Text.occurs]
  | cons c rest ih =>
    have hhead : (Text.after? ('{' :: name ++ ['}']) (c :: rest)).isSome = true ↔
        c = '{' ∧ ∃ tail, rest = name ++ '}' :: tail := by
      rw [Option.isSome_iff_exists]
      simp only [Text.after?_eq_some_iff, List.cons_append, List.append_assoc, List.nil_append,
        List.cons.injEq, exists_and_left]
    have hm : mentions (c :: rest) name = true ↔
        (c = '{' ∧ ∃ tail, rest = name ++ '}' :: tail) ∨ mentions rest name = true := by
      simp only [mentions, Text.occurs, Bool.or_eq_true, hhead]
    rw [hm]
    by_cases hc : c = '{'
    · simp only [enclosedTexts, hc, if_true, List.mem_append, Option.mem_toList,
        enclosed?_eq_some_iff, ih, true_and]
      grind
    · simp only [enclosedTexts, hc, if_false, ih, false_and, false_or]

/-- What follows is part of a name only where its next brace is a closing one. -/
theorem enclosed?_append {cs tail : List Char} (h : closesNext tail ≠ true) :
    enclosed? (cs ++ tail) = enclosed? cs := by
  refine Option.ext fun name => ?_
  rw [enclosed?_eq_some_iff, enclosed?_eq_some_iff]
  refine and_congr_right fun _ => and_congr_right fun hb => ⟨?_, ?_⟩
  · intro hname
    obtain ⟨rest, he⟩ := hname
    rcases List.append_eq_append_iff.mp he with ⟨more, rfl, rfl⟩ | ⟨more, rfl, hmore⟩
    · exact absurd (closesNext_name (fun c hc => hb c (List.mem_append_right cs hc)) rest) h
    · cases more with
      | nil =>
        obtain rfl : '}' :: rest = tail := hmore
        exact absurd rfl h
      | cons c more =>
        obtain ⟨rfl, _⟩ := List.cons.inj hmore
        exact ⟨more, rfl⟩
  · intro hname
    obtain ⟨rest, rfl⟩ := hname
    exact ⟨rest ++ tail, by simp⟩

theorem enclosedTexts_append {cs tail : List Char} (h : closesNext tail ≠ true) :
    enclosedTexts (cs ++ tail) = enclosedTexts cs ++ enclosedTexts tail := by
  induction cs with
  | nil => rfl
  | cons c cs ih =>
    rw [List.cons_append]
    rcases eq_or_ne c '{' with rfl | hc
    · rw [enclosedTexts_brace, enclosedTexts_brace, enclosed?_append h, ih, List.append_assoc]
    · rw [enclosedTexts_cons_of_ne hc, enclosedTexts_cons_of_ne hc, ih]

theorem enclosedTexts_prepend {before cs : List Char} (h : Braceless before) :
    enclosedTexts (before ++ cs) = enclosedTexts cs := by
  induction before with
  | nil => rfl
  | cons c before ih =>
    have hc : c ≠ '{' := by
      rintro rfl
      exact absurd (h _ List.mem_cons_self) (by decide)
    rw [List.cons_append, enclosedTexts_cons_of_ne hc]
    exact ih fun b hb => h b (List.mem_cons_of_mem _ hb)

theorem enclosedTexts_of_braceless {cs : List Char} (h : Braceless cs) : enclosedTexts cs = [] := by
  rw [← List.append_nil cs, enclosedTexts_prepend h]
  rfl

/-! ### Plus signs and blanks -/

theorem closesNext_without (cs : List Char) :
    closesNext (Text.without '+' cs) = closesNext cs := by
  induction cs with
  | nil => rfl
  | cons c cs ih =>
    rw [Text.without_cons]
    rcases eq_or_ne c '+' with rfl | hc
    · rw [if_pos rfl, closesNext_plus, ih]
    · rw [if_neg hc, closesNext_cons, closesNext_cons, ih]

theorem takeWhile_without (cs : List Char) :
    (Text.without '+' cs).takeWhile (fun c => !isBrace c) =
      Text.without '+' (cs.takeWhile fun c => !isBrace c) := by
  induction cs with
  | nil => rfl
  | cons c cs ih =>
    rw [Text.without_cons, List.takeWhile_cons]
    rcases eq_or_ne c '+' with rfl | hc
    · have hb : isBrace '+' = false := rfl
      simp [hb, ih, Text.without_cons]
    · cases hb : isBrace c with
      | true => simp [hc, hb, Text.without]
      | false => simp [hc, hb, ih, Text.without_cons]

/-- What the search finds behind an opening brace. -/
theorem toList_enclosed? (cs : List Char) :
    (enclosed? cs).toList =
      if closesNext cs then [cs.takeWhile fun c => !isBrace c].filter (· ≠ []) else [] := by
  unfold enclosed?
  split
  · rename_i hempty
    simp [hempty]
  · rename_i hne
    have hfull : [cs.takeWhile fun c => !isBrace c].filter (· ≠ []) =
        [cs.takeWhile fun c => !isBrace c] := List.filter_cons_of_pos (decide_eq_true hne)
    rw [hfull]
    split <;> rfl

theorem toList_enclosed?_without (cs : List Char) :
    (enclosed? (Text.without '+' cs)).toList =
      ((enclosed? cs).toList.map (Text.without '+')).filter (· ≠ []) := by
  rw [toList_enclosed?, toList_enclosed?, closesNext_without, takeWhile_without]
  split
  · generalize cs.takeWhile (fun c => !isBrace c) = name
    cases name with
    | nil => rfl
    | cons c name => rfl
  · rfl

/-- Without plus signs the names are what is left of those that were written, where anything is. -/
theorem enclosedTexts_without (cs : List Char) :
    enclosedTexts (Text.without '+' cs) =
      ((enclosedTexts cs).map (Text.without '+')).filter (· ≠ []) := by
  induction cs with
  | nil => rfl
  | cons c cs ih =>
    rw [Text.without_cons]
    rcases eq_or_ne c '+' with rfl | hplus
    · rw [if_pos rfl, ih, enclosedTexts_cons_of_ne (by decide)]
    · rw [if_neg hplus]
      rcases eq_or_ne c '{' with rfl | hc
      · rw [enclosedTexts_brace, enclosedTexts_brace, List.map_append, List.filter_append,
          toList_enclosed?_without, ih]
      · rw [enclosedTexts_cons_of_ne hc, enclosedTexts_cons_of_ne hc, ih]

/-- Normalising takes away plus signs only. -/
theorem without_normalizeChars (cs : List Char) :
    Text.without '+' (normalizeChars cs) = Text.without '+' cs := by
  fun_induction normalizeChars cs with
  | case1 => rfl
  | case2 rest hc ih => simp [Text.without_cons, ih]
  | case3 rest hc ih => simp [Text.without_cons, ih]
  | case4 c rest hne ih => simp only [Text.without_cons, ih]

theorem placeholders_normalize (url : String) :
    placeholders (normalize url) = placeholders url := by
  simp [placeholders, plain, normalize, without_normalizeChars]

/-- Blanks around a template are no part of a name. -/
theorem enclosedTexts_strip (url : String) :
    enclosedTexts (Text.strip url).toList = enclosedTexts url.toList := by
  obtain ⟨before, after, hb, ha, he⟩ := Text.trim_split url.toList
  have hbefore : Braceless before := fun c hc => isBrace_of_isBlank (hb c hc)
  have hafter : Braceless after := fun c hc => isBrace_of_isBlank (ha c hc)
  have hurl : enclosedTexts url.toList =
      enclosedTexts (before ++ Text.trim url.toList ++ after) := congrArg enclosedTexts he
  rw [hurl, enclosedTexts_append (not_closesNext_of_braceless hafter),
    enclosedTexts_of_braceless hafter, List.append_nil, enclosedTexts_prepend hbefore, Text.strip,
    String.toList_ofList]

theorem placeholders_strip (url : String) : placeholders (Text.strip url) = placeholders url := by
  simp only [placeholders, plain, enclosedTexts_without, enclosedTexts_strip]

theorem ofList_mem_placeholders_iff {url : String} {name : List Char} :
    String.ofList name ∈ placeholders url ↔ name ∈ enclosedTexts (plain url) := by
  rw [placeholders, List.mem_map]
  constructor
  · rintro ⟨found, hfound, he⟩
    rwa [← String.ofList_injective he]
  · intro hname
    exact ⟨name, hname, rfl⟩

/-- A name is a placeholder exactly if it stands in the template with its braces. -/
theorem mem_placeholders_iff {url : String} {name : List Char} (hne : name ≠ [])
    (hb : Braceless name) :
    String.ofList name ∈ placeholders url ↔ mentions (plain url) name = true := by
  rw [ofList_mem_placeholders_iff, mem_enclosedTexts_iff]
  exact ⟨fun h => h.2.2, fun hm => ⟨hne, hb, hm⟩⟩

/-- The usage line looks for a variable as a piece of the template without plus signs, the document by
going through the template as it is shown, normalised and trimmed. Both find the same names. -/
theorem mentions_iff_mem_placeholders (url : String) {name : String} (hne : name ≠ "")
    (hb : Braceless name.toList) :
    (mentions (plain url) name.toList = true ↔
        name ∈ placeholders (Text.strip (normalize url))) ∧
      (mentions (plain url) name.toList = true ↔ ∃ before after,
        Text.without '+' url.toList = before ++ '{' :: name.toList ++ '}' :: after) := by
  have hne' : name.toList ≠ [] := fun he => hne (String.toList_eq_nil_iff.mp he)
  have hfound := @mem_placeholders_iff url _ hne' hb
  rw [String.ofList_toList] at hfound
  rw [placeholders_strip, placeholders_normalize]
  refine ⟨hfound.symm, ?_⟩
  rw [mentions, Text.occurs_iff]
  simp only [plain, List.append_assoc, List.cons_append, List.nil_append]

/-- Among stray and nested braces, and with plus signs in its name, a variable is found both ways; a
name that a stray brace cuts off is found neither way. -/
theorem mentions_iff_mem_placeholders_stray :
    let url := " +\x7b+a+b+\x7d\x7b\x7bc\x7d\x7d\x7bd\x7be\x7b\x7d\x7b+\x7d "
    ("ab" ∈ placeholders (Text.strip (normalize url)) ∧
      ∃ before after, Text.without '+' url.toList = before ++ '{' :: "ab".toList ++ '}' :: after) ∧
    "d" ∉ placeholders (Text.strip (normalize url)) := by
  intro url
  have hab := @mentions_iff_mem_placeholders url "ab" (by decide) (by decide)
  have hd := @mentions_iff_mem_placeholders url "d" (by decide) (by decide)
  have hfound : mentions (plain url) "ab".toList = true := by decide
  have hnone : mentions (plain url) "d".toList = false := by decide
  refine ⟨⟨hab.1.mp hfound, hab.2.mp hfound⟩, fun hm => ?_⟩
  rw [hd.1.mpr hm] at hnone
  cases hnone

end UrlTemplate
end ServiceAtlas
