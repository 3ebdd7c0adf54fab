import ServiceAtlas.Proofs.UsageGrammar

/-!
Usage lines with a token more, and with fewer known arguments.
-/

namespace ServiceAtlas.Text

/-- A word behind a line leaves the words before it as they are. -/
theorem words_append_word {line word : List Char} (hne : word ≠ [])
    (hword : ∀ c ∈ word, isBlank c = false) :
    words (line ++ ' ' :: word) = words line ++ [word] := by
  have hsplit := pieces_append_cons (by decide : isBlank ' ' = true) line word
  simp [words, hsplit, pieces_of_none hword, hne]

end ServiceAtlas.Text

namespace ServiceAtlas.Usage

/-- A token gives its parameter if it can be read, its name is declared and not yet taken. -/
theorem value_readParameter (s : Setting) (taken : List String) (token : List Char) :
    (readParameter s taken token).value = ((readToken? token).map (Token.parameter s)).filter
      fun p => s.knows p.name && !taken.contains p.name := by
  unfold readParameter
  cases ht : readToken? token with
  | none => rfl
  | some t =>
    simp only [Noted.value_bind, value_parameterOf, Option.map_some, Option.filter_some]
    cases hk : s.knows (t.parameter s).name with
    | false => simp
    | true => cases hc : taken.contains (t.parameter s).name <;> simp

/-- Tokens behind others are read with the names that those have taken. -/
theorem value_readParameters_append (s : Setting) (taken : List String)
    (tokens more : List (List Char)) :
    (readParameters s taken (tokens ++ more)).value =
      (readParameters s taken tokens).value ++
        (readParameters s (((readParameters s taken tokens).value.map Parameter.name).reverse ++
          taken) more).value := by
  induction tokens generalizing taken with
  | nil => rfl
  | cons token rest ih =>
    simp only [List.cons_append, readParameters, Noted.value_bind]
    cases (readParameter s taken token).value with
    | none => exact ih taken
    | some p => simp [ih]

section Line
variable {url method : String} {known : Option (List String)}

/-- Of the names taken before a token, only which they are counts. -/
theorem Judged.of_mem_iff {taken others : List String} {token : List Char} {v : Verdict}
    (h : Judged url method known taken token v) (hsame : ∀ name, name ∈ taken ↔ name ∈ others) :
    Judged url method known others token v := by
  cases h with
  | accepted form stands declared new =>
    exact .accepted form stands declared fun hm => new ((hsame _).mpr hm)
  | unreadable form => exact .unreadable form
  | undeclared form stands undeclared => exact .undeclared form stands undeclared
  | repeated form stands declared old => exact .repeated form stands declared ((hsame _).mp old)

theorem parameters_append_token {usage token : String} (hu : Text.words usage.toList ≠ [])
    (hne : token ≠ "") (ht : ∀ c ∈ token.toList, Text.isBlank c = false) :
    ∃ v, Judged url method known
        ((parameters usage (.make url method known)).value.map Parameter.name) token.toList v ∧
      (parameters (usage ++ " " ++ token) (.make url method known)).value =
        (parameters usage (.make url method known)).value ++ v.parameter?.toList := by
  have hword : token.toList ≠ [] := fun h => hne (String.toList_eq_nil_iff.mp h)
  have hwords : Text.words (usage ++ " " ++ token).toList =
      Text.words usage.toList ++ [token.toList] := by
    rw [String.toList_append, String.toList_append, List.append_assoc]
    exact Text.words_append_word hword ht
  have htokens : (Text.words (usage ++ " " ++ token).toList).drop 1 =
      (Text.words usage.toList).drop 1 ++ [token.toList] := by
    rw [hwords, List.drop_append_of_le_length (List.length_pos_iff.mpr hu)]
  set line := (parameters usage (.make url method known)).value with hline
  obtain ⟨v, hv, hvalue, _⟩ :=
    readParameter_judged url method known ((line.map Parameter.name).reverse ++ []) token.toList
  refine ⟨v, hv.of_mem_iff (by simp), ?_⟩
  have happend : (parameters (usage ++ " " ++ token) (.make url method known)).value =
      line ++ (readParameters (.make url method known)
        ((line.map Parameter.name).reverse ++ []) [token.toList]).value := by
    rw [parameters, htokens, value_readParameters_append]
    rfl
  rw [happend]
  simp only [readParameters, Noted.value_bind, hvalue]
  cases v.parameter? <;> rfl

/-! ### Known names -/

section Known
variable {names taken all : List String}

/-- A token gives the same parameter, if its name is known. -/
theorem value_readParameter_known (hsame : ∀ name ∈ names, name ∈ taken ↔ name ∈ all)
    (token : List Char) :
    (readParameter (.make url method (some names)) taken token).value =
      (readParameter (.make url method none) all token).value.filter (·.name ∈ names) := by
  rw [value_readParameter, value_readParameter]
  cases readToken? token with
  | none => rfl
  | some t =>
    have hp : t.parameter (.make url method (some names)) =
        t.parameter (.make url method none) := by cases t <;> rfl
    rw [Option.map_some, Option.map_some, hp]
    generalize t.parameter (.make url method none) = p
    simp only [Option.filter_some, Setting.make, Setting.knows, List.contains_eq_mem]
    by_cases hk : p.name ∈ names
    · by_cases hm : p.name ∈ all <;> simp [Option.filter_some, hk, hsame _ hk, hm]
    · by_cases hm : p.name ∈ all <;> simp [Option.filter_some, hk, hm]

/-- A name that is not known may be taken in one reading and not in the other: no parameter that
counts has it. -/
theorem value_readParameters_known (hsame : ∀ name ∈ names, name ∈ taken ↔ name ∈ all)
    (tokens : List (List Char)) :
    (readParameters (.make url method (some names)) taken tokens).value =
      (readParameters (.make url method none) all tokens).value.filter (·.name ∈ names) := by
  induction tokens generalizing taken all with
  | nil => rfl
  | cons token rest ih =>
    simp only [readParameters, Noted.value_bind, value_readParameter_known hsame]
    cases (readParameter (.make url method none) all token).value with
    | none => exact ih hsame
    | some p =>
      by_cases hk : p.name ∈ names
      · have hnext : ∀ name ∈ names, name ∈ p.name :: taken ↔ name ∈ p.name :: all := by
          intro name hn
          rw [List.mem_cons, List.mem_cons, hsame name hn]
        simp only [Option.filter_some, hk, decide_true, if_true, Noted.value_bind, ih hnext,
          Noted.value_pure, List.filter_cons_of_pos]
      · have hnext : ∀ name ∈ names, name ∈ taken ↔ name ∈ p.name :: all := by
          intro name hn
          have hne : name ≠ p.name := fun he => hk (he ▸ hn)
          rw [List.mem_cons, hsame name hn]
          simp [hne]
        simp [Option.filter_some, hk, ih hnext]

end Known

/-- A token more adds at most its own parameter behind the others, and with fewer known arguments the
others come as before. -/
theorem parameters_grow {usage token : String} (hu : Text.words usage.toList ≠ [])
    (hne : token ≠ "") (ht : ∀ c ∈ token.toList, Text.isBlank c = false) (url method : String)
    (known : Option (List String)) (names : List String) :
    (∃ v, Judged url method known
        ((parameters usage (.make url method known)).value.map Parameter.name) token.toList v ∧
      (parameters (usage ++ " " ++ token) (.make url method known)).value =
        (parameters usage (.make url method known)).value ++ v.parameter?.toList) ∧
    (parameters usage (.make url method (some names))).value =
      (parameters usage (.make url method none)).value.filter (·.name ∈ names) :=
  ⟨parameters_append_token hu hne ht, value_readParameters_known (fun _ _ => Iff.rfl) _⟩

/-- The unknown name comes twice; the token that is added repeats the known one. -/
theorem parameters_grow_fetch :
    let usage := "Fetch [x] <id> [x]"
    Text.words usage.toList ≠ [] ∧ "[id]" ≠ "" ∧
      (∀ c ∈ "[id]".toList, Text.isBlank c = false) ∧
      (∃ v, Judged "/items/{+id}" "get" (some ["id"])
          ((parameters usage (.make "/items/{+id}" "get" (some ["id"]))).value.map Parameter.name)
          "[id]".toList v ∧
        (parameters (usage ++ " " ++ "[id]") (.make "/items/{+id}" "get" (some ["id"]))).value =
          (parameters usage (.make "/items/{+id}" "get" (some ["id"]))).value ++
            v.parameter?.toList) ∧
      (parameters usage (.make "/items/{+id}" "get" (some ["id"]))).value =
        (parameters usage (.make "/items/{+id}" "get" none)).value.filter (·.name ∈ ["id"]) := by
  intro usage
  have hu : Text.words usage.toList ≠ [] := by decide +kernel
  have ht : ∀ c ∈ "[id]".toList, Text.isBlank c = false := by
    simpa using show "[id]".toList.any Text.isBlank = false by decide +kernel
  exact ⟨hu, by decide, ht, parameters_grow hu (by decide) ht _ _ _ _⟩

end Line
end ServiceAtlas.Usage
