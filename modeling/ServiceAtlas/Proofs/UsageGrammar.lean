import ServiceAtlas.Proofs.UsageLine

/-!
The grammar of usage lines, and what becomes of each token of a line: it gives a parameter, or it is
skipped for one reason, and nothing else happens.
-/

namespace ServiceAtlas.Usage

/-! ### Tokens -/

/-- A name is not empty, and no bracket of any kind stands in it. -/
def Name (cs : List Char) : Prop := cs ≠ [] ∧ ∀ c ∈ cs, c ∉ ['[', ']', '<', '>', '{', '}']

/-- The three forms of a token. -/
inductive Reads : List Char → Token → Prop
  | square {name : List Char} (h : Name name) : Reads ('[' :: name ++ [']']) (.optional name)
  | pointed {name : List Char} (h : Name name) :
    Reads ('[' :: ('<' :: name ++ ['>']) ++ [']']) (.optional name)
  | required {name : List Char} (h : Name name) : Reads ('<' :: name ++ ['>']) (.required name)

theorem isName_iff {cs : List Char} : isName cs = true ↔ Name cs := by
  simp [isName, Name, isBracket]

theorem within?_eq_some_iff {opening closing : Char} {cs inner : List Char} :
    within? opening closing cs = some inner ↔ cs = opening :: inner ++ [closing] := by
  cases cs with
  | nil => simp [within?]
  | cons c rest =>
    simp only [within?]
    constructor
    · intro h
      split at h
      · rename_i hc
        obtain rfl := Option.some.inj h
        obtain ⟨rfl, hl⟩ := hc
        rw [List.cons_append, List.dropLast_append_getLast? _ hl]
      · cases h
    · intro h
      obtain ⟨rfl, rfl⟩ := List.cons.inj h
      simp

/-- What stands in no bracket is not taken out of one. -/
theorem within?_of_name {opening closing : Char} {name : List Char} (h : Name name)
    (ho : opening ∈ ['[', ']', '<', '>', '{', '}']) : within? opening closing name = none := by
  refine Option.eq_none_iff_forall_ne_some.mpr fun inner hi => ?_
  have he := within?_eq_some_iff.mp hi
  exact h.2 opening (by rw [he]; exact List.mem_cons_self) ho

/-- A token can be read exactly if it has one of the three forms. -/
theorem readToken?_eq_some_iff {cs : List Char} {t : Token} :
    readToken? cs = some t ↔ Reads cs t := by
  constructor
  · intro h
    unfold readToken? at h
    cases hsquare : within? '[' ']' cs with
    | some inner =>
      simp only [hsquare] at h
      split at h
      · rename_i hn
        obtain rfl := Option.some.inj h
        rw [within?_eq_some_iff.mp hsquare]
        cases hpointed : within? '<' '>' inner with
        | some name =>
          rw [hpointed] at hn
          rw [within?_eq_some_iff.mp hpointed]
          exact .pointed (isName_iff.mp hn)
        | none =>
          rw [hpointed] at hn
          exact .square (isName_iff.mp hn)
      · cases h
    | none =>
      simp only [hsquare] at h
      cases hangle : within? '<' '>' cs with
      | none =>
        rw [hangle] at h
        cases h
      | some name =>
        simp only [hangle] at h
        split at h
        · rename_i hn
          obtain rfl := Option.some.inj h
          rw [within?_eq_some_iff.mp hangle]
          exact .required (isName_iff.mp hn)
        · cases h
  · intro h
    unfold readToken?
    cases h with
    | @square name h =>
      rw [within?_eq_some_iff.mpr rfl]
      simp [within?_of_name h, isName_iff.mpr h]
    | @pointed name h =>
      rw [within?_eq_some_iff.mpr rfl]
      simp only [within?_eq_some_iff.mpr (rfl : '<' :: name ++ ['>'] = _), Option.getD_some,
        isName_iff.mpr h, if_true]
    | @required name h =>
      have hsquare : within? '[' ']' ('<' :: name ++ ['>']) = none := by simp [within?]
      rw [hsquare, within?_eq_some_iff.mpr rfl]
      simp [isName_iff.mpr h]

example : ["[", "[]", "<>", "[<a]", "[a>]", "[[a]]", "<<a>>", "<a>>", "[<>]"].all
    (fun token => (readToken? token.toList).isNone) = true := by decide +kernel

/-! ### Parameters -/

section Line
variable (url method : String) (known : Option (List String))

/-- A required argument travels in the path where the URL, its plus signs left out, has a place for it
or where the method carries no body. -/
def InPath (name : List Char) : Prop :=
  '{' :: name ++ ['}'] <:+: url.toList.filter (· ≠ '+') ∨
    Text.upper method = "GET" ∨ Text.upper method = "DELETE"

/-- The parameter that a token stands for. -/
inductive Stands : Token → Parameter → Prop
  | query (name : List Char) : Stands (.optional name) ⟨String.ofList name, .query, true⟩
  | path {name : List Char} (h : InPath url method name) :
    Stands (.required name) ⟨String.ofList name, .path, false⟩
  | body {name : List Char} (h : ¬InPath url method name) :
    Stands (.required name) ⟨String.ofList name, .body, false⟩

/-- The name belongs to an argument, as far as the arguments are known. -/
def Known (name : String) : Prop := ∀ names, known = some names → name ∈ names

/-- What becomes of a token. -/
inductive Verdict where
  | accepted (p : Parameter)
  | unreadable (token : List Char)
  | undeclared (name : String)
  | repeated (name : String)

namespace Verdict

def parameter? : Verdict → Option Parameter
  | accepted p => some p
  | _ => none

/-- The diagnostic that tells of a skipped token. -/
def skip? : Verdict → Option Diagnostic
  | accepted _ => none
  | unreadable token => some (.unreadableToken (String.ofList token))
  | undeclared name => some (.undeclaredParameter name)
  | repeated name => some (.repeatedParameter name)

end Verdict

/-- A token is judged by its form, the known arguments and the names taken before it. -/
inductive Judged (taken : List String) (token : List Char) : Verdict → Prop
  | accepted {t : Token} {p : Parameter} (form : Reads token t) (stands : Stands url method t p)
    (declared : Known known p.name) (new : p.name ∉ taken) : Judged taken token (.accepted p)
  | unreadable (form : ∀ t, ¬Reads token t) : Judged taken token (.unreadable token)
  | undeclared {t : Token} {p : Parameter} (form : Reads token t) (stands : Stands url method t p)
    (undeclared : ¬Known known p.name) : Judged taken token (.undeclared p.name)
  | repeated {t : Token} {p : Parameter} (form : Reads token t) (stands : Stands url method t p)
    (declared : Known known p.name) (old : p.name ∈ taken) : Judged taken token (.repeated p.name)

/-- The tokens of a line are judged in turn; an accepted one takes its name. -/
inductive JudgedLine : List String → List (List Char) → List Verdict → Prop
  | nil (taken : List String) : JudgedLine taken [] []
  | cons {taken : List String} {token : List Char} {rest : List (List Char)} {v : Verdict}
    {vs : List Verdict} (head : Judged url method known taken token v)
    (tail : JudgedLine (v.parameter?.toList.map Parameter.name ++ taken) rest vs) :
    JudgedLine taken (token :: rest) (v :: vs)

end Line

section Verdicts
variable {url method : String} {known : Option (List String)} {taken : List String}
  {token : List Char}

theorem Reads.unique {t u : Token} (ht : Reads token t) (hu : Reads token u) : t = u :=
  Option.some.inj ((readToken?_eq_some_iff.mpr ht).symm.trans (readToken?_eq_some_iff.mpr hu))

theorem Stands.unique {t : Token} {p q : Parameter} (hp : Stands url method t p)
    (hq : Stands url method t q) : p = q := by
  cases hp with
  | query name => cases hq; rfl
  | path hp =>
    cases hq with
    | path _ => rfl
    | body hn => exact absurd hp hn
  | body hp =>
    cases hq with
    | path hn => exact absurd hn hp
    | body _ => rfl

/-- No token is judged in two ways. -/
theorem Judged.unique {v w : Verdict} (hv : Judged url method known taken token v)
    (hw : Judged url method known taken token w) : v = w := by
  have agree : ∀ {t u : Token} {p q : Parameter}, Reads token t → Stands url method t p →
      Reads token u → Stands url method u q → p = q := by
    intro t u p q ht hp hu hq
    obtain rfl := ht.unique hu
    exact hp.unique hq
  cases hv with
  | unreadable hn =>
    cases hw with
    | unreadable _ => rfl
    | accepted h _ _ _ | undeclared h _ _ | repeated h _ _ _ => exact absurd h (hn _)
  | accepted ht hp hk hnew =>
    cases hw with
    | unreadable hn => exact absurd ht (hn _)
    | accepted hu hq _ _ => rw [agree ht hp hu hq]
    | undeclared hu hq hun => exact absurd (agree ht hp hu hq ▸ hk) hun
    | repeated hu hq _ hold => exact absurd (agree ht hp hu hq ▸ hold) hnew
  | undeclared ht hp hun =>
    cases hw with
    | unreadable hn => exact absurd ht (hn _)
    | accepted hu hq hk _ => exact absurd (agree ht hp hu hq ▸ hk) hun
    | undeclared hu hq _ => rw [agree ht hp hu hq]
    | repeated hu hq hk _ => exact absurd (agree ht hp hu hq ▸ hk) hun
  | repeated ht hp hk hold =>
    cases hw with
    | unreadable hn => exact absurd ht (hn _)
    | accepted hu hq _ hnew => exact absurd (agree ht hp hu hq ▸ hold) hnew
    | undeclared hu hq hun => exact absurd (agree ht hp hu hq ▸ hk) hun
    | repeated hu hq _ _ => rw [agree ht hp hu hq]

theorem JudgedLine.unique {tokens : List (List Char)} {vs ws : List Verdict}
    (hv : JudgedLine url method known taken tokens vs)
    (hw : JudgedLine url method known taken tokens ws) : vs = ws := by
  induction hv generalizing ws with
  | nil taken =>
    cases hw
    rfl
  | cons head tail ih =>
    cases hw with
    | cons head' tail' =>
      obtain rfl := head.unique head'
      rw [ih tail']

/-- Each token counts once, as a parameter or as a skip. -/
theorem JudgedLine.length {tokens : List (List Char)} {vs : List Verdict}
    (h : JudgedLine url method known taken tokens vs) :
    (vs.filterMap Verdict.parameter?).length + (vs.filterMap Verdict.skip?).length =
      tokens.length := by
  induction h with
  | nil taken => rfl
  | @cons taken token rest v vs head tail ih =>
    cases v <;>
      simp only [List.filterMap_cons, Verdict.parameter?, Verdict.skip?, List.length_cons] <;> omega

end Verdicts

/-! ### The reader of usage lines -/

/-- The diagnostic tells of a token that was skipped. -/
def tellsOfSkip : Diagnostic → Bool
  | .unreadableToken _ | .undeclaredParameter _ | .repeatedParameter _ => true
  | _ => false

/-- The diagnostics that tell of skipped tokens. -/
def skips (notes : List Diagnostic) : List Diagnostic := notes.filter tellsOfSkip

@[simp] theorem skips_append (notes more : List Diagnostic) :
    skips (notes ++ more) = skips notes ++ skips more := List.filter_append ..

section Reader
variable (url method : String) (known : Option (List String))

theorem placementOf_eq_path_iff (name : List Char) :
    placementOf (.make url method known) name = .path ↔ InPath url method name := by
  have hm : UrlTemplate.mentions (UrlTemplate.plain url) name = true ↔
      '{' :: name ++ ['}'] <:+: url.toList.filter (· ≠ '+') := by
    rw [UrlTemplate.mentions, Text.occurs_iff]
    exact exists_congr fun _ => exists_congr fun _ => eq_comm
  simp only [placementOf, Setting.make, InPath, Bool.or_eq_true, hm, bodiless, List.contains_eq_mem,
    List.mem_cons, List.not_mem_nil, or_false, decide_eq_true_eq]
  split <;> simp_all

theorem stands_parameter (t : Token) :
    Stands url method t (t.parameter (.make url method known)) := by
  cases t with
  | optional name => exact .query name
  | required name =>
    have hp := placementOf_eq_path_iff url method known name
    by_cases h : InPath url method name
    · rw [Token.parameter, hp.mpr h]
      exact .path h
    · have hb : placementOf (.make url method known) name = .body := by
        have hne := mt hp.mp h
        unfold placementOf at hne ⊢
        split at hne
        · exact absurd rfl hne
        · rename_i hc
          rw [if_neg hc]
      rw [Token.parameter, hb]
      exact .body h

theorem knows_iff (name : String) :
    (Setting.make url method known).knows name = true ↔ Known known name := by
  cases known <;> simp [Setting.make, Setting.knows, Known]

/-- A name placed by the method is no skip. -/
theorem skips_parameterOf (s : Setting) (t : Token) : skips (parameterOf s t).notes = [] := by
  cases t with
  | optional name => rfl
  | required name =>
    simp only [parameterOf, place, Noted.notes_bind, Noted.notes_pure, List.append_nil]
    split
    · rfl
    · split <;> rfl

/-- One step of the reader judges one token. -/
theorem readParameter_judged (taken : List String) (token : List Char) :
    ∃ v, Judged url method known taken token v ∧
      (readParameter (.make url method known) taken token).value = v.parameter? ∧
      skips (readParameter (.make url method known) taken token).notes = v.skip?.toList := by
  unfold readParameter
  cases ht : readToken? token with
  | none =>
    refine ⟨.unreadable token, .unreadable fun t h => ?_, rfl, rfl⟩
    rw [readToken?_eq_some_iff.mpr h] at ht
    cases ht
  | some t =>
    have form := readToken?_eq_some_iff.mp ht
    have stands := stands_parameter url method known t
    simp only [Noted.value_bind, Noted.notes_bind, value_parameterOf, skips_append,
      skips_parameterOf, List.nil_append]
    by_cases hk : (Setting.make url method known).knows (t.parameter (.make url method known)).name
    · have declared := (knows_iff url method known _).mp hk
      by_cases hc : (t.parameter (.make url method known)).name ∈ taken
      · refine ⟨_, .repeated form stands declared hc, ?_, ?_⟩ <;> simp [hk, hc] <;> rfl
      · refine ⟨_, .accepted form stands declared hc, ?_, ?_⟩ <;> simp [hk, hc] <;> rfl
    · have undeclared := mt (knows_iff url method known _).mpr hk
      refine ⟨_, .undeclared form stands undeclared, ?_, ?_⟩ <;> simp [hk] <;> rfl

/-- The reader judges the tokens of a line in turn. -/
theorem readParameters_judged (taken : List String) (tokens : List (List Char)) :
    ∃ vs, JudgedLine url method known taken tokens vs ∧
      (readParameters (.make url method known) taken tokens).value =
        vs.filterMap Verdict.parameter? ∧
      skips (readParameters (.make url method known) taken tokens).notes =
        vs.filterMap Verdict.skip? := by
  induction tokens generalizing taken with
  | nil => exact ⟨[], .nil taken, rfl, rfl⟩
  | cons token rest ih =>
    obtain ⟨v, hv, hvalue, hskips⟩ := readParameter_judged url method known taken token
    obtain ⟨vs, hvs, hvalues, hmore⟩ := ih (v.parameter?.toList.map Parameter.name ++ taken)
    refine ⟨v :: vs, .cons hv hvs, ?_, ?_⟩
    · simp only [readParameters, Noted.value_bind, hvalue]
      cases hp : v.parameter? <;> simp_all
    · simp only [readParameters, Noted.notes_bind, hvalue, skips_append, hskips]
      cases hp : v.parameter? <;> cases hs : v.skip? <;> simp_all [skips]

end Reader

/-- The parameters of a usage line are those of the tokens behind the first that have one of the forms
of the grammar, a known name and one that no parameter before them has; every other token is skipped
with one diagnostic. -/
theorem parameters_by_grammar (usage url method : String) (known : Option (List String)) :
    ∃ verdicts,
      (∀ others, JudgedLine url method known [] ((Text.words usage.toList).drop 1) others ↔
        others = verdicts) ∧
      (parameters usage (.make url method known)).value =
        verdicts.filterMap Verdict.parameter? ∧
      skips (parameters usage (.make url method known)).notes =
        verdicts.filterMap Verdict.skip? ∧
      (parameters usage (.make url method known)).value.length +
          (skips (parameters usage (.make url method known)).notes).length =
        ((Text.words usage.toList).drop 1).length := by
  obtain ⟨verdicts, hjudged, hvalue, hskips⟩ :=
    readParameters_judged url method known [] ((Text.words usage.toList).drop 1)
  refine ⟨verdicts, fun others => ⟨fun h => h.unique hjudged, ?_⟩, hvalue, hskips, ?_⟩
  · rintro rfl
    exact hjudged
  · unfold parameters
    rw [hvalue, hskips]
    exact hjudged.length

end ServiceAtlas.Usage
