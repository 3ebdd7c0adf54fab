import Mathlib.Data.List.Nodup
import ServiceAtlas.Proofs.Template
import ServiceAtlas.Proofs.Traced
import ServiceAtlas.Usage

/-!
What the parameters of a usage line are: each comes from a token that can be read and has a declared
name, and no name comes twice.
-/

namespace ServiceAtlas.Usage
variable {s : Setting} {taken : List String}

/-- Where a required argument of this name travels. -/
def placementOf (s : Setting) (name : List Char) : Placement :=
  if UrlTemplate.mentions s.template name || bodiless.contains s.method then .path else .body

theorem value_place (name : List Char) : (place s name).value = placementOf s name := by
  unfold place placementOf
  by_cases hm : UrlTemplate.mentions s.template name = true
  · simp [hm]
  · by_cases hb : s.method ∈ bodiless
    · simp [hm, hb]
    · simp [hm, hb]

/-- The parameter that a token stands for. -/
def Token.parameter (s : Setting) : Token → Parameter
  | optional name => ⟨String.ofList name, .query, true⟩
  | required name => ⟨String.ofList name, placementOf s name, false⟩

theorem value_parameterOf (t : Token) : (parameterOf s t).value = t.parameter s := by
  cases t with
  | optional name => rfl
  | required name => simp [parameterOf, Token.parameter, value_place]

/-- The parameter of a token that can be read and whose name is declared. -/
def Declares (s : Setting) (token : List Char) (p : Parameter) : Prop :=
  ∃ t, readToken? token = some t ∧ p = t.parameter s ∧ s.knows p.name = true

theorem readParameter_some {token : List Char} {p : Parameter}
    (h : (readParameter s taken token).value = some p) : Declares s token p ∧ p.name ∉ taken := by
  unfold readParameter at h
  cases ht : readToken? token with
  | none => simp [ht] at h
  | some t =>
    simp only [ht, Noted.value_bind, value_parameterOf] at h
    split at h
    · simp at h
    · rename_i hk
      split at h
      · simp at h
      · rename_i hc
        obtain rfl : t.parameter s = p := by simpa using h
        exact ⟨⟨t, ht, rfl, by simpa using hk⟩, by simpa using hc⟩

theorem readParameters_declared {tokens : List (List Char)} {p : Parameter}
    (h : p ∈ (readParameters s taken tokens).value) : ∃ token ∈ tokens, Declares s token p := by
  induction tokens generalizing taken with
  | nil => simp [readParameters] at h
  | cons token rest ih =>
    simp only [readParameters, Noted.value_bind] at h
    cases hr : (readParameter s taken token).value with
    | none =>
      rw [hr] at h
      obtain ⟨other, hm, hd⟩ := ih h
      exact ⟨other, List.mem_cons_of_mem _ hm, hd⟩
    | some q =>
      simp only [hr, Noted.value_bind, Noted.value_pure] at h
      rcases List.mem_cons.mp h with rfl | h
      · exact ⟨token, List.mem_cons_self, (readParameter_some hr).1⟩
      · obtain ⟨other, hm, hd⟩ := ih h
        exact ⟨other, List.mem_cons_of_mem _ hm, hd⟩

/-- No name comes twice, and none that was taken before comes at all. -/
theorem readParameters_names (tokens : List (List Char)) :
    ((readParameters s taken tokens).value.map Parameter.name).Nodup ∧
      ∀ p ∈ (readParameters s taken tokens).value, p.name ∉ taken := by
  -- What is taken grows with every parameter that is read.
  induction tokens generalizing taken with
  | nil => simp [readParameters]
  | cons token rest ih =>
    simp only [readParameters, Noted.value_bind]
    cases hr : (readParameter s taken token).value with
    | none => exact ih
    | some q =>
      obtain ⟨hnodup, hfree⟩ := @ih (q.name :: taken)
      simp only [Noted.value_bind, Noted.value_pure, List.map_cons, List.nodup_cons, List.mem_map,
        List.forall_mem_cons]
      refine ⟨⟨?_, hnodup⟩, (readParameter_some hr).2, ?_⟩
      · rintro ⟨p, hp, he⟩
        exact hfree p hp (by simp [he])
      · intro p hp ht
        exact hfree p hp (List.mem_cons_of_mem _ ht)

theorem parameters_declared {usage : String} {p : Parameter} (h : p ∈ (parameters usage s).value) :
    ∃ token, Declares s token p := by
  obtain ⟨token, _, hd⟩ := readParameters_declared h
  exact ⟨token, hd⟩

theorem parameters_nodup (usage : String) (s : Setting) :
    ((parameters usage s).value.map Parameter.name).Nodup :=
  (readParameters_names _).1

/-- A name that a token was read to is not empty and has no bracket inside. -/
theorem isName_of_readToken? {token : List Char} {t : Token} (h : readToken? token = some t) :
    isName t.name = true := by
  unfold readToken? at h
  cases hsquare : within? '[' ']' token with
  | some inner =>
    simp only [hsquare] at h
    split at h
    · rename_i hn
      cases h
      exact hn
    · cases h
  | none =>
    simp only [hsquare] at h
    cases hangle : within? '<' '>' token with
    | none => simp [hangle] at h
    | some name =>
      simp only [hangle] at h
      split at h
      · rename_i hn
        cases h
        exact hn
      · cases h

theorem isName_ne_nil {cs : List Char} (h : isName cs = true) : cs ≠ [] := by
  rintro rfl
  cases h

theorem braceless_of_isName {cs : List Char} (h : isName cs = true) : UrlTemplate.Braceless cs := by
  intro c hc
  simp only [isName, Bool.and_eq_true, List.all_eq_true, Bool.not_eq_true'] at h
  have hb := h.2 c hc
  cases he : UrlTemplate.isBrace c with
  | false => rfl
  | true =>
    rcases UrlTemplate.isBrace_iff.mp he with rfl | rfl
    · exact absurd hb (by decide)
    · exact absurd hb (by decide)

variable {url method : String} {known : Option (List String)} {token : List Char} {p : Parameter}

/-- A parameter of the path is a placeholder of the URL, unless the method carries no body. -/
theorem Declares.mem_placeholders (h : Declares (.make url method known) token p)
    (hp : p.placement = .path) (hm : Text.upper method ∉ bodiless) :
    p.name ∈ UrlTemplate.placeholders url := by
  obtain ⟨t, ht, rfl, _⟩ := h
  cases t with
  | optional name => cases hp
  | required name =>
    have hn := isName_of_readToken? ht
    refine (UrlTemplate.mem_placeholders_iff (isName_ne_nil hn) (braceless_of_isName hn)).mpr ?_
    cases hment : UrlTemplate.mentions (UrlTemplate.plain url) name with
    | true => exact hment
    | false => simp [Token.parameter, placementOf, Setting.make, hment, hm] at hp

/-- Nothing travels in the body where the method carries none. -/
theorem Declares.placement_ne_body (h : Declares (.make url method known) token p)
    (hm : Text.upper method ∈ bodiless) : p.placement ≠ .body := by
  obtain ⟨t, _, rfl, _⟩ := h
  cases t with
  | optional name => simp [Token.parameter]
  | required name => simp [Token.parameter, placementOf, Setting.make, hm]

end ServiceAtlas.Usage
