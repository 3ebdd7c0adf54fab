import Mathlib.Computability.Language
import ServiceAtlas.Text.Pattern

/-!
The texts that a pattern matches. Matching one character at a time finds exactly the language that the
pattern stands for.
-/

namespace ServiceAtlas.Text.Pattern
open Computability

/-- The texts of one character. -/
def ones (test : Char → Bool) : Language Char := {cs | ∃ c, test c = true ∧ cs = [c]}

/-- The language of a pattern. -/
def language : Pattern → Language Char
  | never => 0
  | empty => 1
  | one test => ones test
  | both p q => p.language * q.language
  | either p q => p.language + q.language
  | many p => p.language∗

theorem mem_one {test : Char → Bool} {cs : List Char} :
    cs ∈ (one test).language ↔ ∃ c, test c = true ∧ cs = [c] := Iff.rfl

theorem mem_both {p q : Pattern} {cs : List Char} :
    cs ∈ (both p q).language ↔ ∃ as ∈ p.language, ∃ bs ∈ q.language, as ++ bs = cs :=
  Language.mem_mul

theorem mem_either {p q : Pattern} {cs : List Char} :
    cs ∈ (either p q).language ↔ cs ∈ p.language ∨ cs ∈ q.language := Iff.rfl

/-! ### One character -/

theorem matchesEmpty_iff (p : Pattern) : p.matchesEmpty = true ↔ [] ∈ p.language := by
  induction p with
  | never => simp [matchesEmpty, language]
  | empty => simp [matchesEmpty, language]
  | one test => simp [matchesEmpty, mem_one]
  | both p q hp hq => simp [matchesEmpty, hp, hq, mem_both]
  | either p q hp hq => simp [matchesEmpty, hp, hq, mem_either]
  | many p _ => simp [matchesEmpty, language, Language.nil_mem_kstar]

theorem language_joined (p q : Pattern) : (joined p q).language = p.language * q.language := by
  cases p <;> simp [joined, language]

theorem language_united (p q : Pattern) : (united p q).language = p.language + q.language := by
  cases p <;> cases q <;> simp [united, language]

theorem cons_mem_mul {a b : Language Char} {c : Char} {cs : List Char} :
    c :: cs ∈ a * b ↔
      (∃ as, c :: as ∈ a ∧ ∃ bs ∈ b, as ++ bs = cs) ∨ [] ∈ a ∧ c :: cs ∈ b := by
  rw [Language.mem_mul]
  constructor
  · rintro ⟨as, ha, bs, hb, heq⟩
    cases as with
    | nil => exact .inr ⟨ha, by rwa [← heq]⟩
    | cons d as =>
      obtain ⟨rfl, hcs⟩ := List.cons.inj heq
      exact .inl ⟨as, ha, bs, hb, hcs⟩
  · rintro (⟨as, ha, bs, hb, rfl⟩ | ⟨ha, hb⟩)
    · exact ⟨c :: as, ha, bs, hb, rfl⟩
    · exact ⟨[], ha, c :: cs, hb, rfl⟩

theorem cons_mem_kstar {a : Language Char} {c : Char} {cs : List Char} :
    c :: cs ∈ a∗ ↔ ∃ as, c :: as ∈ a ∧ ∃ bs ∈ a∗, as ++ bs = cs := by
  constructor
  · rw [Language.mem_kstar_iff_exists_nonempty]
    rintro ⟨parts, heq, hparts⟩
    cases parts with
    | nil => cases heq
    | cons first rest =>
      obtain ⟨hfirst, hne⟩ := hparts first List.mem_cons_self
      obtain ⟨d, as, rfl⟩ := List.exists_cons_of_ne_nil hne
      obtain ⟨rfl, hcs⟩ := List.cons.inj heq
      exact ⟨as, hfirst, rest.flatten,
        Language.join_mem_kstar fun w hw => (hparts w (List.mem_cons_of_mem _ hw)).1, hcs.symm⟩
  · rintro ⟨as, ha, bs, hb, rfl⟩
    obtain ⟨parts, rfl, hparts⟩ := hb
    exact ⟨(c :: as) :: parts, rfl, by
      simpa using ⟨ha, hparts⟩⟩

theorem mem_after (p : Pattern) (c : Char) (cs : List Char) :
    cs ∈ (p.after c).language ↔ c :: cs ∈ p.language := by
  induction p generalizing cs with
  | never => simp [after, language]
  | empty => simp [after, language]
  | one test =>
    unfold after
    rw [mem_one]
    split_ifs with h
    · simp [language, h]
    · simp [language, h]
  | both p q hp hq =>
    rw [language, cons_mem_mul, ← matchesEmpty_iff]
    unfold after
    split_ifs with h
    · rw [language_united, language_joined, Language.mem_add, Language.mem_mul]
      simp [hp, hq, h]
    · rw [language_joined, Language.mem_mul]
      simp [hp, h]
  | either p q hp hq => rw [after, language_united, Language.mem_add, hp, hq, mem_either]
  | many p hp =>
    rw [after, language_joined, language, cons_mem_kstar, Language.mem_mul]
    simp [hp]

/-- A pattern covers exactly the texts of its language. -/
theorem covers_iff {p : Pattern} {cs : List Char} : p.covers cs = true ↔ cs ∈ p.language := by
  induction cs generalizing p with
  | nil => exact matchesEmpty_iff p
  | cons c cs ih => rw [covers, ih, mem_after]

/-! ### A character that every match holds -/

/-- Every text that the pattern matches holds this character. -/
def Holds (c : Char) (p : Pattern) : Prop := ∀ cs ∈ p.language, c ∈ cs

theorem holds_char (c : Char) : Holds c (char c) := by
  rintro cs ⟨d, hd, rfl⟩
  simpa [eq_comm] using hd

theorem Holds.left {c : Char} {p : Pattern} (h : Holds c p) (q : Pattern) : Holds c (both p q) := by
  intro cs hcs
  obtain ⟨as, ha, bs, _, rfl⟩ := mem_both.mp hcs
  exact List.mem_append_left _ (h as ha)

theorem Holds.right {c : Char} {q : Pattern} (h : Holds c q) (p : Pattern) : Holds c (both p q) := by
  intro cs hcs
  obtain ⟨as, _, bs, hb, rfl⟩ := mem_both.mp hcs
  exact List.mem_append_right _ (h bs hb)

theorem Holds.either {c : Char} {p q : Pattern} (hp : Holds c p) (hq : Holds c q) :
    Holds c (either p q) := by
  rintro cs (hcs | hcs)
  · exact hp cs hcs
  · exact hq cs hcs

theorem holds_never (c : Char) : Holds c never := by
  rintro cs ⟨⟩

/-! ### Texts made of parts -/

theorem append_mem_both {p q : Pattern} {as bs : List Char} (hp : as ∈ p.language)
    (hq : bs ∈ q.language) : as ++ bs ∈ (both p q).language :=
  mem_both.mpr ⟨as, hp, bs, hq, rfl⟩

theorem nil_mem_maybe (p : Pattern) : [] ∈ (maybe p).language := .inr rfl

theorem mem_many_one {test : Char → Bool} {cs : List Char} (h : ∀ c ∈ cs, test c = true) :
    cs ∈ (many (one test)).language := by
  rw [language, Language.mem_kstar]
  refine ⟨cs.map fun c => [c], (List.flatMap_singleton' cs).symm, fun w hw => ?_⟩
  obtain ⟨c, hc, rfl⟩ := List.mem_map.mp hw
  exact ⟨c, h c hc, rfl⟩

end ServiceAtlas.Text.Pattern
