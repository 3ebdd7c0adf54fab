/-!
Finding and replacing inside text.
-/

namespace ServiceAtlas.Text

/-- What follows `lead`, if the text begins with it. -/
def after? (lead : List Char) (cs : List Char) : Option (List Char) :=
  match lead, cs with
  | [], cs => some cs
  | _ :: _, [] => none
  | l :: lead, c :: cs => if l = c then after? lead cs else none

def startsWith (s lead : String) : Bool := (after? lead.toList s.toList).isSome

def endsWith (s tail : String) : Bool := (after? tail.toList.reverse s.toList.reverse).isSome

/-- Whether `pattern` stands somewhere in the text. -/
def occurs (pattern : List Char) : List Char → Bool
  | [] => pattern.isEmpty
  | c :: cs => (after? pattern (c :: cs)).isSome || occurs pattern cs

/-- The texts joined, with `between` standing between each two. -/
def join (between : String) (parts : List String) : String :=
  match parts with
  | [] => ""
  | [p] => p
  | p :: rest => p ++ between ++ join between rest

def without (c : Char) (cs : List Char) : List Char := cs.filter (· ≠ c)

theorem after?_eq_some_iff {lead cs rest : List Char} :
    after? lead cs = some rest ↔ cs = lead ++ rest := by
  induction lead generalizing cs with
  | nil => simp [after?]
  | cons l lead ih =>
    cases cs with
    | nil => simp [after?]
    | cons c cs =>
      by_cases h : l = c
      · simp [after?, h, ih]
      · simp [after?, h, Ne.symm h]

theorem length_of_after? {lead cs rest : List Char} (h : after? lead cs = some rest) :
    cs.length = lead.length + rest.length := by
  rw [after?_eq_some_iff.1 h, List.length_append]

theorem occurs_iff {pattern cs : List Char} :
    occurs pattern cs ↔ ∃ before after, cs = before ++ pattern ++ after := by
  induction cs with
  | nil =>
    constructor
    · intro h
      exact ⟨[], [], by simpa [occurs] using h⟩
    · rintro ⟨before, after, h⟩
      obtain ⟨rfl, rfl⟩ : before = [] ∧ pattern = [] := by
        cases before <;> cases pattern <;> simp_all
      rfl
  | cons c cs ih =>
    simp only [occurs, Bool.or_eq_true, ih]
    constructor
    · rintro (h | ⟨before, after, h⟩)
      · obtain ⟨rest, hr⟩ := Option.isSome_iff_exists.1 h
        exact ⟨[], rest, by simpa using after?_eq_some_iff.1 hr⟩
      · exact ⟨c :: before, after, by simp [h]⟩
    · rintro ⟨before, after, h⟩
      cases before with
      | nil =>
        left
        exact Option.isSome_iff_exists.2 ⟨after, after?_eq_some_iff.2 (by simpa using h)⟩
      | cons b before =>
        right
        simp only [List.cons_append, List.cons.injEq] at h
        exact ⟨before, after, h.2⟩

end ServiceAtlas.Text
