/-!
Blank characters, trimming, and the words of a line.
-/

namespace ServiceAtlas.Text

/-- A character of any script that stands for white space. -/
def isBlank (c : Char) : Bool :=
  let n := c.toNat
  (0x9 ≤ n && n ≤ 0xD) || (0x1C ≤ n && n ≤ 0x20) || n == 0x85 || n == 0xA0 || n == 0x1680 ||
    (0x2000 ≤ n && n ≤ 0x200A) || n == 0x2028 || n == 0x2029 || n == 0x202F || n == 0x205F ||
    n == 0x3000

def trimLeft (cs : List Char) : List Char := cs.dropWhile isBlank

def trimRight (cs : List Char) : List Char := (cs.reverse.dropWhile isBlank).reverse

def trim (cs : List Char) : List Char := trimRight (trimLeft cs)

/-- The pieces between the characters that `stop` holds of; always one more than there are such
characters. -/
def pieces (stop : Char → Bool) : List Char → List (List Char)
  | [] => [[]]
  | c :: cs =>
    if stop c then [] :: pieces stop cs
    else match pieces stop cs with
      | [] => [[c]]
      | p :: ps => (c :: p) :: ps

/-- The longest runs of characters that are not blank. -/
def words (cs : List Char) : List (List Char) := (pieces isBlank cs).filter (· ≠ [])

/-- The text without blanks at its two ends. -/
def strip (s : String) : String := String.ofList (trim s.toList)

def wordsOf (s : String) : List String := (words s.toList).map String.ofList

/-- Whether the text is empty or holds only blanks. -/
def isBlankText (s : String) : Bool := s.toList.all isBlank

theorem pieces_ne_nil (stop : Char → Bool) (cs : List Char) : pieces stop cs ≠ [] := by
  cases cs with
  | nil => simp [pieces]
  | cons c cs =>
    unfold pieces
    split
    · simp
    · split <;> simp

/-- A character that is stopped at ends the piece before it. -/
theorem pieces_append_cons {stop : Char → Bool} {c : Char} (hc : stop c = true)
    (before behind : List Char) :
    pieces stop (before ++ c :: behind) = pieces stop before ++ pieces stop behind := by
  induction before with
  | nil => simp [pieces, hc]
  | cons d before ih =>
    simp only [List.cons_append, pieces, ih]
    split
    · rfl
    · cases h : pieces stop before with
      | nil => exact absurd h (pieces_ne_nil stop before)
      | cons p ps => rfl

theorem pieces_of_none {stop : Char → Bool} {cs : List Char} (h : ∀ c ∈ cs, stop c = false) :
    pieces stop cs = [cs] := by
  induction cs with
  | nil => rfl
  | cons c cs ih =>
    have hrest := ih fun d hd => h d (List.mem_cons_of_mem _ hd)
    simp [pieces, h c List.mem_cons_self, hrest]

/-- The words stand in the text in this order, each as long as can be, and all else in it is blank. -/
inductive Spaced : List (List Char) → List Char → Prop
  | nil : Spaced [] []
  | blank {words : List (List Char)} {c : Char} {cs : List Char} (hc : isBlank c = true)
    (h : Spaced words cs) : Spaced words (c :: cs)
  | word {words : List (List Char)} {word cs : List Char} (hne : word ≠ [])
    (hword : ∀ c ∈ word, isBlank c = false) (hends : ∀ c ∈ cs.head?, isBlank c = true)
    (h : Spaced words cs) : Spaced (word :: words) (word ++ cs)

theorem words_nil : words [] = [] := rfl

theorem words_cons_blank {c : Char} (hc : isBlank c = true) (cs : List Char) :
    words (c :: cs) = words cs := by
  simp [words, pieces, hc]

theorem words_append {word cs : List Char} (hne : word ≠ []) (hword : ∀ c ∈ word, isBlank c = false)
    (hends : ∀ c ∈ cs.head?, isBlank c = true) : words (word ++ cs) = word :: words cs := by
  cases cs with
  | nil => simp [words, pieces_of_none hword, pieces, hne]
  | cons c cs =>
    have hc : isBlank c = true := hends c rfl
    rw [words_cons_blank hc]
    simp [words, pieces_append_cons hc, pieces_of_none hword, hne]

theorem Spaced.words_eq {ws : List (List Char)} {cs : List Char} (h : Spaced ws cs) :
    words cs = ws := by
  induction h with
  | nil => exact words_nil
  | blank hc _ ih => rw [words_cons_blank hc, ih]
  | word hne hword hends _ ih => rw [words_append hne hword hends, ih]

/-- A character in front begins a word of its own or makes the first one longer. -/
theorem Spaced.cons {ws : List (List Char)} {cs : List Char} (h : Spaced ws cs) (c : Char) :
    ∃ others, Spaced others (c :: cs) := by
  by_cases hc : isBlank c = true
  · exact ⟨ws, .blank hc h⟩
  · have hsolid : ∀ d ∈ [c], isBlank d = false := by simpa using hc
    cases h with
    | nil => exact ⟨_, .word (List.cons_ne_nil c []) hsolid nofun .nil⟩
    | blank hd h =>
      refine ⟨_, .word (List.cons_ne_nil c []) hsolid ?_ (.blank hd h)⟩
      simpa using hd
    | word hne hword hends h =>
      exact ⟨_, .word (List.cons_ne_nil c _)
        (List.forall_mem_cons.mpr ⟨hsolid c List.mem_cons_self, hword⟩) hends h⟩

/-- Every text is spaced by its words, and by no others. -/
theorem words_eq_iff {ws : List (List Char)} {cs : List Char} : words cs = ws ↔ Spaced ws cs := by
  refine ⟨?_, Spaced.words_eq⟩
  rintro rfl
  obtain ⟨others, h⟩ : ∃ others, Spaced others cs := by
    induction cs with
    | nil => exact ⟨[], .nil⟩
    | cons c cs ih =>
      obtain ⟨_, h⟩ := ih
      exact h.cons c
  rwa [h.words_eq]

theorem isBlank_of_isWhitespace {c : Char} (h : c.isWhitespace) : isBlank c := by
  simp only [Char.isWhitespace, Bool.or_eq_true, decide_eq_true_eq] at h
  rcases h with ((h | h) | h) | h <;> subst h <;> decide

end ServiceAtlas.Text
