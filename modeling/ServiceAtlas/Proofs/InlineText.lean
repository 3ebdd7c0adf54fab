import ServiceAtlas.Proofs.PlainText
import ServiceAtlas.Proofs.QuotedText

/-!
Text on one line. Without line breaks in it and without folding, what is written of a text depends on no
place, moves a cursor along its line, and is seen as it is.
-/

namespace ServiceAtlas.Yaml
open Token

/-- What is written of a character between double quotes. -/
def escaped (ch : Char) : List Char := if isBare ch then [ch] else Yaml.escape ch

theorem doubleRest_unfolded (indent column : Nat) (first fresh : Bool) (cs : List Char) :
    doubleRest false indent column first fresh cs = cs.flatMap escaped := by
  induction cs generalizing column first fresh with
  | nil => rfl
  | cons ch cs ih =>
    rw [doubleRest, List.flatMap_cons, escaped]
    simp only [Bool.false_and, Bool.false_eq_true, if_false, ih]
    split_ifs <;> rfl

theorem breaks_notMem_runsOf {cs : List Char} (hall : cs.all isOrdinary = true)
    (h : ∀ ch ∈ cs, isBreak ch = false) (bs : List Char) : Run.breaks bs ∉ runsOf cs := by
  intro hm
  obtain ⟨hne, hbreak⟩ := sound_runsOf hall _ hm
  obtain ⟨b, rest, rfl⟩ := List.exists_cons_of_ne_nil hne
  have hmem : b ∈ Run.charsOf (runsOf cs) := by
    rw [Run.charsOf, List.mem_flatMap]
    exact ⟨_, hm, List.mem_cons_self⟩
  rw [charsOf_runsOf] at hmem
  cases (h b hmem).symm.trans (hbreak b List.mem_cons_self)

/-- Text that stands on one line is written character by character. -/
theorem textChars_unfolded {cs : List Char} (h : ∀ ch ∈ cs, isBreak ch = false) (indent column : Nat) :
    textChars false indent column cs =
      match TextStyle.of cs with
      | .plain => cs
      | .single => '\'' :: cs.flatMap doubleQuote ++ ['\'']
      | .double => '"' :: cs.flatMap escaped ++ ['"'] := by
  have hruns : ∀ {write : Char → List Char}, write ' ' = [' '] → allowsSingle cs = true →
      ∀ column, flowRuns write false indent column true (runsOf cs) = cs.flatMap write := by
    intro write hwrite hsingle column
    simp only [allowsSingle, Bool.and_eq_true] at hsingle
    rw [flowRuns_unfolded hwrite indent column true (breaks_notMem_runsOf hsingle.1.1 h), charsOf_runsOf]
  unfold textChars
  cases hstyle : TextStyle.of cs with
  | plain =>
    have hplain := allowsPlain_of_plain hstyle
    simp only [allowsPlain, Bool.and_eq_true] at hplain
    exact (hruns rfl hplain.1.1.1.1 column).trans (List.flatMap_singleton' cs)
  | single =>
    dsimp only
    rw [singleChars, hruns rfl (allowsSingle_of_single hstyle)]
  | double =>
    dsimp only
    rw [doubleChars, doubleRest_unfolded]

theorem steady_of_isBare {ch : Char} (h : isBare ch = true) : Steady ch := by
  by_cases hspace : ch = ' '
  · rw [hspace]
    exact steady_space
  · refine ⟨(solid_of_isBare h hspace).not_lineEnd, ?_⟩
    rintro rfl
    cases h

theorem isBare_hexChar {d : Nat} (h : d < 16) : isBare (Text.hexChar true d) = true := by
  have hall : ∀ d < 16, isBare (Text.hexChar true d) = true := by decide
  exact hall d h

theorem isBare_of_mem_hex {width n : Nat} {ch : Char} (h : ch ∈ Text.hex true width n) :
    isBare ch = true := by
  induction width generalizing n with
  | zero => cases h
  | succ width ih =>
    rw [Text.hex, List.mem_append, List.mem_singleton] at h
    rcases h with h | rfl
    · exact ih h
    · exact isBare_hexChar (Nat.mod_lt _ (by decide))

/-- What is written between double quotes is made of characters that may stand there as they are, of
quotes and of backslashes. -/
theorem mem_escape {ch d : Char} (h : d ∈ Yaml.escape ch) : isBare d = true ∨ d = '"' ∨ d = '\\' := by
  unfold Yaml.escape at h
  split at h
  · next letter hletter =>
    have hall : ∀ e ∈ escapeLetters, isBare e.2 = true ∨ e.2 = '"' ∨ e.2 = '\\' := by decide
    obtain ⟨before, behind, heq, _⟩ := List.lookup_eq_some_iff.mp hletter
    rcases List.mem_cons.mp h with rfl | h
    · exact .inr (.inr rfl)
    · obtain rfl := List.mem_singleton.mp h
      exact hall (ch, d) (by rw [heq]; simp)
  · dsimp only at h
    have hhex : ∀ {letter : Char} {width n : Nat}, isBare letter = true →
        d ∈ '\\' :: letter :: Text.hex true width n → isBare d = true ∨ d = '"' ∨ d = '\\' := by
      intro letter width n hletter hd
      rcases List.mem_cons.mp hd with rfl | hd
      · exact .inr (.inr rfl)
      · rcases List.mem_cons.mp hd with rfl | hd
        · exact .inl hletter
        · exact .inl (isBare_of_mem_hex hd)
    split_ifs at h
    · exact hhex rfl h
    · exact hhex rfl h
    · exact hhex rfl h

theorem steady_of_mem_escaped {ch d : Char} (h : d ∈ escaped ch) : Steady d := by
  unfold escaped at h
  split_ifs at h with hbare
  · obtain rfl := List.mem_singleton.mp h
    exact steady_of_isBare hbare
  · rcases mem_escape h with hd | rfl | rfl
    · exact steady_of_isBare hd
    · exact ⟨rfl, by decide⟩
    · exact ⟨rfl, by decide⟩

theorem steady_of_isOrdinary {ch : Char} (h : isOrdinary ch = true) (hbreak : isBreak ch = false) :
    Steady ch := by
  by_cases hspace : ch = ' '
  · rw [hspace]
    exact steady_space
  · exact steady_of_solid h (solid_of_isOrdinary h (by simp [isSpace, hspace]) hbreak)

theorem isOrdinary_of_allowsSingle {cs : List Char} (h : allowsSingle cs = true) :
    ∀ ch ∈ cs, isOrdinary ch = true := by
  simp only [allowsSingle, Bool.and_eq_true] at h
  exact List.all_eq_true.mp h.1.1

theorem allowsSingle_of_allowsPlain {cs : List Char} (h : allowsPlain cs = true) :
    allowsSingle cs = true := by
  simp only [allowsPlain, Bool.and_eq_true] at h
  exact h.1.1.1.1

/-- Text on one line moves a cursor along that line. -/
theorem steady_textChars {cs : List Char} (h : ∀ ch ∈ cs, isBreak ch = false) (indent column : Nat) :
    ∀ ch ∈ textChars false indent column cs, Steady ch := by
  rw [textChars_unfolded h]
  cases hstyle : TextStyle.of cs with
  | plain =>
    intro ch hch
    have hsingle := allowsSingle_of_allowsPlain (allowsPlain_of_plain hstyle)
    exact steady_of_isOrdinary (isOrdinary_of_allowsSingle hsingle ch hch) (h ch hch)
  | single =>
    have hsingle := allowsSingle_of_single hstyle
    have hquote : Steady '\'' := ⟨rfl, by decide⟩
    intro ch hch
    simp only [List.cons_append, List.mem_cons, List.mem_append, List.mem_flatMap, List.not_mem_nil,
      or_false] at hch
    rcases hch with rfl | ⟨d, hd, hch⟩ | rfl
    · exact hquote
    · have hdsteady := steady_of_isOrdinary (isOrdinary_of_allowsSingle hsingle d hd) (h d hd)
      unfold doubleQuote at hch
      split_ifs at hch
      · simp only [List.mem_cons, List.not_mem_nil, or_false, or_self] at hch
        exact hch ▸ hquote
      · exact List.mem_singleton.mp hch ▸ hdsteady
    · exact hquote
  | double =>
    have hquote : Steady '"' := ⟨rfl, by decide⟩
    intro ch hch
    simp only [List.cons_append, List.mem_cons, List.mem_append, List.mem_flatMap, List.not_mem_nil,
      or_false] at hch
    rcases hch with rfl | ⟨d, hd, hch⟩ | rfl
    · exact hquote
    · exact steady_of_mem_escaped hch
    · exact hquote

theorem not_isBreak_of_isShortKey {cs : List Char} (h : isShortKey cs = true) :
    ∀ ch ∈ cs, isBreak ch = false := by
  simp only [isShortKey, Bool.and_eq_true, Bool.not_eq_true'] at h
  simpa using h.2

/-- What is written of a short key is the same everywhere. -/
theorem textChars_shortKey {cs : List Char} (h : isShortKey cs = true) (indent column : Nat) :
    textChars false indent column cs = textChars false 0 0 cs := by
  rw [textChars_unfolded (not_isBreak_of_isShortKey h), textChars_unfolded (not_isBreak_of_isShortKey h)]

end ServiceAtlas.Yaml
