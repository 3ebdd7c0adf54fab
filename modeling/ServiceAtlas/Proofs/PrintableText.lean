import ServiceAtlas.Proofs.InlineText
import ServiceAtlas.Proofs.SeenValues

/-!
Whatever a value holds, its document is made of characters that a reader accepts.
-/

namespace ServiceAtlas.Yaml
open Token

/-! ### Texts -/

theorem isPrintable_of_isOrdinary {ch : Char} (h : isOrdinary ch = true) : isPrintable ch = true := by
  simp only [isOrdinary, isPrintable, Bool.or_eq_true, Bool.and_eq_true, decide_eq_true_eq, beq_iff_eq] at *
  rcases h with ((((rfl | h) | h) | h) | h) | h
  · decide
  all_goals tauto

theorem isPrintable_of_isBare {ch : Char} (h : isBare ch = true) : isPrintable ch = true := by
  simp only [isBare, isPrintable, Bool.or_eq_true, Bool.and_eq_true, decide_eq_true_eq, beq_iff_eq] at *
  tauto

theorem printable_spaces (n : Nat) : (spaces n).all isPrintable = true := by
  rw [List.all_eq_true]
  intro ch hch
  rw [mem_spaces hch]
  decide

theorem printable_escape (ch : Char) : (Yaml.escape ch).all isPrintable = true := by
  rw [List.all_eq_true]
  intro d hd
  rcases mem_escape hd with hbare | rfl | rfl
  · exact isPrintable_of_isBare hbare
  · decide
  · decide

theorem printable_of_laid {write : Char → List Char} {indent : Nat} {runs : List Run} {out : List Char}
    (h : Laid write indent runs out) (hruns : ∀ ch ∈ Run.charsOf runs, isPrintable ch = true ∧
      (write ch).all isPrintable = true) : out.all isPrintable = true := by
  have hnewline : isPrintable '\n' = true := by decide
  induction h with
  | nil => rfl
  | @word cs _ _ _ ih =>
    simp only [Run.charsOf_cons, Run.chars, List.forall_mem_append] at hruns
    have hword : (cs.flatMap write).all isPrintable = true := by
      rw [List.all_flatMap, List.all_eq_true]
      exact fun ch hch => (hruns.1 ch hch).2
    rw [List.all_append, hword, ih hruns.2, Bool.and_self]
  | blank _ ih =>
    simp only [Run.charsOf_cons, Run.chars, List.forall_mem_append] at hruns
    rw [List.all_append, printable_spaces, ih hruns.2, Bool.and_self]
  | fold _ _ ih =>
    simp only [Run.charsOf_cons, Run.chars, List.forall_mem_append] at hruns
    simp [hnewline, printable_spaces, ih hruns.2]
  | @breaks cs _ _ _ ih =>
    simp only [Run.charsOf_cons, Run.chars, List.forall_mem_append] at hruns
    have hbreaks : cs.all isPrintable = true := List.all_eq_true.mpr fun ch hch => (hruns.1 ch hch).1
    have hwritten : (writtenBreaks cs).all isPrintable = true := by
      unfold writtenBreaks
      split_ifs <;> simp [hnewline, hbreaks]
    rw [List.all_append, List.all_append, hwritten, printable_spaces, ih hruns.2, Bool.and_self,
      Bool.and_self]

theorem printable_of_escaped {indent : Nat} {seen out : List Char} (h : Escaped indent seen out) :
    out.all isPrintable = true := by
  have hmarks : isPrintable '\\' = true ∧ isPrintable '\n' = true ∧ isPrintable ' ' = true := by decide
  obtain ⟨hslash, hnewline, hspace⟩ := hmarks
  induction h with
  | nil => rfl
  | bare hbare _ ih => rw [List.all_cons, isPrintable_of_isBare hbare, ih, Bool.and_self]
  | escape _ _ ih => rw [List.all_append, printable_escape, ih, Bool.and_self]
  | broken _ _ ih => simp [hslash, hnewline, printable_spaces, ih]
  | kept _ ih => simp [hslash, hnewline, hspace, printable_spaces, ih]
  | overrun _ ih => simp [hslash, hnewline, hspace, printable_spaces, ih]

theorem printable_textChars {indent column : Nat} (hcolumn : indent ≤ column) (fold : Bool)
    (cs : List Char) : (textChars fold indent column cs).all isPrintable = true := by
  have hordinary : allowsSingle cs = true → ∀ ch ∈ Run.charsOf (runsOf cs), isPrintable ch = true := by
    intro hsingle ch hch
    rw [charsOf_runsOf] at hch
    exact isPrintable_of_isOrdinary (isOrdinary_of_allowsSingle hsingle ch hch)
  have hquotes : isPrintable '\'' = true ∧ isPrintable '"' = true := by decide
  unfold textChars
  cases hstyle : TextStyle.of cs with
  | plain =>
    have hsingle := allowsSingle_of_allowsPlain (allowsPlain_of_plain hstyle)
    refine printable_of_laid (laid_flowRuns _ fold indent column true (runsOf cs)) fun ch hch => ?_
    have hprint := hordinary hsingle ch hch
    exact ⟨hprint, by simpa using hprint⟩
  | single =>
    have hflow : (flowRuns doubleQuote fold indent (column + 1) true (runsOf cs)).all isPrintable = true := by
      refine printable_of_laid (laid_flowRuns _ fold indent (column + 1) true (runsOf cs)) fun ch hch => ?_
      have hprint := hordinary (allowsSingle_of_single hstyle) ch hch
      refine ⟨hprint, ?_⟩
      unfold doubleQuote
      split_ifs with hquote
      · simpa [hquote] using hprint
      · simpa using hprint
    simp only [singleChars, List.all_append, List.all_cons, List.all_nil, hquotes.1, hflow, Bool.and_self]
  | double =>
    have hrest := printable_of_escaped
      (escaped_doubleRest fold indent cs (column + 1) true false (by omega))
    simp only [doubleChars, List.all_append, List.all_cons, List.all_nil, hquotes.2, hrest, Bool.and_self]

/-! ### Values -/

theorem printable_keyLine (indent : Nat) (name : List Char) :
    (keyLine indent name).written.all isPrintable = true := by
  have hmarks : isPrintable '?' = true ∧ isPrintable ' ' = true ∧ isPrintable '\n' = true ∧
      isPrintable ':' = true := by decide
  unfold keyLine
  split_ifs with hshort
  · rw [textChars_shortKey hshort, ← textChars_shortKey hshort (indent + 2) (indent + 2)]
    simp [printable_textChars, hmarks]
  · simp [printable_textChars, printable_spaces, hmarks]

theorem printable_opening (spot : Spot) (indent : Nat) : (spot.opening indent).all isPrintable = true := by
  have hmarks : isPrintable ' ' = true ∧ isPrintable '\n' = true := by decide
  cases spot <;> simp [Spot.opening, hmarks, printable_spaces]

theorem printable_gap (spot : Spot) : spot.gap.all isPrintable = true := by
  cases spot <;> decide

theorem printable_intChars (n : Int) : (Text.intChars n).all isPrintable = true :=
  List.all_eq_true.mpr fun ch hch => isPrintable_of_isOrdinary ((plainWord_intChars n).ordinary ch hch)

mutual
theorem printable_chars {spot : Spot} (hspot : spot ≠ .root) {indent column : Nat}
    (hplace : indent < column) :
    ∀ {v : Value}, v.FloatFree → (chars spot indent column v).all isPrintable = true
  | .null, _ => by
    rw [chars, List.all_append, printable_gap]
    rfl
  | .bool b, _ => by
    rw [chars, List.all_append, printable_gap]
    cases b <;> decide
  | .int n, _ => by rw [chars, List.all_append, printable_gap, printable_intChars, Bool.and_self]
  | .float _, hf => hf.elim
  | .text s, _ => by
    have hgap : spot.gap = [' '] := if_neg hspot
    rw [chars, hgap, List.all_append, printable_textChars (by simp; omega)]
    rfl
  | .list [], _ => by
    rw [chars, List.all_append, printable_gap]
    decide
  | .object [], _ => by
    rw [chars, List.all_append, printable_gap]
    decide
  | .list (v :: vs), hf => by
    have hmark : isPrintable '-' = true := by decide
    simp only [chars, List.all_append, List.all_cons, printable_opening, hmark,
      printable_chars (show Spot.item ≠ .root by simp) (Nat.lt_add_one _) hf.1,
      printable_charsOfItems hf.2, Bool.and_self]
  | .object ((name, v) :: fields), hf => by
    obtain ⟨hkey, hbehind, _⟩ := spot_keyLine (spot.tableIndent indent) name.toList
    simp only [chars, List.all_append, printable_opening, printable_keyLine,
      printable_chars hkey hbehind hf.1, printable_charsOfEntries hf.2, Bool.and_self]

theorem printable_charsOfItems {indent : Nat} :
    ∀ {vs : List Value}, Value.FloatFreeItems vs → (charsOfItems indent vs).all isPrintable = true
  | [], _ => rfl
  | v :: vs, hf => by
    have hmarks : isPrintable '\n' = true ∧ isPrintable '-' = true := by decide
    simp only [charsOfItems, List.all_append, List.all_cons, printable_spaces, hmarks,
      printable_chars (show Spot.item ≠ .root by simp) (Nat.lt_add_one _) hf.1,
      printable_charsOfItems hf.2, Bool.and_self]

theorem printable_charsOfEntries {indent : Nat} : ∀ {fields : List (String × Value)},
    Value.FloatFreeFields fields → (charsOfEntries indent fields).all isPrintable = true
  | [], _ => rfl
  | (name, v) :: fields, hf => by
    have hmark : isPrintable '\n' = true := by decide
    obtain ⟨hkey, hbehind, _⟩ := spot_keyLine indent name.toList
    simp only [charsOfEntries, List.all_append, List.all_cons, printable_spaces, hmark,
      printable_keyLine, printable_chars hkey hbehind hf.1, printable_charsOfEntries hf.2, Bool.and_self]
end

end ServiceAtlas.Yaml
