import ServiceAtlas.Proofs.TextLayout

/-!
Plain text read. It stands in words with blanks between them, some of which are folded; the reader joins
the words again, up to a colon or to a line that stands no deeper than what holds the text.
-/

namespace ServiceAtlas.Yaml.Token
open Cursor

/-! ### Words -/

/-- A word that reads back as it is, wherever it stands in plain text. -/
structure PlainWord (w : List Char) : Prop where
  ne_nil : w ≠ []
  ordinary : ∀ ch ∈ w, isOrdinary ch = true
  solid : ∀ ch ∈ w, Solid ch
  last : w.getLast? ≠ some ':'
  first : w.head? ≠ some '#'

/-- What ends a word of plain text. -/
def EndsWord : List Char → Prop
  | [] => True
  | ch :: rest => isGap ch = true ∨ ch = ':' ∧ gapNext rest = true

theorem steady_of_solid {ch : Char} (h : isOrdinary ch = true) (hsolid : Solid ch) : Steady ch := by
  refine ⟨hsolid.not_lineEnd, ?_⟩
  rintro rfl
  cases h

theorem PlainWord.steady {w : List Char} (h : PlainWord w) : ∀ ch ∈ w, Steady ch := fun ch hch =>
  steady_of_solid (h.ordinary ch hch) (h.solid ch hch)

theorem plainWord_of_ends {rest : List Char} (h : EndsWord rest) : plainWord false rest = [] := by
  cases rest with
  | nil => rfl
  | cons ch rest =>
    rcases h with hgap | ⟨rfl, hgap⟩
    · simp [plainWord, hgap]
    · simp [plainWord, hgap]

theorem plainWord_append {w rest : List Char} (hsolid : ∀ ch ∈ w, Solid ch)
    (hlast : w.getLast? ≠ some ':') (hrest : EndsWord rest) : plainWord false (w ++ rest) = w := by
  induction w with
  | nil => exact plainWord_of_ends hrest
  | cons ch w ih =>
    rw [List.forall_mem_cons] at hsolid
    have hgap : isGap ch = false := hsolid.1
    cases w with
    | nil =>
      have hcolon : ch ≠ ':' := by simpa using hlast
      simp [plainWord, hgap, hcolon, plainWord_of_ends hrest]
    | cons d w =>
      have hnext : gapNext (d :: (w ++ rest)) = false := hsolid.2 d List.mem_cons_self
      have hw := ih hsolid.2 (by simpa using hlast)
      simp only [List.cons_append] at hw ⊢
      rw [plainWord, hw]
      simp [hgap, hnext]

/-! ### Text in words -/

/-- Plain text and what is written of it. -/
inductive Lines (indent : Nat) : List Char → List Char → Prop
  | word {w : List Char} : PlainWord w → Lines indent w w
  | blank {n : Nat} {w cs out : List Char} : PlainWord w → 0 < n → Lines indent cs out →
      Lines indent (w ++ (spaces n ++ cs)) (w ++ (spaces n ++ out))
  | fold {w cs out : List Char} : PlainWord w → Lines indent cs out →
      Lines indent (w ++ ' ' :: cs) (w ++ '\n' :: (spaces indent ++ out))

/-- A word in a text that holds no markup, with what follows it. -/
theorem holdsMarkup_word {w rest : List Char} (hne : w ≠ []) (hsolid : ∀ ch ∈ w, Solid ch)
    (hrest : gapNext rest = true) {behindGap : Bool}
    (h : holdsMarkup behindGap (w ++ rest) = false) :
    w.getLast? ≠ some ':' ∧ (behindGap = true → w.head? ≠ some '#') ∧
      holdsMarkup false rest = false := by
  induction w generalizing behindGap with
  | nil => exact absurd rfl hne
  | cons ch w ih =>
    rw [List.forall_mem_cons] at hsolid
    have hgap : isGap ch = false := hsolid.1
    simp only [List.cons_append, holdsMarkup, hgap, Bool.or_eq_false_iff, Bool.and_eq_false_iff,
      decide_eq_false_iff_not] at h
    obtain ⟨⟨hcolon, hhash⟩, hmore⟩ := h
    have hfirst : behindGap = true → (ch :: w).head? ≠ some '#' := by
      intro hbehind he
      rcases hhash with hf | hf
      · exact hf (by simpa using he)
      · rw [hbehind] at hf
        cases hf
    cases w with
    | nil =>
      refine ⟨?_, hfirst, hmore⟩
      rcases hcolon with hf | hf
      · simpa using hf
      · rw [List.nil_append, hrest] at hf
        cases hf
    | cons d w =>
      obtain ⟨hlast, _, hdone⟩ := ih (List.cons_ne_nil _ _) hsolid.2 hmore
      exact ⟨by simpa using hlast, hfirst, hdone⟩

theorem holdsMarkup_spaces {n : Nat} (hn : 0 < n) {rest : List Char} {behindGap : Bool}
    (h : holdsMarkup behindGap (spaces n ++ rest) = false) : holdsMarkup true rest = false := by
  induction n generalizing behindGap with
  | zero => exact absurd hn (Nat.lt_irrefl 0)
  | succ n ih =>
    rw [spaces_succ, List.cons_append, holdsMarkup, Bool.or_eq_false_iff] at h
    cases n with
    | zero => exact h.2
    | succ n => exact ih (Nat.succ_pos n) h.2

theorem gapNext_of_head {cs : List Char} {ch : Char} (hch : ch ∈ cs.head?) (hgap : isGap ch = true) :
    gapNext cs = true := by
  cases cs with
  | nil => rfl
  | cons d rest =>
    obtain rfl : d = ch := by simpa using hch
    exact hgap

theorem gapNext_charsOf {runs : List Run} (hs : ∀ r ∈ runs, r.Sound)
    (h : ∀ r ∈ runs.head?, r.isWord = false) : gapNext (Run.charsOf runs) = true := by
  cases runs with
  | nil => rfl
  | cons r runs =>
    cases r with
    | word cs => cases h _ rfl
    | blank n =>
      obtain ⟨ch, hch, hspace⟩ := head_of_blank (hs _ List.mem_cons_self) runs
      exact gapNext_of_head hch (isGap_iff.mpr (.inr (.inl (isSpace_iff.mp hspace))))
    | breaks cs =>
      obtain ⟨ch, hch, hbreak⟩ := head_of_breaks (hs _ List.mem_cons_self) runs
      exact gapNext_of_head hch (isGap_iff.mpr (.inr (.inr (.inr (isLineEnd_of_isBreak hbreak)))))

theorem getLast?_append_right {as bs : List Char} (h : (as ++ bs).getLast? ≠ some ' ') :
    bs.getLast? ≠ some ' ' := by
  rw [List.getLast?_append] at h
  intro hbs
  rw [hbs] at h
  exact h rfl

/-- Behind a blank that does not end the text a word begins. -/
theorem word_behind_blank {n : Nat} (hn : 0 < n) {runs : List Run}
    (halt : Run.Alternating (.blank n :: runs))
    (hend : (spaces n ++ Run.charsOf runs).getLast? ≠ some ' ') :
    runs ≠ [] ∧ ∀ r ∈ runs.head?, r.isWord = true := by
  cases runs with
  | nil =>
    obtain ⟨m, rfl⟩ := Nat.exists_eq_add_of_le' (show 1 ≤ n from hn)
    exact absurd (by simp [spaces, List.getLast?_replicate]) hend
  | cons s rest =>
    refine ⟨List.cons_ne_nil _ _, fun r hr => ?_⟩
    obtain rfl : s = r := by simpa using hr
    have hkind := halt.1
    cases s with
    | word cs => rfl
    | blank m => exact absurd rfl hkind
    | breaks bs => exact absurd rfl hkind

/-- Runs of a text that holds no markup, behind a gap or behind a word. -/
structure PlainRuns (behindGap : Bool) (runs : List Run) : Prop where
  sound : ∀ r ∈ runs, r.Sound
  alternating : Run.Alternating runs
  noBreaks : ∀ bs, .breaks bs ∉ runs
  ordinary : ∀ ch ∈ Run.charsOf runs, isOrdinary ch = true
  last : (Run.charsOf runs).getLast? ≠ some ' '
  markup : holdsMarkup behindGap (Run.charsOf runs) = false

theorem PlainRuns.tail {behindGap after : Bool} {r : Run} {runs : List Run}
    (h : PlainRuns behindGap (r :: runs)) (hmarkup : holdsMarkup after (Run.charsOf runs) = false) :
    PlainRuns after runs where
  sound := (List.forall_mem_cons.mp h.sound).2
  alternating := h.alternating.tail
  noBreaks bs hm := h.noBreaks bs (List.mem_cons_of_mem _ hm)
  ordinary ch hch := h.ordinary ch (List.mem_append_right r.chars hch)
  last := getLast?_append_right h.last
  markup := hmarkup

/-- Behind blanks comes more plain text, which begins with a word. -/
theorem PlainRuns.behind_blank {behindGap : Bool} {n : Nat} {runs : List Run}
    (h : PlainRuns behindGap (.blank n :: runs)) :
    PlainRuns true runs ∧ runs ≠ [] ∧ ∀ r ∈ runs.head?, r.isWord = true := by
  have hn : 0 < n := h.sound _ List.mem_cons_self
  exact ⟨h.tail (holdsMarkup_spaces hn h.markup), word_behind_blank hn h.alternating h.last⟩

/-- Behind a word comes more plain text, which begins with a gap. -/
theorem PlainRuns.behind_word {behindGap : Bool} {cs : List Char} {runs : List Run}
    (h : PlainRuns behindGap (.word cs :: runs))
    (hhash : behindGap = true ∨ (Run.charsOf (.word cs :: runs)).head? ≠ some '#') :
    PlainWord cs ∧ PlainRuns false runs ∧ ∀ r ∈ runs.head?, r.isWord = false := by
  obtain ⟨hsound, hs⟩ := List.forall_mem_cons.mp h.sound
  have hnext : ∀ r ∈ runs.head?, r.isWord = false := by
    cases runs with
    | nil => simp
    | cons s rest =>
      intro r hr
      obtain rfl : s = r := by simpa using hr
      simpa [Run.isWord] using h.alternating.1
  obtain ⟨hlast, hbehind, hmore⟩ :=
    holdsMarkup_word hsound.1 hsound.2 (gapNext_charsOf hs hnext) h.markup
  have hfirst : cs.head? ≠ some '#' := by
    rcases hhash with hbehindGap | hhead
    · exact hbehind hbehindGap
    · obtain ⟨ch, rest, rfl⟩ := List.exists_cons_of_ne_nil hsound.1
      exact hhead
  have hordinary : ∀ ch ∈ cs, isOrdinary ch = true := fun ch hch =>
    h.ordinary ch (List.mem_append_left _ hch)
  exact ⟨⟨hsound.1, hordinary, hsound.2, hlast, hfirst⟩, h.tail hmore, hnext⟩

/-- Runs of a text that holds no markup are lines of plain text, by themselves if they begin with a
word, else behind any word. -/
theorem lines_of_laid {indent : Nat} {runs : List Run} {out : List Char}
    (h : Laid (fun ch => [ch]) indent runs out) {behindGap : Bool} (hplain : PlainRuns behindGap runs) :
    (runs ≠ [] → (∀ r ∈ runs.head?, r.isWord = true) →
        (behindGap = true ∨ (Run.charsOf runs).head? ≠ some '#') →
        Lines indent (Run.charsOf runs) out) ∧
      ((∀ r ∈ runs.head?, r.isWord = false) → ∀ w, PlainWord w →
        Lines indent (w ++ Run.charsOf runs) (w ++ out)) := by
  induction h generalizing behindGap with
  | nil =>
    refine ⟨fun hne => absurd rfl hne, fun _ w hw => ?_⟩
    rw [Run.charsOf_nil, List.append_nil]
    exact .word hw
  | @word cs runs out _ ih =>
    refine ⟨fun _ _ hhash => ?_, fun hfirst => by cases hfirst _ rfl⟩
    obtain ⟨hword, hmore, hnext⟩ := hplain.behind_word hhash
    rw [Run.charsOf_cons, Run.chars, List.flatMap_singleton']
    exact (ih hmore).2 hnext cs hword
  | @blank n runs out _ ih =>
    refine ⟨fun _ hword _ => (by cases hword _ rfl), fun _ w hw => ?_⟩
    obtain ⟨hmore, hne, hnext⟩ := hplain.behind_blank
    rw [Run.charsOf_cons, Run.chars]
    exact .blank hw (hplain.sound _ List.mem_cons_self) ((ih hmore).1 hne hnext (.inl rfl))
  | @fold runs out hne _ ih =>
    refine ⟨fun _ hword _ => (by cases hword _ rfl), fun _ w hw => ?_⟩
    obtain ⟨hmore, _, hnext⟩ := hplain.behind_blank
    exact .fold hw ((ih hmore).1 hne hnext (.inl rfl))
  | breaks _ _ => exact absurd List.mem_cons_self (hplain.noBreaks _)

/-! ### Gaps -/

theorem run_space {c : Cursor} {n : Nat} {tail : List Char} (h : c.rest = spaces n ++ tail)
    (htail : tail.head? ≠ some ' ') : c.run (· = ' ') = spaces n := by
  refine run_eq h (fun d hd => by simp [mem_spaces hd]) fun d hd => ?_
  rw [decide_eq_false_iff_not]
  rintro rfl
  exact htail hd

/-- Whether nothing that could belong to a line of text, or part lines, comes next. -/
def StartsLine (rest : List Char) : Prop :=
  ∀ ch ∈ rest.head?, ch ≠ ' ' ∧ ch ≠ '#' ∧ isLineEnd ch = false

theorem StartsLine.head_ne {rest : List Char} (h : StartsLine rest) : rest.head? ≠ some ' ' :=
  fun he => (h ' ' he).1 rfl

theorem startsLine_of_solid {ch : Char} {rest : List Char} (h : Solid ch) (hhash : ch ≠ '#') :
    StartsLine (ch :: rest) := by
  intro d hd
  obtain rfl : ch = d := by simpa using hd
  exact ⟨h.ne_space, hhash, h.not_lineEnd⟩

theorem plainBreaks_eq {c : Cursor} {n : Nat} {rest : List Char} (h : c.rest = spaces n ++ rest)
    (hrest : StartsLine rest) {fuel : Nat} (hfuel : c.rest.length ≤ fuel) :
    plainBreaks fuel c = (some [], c.skip n) := by
  induction n generalizing c fuel with
  | zero =>
    rw [show spaces 0 = [] from rfl, List.nil_append] at h
    cases fuel with
    | zero => rfl
    | succ fuel =>
      cases rest with
      | nil => simp [plainBreaks, atEnd, h, skip]
      | cons ch rest =>
        obtain ⟨hspace, _, hend⟩ := hrest ch rfl
        simp [plainBreaks, atEnd_of_rest h, head_of_rest h, hspace, hend, skip]
  | succ n ih =>
    rw [spaces_succ, List.cons_append] at h
    have hforward := forward_of_rest h
    rw [h, List.length_cons] at hfuel
    obtain ⟨fuel, rfl⟩ := Nat.exists_eq_add_of_le' (Nat.le_trans (Nat.le_add_left 1 _) hfuel)
    have hmore := ih hforward (show _ ≤ fuel by rw [hforward]; omega)
    simp [plainBreaks, atEnd_of_rest h, head_of_rest h, hmore, skip_succ]

theorem plainGap_blank {c : Cursor} {n : Nat} {rest : List Char} (h : c.rest = spaces n ++ rest)
    (hrest : StartsLine rest) : plainGap c = (some (spaces n), false, c.skip n) := by
  have hskip : (c.skip n).rest = rest := by rw [skip_spaces h]
  have hend : (!(c.skip n).atEnd && isLineEnd (c.skip n).head) = false := by
    cases rest with
    | nil => simp [atEnd, hskip]
    | cons ch rest => rw [atLineEnd_head hskip, (hrest ch rfl).2.2]
  rw [plainGap, run_space h hrest.head_ne, length_spaces]
  simp only [hend, Bool.false_eq_true, if_false]

/-- The gap at the end of a line. A separator on the next line stands at its very start. -/
theorem plainGap_line {c : Cursor} {n : Nat} {rest : List Char} (h : c.rest = '\n' :: (spaces n ++ rest))
    (hrest : StartsLine rest) :
    plainGap c = (if c.forward.atSeparator then none else some [' '], true, c.skip (n + 1)) := by
  have hrun : c.run (· = ' ') = [] := run_eq_nil (by rw [h]; simp)
  have hforward := forward_of_rest h
  rw [plainGap, hrun]
  simp only [List.length_nil, skip, atEnd_of_rest h, head_of_rest h, show isLineEnd '\n' = true from rfl,
    Bool.not_false, Bool.and_self, if_true, lineBreak_eq h (show isBreak '\n' = true from rfl),
    show ([lineBreakOf '\n'] != ['\n']) = false from rfl, Bool.false_eq_true, if_false]
  split_ifs with hsep
  · have hn : n = 0 := by
      cases n with
      | zero => rfl
      | succ n =>
        have hspace : c.forward.rest = ' ' :: (spaces n ++ rest) := by rw [hforward]; rfl
        rw [atSeparator_eq_false hspace (by decide) (by decide)] at hsep
        cases hsep
    rw [hn]
    rfl
  · rw [plainBreaks_eq hforward hrest (Nat.le_refl _)]
    rfl

/-! ### Plain text up to what follows -/

/-- What follows plain text: a colon, or a line that stands no deeper than `outer`. The text is passed
with so many characters more. -/
inductive Ending (outer : Int) : List Char → Bool → Nat → Prop
  | colon {rest : List Char} : gapNext rest = true → Ending outer (':' :: rest) false 0
  | line {n : Nat} {rest : List Char} : (n : Int) ≤ outer → StartsLine rest →
      Ending outer ('\n' :: (spaces n ++ rest)) true (n + 1)

theorem Ending.endsWord {outer : Int} {tail : List Char} {broken : Bool} {n : Nat}
    (h : Ending outer tail broken n) : EndsWord tail := by
  cases h with
  | colon hgap => exact .inr ⟨rfl, hgap⟩
  | line _ _ => exact .inl rfl

theorem plainRest_succ {outer : Int} {fuel : Nat} {gap w rest : List Char} {broken : Bool}
    {c : Cursor} (hw : PlainWord w) (hrest : EndsWord rest) (h : c.rest = w ++ rest) :
    plainRest false outer (fuel + 1) gap broken c =
      match plainGap (c.skip w.length) with
      | (none, isBroken, next) | (some [], isBroken, next) => (gap ++ w, isBroken, next)
      | (some between, isBroken, next) =>
        if next.head = '#' || (next.column : Int) < outer + 1 then (gap ++ w, isBroken, next)
        else
          let (more, broken, c) := plainRest false outer fuel between isBroken next
          (gap ++ w ++ more, broken, c) := by
  have hword : plainWord false c.rest = w := by
    rw [h]
    exact plainWord_append hw.solid hw.last hrest
  obtain ⟨ch, more, rfl⟩ := List.exists_cons_of_ne_nil hw.ne_nil
  have hhash : c.head ≠ '#' := by
    rw [head_of_rest h]
    simpa using hw.first
  rw [plainRest, if_neg hhash]
  simp only [hword, Bool.not_false, Bool.true_and]
  rcases plainGap (c.skip (ch :: more).length) with ⟨_ | _ | _, _, _⟩ <;> rfl

theorem plainRest_ending {outer : Int} {fuel : Nat} {gap w tail : List Char} {broken ended : Bool}
    {n : Nat} {c : Cursor} (hw : PlainWord w) (hend : Ending outer tail ended n)
    (h : c.rest = w ++ tail) :
    plainRest false outer (fuel + 1) gap broken c = (gap ++ w, ended, c.skip (w.length + n)) := by
  rw [plainRest_succ hw hend.endsWord h, skip_add]
  have hskip := rest_skip_length h
  cases hend with
  | @colon rest hgap =>
    rw [plainGap_blank (n := 0) hskip (startsLine_of_solid rfl (by decide))]
    rfl
  | @line n rest hn hrest =>
    rw [plainGap_line hskip hrest]
    split_ifs with hsep
    · rfl
    · have hcolumn : ((c.skip w.length).skip (n + 1)).column = n := by
        rw [skip_succ, skip_spaces (forward_of_rest hskip), forward_newline hskip]
        exact Nat.zero_add n
      simp only
      rw [if_pos]
      simp only [hcolumn, Bool.or_eq_true, decide_eq_true_eq]
      omega

theorem Lines.head {indent : Nat} {text out : List Char} (h : Lines indent text out) :
    ∃ ch more, out = ch :: more ∧ Solid ch ∧ ch ≠ '#' := by
  have hword : ∀ w, PlainWord w → ∀ rest, ∃ ch more, w ++ rest = ch :: more ∧ Solid ch ∧ ch ≠ '#' := by
    intro w hw rest
    obtain ⟨ch, more, rfl⟩ := List.exists_cons_of_ne_nil hw.ne_nil
    exact ⟨ch, more ++ rest, rfl, hw.solid ch List.mem_cons_self, by simpa using hw.first⟩
  cases h with
  | word hw => simpa using hword _ hw []
  | blank hw => exact hword _ hw _
  | fold hw => exact hword _ hw _

theorem Lines.startsLine {indent : Nat} {text out : List Char} (h : Lines indent text out)
    (tail : List Char) : StartsLine (out ++ tail) := by
  obtain ⟨ch, more, rfl, hsolid, hhash⟩ := h.head
  exact startsLine_of_solid hsolid hhash

/-- The head behind a gap is no hash, as a word begins there. -/
theorem Lines.next {indent : Nat} {text out tail : List Char} (h : Lines indent text out) {c : Cursor}
    (hc : c.rest = out ++ tail) : c.head ≠ '#' := by
  obtain ⟨ch, more, rfl, _, hhash⟩ := h.head
  rwa [head_of_rest hc]

theorem PlainWord.skip {w rest : List Char} (hw : PlainWord w) {c : Cursor} (h : c.rest = w ++ rest) :
    c.skip w.length = ⟨rest, c.index + w.length, c.line, c.column + w.length⟩ :=
  skip_steady h hw.steady

/-- Behind a gap that does not end the text, its next word is read. -/
theorem plainRest_more {outer : Int} {fuel : Nat} {gap w rest between : List Char}
    {broken isBroken : Bool} {c next : Cursor} (hw : PlainWord w) (h : c.rest = w ++ rest)
    (hrest : EndsWord rest) (hgap : plainGap (c.skip w.length) = (some between, isBroken, next))
    (hne : between ≠ []) (hhash : next.head ≠ '#') (hcolumn : outer < next.column) :
    plainRest false outer (fuel + 1) gap broken c =
      let r := plainRest false outer fuel between isBroken next
      (gap ++ w ++ r.1, r.2) := by
  obtain ⟨ch, more, rfl⟩ := List.exists_cons_of_ne_nil hne
  rw [plainRest_succ hw hrest h, hgap]
  simp only
  rw [if_neg]
  simp only [hhash, decide_eq_true_eq, Bool.or_eq_true, false_or]
  omega

theorem plainRest_lines {indent : Nat} (hpos : 0 < indent) {outer : Int} (hindent : outer < indent)
    {text out : List Char} (h : Lines indent text out) {tail : List Char} {ended : Bool} {n : Nat}
    (hend : Ending outer tail ended n) {c : Cursor} (hc : c.rest = out ++ tail)
    (hcolumn : outer ≤ c.column) {fuel : Nat} (hfuel : c.rest.length < fuel) (gap : List Char)
    (broken : Bool) :
    plainRest false outer fuel gap broken c = (gap ++ text, ended, c.skip (out.length + n)) := by
  induction h generalizing c fuel gap broken with
  | @word w hw =>
    obtain ⟨fuel, rfl⟩ := Nat.exists_eq_add_of_le' (show 1 ≤ fuel by omega)
    exact plainRest_ending hw hend hc
  | @blank m w cs out hw hm hout ih =>
    obtain ⟨fuel, rfl⟩ := Nat.exists_eq_add_of_le' (show 1 ≤ fuel by omega)
    obtain ⟨m, rfl⟩ := Nat.exists_eq_add_of_le' (show 1 ≤ m from hm)
    have hrest : c.rest = w ++ (spaces (m + 1) ++ (out ++ tail)) := by simpa using hc
    have hword := rest_skip_length hrest
    have hnext : ((c.skip w.length).skip (m + 1)).rest = out ++ tail := by rw [skip_spaces hword]
    have hplace : outer < (((c.skip w.length).skip (m + 1)).column : Int) := by
      rw [skip_spaces hword, hw.skip hrest]
      dsimp only
      omega
    have hlength := congrArg List.length hrest
    simp only [List.length_append, length_spaces] at hlength
    rw [plainRest_more hw hrest (Or.inl rfl) (plainGap_blank hword (hout.startsLine tail))
      (List.cons_ne_nil _ _) (hout.next hnext) hplace,
      ih hnext (Int.le_of_lt hplace) (by rw [hnext, List.length_append]; omega), ← skip_add, ← skip_add]
    simp only [List.append_assoc, List.length_append, length_spaces, Nat.add_assoc]
  | @fold w cs out hw hout ih =>
    obtain ⟨fuel, rfl⟩ := Nat.exists_eq_add_of_le' (show 1 ≤ fuel by omega)
    have hrest : c.rest = w ++ '\n' :: (spaces indent ++ (out ++ tail)) := by simpa using hc
    have hword := rest_skip_length hrest
    have hline := forward_of_rest hword
    have hnext : ((c.skip w.length).skip (indent + 1)).rest = out ++ tail := by
      rw [skip_succ, skip_spaces hline]
    have hplace : outer < (((c.skip w.length).skip (indent + 1)).column : Int) := by
      rw [skip_succ, skip_spaces hline, forward_newline hword]
      dsimp only
      omega
    have hsep : (c.skip w.length).forward.atSeparator = false := by
      obtain ⟨m, rfl⟩ : ∃ m, indent = m + 1 := Nat.exists_eq_add_of_le' hpos
      exact atSeparator_eq_false hline (by decide) (by decide)
    have hgap := plainGap_line hword (hout.startsLine tail)
    rw [hsep] at hgap
    have hlength := congrArg List.length hrest
    simp only [List.length_append, List.length_cons, length_spaces] at hlength
    rw [plainRest_more hw hrest (Or.inl rfl) hgap (List.cons_ne_nil _ _) (hout.next hnext) hplace,
      ih hnext (Int.le_of_lt hplace) (by rw [hnext, List.length_append]; omega), ← skip_add, ← skip_add]
    simp only [List.append_assoc, List.length_append, List.length_cons, length_spaces, Nat.add_assoc,
      List.singleton_append, Nat.add_comm 1]

/-! ### What is written of plain text -/

/-- Text that stands in its lines as it is, and does not read as markup. -/
structure Unmarked (indent : Nat) (text out : List Char) : Prop where
  lines : Lines indent text out
  free : isMarkup text = false

theorem Unmarked.word {indent : Nat} {w : List Char} (h : PlainWord w) (hfree : isMarkup w = false) :
    Unmarked indent w w :=
  ⟨.word h, hfree⟩

theorem ne_nil_of_allowsPlain {cs : List Char} (h : allowsPlain cs = true) : cs ≠ [] := by
  rintro rfl
  cases h

theorem holdsMarkup_of_isMarkup {cs : List Char} (h : isMarkup cs = false) :
    holdsMarkup false cs = false ∧ cs.head? ≠ some '#' := by
  cases cs with
  | nil => exact ⟨rfl, by simp⟩
  | cons ch rest =>
    simp only [isMarkup, Bool.or_eq_false_iff] at h
    obtain ⟨⟨⟨hopens, hholds⟩, _⟩, _⟩ := h
    have hcolon : (decide (ch = ':') && gapNext rest) = false := by
      rw [opensMarkup, Bool.or_eq_false_iff] at hopens
      by_cases hc : ch = ':'
      · have := hopens.2
        simp only [hc, decide_true, Bool.or_true, Bool.true_or, Bool.true_and] at this
        rw [this, Bool.and_false]
      · simp [hc]
    refine ⟨by simp [holdsMarkup, hcolon, hholds], fun hhash => ?_⟩
    obtain rfl : ch = '#' := by simpa using hhash
    cases hopens

/-- The first run of a text that begins with no blank and with no line break. -/
theorem isWord_head {runs : List Run} (hs : ∀ r ∈ runs, r.Sound)
    (h : ∀ ch ∈ (Run.charsOf runs).head?, isSpace ch = false ∧ isBreak ch = false) :
    ∀ r ∈ runs.head?, r.isWord = true := by
  intro r hr
  obtain ⟨rest, rfl⟩ : ∃ rest, runs = r :: rest := by
    cases runs with
    | nil => cases hr
    | cons s rest => exact ⟨rest, by simpa using hr⟩
  cases r with
  | word cs => rfl
  | blank n =>
    obtain ⟨ch, hch, hspace⟩ := head_of_blank (hs _ List.mem_cons_self) rest
    rw [(h ch hch).1] at hspace
    cases hspace
  | breaks cs =>
    obtain ⟨ch, hch, hbreak⟩ := head_of_breaks (hs _ List.mem_cons_self) rest
    rw [(h ch hch).2] at hbreak
    cases hbreak

theorem unmarked_plainChars {cs : List Char} (h : allowsPlain cs = true) (fold : Bool)
    (indent column : Nat) : Unmarked indent cs (plainChars fold indent column cs) := by
  have hne := ne_nil_of_allowsPlain h
  simp only [allowsPlain, Bool.and_eq_true, Bool.not_eq_true'] at h
  obtain ⟨⟨⟨⟨hsingle, hbreaks⟩, hends⟩, hmarkup⟩, _⟩ := h
  have halt := alternating_runsOf hsingle
  simp only [allowsSingle, Bool.and_eq_true] at hsingle
  have hs := sound_runsOf hsingle.1.1
  have hchars := charsOf_runsOf cs
  obtain ⟨hholds, hhash⟩ := holdsMarkup_of_isMarkup hmarkup
  rw [atEnds, Bool.or_eq_false_iff] at hends
  have hall : ∀ ch ∈ cs, isBreak ch = false := by simpa using hbreaks
  have hnoBreaks : ∀ bs, .breaks bs ∉ runsOf cs := by
    intro bs hm
    obtain ⟨hbs, hbreak⟩ := hs _ hm
    obtain ⟨b, rest, rfl⟩ := List.exists_cons_of_ne_nil hbs
    have hmem : b ∈ cs := by
      rw [← hchars, Run.charsOf, List.mem_flatMap]
      exact ⟨_, hm, List.mem_cons_self⟩
    cases (hall b hmem).symm.trans (hbreak b List.mem_cons_self)
  have hlast : cs.getLast? ≠ some ' ' := by
    intro hlast
    rw [hlast] at hends
    cases hends.2
  have hfirst : ∀ ch ∈ cs.head?, isSpace ch = false ∧ isBreak ch = false := by
    intro ch hch
    refine ⟨?_, hall ch (List.mem_of_mem_head? hch)⟩
    have := hends.1
    rw [hch] at this
    exact this
  have hplain : PlainRuns false (runsOf cs) :=
    ⟨hs, halt, hnoBreaks, by rw [hchars]; simpa using hsingle.1.1, by rwa [hchars], by rwa [hchars]⟩
  have hlines := (lines_of_laid (laid_flowRuns (fun ch => [ch]) fold indent column true (runsOf cs))
    hplain).1 (fun hnil => hne (by rw [← hchars, hnil]; rfl)) (isWord_head hs (by rwa [hchars]))
    (.inr (by rwa [hchars]))
  rw [hchars] at hlines
  exact ⟨hlines, hmarkup⟩

/-! ### How plain text begins -/

/-- Plain text begins here: neither markup nor a mark between documents does. -/
structure OpensPlain (ch : Char) (rest : List Char) : Prop where
  solid : Solid ch
  free : opensMarkup ch rest = false
  mark : ∀ mark, mark = '-' ∨ mark = '.' → (ch :: rest).take 3 ≠ [mark, mark, mark]

/-- The first word of a text, and what follows it there and where it is written. -/
theorem Lines.firstWord {indent : Nat} {text out : List Char} (h : Lines indent text out) :
    ∃ w more written, text = w ++ more ∧ out = w ++ written ∧ PlainWord w ∧ gapNext more = true ∧
      (written = [] ∨ written ≠ [] ∧ gapNext written = true) := by
  cases h with
  | word hw => exact ⟨_, [], [], by simp, by simp, hw, rfl, .inl rfl⟩
  | @blank n w cs out hw hn _ =>
    obtain ⟨n, rfl⟩ := Nat.exists_eq_add_of_le' (show 1 ≤ n from hn)
    exact ⟨w, _, _, rfl, rfl, hw, rfl, .inr ⟨List.cons_ne_nil _ _, rfl⟩⟩
  | fold hw _ => exact ⟨_, _, _, rfl, rfl, hw, rfl, .inr ⟨List.cons_ne_nil _ _, rfl⟩⟩

theorem EndsWord.head_ne {rest : List Char} (h : EndsWord rest) {mark : Char}
    (hmark : mark = '-' ∨ mark = '.') : rest.head? ≠ some mark := by
  rintro he
  obtain ⟨tail, rfl⟩ : ∃ tail, rest = mark :: tail := by
    cases rest with
    | nil => cases he
    | cons ch tail => exact ⟨tail, by simpa using he⟩
  have hplain : isGap mark = false ∧ mark ≠ ':' := by
    rcases hmark with rfl | rfl <;> exact ⟨rfl, by decide⟩
  rcases h with hgap | ⟨rfl, _⟩
  · rw [hplain.1] at hgap
    cases hgap
  · exact hplain.2 rfl

/-- A word of less than three characters is followed by no mark. -/
theorem take_three_ne (w more : List Char) {rest : List Char} (hrest : EndsWord rest) {mark : Char}
    (hmark : mark = '-' ∨ mark = '.') (h : (w ++ more).take 3 ≠ [mark, mark, mark]) :
    (w ++ rest).take 3 ≠ [mark, mark, mark] := by
  have hhead := hrest.head_ne hmark
  intro heq
  match w with
  | [] =>
    cases rest with
    | nil => cases heq
    | cons ch rest => simp_all
  | [a] =>
    cases rest with
    | nil => cases heq
    | cons ch rest => simp_all
  | [a, b] =>
    cases rest with
    | nil => cases heq
    | cons ch rest => simp_all
  | a :: b :: d :: w => exact h heq

theorem Unmarked.opens {indent : Nat} {text out tail : List Char} (h : Unmarked indent text out)
    (htail : EndsWord tail) : ∃ ch rest, out ++ tail = ch :: rest ∧ OpensPlain ch rest := by
  obtain ⟨w, more, written, rfl, rfl, hw, hmore, hwritten⟩ := h.lines.firstWord
  have hends : EndsWord (written ++ tail) := by
    rcases hwritten with rfl | ⟨hne, hgap⟩
    · exact htail
    · obtain ⟨ch, rest, rfl⟩ := List.exists_cons_of_ne_nil hne
      exact .inl hgap
  have hfree := h.free
  rw [List.append_assoc]
  obtain ⟨ch, w, rfl⟩ := List.exists_cons_of_ne_nil hw.ne_nil
  simp only [List.cons_append, isMarkup, Bool.or_eq_false_iff, beq_eq_false_iff_ne] at hfree
  obtain ⟨⟨⟨hopens, _⟩, hdash⟩, hdot⟩ := hfree
  refine ⟨ch, w ++ (written ++ tail), rfl, hw.solid ch List.mem_cons_self, ?_, fun mark hmark => ?_⟩
  · cases w with
    | nil =>
      rw [List.nil_append] at hopens
      simp only [opensMarkup, hmore, Bool.and_true, Bool.or_eq_false_iff] at hopens ⊢
      exact ⟨hopens.1, by simp [hopens.2]⟩
    | cons d w => exact hopens
  · refine take_three_ne (ch :: w) more hends hmark ?_
    rcases hmark with rfl | rfl
    · exact hdash
    · exact hdot

end ServiceAtlas.Yaml.Token
