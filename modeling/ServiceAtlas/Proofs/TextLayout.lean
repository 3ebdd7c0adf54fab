import Mathlib.Tactic.SplitIfs
import ServiceAtlas.Proofs.Cursors

/-!
How text stands in a YAML document, apart from the columns at which lines are folded. Plain text and
text in single quotes is laid out run by run, text in double quotes character by character; beside each
layout stands the text that is seen in it.
-/

namespace ServiceAtlas.Yaml

/-! ### The runs of a text -/

namespace Run

def chars : Run → List Char
  | word cs => cs
  | blank n => spaces n
  | breaks cs => cs

def isWord : Run → Bool
  | word _ => true
  | _ => false

/-- What a run is made of. -/
def Sound : Run → Prop
  | word cs => cs ≠ [] ∧ ∀ ch ∈ cs, Solid ch
  | blank n => 0 < n
  | breaks cs => cs ≠ [] ∧ ∀ ch ∈ cs, isBreak ch = true

/-- Of two runs beside each other one is a word. -/
def Alternating : List Run → Prop
  | r :: s :: rest => r.isWord ≠ s.isWord ∧ Alternating (s :: rest)
  | _ => True

def charsOf (runs : List Run) : List Char := runs.flatMap chars

@[simp] theorem charsOf_nil : charsOf [] = [] := rfl

@[simp] theorem charsOf_cons (r : Run) (runs : List Run) :
    charsOf (r :: runs) = r.chars ++ charsOf runs := rfl

theorem Alternating.tail {r : Run} {runs : List Run} (h : Alternating (r :: runs)) :
    Alternating runs := by
  cases runs with
  | nil => trivial
  | cons s rest => exact h.2

/-- The kind of the first run counts only beside the next one. -/
theorem Alternating.replace {r s : Run} {runs : List Run} (h : Alternating (r :: runs))
    (hkind : r.isWord = s.isWord) : Alternating (s :: runs) := by
  cases runs with
  | nil => trivial
  | cons t rest => exact ⟨hkind ▸ h.1, h.2⟩

theorem alternating_cons_word {r : Run} {cs : List Char} {runs : List Run} (hr : r.isWord = false)
    (h : Alternating (word cs :: runs)) : Alternating (r :: word cs :: runs) :=
  ⟨by rw [hr]; exact Bool.false_ne_true, h⟩

end Run

open ServiceAtlas.Yaml.Run

theorem isSpace_iff {ch : Char} : isSpace ch = true ↔ ch = ' ' := by simp [isSpace]

theorem charsOf_push (ch : Char) (runs : List Run) :
    charsOf (Run.push ch runs) = ch :: charsOf runs := by
  simp only [Run.push]
  split_ifs with hspace hbreak
  · obtain rfl := isSpace_iff.mp hspace
    split <;> simp [Run.chars, spaces, List.replicate_succ]
  · split <;> simp [Run.chars]
  · split <;> simp [Run.chars]

theorem charsOf_runsOf (cs : List Char) : charsOf (runsOf cs) = cs := by
  induction cs with
  | nil => rfl
  | cons ch cs ih => rw [runsOf, List.foldr_cons, charsOf_push, ← runsOf, ih]

/-- A character is solid unless it is a blank or a line break, if it may stand in a document. -/
theorem solid_of_isOrdinary {ch : Char} (h : isOrdinary ch = true) (hspace : isSpace ch = false)
    (hbreak : isBreak ch = false) : Solid ch := by
  have hblank : ch ≠ ' ' := by simpa [isSpace] using hspace
  have hnul : ch ≠ '\x00' := by rintro rfl; cases h
  have htab : ch ≠ '\t' := by rintro rfl; cases h
  have hreturn : ch ≠ '\r' := by rintro rfl; cases h
  simp [Solid, isGap, hnul, hblank, htab, hreturn, hbreak]

theorem sound_push {ch : Char} {runs : List Run} (hch : isOrdinary ch = true)
    (h : ∀ r ∈ runs, r.Sound) : ∀ r ∈ Run.push ch runs, r.Sound := by
  simp only [Run.push]
  split_ifs with hspace hbreak
  · split
    · next n rest =>
      rw [List.forall_mem_cons] at h ⊢
      exact ⟨Nat.succ_pos n, h.2⟩
    · exact List.forall_mem_cons.mpr ⟨Nat.one_pos, h⟩
  · split
    · next cs rest =>
      rw [List.forall_mem_cons] at h ⊢
      exact ⟨⟨List.cons_ne_nil _ _, List.forall_mem_cons.mpr ⟨hbreak, h.1.2⟩⟩, h.2⟩
    · exact List.forall_mem_cons.mpr ⟨⟨List.cons_ne_nil _ _, by simpa using hbreak⟩, h⟩
  · have hsolid := solid_of_isOrdinary hch (by simpa using hspace) (by simpa using hbreak)
    split
    · next cs rest =>
      rw [List.forall_mem_cons] at h ⊢
      exact ⟨⟨List.cons_ne_nil _ _, List.forall_mem_cons.mpr ⟨hsolid, h.1.2⟩⟩, h.2⟩
    · exact List.forall_mem_cons.mpr ⟨⟨List.cons_ne_nil _ _, by simpa using hsolid⟩, h⟩

theorem sound_runsOf {cs : List Char} (h : cs.all isOrdinary = true) :
    ∀ r ∈ runsOf cs, r.Sound := by
  induction cs with
  | nil => simp [runsOf]
  | cons ch cs ih =>
    rw [List.all_cons, Bool.and_eq_true] at h
    exact sound_push h.1 (ih h.2)

/-- The first run of a text that begins with a line break, and of one that begins with a blank. -/
theorem head_of_breaks {bs : List Char} (hs : (breaks bs).Sound) (rest : List Run) :
    ∃ ch ∈ (charsOf (breaks bs :: rest)).head?, isBreak ch = true := by
  obtain ⟨ch, more, rfl⟩ := List.exists_cons_of_ne_nil hs.1
  exact ⟨ch, rfl, hs.2 ch List.mem_cons_self⟩

theorem head_of_blank {n : Nat} (hs : (blank n).Sound) (rest : List Run) :
    ∃ ch ∈ (charsOf (blank n :: rest)).head?, isSpace ch = true := by
  obtain ⟨m, rfl⟩ := Nat.exists_eq_add_of_le' (show 1 ≤ n from hs)
  exact ⟨' ', rfl, rfl⟩

theorem alternating_push {ch : Char} {runs : List Run} (hs : ∀ r ∈ runs, r.Sound)
    (h : Alternating runs)
    (hspace : isSpace ch = true → ∀ d ∈ (charsOf runs).head?, isBreak d = false)
    (hbreak : isBreak ch = true → ∀ d ∈ (charsOf runs).head?, isSpace d = false) :
    Alternating (Run.push ch runs) := by
  simp only [Run.push]
  split_ifs with hsp hbr
  · split
    · exact h.replace rfl
    · next hblank =>
      cases runs with
      | nil => trivial
      | cons r rest =>
        cases r with
        | word cs => exact alternating_cons_word rfl h
        | blank n => exact absurd rfl (hblank n rest)
        | breaks bs =>
          obtain ⟨d, hd, hbreakd⟩ := head_of_breaks (hs _ List.mem_cons_self) rest
          rw [hspace hsp d hd] at hbreakd
          cases hbreakd
  · split
    · exact h.replace rfl
    · next hbreaks =>
      cases runs with
      | nil => trivial
      | cons r rest =>
        cases r with
        | word cs => exact alternating_cons_word rfl h
        | blank n =>
          obtain ⟨d, hd, hspaced⟩ := head_of_blank (hs _ List.mem_cons_self) rest
          rw [hbreak hbr d hd] at hspaced
          cases hspaced
        | breaks bs => exact absurd rfl (hbreaks bs rest)
  · split
    · exact h.replace rfl
    · next hword =>
      cases runs with
      | nil => trivial
      | cons r rest =>
        cases r with
        | word cs => exact absurd rfl (hword cs rest)
        | blank n => exact ⟨by simp [isWord], h⟩
        | breaks bs => exact ⟨by simp [isWord], h⟩

theorem adjacent_cons {p q : Char → Bool} {ch : Char} {cs : List Char}
    (h : adjacent p q (ch :: cs) = false) :
    adjacent p q cs = false ∧ (p ch = true → ∀ d ∈ cs.head?, q d = false) := by
  cases cs with
  | nil => exact ⟨rfl, by simp⟩
  | cons d rest =>
    rw [adjacent, Bool.or_eq_false_iff, Bool.and_eq_false_iff] at h
    refine ⟨h.2, fun hp e he => ?_⟩
    obtain rfl : d = e := by simpa using he
    rcases h.1 with hf | hf
    · rw [hp] at hf
      cases hf
    · exact hf

/-- Text that single quotes keep is made of words with blanks or line breaks between them. -/
theorem alternating_runsOf {cs : List Char} (h : allowsSingle cs = true) :
    Alternating (runsOf cs) := by
  simp only [allowsSingle, Bool.and_eq_true, Bool.not_eq_true'] at h
  obtain ⟨⟨hall, hbreak⟩, hspace⟩ := h
  induction cs with
  | nil => trivial
  | cons ch cs ih =>
    rw [List.all_cons, Bool.and_eq_true] at hall
    obtain ⟨hbreak, hbreakspace⟩ := adjacent_cons hbreak
    obtain ⟨hspace, hspacebreak⟩ := adjacent_cons hspace
    apply alternating_push (sound_runsOf hall.2) (ih hspace hall.2 hbreak)
    · rw [charsOf_runsOf]
      exact hspacebreak
    · rw [charsOf_runsOf]
      exact hbreakspace

/-! ### Text laid out run by run -/

/-- What is written of the line breaks of a text: the first of them twice if a single one would be
folded away. -/
def writtenBreaks (cs : List Char) : List Char :=
  (if cs.head? = some '\n' then ['\n'] else []) ++ cs

/-- Runs and what is written of them, wherever lines are folded. -/
inductive Laid (write : Char → List Char) (indent : Nat) : List Run → List Char → Prop
  | nil : Laid write indent [] []
  | word {cs : List Char} {runs : List Run} {out : List Char} : Laid write indent runs out →
      Laid write indent (.word cs :: runs) (cs.flatMap write ++ out)
  | blank {n : Nat} {runs : List Run} {out : List Char} : Laid write indent runs out →
      Laid write indent (.blank n :: runs) (spaces n ++ out)
  | fold {runs : List Run} {out : List Char} : runs ≠ [] → Laid write indent runs out →
      Laid write indent (.blank 1 :: runs) ('\n' :: spaces indent ++ out)
  | breaks {cs : List Char} {runs : List Run} {out : List Char} : Laid write indent runs out →
      Laid write indent (.breaks cs :: runs) (writtenBreaks cs ++ spaces indent ++ out)

theorem laid_flowRuns (write : Char → List Char) (fold : Bool) (indent column : Nat) (first : Bool)
    (runs : List Run) : Laid write indent runs (flowRuns write fold indent column first runs) := by
  induction runs generalizing column first with
  | nil => exact .nil
  | cons r runs ih =>
    cases r with
    | word cs => exact .word (ih _ _)
    | blank n =>
      rw [flowRuns]
      split_ifs with hfold
      · simp only [Bool.and_eq_true, decide_eq_true_eq, Bool.not_eq_true', List.isEmpty_eq_false_iff]
          at hfold
        obtain ⟨⟨⟨⟨rfl, _⟩, _⟩, _⟩, hne⟩ := hfold
        exact .fold hne (ih _ _)
      · exact .blank (ih _ _)
    | breaks cs => exact .breaks (ih _ _)

theorem flatMap_spaces {write : Char → List Char} (hwrite : write ' ' = [' ']) (n : Nat) :
    (spaces n).flatMap write = spaces n := by
  induction n with
  | zero => rfl
  | succ n ih => rw [spaces_succ, List.flatMap_cons, hwrite, ih, List.singleton_append]

/-- Without folding, text without line breaks is written as it is. -/
theorem flowRuns_unfolded {write : Char → List Char} (hwrite : write ' ' = [' ']) (indent column : Nat)
    (first : Bool) {runs : List Run} (h : ∀ cs, .breaks cs ∉ runs) :
    flowRuns write false indent column first runs = (charsOf runs).flatMap write := by
  induction runs generalizing column first with
  | nil => rfl
  | cons r runs ih =>
    have hruns : ∀ cs, .breaks cs ∉ runs := fun cs hm => h cs (List.mem_cons_of_mem _ hm)
    cases r with
    | word cs => simp [flowRuns, Run.chars, ih _ _ hruns]
    | blank n =>
      simp [flowRuns, Run.chars, ih _ _ hruns, flatMap_spaces hwrite]
    | breaks cs => exact absurd List.mem_cons_self (h cs)

/-! ### What is seen of line breaks -/

/-- What is read of line breaks that stand in quotes: a single one that is folded becomes a blank. -/
def seenBreaks : List Char → List Char
  | [] => []
  | ch :: rest =>
    let later := rest.map Cursor.lineBreakOf
    if ch = '\n' then '\n' :: later
    else if ch ≠ '\u0085' then ch :: later
    else if rest.isEmpty then [' '] else later

def Run.seen : Run → List Char
  | .breaks cs => seenBreaks cs
  | r => r.chars

def seenRuns (runs : List Run) : List Char := runs.flatMap Run.seen

theorem lineBreakOf_ne (ch : Char) : Cursor.lineBreakOf ch ≠ '\u0085' := by
  unfold Cursor.lineBreakOf
  split_ifs with h
  · decide
  · exact h

theorem lineBreakOf_of_ne {ch : Char} (h : ch ≠ '\u0085') : Cursor.lineBreakOf ch = ch := if_neg h

theorem map_lineBreakOf {cs : List Char} (h : '\u0085' ∉ cs) : cs.map Cursor.lineBreakOf = cs := by
  refine (List.map_congr_left fun ch hch => lineBreakOf_of_ne ?_).trans (List.map_id _)
  rintro rfl
  exact h hch

theorem notMem_map_lineBreakOf (cs : List Char) : '\u0085' ∉ cs.map Cursor.lineBreakOf := by
  intro h
  obtain ⟨ch, _, hch⟩ := List.mem_map.mp h
  exact lineBreakOf_ne ch hch

theorem seenBreaks_eq {cs : List Char} (h : '\u0085' ∉ cs) : seenBreaks cs = cs := by
  cases cs with
  | nil => rfl
  | cons ch rest =>
    rw [List.mem_cons, not_or] at h
    have hch : ch ≠ '\u0085' := Ne.symm h.1
    simp only [seenBreaks, map_lineBreakOf h.2, hch, ne_eq, not_false_eq_true, if_true]
    split_ifs with hn
    · rw [hn]
    · rfl

theorem notMem_seenBreaks (cs : List Char) : '\u0085' ∉ seenBreaks cs := by
  cases cs with
  | nil => simp [seenBreaks]
  | cons ch rest =>
    have hlater := notMem_map_lineBreakOf rest
    simp only [seenBreaks]
    split_ifs with hn hne hempty
    · simpa using hlater
    · rw [List.mem_cons, not_or]
      exact ⟨Ne.symm hne, hlater⟩
    · decide
    · exact hlater

/-- No run but one of line breaks holds a line break. -/
theorem notMem_chars {r : Run} (hs : r.Sound) (hr : ∀ cs, r ≠ .breaks cs) : '\u0085' ∉ r.chars := by
  cases r with
  | word cs =>
    intro hm
    cases hs.2 _ hm
  | blank n =>
    intro hm
    cases mem_spaces hm
  | breaks cs => exact absurd rfl (hr cs)

/-- In single quotes every text comes back but one with a next line mark. -/
theorem seenRuns_eq_iff {runs : List Run} (hs : ∀ r ∈ runs, r.Sound) :
    seenRuns runs = charsOf runs ↔ '\u0085' ∉ charsOf runs := by
  constructor
  · intro heq
    rw [← heq, seenRuns, List.mem_flatMap]
    rintro ⟨r, hr, hm⟩
    cases r with
    | breaks cs => exact notMem_seenBreaks cs hm
    | word cs => exact notMem_chars (hs _ hr) (by simp) hm
    | blank n => exact notMem_chars (hs _ hr) (by simp) hm
  · intro hnot
    rw [charsOf, List.mem_flatMap] at hnot
    apply congrArg List.flatten
    apply List.map_congr_left
    intro r hr
    cases r with
    | breaks cs => exact seenBreaks_eq fun hm => hnot ⟨_, hr, hm⟩
    | word cs => rfl
    | blank n => rfl

/-! ### Text in double quotes -/

/-- Text and what is written of it between double quotes. A line that is broken before a blank keeps
the blank by a backslash; where it is broken once more before that blank, two backslashes meet and
stand for one. -/
inductive Escaped (indent : Nat) : List Char → List Char → Prop
  | nil : Escaped indent [] []
  | bare {ch : Char} {seen out : List Char} : isBare ch = true → Escaped indent seen out →
      Escaped indent (ch :: seen) (ch :: out)
  | escape {ch : Char} {seen out : List Char} : isBare ch = false → Escaped indent seen out →
      Escaped indent (ch :: seen) (Yaml.escape ch ++ out)
  | broken {seen out : List Char} : out.head? ≠ some ' ' → Escaped indent seen out →
      Escaped indent seen ('\\' :: '\n' :: (spaces indent ++ out))
  | kept {seen out : List Char} : Escaped indent seen out →
      Escaped indent (' ' :: seen) ('\\' :: '\n' :: (spaces indent ++ '\\' :: ' ' :: out))
  | overrun {seen out : List Char} : Escaped indent seen out →
      Escaped indent ('\\' :: ' ' :: ' ' :: seen)
        ('\\' :: '\n' :: (spaces indent ++ '\\' :: '\\' :: '\n' ::
          (spaces indent ++ '\\' :: ' ' :: out)))

/-- What is read of text in double quotes. `deep` says that every line is too long from its start. -/
def seenDouble (deep first : Bool) : List Char → List Char
  | ch :: next :: rest =>
    ch :: ((if deep && !first && !isBare ch && next = ' ' && !rest.isEmpty then ['\\', ' '] else []) ++
      seenDouble deep false (next :: rest))
  | cs => cs

theorem escape_head (ch : Char) : ∃ more, Yaml.escape ch = '\\' :: more := by
  unfold Yaml.escape
  split
  · exact ⟨_, rfl⟩
  · dsimp only
    split_ifs <;> exact ⟨_, rfl⟩

theorem two_le_length_escape (ch : Char) : 2 ≤ (Yaml.escape ch).length := by
  unfold Yaml.escape
  split
  · exact Nat.le_refl _
  · dsimp only
    split_ifs <;> simp

theorem brokenLine_space (indent : Nat) (cs : List Char) :
    brokenLine indent (' ' :: cs) =
      ('\\' :: '\n' :: (spaces indent ++ ['\\']), indent + 1) := by
  simp [brokenLine]

theorem brokenLine_other {indent : Nat} {cs : List Char} (h : cs.head? ≠ some ' ') :
    brokenLine indent cs = ('\\' :: '\n' :: spaces indent, indent) := by
  simp [brokenLine, h]

theorem seenDouble_cons {deep first : Bool} {ch : Char} {rest : List Char}
    (h : deep = true → first = false → isBare ch = false → ∀ more, more ≠ [] → rest ≠ ' ' :: more) :
    seenDouble deep first (ch :: rest) = ch :: seenDouble deep false rest := by
  cases rest with
  | nil => rfl
  | cons next rest =>
    rw [seenDouble, if_neg, List.nil_append]
    simp only [Bool.and_eq_true, Bool.not_eq_true', decide_eq_true_eq, List.isEmpty_eq_false_iff]
    rintro ⟨⟨⟨⟨hdeep, hfirst⟩, hbare⟩, rfl⟩, hne⟩
    exact h hdeep hfirst hbare rest hne rfl

theorem seenDouble_bare {deep first : Bool} {ch : Char} {rest : List Char}
    (h : isBare ch = true) : seenDouble deep first (ch :: rest) = ch :: seenDouble deep false rest := by
  apply seenDouble_cons
  intro _ _ hbare
  rw [h] at hbare
  cases hbare

/-- Nothing but a blank is written as one. -/
theorem head_doubleRest {fold : Bool} {indent column : Nat} {first fresh : Bool} {cs : List Char}
    (h : cs.head? ≠ some ' ') : (doubleRest fold indent column first fresh cs).head? ≠ some ' ' := by
  cases cs with
  | nil => exact h
  | cons ch rest =>
    have hch : ch ≠ ' ' := fun he => h (by rw [he]; rfl)
    obtain ⟨more, hmore⟩ := escape_head ch
    simp only [doubleRest]
    split_ifs <;> simp [brokenLine, hmore, hch]

/-- A blank behind a line that was broken for its sake. -/
theorem escaped_kept {fold : Bool} {indent : Nat} {rest : List Char}
    (ih : ∀ column, indent ≤ column → Escaped indent (seenDouble (fold && width ≤ indent) false rest)
      (doubleRest fold indent column false false rest)) :
    Escaped indent
      ((if (fold && width ≤ indent) && !rest.isEmpty then ['\\', ' '] else []) ++
        ' ' :: seenDouble (fold && width ≤ indent) false rest)
      ('\\' :: '\n' :: (spaces indent ++
        '\\' :: doubleRest fold indent (indent + 1) false true (' ' :: rest))) := by
  simp only [doubleRest, brokenLine_space, show isBare ' ' = true from rfl, if_true, Bool.not_false,
    Bool.and_true, decide_true, Bool.true_or, Bool.and_eq_true, decide_eq_true_eq,
    Bool.not_eq_true', List.isEmpty_eq_false_iff]
  by_cases hover : (fold = true ∧ width ≤ indent) ∧ rest ≠ []
  · rw [if_pos hover, if_pos ⟨⟨hover.1.1, hover.2⟩, Nat.lt_succ_of_le hover.1.2⟩]
    have hrest := Escaped.overrun (ih (indent + 1 + 1) (by omega))
    simpa using hrest
  · rw [if_neg hover, if_neg (fun h => hover ⟨⟨h.1.1, Nat.le_of_lt_succ h.2⟩, h.1.2⟩)]
    exact .kept (ih (indent + 1 + 1) (by omega))

/-- A character that stands for itself, which may have to begin a line. -/
theorem escaped_bare {fold : Bool} {indent column : Nat} {ch : Char} {rest : List Char}
    {first fresh : Bool} (hbare : isBare ch = true) (hcolumn : indent ≤ column)
    (ih : ∀ column, indent ≤ column → Escaped indent (seenDouble (fold && width ≤ indent) false rest)
      (doubleRest fold indent column false false rest)) :
    Escaped indent (seenDouble (fold && width ≤ indent) first (ch :: rest))
      (doubleRest fold indent column first fresh (ch :: rest)) := by
  rw [seenDouble_bare hbare]
  simp only [doubleRest, hbare, if_true]
  split_ifs with hbroken
  · by_cases hspace : ch = ' '
    · subst hspace
      rw [brokenLine_space]
      have hkept := Escaped.kept (ih (indent + 1 + 1) (by omega))
      simpa using hkept
    · have hhead : (ch :: rest).head? ≠ some ' ' := by simpa using hspace
      rw [brokenLine_other hhead]
      exact .broken (by simpa using hspace) (.bare hbare (ih (indent + 1) (by omega)))
  · exact .bare hbare (ih (column + 1) (by omega))

theorem escaped_doubleRest (fold : Bool) (indent : Nat) :
    ∀ (cs : List Char) (column : Nat) (first fresh : Bool), indent ≤ column →
      Escaped indent (seenDouble (fold && width ≤ indent) first cs)
        (doubleRest fold indent column first fresh cs)
  | [], _, _, _, _ => .nil
  | ch :: rest, column, first, fresh, hcolumn => by
    have ih := escaped_doubleRest fold indent rest
    cases hbare : isBare ch with
    | true => exact escaped_bare hbare hcolumn fun column h => ih column false false h
    | false =>
      have hlength := two_le_length_escape ch
      simp only [doubleRest, hbare, Bool.false_eq_true, if_false]
      split_ifs with hbroken
      · simp only [Bool.and_eq_true, Bool.not_eq_true', decide_eq_true_eq,
          List.isEmpty_eq_false_iff] at hbroken
        obtain ⟨⟨⟨hfold, hfirst⟩, hne⟩, _⟩ := hbroken
        by_cases hspace : rest.head? = some ' '
        · obtain ⟨more, rfl⟩ : ∃ more, rest = ' ' :: more := by
            cases rest with
            | nil => cases hspace
            | cons next more => exact ⟨more, by simpa using hspace⟩
          rw [brokenLine_space]
          have hkept := escaped_kept fun column h =>
            (escaped_doubleRest fold indent more column false false h)
          have hseen : seenDouble (fold && width ≤ indent) first (ch :: ' ' :: more) =
              ch :: ((if (fold && width ≤ indent) && !more.isEmpty then ['\\', ' '] else []) ++
                ' ' :: seenDouble (fold && width ≤ indent) false more) := by
            rw [seenDouble, seenDouble_bare rfl]
            simp [hbare, hfirst]
          rw [hseen]
          simpa using Escaped.escape hbare hkept
        · rw [brokenLine_other hspace, seenDouble_cons (by
            rintro _ _ _ more _ rfl
            exact hspace rfl)]
          have hrest := ih indent false true (Nat.le_refl _)
          simpa using Escaped.escape hbare (.broken (head_doubleRest hspace) hrest)
      · rw [seenDouble_cons]
        · exact .escape hbare (ih _ false true (by omega))
        · rintro hdeep hfirst _ more hmore rfl
          simp only [Bool.and_eq_true, decide_eq_true_eq] at hdeep
          apply hbroken
          simp only [hdeep.1, hfirst, Bool.not_false, List.isEmpty_cons, Bool.and_true, Bool.true_and,
            decide_eq_true_eq]
          have := hdeep.2
          omega

/-! ### Text that comes back -/

/-- An escape with a blank behind it, neither of them at an end of the text. -/
def BlankBehindEscape (cs : List Char) : Prop :=
  ∃ before ch behind, cs = before ++ ch :: ' ' :: behind ∧ before ≠ [] ∧ behind ≠ [] ∧
    isBare ch = false

/-- The same in a text that is read on. Its head counts as one unless it is `first`. -/
def BlankBehind (first : Bool) (cs : List Char) : Prop :=
  ∃ before ch behind, cs = before ++ ch :: ' ' :: behind ∧ (first = true → before ≠ []) ∧
    behind ≠ [] ∧ isBare ch = false

theorem blankBehind_cons {first : Bool} {ch : Char} {rest : List Char} :
    BlankBehind first (ch :: rest) ↔
      (first = false ∧ isBare ch = false ∧ ∃ behind, rest = ' ' :: behind ∧ behind ≠ []) ∨
        BlankBehind false rest := by
  constructor
  · rintro ⟨before, d, behind, heq, hbefore, hne, hbare⟩
    cases before with
    | nil =>
      rw [List.nil_append, List.cons.injEq] at heq
      obtain ⟨rfl, rfl⟩ := heq
      exact .inl ⟨by simpa using hbefore, hbare, behind, rfl, hne⟩
    | cons e before =>
      rw [List.cons_append, List.cons.injEq] at heq
      exact .inr ⟨before, d, behind, heq.2, by simp, hne, hbare⟩
  · intro h
    rcases h with ⟨hfirst, hbare, behind, rfl, hne⟩ | ⟨before, d, behind, rfl, _, hne, hbare⟩
    · exact ⟨[], ch, behind, rfl, by simp [hfirst], hne, hbare⟩
    · exact ⟨ch :: before, d, behind, rfl, fun _ => List.cons_ne_nil _ _, hne, hbare⟩

theorem not_blankBehind_nil {first : Bool} : ¬BlankBehind first [] := by
  rintro ⟨before, ch, behind, heq, _⟩
  simp at heq

theorem length_le_seenDouble (deep first : Bool) (cs : List Char) :
    cs.length ≤ (seenDouble deep first cs).length := by
  induction cs generalizing first with
  | nil => exact Nat.le_refl _
  | cons ch rest ih =>
    cases rest with
    | nil => exact Nat.le_refl _
    | cons next rest =>
      have hrest := ih false
      rw [seenDouble]
      simp only [List.length_cons, List.length_append] at hrest ⊢
      omega

theorem seenDouble_eq_iff {deep first : Bool} {cs : List Char} :
    seenDouble deep first cs = cs ↔ ¬(deep = true ∧ BlankBehind first cs) := by
  induction cs generalizing first with
  | nil => exact iff_of_true rfl fun h => not_blankBehind_nil h.2
  | cons ch rest ih =>
    rw [blankBehind_cons]
    cases rest with
    | nil => exact iff_of_true rfl (by simp [not_blankBehind_nil])
    | cons next rest =>
      rw [seenDouble]
      split_ifs with hover
      · simp only [Bool.and_eq_true, Bool.not_eq_true', decide_eq_true_eq,
          List.isEmpty_eq_false_iff] at hover
        obtain ⟨⟨⟨⟨hdeep, hfirst⟩, hbare⟩, rfl⟩, hne⟩ := hover
        apply iff_of_false
        · intro heq
          have hlength := congrArg List.length heq
          have hrest := length_le_seenDouble deep false (' ' :: rest)
          simp only [List.length_cons, List.length_append, List.length_nil] at hrest hlength
          omega
        · rw [not_not]
          exact ⟨hdeep, .inl ⟨hfirst, hbare, rest, rfl, hne⟩⟩
      · rw [List.nil_append, List.cons.injEq, and_iff_right rfl, ih]
        apply not_congr
        apply and_congr_right
        intro hdeep
        refine (or_iff_right ?_).symm
        rintro ⟨hfirst, hbare, behind, heq, hne⟩
        obtain ⟨rfl, rfl⟩ := List.cons.inj heq
        exact hover (by simp [hdeep, hfirst, hbare, hne])

/-- What is read of a text that was written with this folding and indentation. -/
def seenText (fold : Bool) (indent : Nat) (cs : List Char) : List Char :=
  match TextStyle.of cs with
  | .plain => cs
  | .single => seenRuns (runsOf cs)
  | .double => seenDouble (fold && width ≤ indent) true cs

/-- A text that another one is read for: a next line mark in single quotes, or a blank behind an escape
where every line is too long from its start. -/
def Garbled (fold : Bool) (indent : Nat) (cs : List Char) : Prop :=
  match TextStyle.of cs with
  | .plain => False
  | .single => '\u0085' ∈ cs
  | .double => fold = true ∧ width ≤ indent ∧ BlankBehindEscape cs

theorem allowsSingle_of_single {cs : List Char} (h : TextStyle.of cs = .single) :
    allowsSingle cs = true := by
  unfold TextStyle.of at h
  split_ifs at h with _ hsingle
  exact hsingle

theorem allowsPlain_of_plain {cs : List Char} (h : TextStyle.of cs = .plain) :
    allowsPlain cs = true := by
  unfold TextStyle.of at h
  split_ifs at h with hplain
  exact hplain

theorem seenText_eq_iff {fold : Bool} {indent : Nat} {cs : List Char} :
    seenText fold indent cs = cs ↔ ¬Garbled fold indent cs := by
  unfold seenText Garbled
  split
  · simp
  · next hstyle =>
    have hsingle := allowsSingle_of_single hstyle
    simp only [allowsSingle, Bool.and_eq_true] at hsingle
    have := seenRuns_eq_iff (sound_runsOf hsingle.1.1)
    rwa [charsOf_runsOf] at this
  · rw [seenDouble_eq_iff]
    apply not_congr
    simp only [Bool.and_eq_true, decide_eq_true_eq, BlankBehindEscape, BlankBehind, true_implies,
      and_assoc]

end ServiceAtlas.Yaml
