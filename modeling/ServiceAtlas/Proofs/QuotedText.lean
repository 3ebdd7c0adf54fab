import ServiceAtlas.Proofs.Numerals
import ServiceAtlas.Proofs.TextLayout

/-!
Quoted text read. A reading is followed character by character, part by part and gap by gap, without a
count of its steps; from the layouts of text in single and in double quotes it leads to the text that is
seen in them.
-/

namespace ServiceAtlas.Yaml.Token
open Cursor

/-! ### One reading -/

/-- The part of quoted text at a cursor that is no plain character of a word. -/
def quotedPart (double : Bool) (c : Cursor) : Except Malformation (List Char × Cursor) :=
  if !double && c.head = '\'' && c.peek 1 = '\'' then .ok (['\''], c.skip 2)
  else if (double && c.head = '\'') || (!double && (c.head = '"' || c.head = '\\')) then
    .ok ([c.head], c.forward)
  else if double && c.head = '\\' then readEscape c.forward
  else .ok ([], c)

/-- From inside the quotes, the text up to the closing one is read, and the cursor behind it. -/
inductive Within (quote : Char) : Cursor → List Char → Cursor → Prop
  | close {c : Cursor} {tail : List Char} : c.rest = quote :: tail →
      (quote = '\'' → tail.head? ≠ some '\'') → Within quote c [] c.forward
  | char {c after : Cursor} {ch : Char} {tail cs : List Char} : c.rest = ch :: tail →
      isQuotedWord ch = true → Within quote c.forward cs after → Within quote c (ch :: cs) after
  | part {c after : Cursor} {n : Nat} (part : List Char) {cs : List Char} : isQuotedWord c.head = false →
      quotedPart (quote = '"') c = .ok (part, c.skip n) → 0 < n → n ≤ c.rest.length →
      Within quote (c.skip n) cs after → Within quote c (part ++ cs) after
  | gap {c after : Cursor} {n : Nat} {gap cs : List Char} : isGap c.head = true →
      quotedGap c = .ok (gap, c.skip n) → 0 < n → n ≤ c.rest.length →
      Within quote (c.skip n) cs after → Within quote c (gap ++ cs) after

theorem quotedWord_succ (double : Bool) (fuel : Nat) (c : Cursor) :
    quotedWord double (fuel + 1) c = (do
      let word := c.run isQuotedWord
      let c := c.skip word.length
      let (part, next) ← quotedPart double c
      if next.index = c.index then return (word, c)
      let (more, c) ← quotedWord double fuel next
      return (word ++ part ++ more, c)) := by
  simp only [quotedWord, quotedPart]
  split_ifs <;> rfl

theorem run_isQuotedWord_of_head {c : Cursor} (h : isQuotedWord c.head = false) :
    c.run isQuotedWord = [] := by
  apply run_eq_nil
  intro ch hch
  cases hrest : c.rest with
  | nil => rw [hrest] at hch; cases hch
  | cons d tail =>
    rw [hrest] at hch
    obtain rfl : d = ch := by simpa using hch
    rwa [head_of_rest hrest] at h

/-- One more character of a word. -/
theorem quotedWord_char {double : Bool} {fuel : Nat} {c : Cursor} {ch : Char} {tail : List Char}
    (h : c.rest = ch :: tail) (hch : isQuotedWord ch = true) :
    quotedWord double (fuel + 1) c =
      (quotedWord double (fuel + 1) c.forward).map fun r => (ch :: r.1, r.2) := by
  have hrun : c.run isQuotedWord = ch :: c.forward.run isQuotedWord := by
    rw [run, run, h, forward_of_rest h, List.takeWhile_cons_of_pos hch]
  rw [quotedWord_succ, quotedWord_succ, hrun]
  simp only [List.length_cons, skip_succ]
  cases quotedPart double (c.forward.skip (c.forward.run isQuotedWord).length) with
  | error m => rfl
  | ok r =>
    obtain ⟨part, next⟩ := r
    by_cases hsame : next.index = (c.forward.skip (c.forward.run isQuotedWord).length).index
    · simp [bind, Except.bind, hsame, Except.map, pure, Except.pure]
    · simp only [bind, Except.bind, hsame, if_false]
      cases quotedWord double fuel next <;> rfl

theorem quotedWord_stop {double : Bool} {fuel : Nat} {c : Cursor} (h : isQuotedWord c.head = false)
    (hpart : quotedPart double c = .ok ([], c)) :
    quotedWord double (fuel + 1) c = .ok ([], c) := by
  rw [quotedWord_succ, run_isQuotedWord_of_head h]
  simp only [List.length_nil, skip, hpart, bind, Except.bind, if_true]
  rfl

theorem quotedWord_part {double : Bool} {fuel n : Nat} {c : Cursor} {part : List Char}
    (h : isQuotedWord c.head = false) (hpart : quotedPart double c = .ok (part, c.skip n))
    (hpos : 0 < n) (hn : n ≤ c.rest.length) :
    quotedWord double (fuel + 1) c =
      (quotedWord double fuel (c.skip n)).map fun r => (part ++ r.1, r.2) := by
  have hindex : (c.skip n).index ≠ c.index := by
    rw [index_skip hn]
    omega
  rw [quotedWord_succ, run_isQuotedWord_of_head h]
  simp only [List.length_nil, skip, hpart, bind, Except.bind, hindex, if_false, List.nil_append]
  cases quotedWord double fuel (c.skip n) <;> rfl

theorem quotedPart_of_gap {double : Bool} {c : Cursor} (h : isGap c.head = true) :
    isQuotedWord c.head = false ∧ quotedPart double c = .ok ([], c) := by
  have hne : ∀ ch, isGap ch = false → c.head ≠ ch := by
    rintro ch hch rfl
    rw [h] at hch
    cases hch
  have hquote := hne '\'' rfl
  have hdouble := hne '"' rfl
  have hslash := hne '\\' rfl
  exact ⟨by simp [isQuotedWord, h], by simp [quotedPart, hquote, hdouble, hslash]⟩

theorem quotedPart_of_close {quote : Char} {c : Cursor} {tail : List Char}
    (hquote : quote = '\'' ∨ quote = '"') (h : c.rest = quote :: tail)
    (hnext : quote = '\'' → tail.head? ≠ some '\'') :
    isQuotedWord c.head = false ∧ quotedPart (quote = '"') c = .ok ([], c) := by
  have hhead := head_of_rest h
  rcases hquote with rfl | rfl
  · have hpeek : c.peek 1 ≠ '\'' := by
      have := hnext rfl
      cases tail with
      | nil => simp [peek, h]
      | cons ch tail => simpa [peek, h] using this
    rw [hhead]
    exact ⟨rfl, by simp [quotedPart, hhead, hpeek]⟩
  · rw [hhead]
    exact ⟨rfl, by simp [quotedPart, hhead]⟩

/-- The word at a cursor, and what stands between it and the closing quote. As long as there is more
fuel than text, neither depends on it. -/
structure Parts (quote : Char) (c : Cursor) (cs : List Char) (after : Cursor) (word more : List Char)
    (mid : Cursor) : Prop where
  readWord : ∀ fuel, c.rest.length < fuel → quotedWord (quote = '"') fuel c = .ok (word, mid)
  readMore : ∀ fuel, mid.rest.length < fuel → quotedRest quote fuel mid = .ok (more, after)
  length_le : mid.rest.length ≤ c.rest.length
  eq : cs = word ++ more

theorem length_rest_skip_lt {c : Cursor} {n : Nat} (hpos : 0 < n) (hn : n ≤ c.rest.length) :
    (c.skip n).rest.length < c.rest.length := by
  rw [rest_skip, List.length_drop]
  omega

theorem Within.parts {quote : Char} {c after : Cursor} {cs : List Char}
    (hquote : quote = '\'' ∨ quote = '"') (h : Within quote c cs after) :
    ∃ word more mid, Parts quote c cs after word more mid := by
  induction h with
  | @close c tail hrest hnext =>
    obtain ⟨hhead, hpart⟩ := quotedPart_of_close hquote hrest hnext
    refine ⟨[], [], c, fun fuel hfuel => ?_, fun fuel hfuel => ?_, Nat.le_refl _, rfl⟩
    · obtain ⟨fuel, rfl⟩ := Nat.exists_eq_add_of_le' (show 1 ≤ fuel by omega)
      exact quotedWord_stop hhead hpart
    · obtain ⟨fuel, rfl⟩ := Nat.exists_eq_add_of_le' (show 1 ≤ fuel by omega)
      simp only [quotedRest, head_of_rest hrest, if_true]
      rfl
  | @char c after ch tail cs hrest hch _ ih =>
    obtain ⟨word, more, mid, ih⟩ := ih
    have hlength : c.forward.rest.length < c.rest.length := by
      rw [forward_of_rest hrest, hrest]
      exact Nat.lt_succ_self _
    refine ⟨ch :: word, more, mid, fun fuel hfuel => ?_, ih.readMore,
      Nat.le_trans ih.length_le (Nat.le_of_lt hlength), by rw [ih.eq]; rfl⟩
    obtain ⟨fuel, rfl⟩ := Nat.exists_eq_add_of_le' (show 1 ≤ fuel by omega)
    rw [quotedWord_char hrest hch, ih.readWord _ (by omega)]
    rfl
  | @part c after n part cs hhead hpart hpos hn _ ih =>
    obtain ⟨word, more, mid, ih⟩ := ih
    have hlength := length_rest_skip_lt hpos hn
    refine ⟨part ++ word, more, mid, fun fuel hfuel => ?_, ih.readMore,
      Nat.le_trans ih.length_le (Nat.le_of_lt hlength), by rw [ih.eq, List.append_assoc]⟩
    obtain ⟨fuel, rfl⟩ := Nat.exists_eq_add_of_le' (show 1 ≤ fuel by omega)
    rw [quotedWord_part hhead hpart hpos hn, ih.readWord _ (by omega)]
    rfl
  | @gap c after n gap cs hhead hgap hpos hn _ ih =>
    obtain ⟨word, more, mid, ih⟩ := ih
    have hlength := length_rest_skip_lt hpos hn
    obtain ⟨hword, hpart⟩ := quotedPart_of_gap hhead
    have hquoted : c.head ≠ quote := by
      rintro rfl
      rcases hquote with he | he <;> (rw [he] at hhead; cases hhead)
    refine ⟨[], gap ++ cs, c, fun fuel hfuel => ?_, fun fuel hfuel => ?_, Nat.le_refl _, rfl⟩
    · obtain ⟨fuel, rfl⟩ := Nat.exists_eq_add_of_le' (show 1 ≤ fuel by omega)
      exact quotedWord_stop hword hpart
    · obtain ⟨fuel, rfl⟩ := Nat.exists_eq_add_of_le' (show 1 ≤ fuel by omega)
      have hmore := ih.readMore fuel (by have := ih.length_le; omega)
      simp only [quotedRest, hquoted, if_false, hgap, ih.readWord _ (Nat.lt_succ_self _), hmore, bind,
        Except.bind, pure, Except.pure, ih.eq, List.append_assoc]

theorem Within.readQuoted {quote : Char} {c after : Cursor} {cs : List Char}
    (hquote : quote = '\'' ∨ quote = '"') (h : Within quote c.forward cs after) :
    Token.readQuoted quote c = .ok (cs, after) := by
  obtain ⟨word, more, mid, hparts⟩ := h.parts hquote
  simp only [Token.readQuoted, hparts.readWord _ (Nat.lt_succ_self _), hparts.readMore _ (Nat.lt_succ_self _),
    bind, Except.bind, pure, Except.pure, hparts.eq]

/-! ### Gaps -/

theorem isBlankOrTab_of_solid {ch : Char} (h : Solid ch) : isBlankOrTab ch = false := by
  simp [isBlankOrTab, h.ne_space, h.ne_tab]

theorem isBlankOrTab_of_mem_spaces {n : Nat} {ch : Char} (h : ch ∈ spaces n) :
    isBlankOrTab ch = true := by
  rw [mem_spaces h]
  rfl

theorem isBlankOrTab_of_isBreak {ch : Char} (h : isBreak ch = true) : isBlankOrTab ch = false := by
  rcases isBreak_iff.mp h with rfl | rfl | rfl | rfl <;> rfl

theorem run_blanks {c : Cursor} {n : Nat} {ch : Char} {tail : List Char}
    (h : c.rest = spaces n ++ ch :: tail) (hch : isBlankOrTab ch = false) :
    c.run isBlankOrTab = spaces n := by
  refine run_eq h (fun d hd => isBlankOrTab_of_mem_spaces hd) ?_
  rintro d hd
  obtain rfl : ch = d := by simpa using hd
  exact hch

theorem quotedGap_blanks {c : Cursor} {n : Nat} {ch : Char} {tail : List Char}
    (h : c.rest = spaces n ++ ch :: tail) (hch : Solid ch) :
    quotedGap c = .ok (spaces n, c.skip n) := by
  have hrest : (c.skip n).rest = ch :: tail := by rw [skip_spaces h]
  rw [quotedGap, run_blanks h (isBlankOrTab_of_solid hch), length_spaces]
  simp [atEnd_of_rest hrest, head_of_rest hrest, hch.not_lineEnd, pure, Except.pure]

/-- Line breaks that are read behind the first one, with the indentation of the next line. -/
theorem quotedBreaks_eq {indent : Nat} (hindent : 0 < indent) {ch : Char} {tail : List Char}
    (hch : Solid ch) {bs : List Char} (hbs : ∀ b ∈ bs, isBreak b = true) {c : Cursor}
    (h : c.rest = bs ++ (spaces indent ++ ch :: tail)) {fuel : Nat} (hfuel : bs.length < fuel) :
    quotedBreaks fuel c = .ok (bs.map lineBreakOf, c.skip (bs.length + indent)) := by
  induction bs generalizing c fuel with
  | nil =>
    rw [List.nil_append] at h
    obtain ⟨fuel, rfl⟩ := Nat.exists_eq_add_of_le' (show 1 ≤ fuel from hfuel)
    obtain ⟨n, rfl⟩ := Nat.exists_eq_add_of_le' (show 1 ≤ indent from hindent)
    have hsep : c.atSeparator = false := atSeparator_eq_false h (by decide) (by decide)
    have hskip : c.skipWhile isBlankOrTab = c.skip (n + 1) := by
      rw [skipWhile, run_blanks h (isBlankOrTab_of_solid hch), length_spaces]
    have hrest : (c.skip (n + 1)).rest = ch :: tail := by rw [skip_spaces h]
    simp [quotedBreaks, hsep, hskip, atEnd_of_rest hrest, head_of_rest hrest, hch.not_lineEnd, pure,
      Except.pure]
  | cons b bs ih =>
    rw [List.forall_mem_cons] at hbs
    obtain ⟨fuel, rfl⟩ := Nat.exists_eq_add_of_le' (show 1 ≤ fuel by omega)
    have hdash : b ≠ '-' := by rintro rfl; cases hbs.1
    have hdot : b ≠ '.' := by rintro rfl; cases hbs.1
    have hsep : c.atSeparator = false := atSeparator_eq_false h hdash hdot
    have hskip : c.skipWhile isBlankOrTab = c := by
      apply skipWhile_of_head
      rw [h]
      rintro d hd
      obtain rfl : b = d := by simpa using hd
      exact isBlankOrTab_of_isBreak hbs.1
    have hmore := ih hbs.2 (forward_of_rest h) (show bs.length < fuel by simpa using hfuel)
    rw [quotedBreaks]
    simp only [hsep, hskip, atEnd_of_rest h, head_of_rest h, isLineEnd_of_isBreak hbs.1,
      lineBreak_eq h hbs.1, hmore, bind, Except.bind, pure, Except.pure, Bool.false_eq_true, if_false,
      Bool.not_false, Bool.and_self, if_true, List.map_cons, List.singleton_append, List.length_cons,
      Nat.add_right_comm _ 1, skip_succ]

/-- What is read of line breaks of which the first one may be folded. -/
def foldedBreaks (b : Char) (bs : List Char) : List Char :=
  let later := bs.map lineBreakOf
  if lineBreakOf b ≠ '\n' then lineBreakOf b :: later
  else if later.isEmpty then [' '] else later

theorem quotedGap_breaks {indent : Nat} (hindent : 0 < indent) {ch : Char} {tail : List Char}
    (hch : Solid ch) {b : Char} (hb : isBreak b = true) {bs : List Char}
    (hbs : ∀ b ∈ bs, isBreak b = true) {c : Cursor}
    (h : c.rest = b :: (bs ++ (spaces indent ++ ch :: tail))) :
    quotedGap c = .ok (foldedBreaks b bs, c.skip (bs.length + 1 + indent)) := by
  have hrun : c.run isBlankOrTab = [] := by
    apply run_eq_nil
    rw [h]
    rintro d hd
    obtain rfl : b = d := by simpa using hd
    exact isBlankOrTab_of_isBreak hb
  have hforward := forward_of_rest h
  have hlength := congrArg List.length hforward
  rw [List.length_append] at hlength
  have hmore := quotedBreaks_eq hindent hch hbs hforward
    (show bs.length < c.forward.rest.length + 1 by omega)
  rw [quotedGap, hrun]
  simp only [List.length_nil, skip, atEnd_of_rest h, head_of_rest h, isLineEnd_of_isBreak hb,
    lineBreak_eq h hb, hmore, bind, Except.bind, pure, Except.pure, Bool.false_eq_true, if_false,
    if_true, foldedBreaks, Nat.add_right_comm _ 1, skip_succ]
  by_cases hn : lineBreakOf b = '\n'
  · cases bs <;> simp [hn]
  · simp [hn]

/-- What is written of the line breaks of a text is read as what is seen of them. -/
theorem foldedBreaks_written {cs : List Char} (hne : cs ≠ []) (hcs : ∀ b ∈ cs, isBreak b = true) :
    ∃ b bs, writtenBreaks cs = b :: bs ∧ isBreak b = true ∧ (∀ b ∈ bs, isBreak b = true) ∧
      foldedBreaks b bs = seenBreaks cs := by
  obtain ⟨ch, rest, rfl⟩ := List.exists_cons_of_ne_nil hne
  by_cases hn : ch = '\n'
  · subst hn
    exact ⟨'\n', '\n' :: rest, rfl, rfl, hcs, by simp [foldedBreaks, seenBreaks, lineBreakOf]⟩
  · rw [List.forall_mem_cons] at hcs
    refine ⟨ch, rest, by simp [writtenBreaks, hn], hcs.1, hcs.2, ?_⟩
    by_cases hmark : ch = '\u0085'
    · simp [foldedBreaks, seenBreaks, lineBreakOf, hmark]
    · simp [foldedBreaks, seenBreaks, lineBreakOf, hmark, hn]

/-! ### Single quotes -/

/-- The text that follows begins with a character that is no gap. -/
def StartsSolid (cs : List Char) : Prop := ∃ ch tail, cs = ch :: tail ∧ Solid ch

theorem solid_quote : Solid '\'' := rfl

theorem startsSolid_doubleQuote {cs rest : List Char} (hne : cs ≠ []) (hcs : ∀ ch ∈ cs, Solid ch) :
    StartsSolid (cs.flatMap doubleQuote ++ rest) := by
  obtain ⟨ch, more, rfl⟩ := List.exists_cons_of_ne_nil hne
  rw [List.flatMap_cons, doubleQuote]
  split_ifs with hquote
  · exact ⟨_, _, rfl, solid_quote⟩
  · exact ⟨_, _, rfl, hcs ch List.mem_cons_self⟩

/-- One character of a word in single quotes. -/
theorem within_doubleQuote {c after : Cursor} {ch : Char} {rest cs : List Char} (hch : Solid ch)
    (h : c.rest = doubleQuote ch ++ rest)
    (hmore : Within '\'' (c.skip (doubleQuote ch).length) cs after) :
    Within '\'' c (ch :: cs) after := by
  unfold doubleQuote at h hmore
  split_ifs at h hmore with hquote
  · subst hquote
    have hhead := head_of_rest h
    have hpeek : c.peek 1 = '\'' := by simp [peek, h]
    have hlength : 2 ≤ c.rest.length := by simp [h]
    apply Within.part (n := 2) ['\''] _ _ (by decide) hlength hmore
    · rw [hhead]
      rfl
    · simp [quotedPart, hhead, hpeek]
  · by_cases hword : isQuotedWord ch = true
    · exact .char h hword hmore
    · have hhead := head_of_rest h
      have hmark : ch = '"' ∨ ch = '\\' := by
        have hgap : isGap ch = false := hch
        simpa [isQuotedWord, hgap, hquote, or_iff_not_imp_left] using hword
      have hlength : 1 ≤ c.rest.length := by simp [h]
      apply Within.part (n := 1) [ch] _ _ (by decide) hlength hmore
      · rw [hhead]
        simpa using hword
      · rcases hmark with rfl | rfl <;> simp [quotedPart, hhead, skip_one]

theorem within_word {after : Cursor} {rest more : List Char} {cs : List Char}
    (hcs : ∀ ch ∈ cs, Solid ch) {c : Cursor} (h : c.rest = cs.flatMap doubleQuote ++ rest)
    (hmore : Within '\'' (c.skip (cs.flatMap doubleQuote).length) more after) :
    Within '\'' c (cs ++ more) after := by
  induction cs generalizing c with
  | nil => exact hmore
  | cons ch cs ih =>
    rw [List.forall_mem_cons] at hcs
    rw [List.flatMap_cons, List.append_assoc] at h
    rw [List.flatMap_cons, List.length_append, skip_add] at hmore
    exact within_doubleQuote hcs.1 h (ih hcs.2 (rest_skip_length h) hmore)

/-- Words, and the closing quote, begin with no gap. -/
theorem startsSolid_laid {indent : Nat} {runs : List Run} {out : List Char}
    (h : Laid doubleQuote indent runs out) (hs : ∀ r ∈ runs, r.Sound)
    (hword : ∀ r ∈ runs.head?, r.isWord = true) (tail : List Char) :
    StartsSolid (out ++ '\'' :: tail) := by
  cases h with
  | nil => exact ⟨_, _, rfl, solid_quote⟩
  | @word cs runs out _ =>
    have hsound := hs _ List.mem_cons_self
    rw [List.append_assoc]
    exact startsSolid_doubleQuote hsound.1 hsound.2
  | blank _ => cases hword _ rfl
  | fold _ _ => cases hword _ rfl
  | breaks _ => cases hword _ rfl

theorem isWord_of_alternating {r : Run} {runs : List Run} (h : Run.Alternating (r :: runs))
    (hr : r.isWord = false) : ∀ s ∈ runs.head?, s.isWord = true := by
  intro s hs
  cases runs with
  | nil => cases hs
  | cons t rest =>
    obtain rfl : t = s := by simpa using hs
    have hne := h.1
    rw [hr] at hne
    simpa using hne.symm

/-- A gap with line breaks, whatever stands on the next line. -/
theorem within_breaks {quote : Char} {indent : Nat} (hindent : 0 < indent) {b : Char}
    {bs rest cs : List Char} (hb : isBreak b = true) (hbs : ∀ b ∈ bs, isBreak b = true)
    (hstart : StartsSolid rest) {c after : Cursor}
    (hc : c.rest = (b :: bs) ++ (spaces indent ++ rest))
    (hmore : Within quote (c.skip ((b :: bs).length + indent)) cs after) :
    Within quote c (foldedBreaks b bs ++ cs) after := by
  obtain ⟨ch, tail, rfl, hch⟩ := hstart
  apply Within.gap _ (quotedGap_breaks hindent hch hb hbs hc) (Nat.add_pos_right _ hindent) _ hmore
  · rw [head_of_rest hc]
    exact isGap_iff.mpr (.inr (.inr (.inr (isLineEnd_of_isBreak hb))))
  · rw [hc]
    simp only [List.length_append, List.length_cons, length_spaces]
    omega

/-- The same in front of text that is written up to the closing quote. -/
theorem within_line {quote : Char} {indent : Nat} (hindent : 0 < indent) {b : Char}
    {bs out seen tail : List Char} (hb : isBreak b = true) (hbs : ∀ b ∈ bs, isBreak b = true)
    (hstart : StartsSolid (out ++ quote :: tail)) {c : Cursor}
    (hc : c.rest = (b :: bs) ++ spaces indent ++ out ++ quote :: tail)
    (hmore : ∀ c : Cursor, c.rest = out ++ quote :: tail →
      Within quote c seen (c.skip (out.length + 1))) :
    Within quote c (foldedBreaks b bs ++ seen)
      (c.skip (((b :: bs) ++ spaces indent ++ out).length + 1)) := by
  rw [List.append_assoc, List.append_assoc] at hc
  have hwithin := hmore (c.skip ((b :: bs).length + indent)) (by
    rw [skip_add, rest_skip, rest_skip, hc]
    simp [spaces])
  rw [← skip_add] at hwithin
  have hlength : ((b :: bs) ++ spaces indent ++ out).length + 1 =
      (b :: bs).length + indent + (out.length + 1) := by
    simp only [List.length_append, length_spaces]
    omega
  rw [hlength]
  exact within_breaks hindent hb hbs hstart hc hwithin

/-- A gap of blanks. -/
theorem within_blanks {quote : Char} {n : Nat} (hn : 0 < n) {rest cs : List Char}
    (hstart : StartsSolid rest) {c after : Cursor} (hc : c.rest = spaces n ++ rest)
    (hmore : Within quote (c.skip n) cs after) : Within quote c (spaces n ++ cs) after := by
  obtain ⟨ch, tail, rfl, hch⟩ := hstart
  apply Within.gap _ (quotedGap_blanks hc hch) hn _ hmore
  · obtain ⟨m, rfl⟩ := Nat.exists_eq_add_of_le' (show 1 ≤ n from hn)
    rw [head_of_rest hc]
    rfl
  · rw [hc, List.length_append, length_spaces]
    exact Nat.le_add_right _ _

/-- Text in single quotes, up to the closing one. -/
theorem within_laid {indent : Nat} (hindent : 0 < indent) {tail : List Char}
    (htail : tail.head? ≠ some '\'') {runs : List Run} {out : List Char}
    (h : Laid doubleQuote indent runs out) (hs : ∀ r ∈ runs, r.Sound)
    (halt : Run.Alternating runs) {c : Cursor} (hc : c.rest = out ++ '\'' :: tail) :
    Within '\'' c (seenRuns runs) (c.skip (out.length + 1)) := by
  induction h generalizing c with
  | nil => exact .close hc fun _ => htail
  | @word cs runs out _ ih =>
    rw [List.forall_mem_cons] at hs
    rw [List.append_assoc] at hc
    have hmore := ih hs.2 halt.tail (rest_skip_length hc)
    rw [← skip_add, ← Nat.add_assoc, ← List.length_append] at hmore
    exact within_word hs.1.2 hc hmore
  | @blank n runs out hlaid ih =>
    rw [List.forall_mem_cons] at hs
    have hstart := startsSolid_laid hlaid hs.2 (isWord_of_alternating halt rfl) tail
    rw [List.append_assoc] at hc
    have hmore := ih hs.2 halt.tail (c := c.skip n) (by rw [skip_spaces hc])
    rw [← skip_add, ← Nat.add_assoc] at hmore
    rw [List.length_append, length_spaces]
    exact within_blanks hs.1 hstart hc hmore
  | @fold runs out _ hlaid ih =>
    rw [List.forall_mem_cons] at hs
    have hstart := startsSolid_laid hlaid hs.2 (isWord_of_alternating halt rfl) tail
    exact within_line hindent rfl (List.forall_mem_nil _) hstart hc fun _ hc => ih hs.2 halt.tail hc
  | @breaks cs runs out hlaid ih =>
    rw [List.forall_mem_cons] at hs
    have hstart := startsSolid_laid hlaid hs.2 (isWord_of_alternating halt rfl) tail
    obtain ⟨b, bs, hwritten, hb, hbs, hseen⟩ := foldedBreaks_written hs.1.1 hs.1.2
    rw [hwritten] at hc ⊢
    change Within '\'' c (seenBreaks cs ++ seenRuns runs) _
    rw [← hseen]
    exact within_line hindent hb hbs hstart hc fun _ hc => ih hs.2 halt.tail hc

/-- A text that is written in single quotes. -/
theorem readQuoted_single {fold : Bool} {indent column : Nat} (hindent : 0 < indent)
    {cs tail : List Char} (hcs : allowsSingle cs = true) (htail : tail.head? ≠ some '\'')
    {c : Cursor} (hc : c.rest = singleChars fold indent column cs ++ tail) :
    readQuoted '\'' c =
      .ok (seenRuns (runsOf cs), c.skip (singleChars fold indent column cs).length) := by
  have hall : cs.all isOrdinary = true := by
    simp only [allowsSingle, Bool.and_eq_true] at hcs
    exact hcs.1.1
  rw [singleChars, List.append_assoc, List.cons_append, List.singleton_append] at hc
  have hwithin := within_laid hindent htail
    (laid_flowRuns doubleQuote fold indent (column + 1) true (runsOf cs)) (sound_runsOf hall)
    (alternating_runsOf hcs) (forward_of_rest hc)
  have hread := hwithin.readQuoted (.inl rfl)
  rw [hread, singleChars, List.length_append, List.length_cons, List.length_singleton, ← skip_succ]

/-! ### Double quotes -/

theorem solid_of_isBare {ch : Char} (h : isBare ch = true) (hspace : ch ≠ ' ') : Solid ch := by
  have hne : ∀ d, isBare d = false → ch ≠ d := by
    rintro d hd rfl
    rw [h] at hd
    cases hd
  simp [Solid, isGap, isBreak, hspace, hne '\x00' rfl, hne '\t' rfl, hne '\r' rfl, hne '\n' rfl,
    hne '\u0085' rfl, hne '\u2028' rfl, hne '\u2029' rfl]

theorem letter_read {ch letter : Char} (h : escapeLetters.lookup ch = some letter) :
    escapes.lookup letter = some ch := by
  have hall : ∀ e ∈ escapeLetters, escapes.lookup e.2 = some e.1 := by decide
  obtain ⟨before, behind, heq, _⟩ := List.lookup_eq_some_iff.mp h
  exact hall (ch, letter) (by rw [heq]; simp)

/-- The character with the number that stands in an escape. -/
theorem charOfUnit_number (ch : Char) : Text.charOfUnit ((Text.half? ch).getD ch.toNat) = ch := by
  cases hhalf : Text.half? ch with
  | none =>
    have hno : Text.isHalf ch.toNat = false := by
      rw [Bool.eq_false_iff, Ne, Text.isHalf_iff]
      have hvalid := ch.valid
      simp only [UInt32.isValidChar, Nat.isValidChar] at hvalid
      change ¬(0xD800 ≤ ch.val.toNat ∧ ch.val.toNat < 0xE000)
      omega
    simp [Text.charOfUnit, hno]
  | some n =>
    have hn : Text.halfOffset ≤ ch.toNat ∧ Text.isHalf n = true ∧ ch.toNat - Text.halfOffset = n := by
      unfold Text.half? at hhalf
      dsimp only at hhalf
      split_ifs at hhalf with h
      rw [Bool.and_eq_true, decide_eq_true_eq] at h
      obtain rfl := Option.some.inj hhalf
      exact ⟨h.1, h.2, rfl⟩
    simp [Text.charOfUnit, hn.2.1, show Text.halfOffset + n = ch.toNat by omega]

theorem number_lt (ch : Char) : (Text.half? ch).getD ch.toNat < 0x110000 := by
  have hch : ch.toNat < 0x110000 := by
    have hvalid := ch.valid
    simp only [UInt32.isValidChar, Nat.isValidChar] at hvalid
    change ch.val.toNat < 0x110000
    omega
  unfold Text.half?
  dsimp only
  split_ifs with h
  · rw [Option.getD_some]
    omega
  · rwa [Option.getD_none]

theorem length_hex (upperCase : Bool) (width n : Nat) : (Text.hex upperCase width n).length = width := by
  induction width generalizing n with
  | zero => rfl
  | succ width ih => simp [Text.hex, ih]

/-- A number of a fixed width behind the letter that tells the width. -/
theorem readEscape_hex {c : Cursor} {letter : Char} {width n : Nat} {rest : List Char}
    (hletter : escapes.lookup letter = none) (hwidth : hexWidths.lookup letter = some width)
    (hfits : n < 16 ^ width) (hn : n < 0x110000)
    (h : c.rest = letter :: (Text.hex true width n ++ rest)) :
    readEscape c = .ok ([Text.charOfUnit n], c.skip (width + 1)) := by
  have hdigits : (c.forward.rest.take width).filterMap Text.hexValue? = Text.nibbles width n := by
    rw [forward_of_rest h, List.take_left' (length_hex true width n), Text.filterMap_hex]
  have hvalue : Text.valueOf 16 (Text.nibbles width n) = n := by
    rw [Text.valueOf_nibbles, Nat.mod_eq_of_lt hfits]
  rw [readEscape, head_of_rest h, hletter, hwidth]
  simp only [hdigits, Text.length_nibbles, hvalue, skip_succ]
  rw [if_neg (by simp), if_neg (by omega), if_neg (by omega)]
  rfl

/-- An escape comes back as the character that it was written for. -/
theorem readEscape_escape (ch : Char) {c : Cursor} {rest : List Char}
    (h : c.rest = Yaml.escape ch ++ rest) :
    c.head = '\\' ∧ readEscape c.forward = .ok ([ch], c.skip (Yaml.escape ch).length) := by
  have hnumber := charOfUnit_number ch
  have hlt := number_lt ch
  cases hletter : escapeLetters.lookup ch with
  | some letter =>
    have hescape : Yaml.escape ch = ['\\', letter] := by simp [Yaml.escape, hletter]
    rw [hescape] at h ⊢
    have hforward := forward_of_rest h
    refine ⟨head_of_rest h, ?_⟩
    rw [readEscape, head_of_rest hforward, letter_read hletter]
    rfl
  | none =>
    have hescape : ∀ letter width, escapes.lookup letter = none → hexWidths.lookup letter = some width →
        (Text.half? ch).getD ch.toNat < 16 ^ width →
        Yaml.escape ch = '\\' :: letter :: Text.hex true width ((Text.half? ch).getD ch.toNat) →
        c.head = '\\' ∧ readEscape c.forward = .ok ([ch], c.skip (Yaml.escape ch).length) := by
      intro letter width hletter hwidth hfits hwritten
      rw [hwritten] at h ⊢
      refine ⟨head_of_rest h, ?_⟩
      rw [readEscape_hex hletter hwidth hfits hlt (forward_of_rest h), hnumber]
      simp only [List.length_cons, length_hex, skip_succ]
    have hunfold : Yaml.escape ch = if (Text.half? ch).getD ch.toNat ≤ 0xFF then
        '\\' :: 'x' :: Text.hex true 2 ((Text.half? ch).getD ch.toNat)
      else if (Text.half? ch).getD ch.toNat ≤ 0xFFFF then
        '\\' :: 'u' :: Text.hex true 4 ((Text.half? ch).getD ch.toNat)
      else '\\' :: 'U' :: Text.hex true 8 ((Text.half? ch).getD ch.toNat) := by
      simp only [Yaml.escape, hletter]
    split_ifs at hunfold with hx hu
    · exact hescape 'x' 2 (by decide) (by decide) (by omega) hunfold
    · exact hescape 'u' 4 (by decide) (by decide) (by omega) hunfold
    · exact hescape 'U' 8 (by decide) (by decide) (by omega) hunfold

theorem solid_backslash : Solid '\\' := rfl

theorem within_escape {ch : Char} {rest cs : List Char} {c after : Cursor}
    (h : c.rest = Yaml.escape ch ++ rest)
    (hmore : Within '"' (c.skip (Yaml.escape ch).length) cs after) : Within '"' c (ch :: cs) after := by
  obtain ⟨hhead, hread⟩ := readEscape_escape ch h
  have hpos := two_le_length_escape ch
  apply Within.part [ch] _ _ (by omega) _ hmore
  · rw [hhead]
    rfl
  · simp [quotedPart, hhead, hread]
  · rw [h, List.length_append]
    exact Nat.le_add_right _ _

theorem within_letter {letter ch : Char} {rest cs : List Char} {c after : Cursor}
    (hletter : escapes.lookup letter = some ch) (h : c.rest = '\\' :: letter :: rest)
    (hmore : Within '"' (c.skip 2) cs after) : Within '"' c (ch :: cs) after := by
  have hhead := head_of_rest h
  have hread : readEscape c.forward = .ok ([ch], c.skip 2) := by
    rw [readEscape, head_of_rest (forward_of_rest h), hletter]
    rfl
  apply Within.part [ch] _ _ (by decide) _ hmore
  · rw [hhead]
    rfl
  · simp [quotedPart, hhead, hread]
  · simp [h]

/-- A line that was broken by a backslash leaves nothing behind. -/
theorem within_broken {indent : Nat} (hindent : 0 < indent) {rest cs : List Char} {c after : Cursor}
    (hstart : StartsSolid rest) (h : c.rest = '\\' :: '\n' :: (spaces indent ++ rest))
    (hmore : Within '"' (c.skip (2 + indent)) cs after) : Within '"' c cs after := by
  obtain ⟨ch, tail, rfl, hch⟩ := hstart
  have hhead := head_of_rest h
  have hnext := forward_of_rest h
  have hline := forward_of_rest hnext
  have hbreaks := quotedBreaks_eq hindent hch (List.forall_mem_nil _) hline
    (show ([] : List Char).length < c.forward.rest.length by simp [hnext])
  have hread : readEscape c.forward = .ok ([], c.skip (2 + indent)) := by
    have hletter : escapes.lookup '\n' = none := by decide
    have hwidth : hexWidths.lookup '\n' = none := by decide
    rw [readEscape, head_of_rest hnext, hletter, hwidth]
    simp only [atEnd_of_rest hnext, show isLineEnd '\n' = true from rfl, Bool.not_false, Bool.and_self,
      if_true, lineBreak_eq hnext (show isBreak '\n' = true from rfl), hbreaks, List.map_nil,
      List.length_nil, Nat.zero_add, Nat.add_comm 2 indent]
    rfl
  apply Within.part [] _ _ (Nat.add_pos_left (by decide) _) _ hmore
  · rw [hhead]
    rfl
  · simp [quotedPart, hhead, hread]
  · simp only [h, List.length_cons, List.length_append, length_spaces]
    omega

/-- Written text that is read as `seen` up to the closing quote. Blanks at its head, which may follow
others, are told apart. -/
def Inside (tail seen out : List Char) : Prop :=
  ∃ n seen' out', seen = spaces n ++ seen' ∧ out = spaces n ++ out' ∧
    StartsSolid (out' ++ '"' :: tail) ∧
    ∀ c : Cursor, c.rest = out' ++ '"' :: tail → Within '"' c seen' (c.skip (out'.length + 1))

theorem Inside.within {tail seen out : List Char} (h : Inside tail seen out) {c : Cursor}
    (hc : c.rest = out ++ '"' :: tail) : Within '"' c seen (c.skip (out.length + 1)) := by
  obtain ⟨n, seen, out, rfl, rfl, hstart, hwithin⟩ := h
  rw [List.append_assoc] at hc
  have hmore := hwithin (c.skip n) (by rw [skip_spaces hc])
  rw [← skip_add] at hmore
  rw [List.length_append, length_spaces, Nat.add_assoc]
  cases n with
  | zero => simpa [spaces, skip] using hmore
  | succ n => exact within_blanks (Nat.succ_pos n) hstart hc hmore

/-- Without blanks at its head. -/
theorem inside_of_solid {tail seen out : List Char} (hstart : StartsSolid (out ++ '"' :: tail))
    (h : ∀ c : Cursor, c.rest = out ++ '"' :: tail → Within '"' c seen (c.skip (out.length + 1))) :
    Inside tail seen out :=
  ⟨0, seen, out, rfl, rfl, hstart, h⟩

theorem Inside.cons_space {tail seen out : List Char} (h : Inside tail seen out) :
    Inside tail (' ' :: seen) (' ' :: out) := by
  obtain ⟨n, seen, out, rfl, rfl, hstart, hwithin⟩ := h
  exact ⟨n + 1, seen, out, rfl, rfl, hstart, hwithin⟩

theorem startsSolid_cons {ch : Char} (h : Solid ch) (rest : List Char) : StartsSolid (ch :: rest) :=
  ⟨ch, rest, rfl, h⟩

theorem within_bare {ch : Char} (hbare : isBare ch = true) (hspace : ch ≠ ' ') {rest cs : List Char}
    {c after : Cursor} (h : c.rest = ch :: rest) (hmore : Within '"' c.forward cs after) :
    Within '"' c (ch :: cs) after := by
  have hgap : isGap ch = false := solid_of_isBare hbare hspace
  by_cases hquote : ch = '\''
  · subst hquote
    have hhead := head_of_rest h
    apply Within.part (n := 1) ['\''] _ _ (by decide) (by simp [h]) hmore
    · rw [hhead]
      rfl
    · simp [quotedPart, hhead, skip_one]
  · have hdouble : ch ≠ '"' := by rintro rfl; cases hbare
    have hslash : ch ≠ '\\' := by rintro rfl; cases hbare
    exact .char h (by simp [isQuotedWord, hgap, hquote, hdouble, hslash]) hmore

theorem rest_skip_broken {indent : Nat} {rest : List Char} {c : Cursor}
    (h : c.rest = '\\' :: '\n' :: (spaces indent ++ rest)) : (c.skip (2 + indent)).rest = rest := by
  rw [rest_skip, h, Nat.add_comm]
  simp [spaces]

theorem length_broken (indent : Nat) (out : List Char) :
    ('\\' :: '\n' :: (spaces indent ++ out)).length + 1 = 2 + indent + (out.length + 1) := by
  simp only [List.length_cons, List.length_append, length_spaces]
  omega

/-- A blank that is kept by a backslash. -/
theorem within_kept {tail seen out : List Char} (h : Inside tail seen out) {c : Cursor}
    (hc : c.rest = '\\' :: ' ' :: (out ++ '"' :: tail)) :
    Within '"' c (' ' :: seen) (c.skip (('\\' :: ' ' :: out).length + 1)) := by
  have hwithin := h.within (c := c.skip 2) (by rw [rest_skip, hc]; rfl)
  rw [← skip_add] at hwithin
  rw [show ('\\' :: ' ' :: out).length + 1 = 2 + (out.length + 1) by simp; omega]
  exact within_letter (by decide) hc hwithin

/-- A backslash of its own in front of a kept blank, on a line that has run over. -/
theorem within_overrun {indent : Nat} (hindent : 0 < indent) {tail seen out : List Char}
    (h : Inside tail seen out) {c : Cursor} (hc : c.rest = '\\' :: '\n' :: (spaces indent ++
      ('\\' :: '\\' :: '\n' :: (spaces indent ++ ('\\' :: ' ' :: out))) ++ '"' :: tail)) :
    Within '"' c ('\\' :: ' ' :: ' ' :: seen) (c.skip (('\\' :: '\n' :: (spaces indent ++
      '\\' :: '\\' :: '\n' :: (spaces indent ++ '\\' :: ' ' :: out))).length + 1)) := by
  have hrest : c.rest = '\\' :: '\n' :: (spaces indent ++ ('\\' :: '\\' :: '\n' ::
      (spaces indent ++ ('\\' :: ' ' :: out)) ++ '"' :: tail)) := by
    simpa using hc
  have hslashes := rest_skip_broken hrest
  have hline : ((c.skip (2 + indent)).skip 2).rest =
      ['\n'] ++ spaces indent ++ ('\\' :: ' ' :: out) ++ '"' :: tail := by
    rw [rest_skip, hslashes]
    simp
  have hbreak := within_line hindent (show isBreak '\n' = true from rfl) (List.forall_mem_nil _)
    (startsSolid_cons solid_backslash _) hline fun _ hc => within_kept h hc
  have hletter := within_letter (show escapes.lookup '\\' = some '\\' by decide) hslashes hbreak
  have hbroken := within_broken hindent (startsSolid_cons solid_backslash _) hrest hletter
  simp only [← skip_add] at hbroken
  have hlength : 2 + indent + 2 + ((['\n'] ++ spaces indent ++ ('\\' :: ' ' :: out)).length + 1) =
      ('\\' :: '\n' :: (spaces indent ++ '\\' :: '\\' :: '\n' ::
        (spaces indent ++ '\\' :: ' ' :: out))).length + 1 := by
    simp only [List.length_cons, List.length_append, length_spaces, List.length_nil]
    omega
  rwa [hlength] at hbroken

theorem inside_escaped {indent : Nat} (hindent : 0 < indent) (tail : List Char) {seen out : List Char}
    (h : Escaped indent seen out) : Inside tail seen out := by
  induction h with
  | nil =>
    apply inside_of_solid (startsSolid_cons (show Solid '"' from rfl) _)
    intro c hc
    exact .close hc (by simp)
  | @bare ch seen out hbare _ ih =>
    by_cases hspace : ch = ' '
    · rw [hspace]
      exact ih.cons_space
    · apply inside_of_solid (startsSolid_cons (solid_of_isBare hbare hspace) _)
      intro c hc
      exact within_bare hbare hspace hc (ih.within (forward_of_rest hc))
  | @escape ch seen out _ _ ih =>
    obtain ⟨more, hmore⟩ := escape_head ch
    apply inside_of_solid
    · rw [hmore]
      exact startsSolid_cons solid_backslash _
    · intro c hc
      rw [List.append_assoc] at hc
      have hwithin := ih.within (rest_skip_length hc)
      rw [← skip_add, ← Nat.add_assoc, ← List.length_append] at hwithin
      exact within_escape hc hwithin
  | @broken seen out hhead _ ih =>
    have hsolid : StartsSolid (out ++ '"' :: tail) := by
      obtain ⟨n, _, out, _, rfl, hsolid, _⟩ := ih
      cases n with
      | zero => exact hsolid
      | succ n => exact absurd rfl hhead
    apply inside_of_solid (startsSolid_cons solid_backslash _)
    intro c hc
    have hrest : c.rest = '\\' :: '\n' :: (spaces indent ++ (out ++ '"' :: tail)) := by
      simpa using hc
    have hwithin := ih.within (rest_skip_broken hrest)
    rw [← skip_add] at hwithin
    rw [length_broken]
    exact within_broken hindent hsolid hrest hwithin
  | @kept seen out _ ih =>
    apply inside_of_solid (startsSolid_cons solid_backslash _)
    intro c hc
    have hrest : c.rest = '\\' :: '\n' :: (spaces indent ++ ('\\' :: ' ' :: (out ++ '"' :: tail))) := by
      simpa using hc
    have hwithin := within_kept ih (rest_skip_broken hrest)
    rw [← skip_add] at hwithin
    rw [length_broken]
    exact within_broken hindent (startsSolid_cons solid_backslash _) hrest hwithin
  | @overrun seen out _ ih =>
    apply inside_of_solid (startsSolid_cons solid_backslash _)
    intro c hc
    exact within_overrun hindent ih hc

/-- A text that is written in double quotes. -/
theorem readQuoted_double {fold : Bool} {indent column : Nat} (hindent : 0 < indent)
    (hcolumn : indent ≤ column) {cs tail : List Char} {c : Cursor}
    (hc : c.rest = doubleChars fold indent column cs ++ tail) :
    readQuoted '"' c =
      .ok (seenDouble (fold && width ≤ indent) true cs,
        c.skip (doubleChars fold indent column cs).length) := by
  rw [doubleChars, List.append_assoc, List.cons_append, List.singleton_append] at hc
  have hinside := inside_escaped hindent tail
    (escaped_doubleRest fold indent cs (column + 1) true false (by omega))
  have hread := (hinside.within (forward_of_rest hc)).readQuoted (.inr rfl)
  rw [hread, doubleChars, List.length_append, List.length_cons, List.length_singleton, ← skip_succ]

end ServiceAtlas.Yaml.Token
