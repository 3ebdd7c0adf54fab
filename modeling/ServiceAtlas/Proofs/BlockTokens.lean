import ServiceAtlas.Proofs.PrintableText
import ServiceAtlas.Proofs.TokenSteps

/-!
The tokens of a written document. From where a value stands, the reader comes to the line behind it, with
the tokens of the value; it stops at a key that is too long to be known for one.
-/

namespace ServiceAtlas.Yaml.Token
open Cursor

/-! ### From step to step -/

/-- One place leads to another by steps that each pass a character. -/
inductive Leads : Progress → Progress → Prop
  | refl (p : Progress) : Leads p p
  | step {p q r s : Progress} : Ready p q → take.run q = .ok (false, r) →
      r.cursor.rest.length < q.cursor.rest.length → Leads r s → Leads p s

theorem Leads.trans {p q r : Progress} (h : Leads p q) (h' : Leads q r) : Leads p r := by
  induction h with
  | refl => exact h'
  | step hready htake hlength _ ih => exact .step hready htake hlength (ih h')

theorem Ready.step_run {p q : Progress} (h : Ready p q) : step.run p = take.run q := by
  rw [step_eq, StateT.run_bind, h.run, ok_bind]

/-- With fuel for every character left, the tokens of a place are those of the place that it leads to. -/
theorem Leads.readAll {p q : Progress} (h : Leads p q) {fuel : Nat}
    (hfuel : p.cursor.rest.length < fuel) :
    ∃ fuel', q.cursor.rest.length < fuel' ∧ readAll fuel p = readAll fuel' q := by
  induction h generalizing fuel with
  | refl => exact ⟨fuel, hfuel, rfl⟩
  | @step p q r s hready htake hlength _ ih =>
    obtain ⟨fuel, rfl⟩ := Nat.exists_eq_add_of_le' (show 1 ≤ fuel by omega)
    have hless : r.cursor.rest.length < fuel := by
      have := hready.length_le
      omega
    obtain ⟨fuel', hfuel', heq⟩ := ih hless
    refine ⟨fuel', hfuel', ?_⟩
    rw [Token.readAll, hready.step_run, htake]
    exact heq

/-- The end of the text is not among the tokens. -/
def Clean (ts : List Token) : Prop := streamEnd ∉ ts

theorem Clean.cons {t : Token} {ts : List Token} (ht : t ≠ streamEnd) (h : Clean ts) : Clean (t :: ts) := by
  intro hm
  rcases List.mem_cons.mp hm with he | hm
  · exact ht he.symm
  · exact h hm

theorem Clean.append {us ts : List Token} (hu : Clean us) (h : Clean ts) : Clean (us ++ ts) := by
  intro hm
  rcases List.mem_append.mp hm with hm | hm
  · exact hu hm
  · exact h hm

theorem Clean.reverse {ts : List Token} (h : Clean ts) : Clean ts.reverse := by
  rwa [Clean, List.mem_reverse]

/-- From this place the reader comes to a fault before the end. -/
def Fails (p : Progress) : Prop := ∃ q m, Leads p q ∧ step.run q = .error m ∧ Clean q.tokens

/-- From this place the reader comes to another one of a kind if it takes what stands between, and
else to a fault. -/
structure Settles (fits : Prop) (p : Progress) (post : Progress → Prop) : Prop where
  done : fits → ∃ q, Leads p q ∧ post q
  fails : ¬fits → Fails p

theorem settles_done {fits : Prop} (h : fits) {p q : Progress} {post : Progress → Prop} (hq : Leads p q)
    (hpost : post q) : Settles fits p post :=
  ⟨fun _ => ⟨q, hq, hpost⟩, fun hn => absurd h hn⟩

theorem Settles.before {fits : Prop} {p q : Progress} {post : Progress → Prop} (hq : Leads p q)
    (h : Settles fits q post) : Settles fits p post where
  done hfits := by
    obtain ⟨r, hr, hpost⟩ := h.done hfits
    exact ⟨r, hq.trans hr, hpost⟩
  fails hfits := by
    obtain ⟨r, m, hr, hrest⟩ := h.fails hfits
    exact ⟨r, m, hq.trans hr, hrest⟩

theorem Settles.bind {P Q : Prop} {p : Progress} {mid post : Progress → Prop} (h : Settles P p mid)
    (hmid : ∀ q, mid q → Settles Q q post) : Settles (P ∧ Q) p post where
  done hfits := by
    obtain ⟨q, hq, hm⟩ := h.done hfits.1
    exact ((hmid q hm).before hq).done hfits.2
  fails hfits := by
    by_cases hp : P
    · obtain ⟨q, hq, hm⟩ := h.done hp
      exact ((hmid q hm).before hq).fails fun hQ => hfits ⟨hp, hQ⟩
    · exact h.fails hp

theorem Settles.mono {fits : Prop} {p : Progress} {mid post : Progress → Prop} (h : Settles fits p mid)
    (hpost : ∀ q, mid q → post q) : Settles fits p post where
  done hfits := by
    obtain ⟨q, hq, hm⟩ := h.done hfits
    exact ⟨q, hq, hpost q hm⟩
  fails := h.fails

/-! ### The next line -/

/-- The rest of a text from a line end on, with the next line that is not empty. -/
def line (m : Nat) (rest : List Char) : List Char := '\n' :: (spaces m ++ rest)

theorem line_inj {m n : Nat} {rest more : List Char} (hrest : StartsLine rest) (hmore : StartsLine more)
    (h : line m rest = line n more) : m = n ∧ rest = more := by
  rw [line, line, List.cons.injEq] at h
  replace h := h.2
  induction m generalizing n with
  | zero =>
    cases n with
    | zero => exact ⟨rfl, h⟩
    | succ n =>
      rw [show rest = ' ' :: (spaces n ++ more) from h] at hrest
      exact absurd rfl hrest.head_ne
  | succ m ih =>
    cases n with
    | zero =>
      rw [← show ' ' :: (spaces m ++ rest) = more from h] at hmore
      exact absurd rfl hmore.head_ne
    | succ n =>
      rw [spaces_succ, spaces_succ, List.cons_append, List.cons_append, List.cons.injEq] at h
      obtain ⟨rfl, hr⟩ := ih h.2
      exact ⟨rfl, hr⟩

/-- A text that goes on on a line of its own, no deeper than this. -/
def LineWithin (bound : Nat) (tail : List Char) : Prop :=
  ∃ m rest, tail = line m rest ∧ StartsLine rest ∧ m ≤ bound

/-- The reader comes to the start of a line, where the blocks to its right are closed. -/
def Waits (p : Progress) (ts : List Token) (indents : List Nat) (tail : List Char) : Prop :=
  ∀ m rest, tail = line m rest → StartsLine rest → ∃ c, c.rest = rest ∧ c.column = m ∧
    Ready p (resting c (List.replicate (closed indents m) blockEnd ++ ts)
      (indents.drop (closed indents m)) true)

/-- The innermost block ends with the line. -/
theorem Waits.close {p : Progress} {ts : List Token} {inner : Nat} {indents : List Nat}
    {tail : List Char} (h : Waits p ts (inner :: indents) tail) {bound : Nat}
    (htail : LineWithin bound tail) (hbound : bound < inner) :
    Waits p (blockEnd :: ts) indents tail := by
  intro m rest heq hrest
  obtain ⟨m', rest', heq', hrest', hm⟩ := htail
  obtain ⟨rfl, -⟩ := line_inj hrest hrest' (heq.symm.trans heq')
  obtain ⟨c, hc, hcolumn, hready⟩ := h m rest heq hrest
  rw [closed_cons (by omega), List.drop_succ_cons, List.replicate_succ', List.append_assoc] at hready
  exact ⟨c, hc, hcolumn, hready⟩

/-- The next line belongs to the innermost block. -/
theorem Waits.ready {p : Progress} {ts : List Token} {m : Nat} {indents : List Nat} {rest : List Char}
    (h : Waits p ts indents (line m rest)) (hrest : StartsLine rest)
    (hindents : ∀ n ∈ indents.head?, n ≤ m) :
    ∃ c, c.rest = rest ∧ c.column = m ∧ Ready p (resting c ts indents true) := by
  obtain ⟨c, hc, hcolumn, hready⟩ := h m rest rfl hrest
  rw [closed_eq_zero hindents] at hready
  exact ⟨c, hc, hcolumn, hready⟩

/-! ### Texts -/

theorem Ending.head_ne {outer : Int} {tail : List Char} {broken : Bool} {n : Nat}
    (h : Ending outer tail broken n) : tail.head? ≠ some '\'' := by
  cases h <;> simp

/-- A text is taken as one token. Behind plain text the reader has passed what ends it, behind quoted
text it has not. -/
theorem take_text {fold : Bool} {bound column : Nat} {cs tail : List Char} {indents : List Nat} {c : Cursor}
    (h : c.rest = textChars fold (bound + 2) column cs ++ tail) (hcolumn : bound + 2 ≤ column)
    (hindent : indentOf indents ≤ bound) (hplace : indentOf indents ≤ c.column) {ended : Bool} {n : Nat}
    (hend : Ending (indentOf indents) tail ended n) (ts : List Token) (allowed : Bool) :
    ∃ k after, (k = 0 ∧ after = false ∨ k = n ∧ after = ended) ∧
      take.run (resting c ts indents allowed) =
        .ok (false, ⟨c.skip ((textChars fold (bound + 2) column cs).length + k),
          textToken fold (bound + 2) cs :: ts, ts.length + 1, 0, indents, after,
          begun c ts.length indents allowed⟩) := by
  unfold textToken seenText textChars at *
  cases hstyle : TextStyle.of cs with
  | plain =>
    simp only [hstyle] at h ⊢
    have htext := unmarked_plainChars (allowsPlain_of_plain hstyle) fold (bound + 2) column
    obtain ⟨ch, rest, hrest, hopens⟩ := htext.opens hend.endsWord
    have hread := plainRest_lines (by omega) (by omega) htext.lines hend h hplace
      (Nat.lt_succ_self _) [] false
    exact ⟨n, ended, .inr ⟨rfl, rfl⟩, take_plain (h.trans hrest) hopens ts indents allowed hread⟩
  | single =>
    simp only [hstyle] at h ⊢
    have hread := readQuoted_single (by omega) (allowsSingle_of_single hstyle) hend.head_ne h
    exact ⟨0, false, .inl ⟨rfl, rfl⟩, take_quoted (.inl rfl) (by rw [h]; rfl) ts indents allowed hread⟩
  | double =>
    simp only [hstyle] at h ⊢
    have hread := readQuoted_double (by omega) hcolumn h
    exact ⟨0, false, .inl ⟨rfl, rfl⟩, take_quoted (.inr rfl) (by rw [h]; rfl) ts indents allowed hread⟩

/-- Behind a token at the end of a line, which the reader may have passed already. -/
theorem waits_after {c : Cursor} {written : List Char} {m : Nat} {rest : List Char}
    (h : c.rest = written ++ line m rest) (hrest : StartsLine rest) {k : Nat} {after : Bool}
    (hk : k = 0 ∧ after = false ∨ k = m + 1 ∧ after = true) {ks : List Candidate}
    (hks : ∀ k ∈ ks, k.required = false ∧ k.line ≤ c.line) (ts : List Token) (indents : List Nat) :
    Waits ⟨c.skip (written.length + k), ts, ts.length, 0, indents, after, ks⟩ ts indents
      (line m rest) := by
  intro m' rest' heq hrest'
  obtain ⟨rfl, rfl⟩ := line_inj hrest hrest' heq
  have hleft : (c.skip written.length).rest = line m rest := rest_skip_length h
  have hnext : (c.skip written.length).skip (m + 1) =
      ⟨rest, (c.skip written.length).index + 1 + m, (c.skip written.length).line + 1, m⟩ := by
    rw [skip_succ, skip_spaces (forward_of_rest hleft), forward_newline hleft, Nat.zero_add]
  have hline := line_le_skip written.length c
  refine ⟨(c.skip written.length).skip (m + 1), by rw [hnext], by rw [hnext], ?_⟩
  rw [skip_add]
  rcases hk with ⟨rfl, rfl⟩ | ⟨rfl, rfl⟩
  · exact ready_line hleft hrest fun k hk => ⟨(hks k hk).1, Nat.le_trans (hks k hk).2 hline⟩
  · apply ready_past (by rw [hnext]) (by rw [hnext]; exact hrest)
    intro k hk
    refine ⟨(hks k hk).1, ?_⟩
    rw [hnext]
    exact Nat.lt_succ_of_le (Nat.le_trans (hks k hk).2 hline)

theorem begun_not_required {c : Cursor} {position : Nat} {indents : List Nat} {allowed : Bool}
    (h : indentOf indents < c.column) :
    ∀ k ∈ begun c position indents allowed, k.required = false ∧ k.line ≤ c.line := by
  intro k hk
  rw [mem_begun hk]
  exact ⟨decide_eq_false (by omega), Nat.le_refl _⟩

/-- A scalar at the end of a line. -/
theorem leads_scalar {p : Progress} {c : Cursor} {written : List Char} {m : Nat} {rest : List Char}
    {t : Token} {ts : List Token} {indents : List Nat} {allowed : Bool}
    (hready : Ready p (resting c ts indents allowed)) (h : c.rest = written ++ line m rest)
    (hne : written ≠ []) (hrest : StartsLine rest) (hindent : indentOf indents < c.column) {k : Nat}
    {after : Bool} (hk : k = 0 ∧ after = false ∨ k = m + 1 ∧ after = true)
    (htake : take.run (resting c ts indents allowed) =
      .ok (false, ⟨c.skip (written.length + k), t :: ts, ts.length + 1, 0, indents, after,
        begun c ts.length indents allowed⟩)) :
    ∃ q, Leads p q ∧ Waits q (t :: ts) indents (line m rest) := by
  have hpos := List.length_pos_iff.mpr hne
  refine ⟨_, .step hready htake ?_ (.refl _),
    waits_after h hrest hk (begun_not_required hindent) (t :: ts) indents⟩
  simp only [resting, rest_skip, List.length_drop, h, List.length_append]
  omega

theorem textChars_ne_nil (fold : Bool) (indent column : Nat) (cs : List Char) :
    textChars fold indent column cs ≠ [] := by
  unfold textChars
  cases hstyle : TextStyle.of cs with
  | plain =>
    have htext := unmarked_plainChars (allowsPlain_of_plain hstyle) fold indent column
    obtain ⟨ch, rest, hrest, _⟩ := htext.lines.head
    simp [hrest]
  | single => simp [singleChars]
  | double => simp [doubleChars]

theorem leads_text {p : Progress} {fold : Bool} {bound column m : Nat} {cs rest : List Char}
    {indents : List Nat} {allowed : Bool} {ts : List Token} {c : Cursor}
    (hready : Ready p (resting c ts indents allowed))
    (h : c.rest = textChars fold (bound + 2) column cs ++ line m rest) (hcolumn : bound + 2 ≤ column)
    (hindent : indentOf indents = bound) (hplace : bound < c.column) (hrest : StartsLine rest)
    (hm : m ≤ bound) :
    ∃ q, Leads p q ∧ Waits q (textToken fold (bound + 2) cs :: ts) indents (line m rest) := by
  have hend : Ending (indentOf indents) (line m rest) true (m + 1) := .line (by omega) hrest
  obtain ⟨k, after, hk, htake⟩ := take_text h hcolumn (by omega) (by omega) hend ts allowed
  exact leads_scalar hready h (textChars_ne_nil _ _ _ _) hrest (by omega) hk htake

/-- Null, a truth value or a whole number. -/
theorem leads_word {p : Progress} {bound m : Nat} {v : Value} {w rest : List Char}
    {indents : List Nat} {allowed : Bool} {ts : List Token} {c : Cursor}
    (hready : Ready p (resting c ts indents allowed)) (hv : wordOf v = some w)
    (h : c.rest = w ++ line m rest) (hindent : indentOf indents = bound) (hplace : bound < c.column)
    (hrest : StartsLine rest) (hm : m ≤ bound) :
    ∃ q, Leads p q ∧ Waits q (scalar w true :: ts) indents (line m rest) := by
  have hend : Ending (indentOf indents) (line m rest) true (m + 1) := .line (by omega) hrest
  have htext := unmarked_wordOf hv (bound + 2)
  obtain ⟨ch, more, hmore, hopens⟩ := htext.opens hend.endsWord
  have hread := plainRest_lines (by omega) (by omega) htext.lines hend h (by omega)
    (Nat.lt_succ_self _) [] false
  have hne : w ≠ [] := by
    obtain ⟨ch, rest, hw, _⟩ := htext.lines.head
    simp [hw]
  exact leads_scalar hready h hne hrest (by omega) (.inr ⟨rfl, rfl⟩)
    (take_plain (h.trans hmore) hopens ts indents allowed hread)

/-- A collection without members. -/
theorem leads_brackets {p : Progress} {left right : Char} {opening closing : Token}
    (hb : Brackets left right opening closing) {m : Nat} {rest : List Char} {indents : List Nat}
    {allowed : Bool} {ts : List Token} {c : Cursor} (hready : Ready p (resting c ts indents allowed))
    (h : c.rest = left :: right :: line m rest) (hindent : indentOf indents < c.column)
    (hrest : StartsLine rest) :
    ∃ q, Leads p q ∧ Waits q (closing :: opening :: ts) indents (line m rest) := by
  have hnext : c.forward.rest = right :: line m rest := forward_of_rest h
  have hforward : c.forward = ⟨right :: line m rest, c.index + 1, c.line, c.column + 1⟩ :=
    forward_steady h (by cases hb <;> exact ⟨rfl, by decide⟩)
  have hfresh : ∀ k ∈ begun c ts.length indents allowed, isStale c.forward k = false := by
    intro k hk
    rw [mem_begun hk, hforward]
    simp [isStale, keyLimit]
  have hlevel : ∀ k ∈ begun c ts.length indents allowed, k.level = 0 := fun k hk => by rw [mem_begun hk]
  have hstarts : StartsLine c.forward.rest := by
    rw [hnext]
    cases hb <;> exact startsLine_of_solid rfl (by decide)
  have hinside := ready_flow hstarts (opening :: ts) indents true hfresh
  have hclose := take_flowEnd hb hnext (opening :: ts) indents true hlevel
  refine ⟨_, .step hready (take_flowStart hb h ts indents allowed) ?_
    (.step hinside hclose ?_ (.refl _)), ?_⟩
  · simp [hnext, resting, h]
  · simp [forward_of_rest hnext, hnext]
  · have hwritten : c.rest = [left, right] ++ line m rest := h
    exact waits_after hwritten hrest (.inl ⟨rfl, rfl⟩) (begun_not_required hindent)
      (closing :: opening :: ts) indents

/-! ### Keys -/

theorem indentOf_head {indents : List Nat} {column : Nat} (h : indentOf indents ≤ column) :
    ∀ n ∈ indents.head?, n ≤ column := by
  cases indents with
  | nil => simp
  | cons n rest =>
    intro k hk
    obtain rfl : n = k := by simpa using hk
    rw [indentOf] at h
    omega

theorem opened_of_lt {opening : Token} {column : Nat} {ts : List Token} {indents : List Nat}
    (h : indentOf indents < column) :
    opened opening column ts indents = (opening :: ts, column :: indents) := if_pos h

theorem opened_of_eq {opening : Token} {column : Nat} {ts : List Token} {indents : List Nat}
    (h : indentOf indents = column) : opened opening column ts indents = (ts, indents) :=
  if_neg (by omega)

/-- Where a key can no longer come, its colon is a fault. -/
theorem step_staleKey {c : Cursor} {rest : List Char} (h : c.rest = ':' :: rest)
    (hgap : gapNext rest = true) {k : Candidate} (hk : isStale c k = true) (ts : List Token) (count : Nat)
    {indents : List Nat} (hindent : indentOf indents ≤ c.column) :
    ∃ m, step.run ⟨c, ts, count, 0, indents, false, [k]⟩ = .error m := by
  have hstarts : StartsLine c.rest := by
    rw [h]
    exact startsLine_of_solid rfl (by decide)
  have hskip : (skipToToken (c.rest.length + 1)).run ⟨c, ts, count, 0, indents, false, [k]⟩ =
      .ok ((), ⟨c, ts, count, 0, indents, false, [k]⟩) :=
    run_skipToToken_blanks (n := 0) (List.nil_append c.rest).symm hstarts c.rest.length
  simp only [step_eq, prepare, StateT.run_bind, run_cursor, ok_bind, hskip, dropStale_run,
    List.any_cons, hk, Bool.true_and, List.any_nil, Bool.or_false]
  cases k.required with
  | true => exact ⟨.missingColon, rfl⟩
  | false =>
    refine ⟨.misplacedValue, ?_⟩
    simp only [Bool.false_eq_true, if_false, ok_bind, List.filter_cons, hk, Bool.not_true,
      List.filter_nil, run_closeBlocks, closed_eq_zero (indentOf_head hindent)]
    exact take_value_fails h hgap _ _ _

/-- Where the reader stands behind the colon of a key. -/
structure BehindKey (ts : List Token) (indents : List Nat) (allowed : Bool) (column : Nat)
    (more : List Char) (q : Progress) : Prop where
  exists_eq : ∃ c, q = resting c ts indents allowed ∧ c.rest = more ∧ c.column = column

/-- The name of a short key stands on one line, and behind it the reader comes to the colon. -/
theorem leads_shortName {p : Progress} {c : Cursor} {name more : List Char} {ts : List Token}
    {indents : List Nat} {inner : Nat} (hshort : isShortKey name = true)
    (hready : Ready p (resting c ts indents true)) (hcolumn : c.column = inner)
    (h : c.rest = textChars false (inner + 2) inner name ++ ':' :: more) (hgap : gapNext more = true)
    (hindent : indentOf indents ≤ inner) :
    Leads p ⟨⟨':' :: more, c.index + (textChars false 0 0 name).length, c.line,
        inner + (textChars false 0 0 name).length⟩, textToken false (inner + 2) name :: ts,
      ts.length + 1, 0, indents, false, begun c ts.length indents true⟩ := by
  rw [textChars_shortKey hshort, ← textChars_shortKey hshort (inner + 2) (inner + 2)] at h
  obtain ⟨k, after, hk, htake⟩ := take_text h (Nat.le_refl _) hindent (by omega) (.colon hgap) ts true
  obtain ⟨rfl, rfl⟩ : k = 0 ∧ after = false := by
    rcases hk with hk | hk <;> exact hk
  have hcursor := skip_steady h
    (steady_textChars (not_isBreak_of_isShortKey hshort) (inner + 2) (inner + 2))
  have hpos := List.length_pos_iff.mpr (textChars_ne_nil false (inner + 2) (inner + 2) name)
  have hlength := congrArg List.length h
  rw [List.length_append] at hlength
  rw [Nat.add_zero, hcursor, hcolumn] at htake
  rw [← textChars_shortKey hshort (inner + 2) (inner + 2)]
  refine .step hready htake ?_ (.refl _)
  simp only [resting]
  omega

theorem settles_shortKey {p : Progress} {c : Cursor} {name more : List Char} {ts : List Token}
    {indents : List Nat} {inner : Nat} (hshort : isShortKey name = true)
    (hready : Ready p (resting c ts indents true)) (hcolumn : c.column = inner)
    (h : c.rest = textChars false (inner + 2) inner name ++ ':' :: more) (hgap : gapNext more = true)
    (hindent : indentOf indents ≤ inner) (hclean : Clean ts) :
    Settles ((textChars false 0 0 name).length ≤ keyLimit) p
      (BehindKey (value :: textToken false (inner + 2) name :: key ::
          (opened tableStart inner ts indents).1)
        (opened tableStart inner ts indents).2 false
        (inner + (textChars false (inner + 2) inner name).length + 1) more) := by
  have hname := leads_shortName hshort hready hcolumn h hgap hindent
  rw [textChars_shortKey hshort (inner + 2) inner]
  generalize (textChars false 0 0 name).length = length at *
  have hbegun : begun c ts.length indents true =
      [⟨0, ts.length, indentOf indents = c.column, c.index, c.line, c.column⟩] := if_pos rfl
  rw [hbegun] at hname
  generalize hcolon : (⟨':' :: more, c.index + length, c.line, inner + length⟩ : Cursor) = colon at hname
  have hrest : colon.rest = ':' :: more := by rw [← hcolon]
  have hplace : indentOf indents ≤ colon.column := by
    rw [← hcolon]
    dsimp only
    omega
  have hstale : isStale colon ⟨0, ts.length, indentOf indents = c.column, c.index, c.line, c.column⟩ =
      decide (keyLimit < length) := by
    rw [← hcolon]
    simp [isStale]
  by_cases hfits : length ≤ keyLimit
  · have hstarts : StartsLine colon.rest := by
      rw [hrest]
      exact startsLine_of_solid rfl (by decide)
    have hready : Ready ⟨colon, textToken false (inner + 2) name :: ts, ts.length + 1, 0, indents, false,
        [⟨0, ts.length, indentOf indents = c.column, c.index, c.line, c.column⟩]⟩ _ :=
      ready_blanks (n := 0) (List.nil_append _).symm hstarts
        (by simpa [skip, hstale] using hfits) (indentOf_head hplace)
    have hvalue := take_keyValue hrest hgap (textToken false (inner + 2) name) ts indents false
      (indentOf indents = c.column) c.index c.line c.column
    have hforward : colon.forward = ⟨more, colon.index + 1, colon.line, colon.column + 1⟩ :=
      forward_steady hrest ⟨rfl, by decide⟩
    refine settles_done hfits (hname.trans (.step hready hvalue ?_ (.refl _)))
      ⟨_, by rw [hcolumn], by rw [hforward], by rw [hforward, ← hcolon]⟩
    simp [resting, skip, hforward, hrest]
  · obtain ⟨m, hm⟩ := step_staleKey hrest hgap (hstale.trans (decide_eq_true (by omega)))
      (textToken false (inner + 2) name :: ts) (ts.length + 1) hplace
    exact ⟨fun hf => absurd hf hfits, fun _ =>
      ⟨_, m, hname, hm, hclean.cons (by simp [textToken])⟩⟩

theorem indentOf_opened (opening : Token) {column : Nat} (ts : List Token) {indents : List Nat}
    (h : indentOf indents ≤ column) : indentOf (opened opening column ts indents).2 = column := by
  unfold opened
  split_ifs with hlt
  · rfl
  · exact le_antisymm h (not_lt.mp hlt)

theorem Clean.opened {ts : List Token} (h : Clean ts) (opening : Token) (ho : opening ≠ streamEnd)
    (column : Nat) (indents : List Nat) : Clean (opened opening column ts indents).1 := by
  unfold Token.opened
  split_ifs
  · exact h.cons ho
  · exact h

theorem startsLine_textChars (fold : Bool) (indent column : Nat) (cs tail : List Char) :
    StartsLine (textChars fold indent column cs ++ tail) := by
  unfold textChars
  cases hstyle : TextStyle.of cs with
  | plain =>
    exact (unmarked_plainChars (allowsPlain_of_plain hstyle) fold indent column).lines.startsLine tail
  | single => exact startsLine_of_solid rfl (by decide)
  | double => exact startsLine_of_solid rfl (by decide)

theorem leads_longKey {p : Progress} {c : Cursor} {name more : List Char} {ts : List Token}
    {indents : List Nat} {inner : Nat} (hready : Ready p (resting c ts indents true))
    (hcolumn : c.column = inner)
    (h : c.rest = '?' :: ' ' :: (textChars true (inner + 2) (inner + 2) name ++ line inner (':' :: more)))
    (hgap : gapNext more = true) (hindent : indentOf indents ≤ inner) :
    ∃ q, Leads p q ∧ BehindKey (value :: textToken true (inner + 2) name :: key ::
          (opened tableStart inner ts indents).1)
        (opened tableStart inner ts indents).2 true (inner + 1) more q := by
  have hkey := take_key h rfl ts indents
  have hmark := forward_of_rest h
  have hforward : c.forward = ⟨_, c.index + 1, c.line, c.column + 1⟩ :=
    forward_steady h ⟨rfl, by decide⟩
  rw [hcolumn] at hkey hforward
  generalize hopened : opened tableStart inner ts indents = o at *
  obtain ⟨ts', indents'⟩ := o
  have hinner : indentOf indents' = inner := by
    have := indentOf_opened tableStart ts hindent
    rwa [hopened] at this
  have hnext : (c.forward.skip 1).column = inner + 2 := by
    rw [skip_spaces (n := 1) hmark, hforward]
  have hblank : Ready (resting c.forward (key :: ts') indents' true)
      (resting (c.forward.skip 1) (key :: ts') indents' true) :=
    ready_blanks (n := 1) hmark (startsLine_textChars _ _ _ _ _) (by simp)
      (indentOf_head (by rw [hnext]; omega))
  have htext : (c.forward.skip 1).rest =
      textChars true (inner + 2) (inner + 2) name ++ line inner (':' :: more) := by
    rw [rest_skip, hmark]
    rfl
  have hcolon : StartsLine (':' :: more) := startsLine_of_solid rfl (by decide)
  obtain ⟨q, hq, hwaits⟩ :=
    leads_text hblank htext (Nat.le_refl _) hinner (by omega) hcolon (Nat.le_refl inner)
  obtain ⟨c', hc', hcolumn', hvalue⟩ := hwaits.ready hcolon (indentOf_head (by omega))
  have htake := take_value hc' hgap (textToken true (inner + 2) name :: key :: ts') indents'
  rw [hcolumn', opened_of_eq hinner] at htake
  have hforward' : c'.forward = ⟨more, c'.index + 1, c'.line, c'.column + 1⟩ :=
    forward_steady hc' ⟨rfl, by decide⟩
  refine ⟨_, .step hready hkey ?_ (hq.trans (.step hvalue htake ?_ (.refl _))), ⟨_, rfl, ?_, ?_⟩⟩
  · simp [resting, hmark, h]
  · simp [resting, hforward', hc']
  · rw [hforward']
  · rw [hforward', hcolumn']

theorem settles_key {p : Progress} {c : Cursor} {name : String} {more : List Char} {ts : List Token}
    {indents : List Nat} {inner : Nat} (hready : Ready p (resting c ts indents true))
    (hcolumn : c.column = inner) (h : c.rest = (keyLine inner name.toList).written ++ more)
    (hgap : gapNext more = true) (hindent : indentOf indents ≤ inner) (hclean : Clean ts) :
    Settles (KeyFits name) p
      (BehindKey (value :: textToken (!isShortKey name.toList) (inner + 2) name.toList :: key ::
          (opened tableStart inner ts indents).1)
        (opened tableStart inner ts indents).2 ((keyLine inner name.toList).spot ≠ .value)
        (keyLine inner name.toList).column more) := by
  unfold KeyFits keyLine at *
  by_cases hshort : isShortKey name.toList = true
  · simp only [hshort, if_true, Bool.not_true, true_implies] at h ⊢
    exact settles_shortKey hshort hready hcolumn (by simpa using h) hgap hindent hclean
  · simp only [hshort, Bool.false_eq_true, if_false, false_implies] at h ⊢
    obtain ⟨q, hq, hbehind⟩ := leads_longKey hready hcolumn (by simpa [line] using h) hgap hindent
    exact settles_done trivial hq (by simpa [hshort] using hbehind)

/-! ### Values -/

theorem startsLine_keyLine (indent : Nat) (name tail : List Char) :
    StartsLine ((keyLine indent name).written ++ tail) := by
  unfold keyLine
  split_ifs
  · rw [List.append_assoc]
    exact startsLine_textChars _ _ _ _ _
  · exact startsLine_of_solid rfl (by decide)

/-- Behind a mark a value is parted from it. -/
theorem gapNext_chars {spot : Spot} (hspot : spot ≠ .root) (indent column : Nat) (v : Value)
    (tail : List Char) : gapNext (chars spot indent column v ++ tail) = true := by
  have hgap : spot.gap = [' '] := if_neg hspot
  have hopening : ∀ inner rest, gapNext (spot.opening inner ++ rest) = true := by
    intro inner rest
    cases spot with
    | root => exact absurd rfl hspot
    | item => rfl
    | value => rfl
    | farValue => rfl
  match v with
  | .null | .bool _ | .int _ | .float _ | .text _ | .list [] | .object [] =>
    rw [chars, hgap]
    rfl
  | .list (_ :: _) | .object ((_, _) :: _) =>
    simp only [chars, List.append_assoc, List.cons_append, hopening]

theorem charsOfItems_cons (inner : Nat) (v : Value) (vs : List Value) (tail : List Char) :
    charsOfItems inner (v :: vs) ++ tail =
      line inner ('-' :: (chars .item inner (inner + 1) v ++ (charsOfItems inner vs ++ tail))) := by
  simp only [charsOfItems, line, List.cons_append, List.append_assoc]

theorem charsOfEntries_cons (inner : Nat) (name : String) (v : Value)
    (fields : List (String × Value)) (tail : List Char) :
    charsOfEntries inner ((name, v) :: fields) ++ tail =
      line inner ((keyLine inner name.toList).written ++
        (chars (keyLine inner name.toList).spot inner (keyLine inner name.toList).column v ++
          (charsOfEntries inner fields ++ tail))) := by
  simp only [charsOfEntries, line, List.cons_append, List.append_assoc]

theorem lineWithin_items {inner : Nat} {vs : List Value} {tail : List Char} (h : LineWithin inner tail) :
    LineWithin inner (charsOfItems inner vs ++ tail) := by
  cases vs with
  | nil => exact h
  | cons v vs =>
    rw [charsOfItems_cons]
    exact ⟨inner, _, rfl, startsLine_of_solid rfl (by decide), Nat.le_refl _⟩

theorem lineWithin_entries {inner : Nat} {fields : List (String × Value)} {tail : List Char}
    (h : LineWithin inner tail) : LineWithin inner (charsOfEntries inner fields ++ tail) := by
  cases fields with
  | nil => exact h
  | cons f fields =>
    obtain ⟨name, v⟩ := f
    rw [charsOfEntries_cons]
    exact ⟨inner, _, rfl, startsLine_keyLine _ _ _, Nat.le_refl _⟩

theorem LineWithin.mono {bound more : Nat} {tail : List Char} (h : LineWithin bound tail)
    (hle : bound ≤ more) : LineWithin more tail := by
  obtain ⟨m, rest, heq, hrest, hm⟩ := h
  exact ⟨m, rest, heq, hrest, Nat.le_trans hm hle⟩

mutual
theorem clean_tokensOf (spot : Spot) (indent : Nat) : ∀ v : Value, Clean (tokensOf spot indent v)
  | .null | .bool _ | .int _ | .float _ => by simp [tokensOf, Clean]
  | .text s => by simp [tokensOf, Clean, textToken]
  | .list [] => by simp [tokensOf, Clean]
  | .object [] => by simp [tokensOf, Clean]
  | .list (v :: rest) => by
    have hitems : Clean (entry :: tokensOf .item (spot.listIndent indent) v ++
        tokensOfItems (spot.listIndent indent) rest) :=
      ((clean_tokensOf _ _ v).append (clean_tokensOfItems _ rest)).cons (by simp)
    rw [tokensOf]
    split_ifs
    · exact hitems
    · exact (hitems.append (by simp [Clean])).cons (by simp)
  | .object ((name, v) :: rest) => by
    rw [tokensOf]
    refine Clean.append (Clean.append ?_ (clean_tokensOfEntries _ rest)) (by simp [Clean])
    exact ((((clean_tokensOf _ _ v).cons (by simp)).cons (by simp [textToken])).cons (by simp)).cons
      (by simp)

theorem clean_tokensOfItems (indent : Nat) : ∀ vs : List Value, Clean (tokensOfItems indent vs)
  | [] => by simp [tokensOfItems, Clean]
  | v :: rest => by
    rw [tokensOfItems]
    exact ((clean_tokensOf _ _ v).append (clean_tokensOfItems _ rest)).cons (by simp)

theorem clean_tokensOfEntries (indent : Nat) :
    ∀ fields : List (String × Value), Clean (tokensOfEntries indent fields)
  | [] => by simp [tokensOfEntries, Clean]
  | (name, v) :: rest => by
    rw [tokensOfEntries]
    exact ((((clean_tokensOf _ _ v).cons (by simp)).cons (by simp [textToken])).cons (by simp)).append
      (clean_tokensOfEntries _ rest)
end

section Starts
variable {c : Cursor} {rest : List Char} (ts : List Token) {indents : List Nat}

theorem ready_gap (allowed : Bool) (h : c.rest = ' ' :: rest) (hrest : StartsLine rest)
    (hindent : indentOf indents ≤ c.column) :
    ∃ c', c'.rest = rest ∧ c'.column = c.column + 1 ∧
      Ready (resting c ts indents allowed) (resting c' ts indents allowed) := by
  have hskip := skip_spaces (n := 1) h
  refine ⟨c.skip 1, by rw [hskip], by rw [hskip], ?_⟩
  exact ready_blanks (n := 1) h hrest (by simp) (indentOf_head (by rw [hskip]; dsimp only; omega))

theorem ready_next (allowed : Bool) {m : Nat} (h : c.rest = line m rest) (hrest : StartsLine rest)
    (hindent : indentOf indents ≤ m) :
    ∃ c', c'.rest = rest ∧ c'.column = m ∧
      Ready (resting c ts indents allowed) (resting c' ts indents true) := by
  have hready : Ready (resting c ts indents allowed) _ := ready_line h hrest (by simp)
  rw [closed_eq_zero (indentOf_head hindent)] at hready
  refine ⟨c.skip (m + 1), ?_, ?_, hready⟩ <;>
    rw [skip_succ, skip_spaces (forward_of_rest h), forward_newline h, Nat.zero_add]

/-- The first entry of a list or of a table. -/
theorem ready_opening {spot : Spot} (hspot : spot ≠ .root) (inner : Nat)
    (h : c.rest = spot.opening inner ++ rest) (hrest : StartsLine rest)
    (hcolumn : spot ≠ .value → c.column + 1 = inner) (hplace : indentOf indents ≤ c.column)
    (hindent : indentOf indents ≤ inner) :
    ∃ c', c'.rest = rest ∧ c'.column = inner ∧
      Ready (resting c ts indents (spot ≠ .value)) (resting c' ts indents true) := by
  cases spot with
  | root => exact absurd rfl hspot
  | value => exact ready_next ts _ (by simpa [Spot.opening, line] using h) hrest hindent
  | item | farValue =>
    obtain ⟨c', hc', hcolumn', hready⟩ := ready_gap ts true h hrest hplace
    exact ⟨c', hc', hcolumn'.trans (hcolumn (by simp)), hready⟩

end Starts

theorem chars_word {v : Value} {w : List Char} (h : wordOf v = some w) (spot : Spot)
    (indent column : Nat) :
    chars spot indent column v = spot.gap ++ w ∧ tokensOf spot indent v = [scalar w true] := by
  cases v with
  | null | bool _ | int _ =>
    cases h
    exact ⟨by rw [chars], by unfold tokensOf; rfl⟩
  | float _ | text _ | list _ | object _ => cases h

/-- What stands on the line of its mark is taken behind it. -/
theorem leads_chars_scalar {spot : Spot} (hspot : spot ≠ .root) {indent column : Nat} {v : Value}
    {c : Cursor} (ts : List Token) {indents : List Nat} {tail : List Char}
    (hindent : indentOf indents = indent) (hcolumn : c.column = column) (hplace : indent < column)
    (h : c.rest = chars spot indent column v ++ tail) (htail : LineWithin indent tail)
    (hv : (∃ s, v = .text s) ∨ (∃ w, wordOf v = some w) ∨ v = .list [] ∨ v = .object []) :
    ∃ q, Leads (resting c ts indents (spot ≠ .value)) q ∧
      Waits q ((tokensOf spot indent v).reverse ++ ts) indents tail := by
  obtain ⟨m, rest, rfl, hrest, hm⟩ := htail
  have hgap : spot.gap = [' '] := if_neg hspot
  have hbefore : indentOf indents ≤ c.column := by omega
  rcases hv with ⟨s, rfl⟩ | ⟨w, hw⟩ | rfl | rfl
  · rw [chars, hgap] at h
    obtain ⟨c', hc', hcolumn', hready⟩ := ready_gap ts (spot ≠ .value) h
      (startsLine_textChars _ _ _ _ _) hbefore
    exact leads_text hready hc' (by simp; omega) hindent (by omega) hrest hm
  · obtain ⟨hchars, htokens⟩ := chars_word hw spot indent column
    rw [hchars, hgap] at h
    obtain ⟨c', hc', hcolumn', hready⟩ := ready_gap ts (spot ≠ .value) h
      ((unmarked_wordOf hw (indent + 2)).lines.startsLine _) hbefore
    rw [htokens]
    exact leads_word hready hw hc' hindent (by omega) hrest hm
  · rw [chars, hgap] at h
    obtain ⟨c', hc', hcolumn', hready⟩ := ready_gap ts (spot ≠ .value) h
      (startsLine_of_solid rfl (by decide)) hbefore
    exact leads_brackets .list hready hc' (by omega) hrest
  · rw [chars, hgap] at h
    obtain ⟨c', hc', hcolumn', hready⟩ := ready_gap ts (spot ≠ .value) h
      (startsLine_of_solid rfl (by decide)) hbefore
    exact leads_brackets .table hready hc' (by omega) hrest

mutual
/-- From behind its mark, the reader takes the tokens of a value and comes to the next line, unless a key
inside is too long. -/
theorem settles_value {spot : Spot} (hspot : spot ≠ .root) {indent column : Nat} {v : Value}
    (hf : v.FloatFree) {c : Cursor} {ts : List Token} {indents : List Nat} {tail : List Char}
    (hindent : indentOf indents = indent) (hcolumn : c.column = column) (hplace : indent < column)
    (hmark : spot ≠ .value → column = indent + 1) (h : c.rest = chars spot indent column v ++ tail)
    (htail : LineWithin indent tail) (hclean : Clean ts) :
    Settles (KeysFit v) (resting c ts indents (spot ≠ .value))
      fun q => Waits q ((tokensOf spot indent v).reverse ++ ts) indents tail := by
  have hscalar : KeysFit v → ((∃ s, v = .text s) ∨ (∃ w, wordOf v = some w) ∨ v = .list [] ∨
      v = .object []) → Settles (KeysFit v) (resting c ts indents (spot ≠ .value))
        fun q => Waits q ((tokensOf spot indent v).reverse ++ ts) indents tail := by
    intro hfits hv
    obtain ⟨q, hq, hwaits⟩ := leads_chars_scalar hspot ts hindent hcolumn hplace h htail hv
    exact settles_done hfits hq hwaits
  have hbefore : indentOf indents ≤ c.column := by omega
  match hv : v with
  | .null => exact hscalar trivial (.inr (.inl ⟨_, rfl⟩))
  | .bool _ => exact hscalar trivial (.inr (.inl ⟨_, rfl⟩))
  | .int _ => exact hscalar trivial (.inr (.inl ⟨_, rfl⟩))
  | .float _ => exact hf.elim
  | .text s => exact hscalar trivial (.inl ⟨s, rfl⟩)
  | .list [] => exact hscalar trivial (.inr (.inr (.inl rfl)))
  | .object [] => exact hscalar trivial (.inr (.inr (.inr rfl)))
  | .list (v :: vs) =>
    clear hscalar
    have hinner : indent ≤ spot.listIndent indent := by
      cases spot <;> simp [Spot.listIndent] at hspot ⊢
    simp only [chars, List.append_assoc, List.cons_append] at h
    obtain ⟨c', hc', hcolumn', hready⟩ := ready_opening ts hspot (spot.listIndent indent) h
      (startsLine_of_solid rfl (by decide)) (fun hs => by
        rw [hcolumn, hmark hs]
        cases spot <;> simp_all [Spot.listIndent]) hbefore (by omega)
    refine (settles_items hf hready hcolumn' hc' (by omega) (htail.mono hinner) hclean).mono ?_
    intro q hwaits
    by_cases hs : spot = .value
    · subst hs
      rw [opened_of_eq (by exact hindent)] at hwaits
      simpa [tokensOf, tokensOfItems] using hwaits
    · have hlt : indent < spot.listIndent indent := by
        cases spot <;> simp_all [Spot.listIndent]
      rw [opened_of_lt (by omega)] at hwaits
      simpa [tokensOf, tokensOfItems, hs] using hwaits.close htail hlt
  | .object ((name, v) :: fields) =>
    clear hscalar
    have hinner : spot.tableIndent indent = indent + 2 := if_neg hspot
    simp only [chars, List.append_assoc] at h
    obtain ⟨c', hc', hcolumn', hready⟩ := ready_opening ts hspot (spot.tableIndent indent) h
      (startsLine_keyLine _ _ _) (fun hs => by
        rw [hcolumn, hmark hs, hinner]) hbefore (by omega)
    refine (settles_entries hf hready hcolumn' hc' (by omega) (htail.mono (by omega)) hclean).mono ?_
    intro q hwaits
    rw [opened_of_lt (by omega)] at hwaits
    simpa [tokensOf, tokensOfEntries] using hwaits.close htail (by omega)
termination_by sizeOf v
decreasing_by
  all_goals
    subst hv
    simp
    try omega

/-- The entries of a list, from the mark of the first one on. -/
theorem settles_items {v : Value} {vs : List Value} (hf : Value.FloatFreeItems (v :: vs))
    {p : Progress} {inner : Nat} {c : Cursor} {ts : List Token} {indents : List Nat} {tail : List Char}
    (hready : Ready p (resting c ts indents true)) (hcolumn : c.column = inner)
    (h : c.rest = '-' :: (chars .item inner (inner + 1) v ++ (charsOfItems inner vs ++ tail)))
    (hindent : indentOf indents ≤ inner) (htail : LineWithin inner tail) (hclean : Clean ts) :
    Settles (KeysFitItems (v :: vs)) p fun q =>
      Waits q ((tokensOfItems inner (v :: vs)).reverse ++ (opened listStart inner ts indents).1)
        (opened listStart inner ts indents).2 tail := by
  have hentry := take_entry h (gapNext_chars (by simp) _ _ _ _) ts indents
  have hforward : c.forward = ⟨_, c.index + 1, c.line, c.column + 1⟩ :=
    forward_steady h ⟨rfl, by decide⟩
  have hinner := indentOf_opened listStart ts hindent
  have hcleaned := hclean.opened listStart (by simp) inner indents
  rw [hcolumn] at hentry hforward
  generalize opened listStart inner ts indents = o at *
  have hstep : Leads p (resting c.forward (entry :: o.1) o.2 true) :=
    .step hready hentry (by simp [resting, hforward, h]) (.refl _)
  have hplace : c.forward.column = inner + 1 := by rw [hforward]
  have hfirst := settles_value (show Spot.item ≠ .root by simp) hf.1 hinner hplace (by omega)
    (fun _ => rfl) (forward_of_rest h) (lineWithin_items htail) (hcleaned.cons (t := entry) (by simp))
  refine (hfirst.bind fun q hwaits => ?_).before hstep
  match hvs : vs with
  | [] => exact settles_done trivial (.refl _) (by simpa [charsOfItems, tokensOfItems] using hwaits)
  | w :: ws =>
    rw [charsOfItems_cons] at hwaits
    obtain ⟨c', hc', hcolumn', hready'⟩ := hwaits.ready (startsLine_of_solid rfl (by decide))
      (indentOf_head (by omega))
    have hmore := settles_items hf.2 hready' hcolumn' hc' (by omega) htail
      ((clean_tokensOf .item inner v).reverse.append (hcleaned.cons (by simp)))
    rw [opened_of_eq hinner] at hmore
    exact hmore.mono fun q hq => by simpa [tokensOfItems] using hq
termination_by sizeOf (v :: vs)
decreasing_by
  all_goals
    try subst hvs
    simp
    try omega

/-- The entries of a table, from the first key on. -/
theorem settles_entries {name : String} {v : Value} {fields : List (String × Value)}
    (hf : Value.FloatFreeFields ((name, v) :: fields)) {p : Progress} {inner : Nat} {c : Cursor}
    {ts : List Token} {indents : List Nat} {tail : List Char}
    (hready : Ready p (resting c ts indents true)) (hcolumn : c.column = inner)
    (h : c.rest = (keyLine inner name.toList).written ++
      (chars (keyLine inner name.toList).spot inner (keyLine inner name.toList).column v ++
        (charsOfEntries inner fields ++ tail)))
    (hindent : indentOf indents ≤ inner) (htail : LineWithin inner tail) (hclean : Clean ts) :
    Settles (KeysFitFields ((name, v) :: fields)) p fun q =>
      Waits q ((tokensOfEntries inner ((name, v) :: fields)).reverse ++
          (opened tableStart inner ts indents).1)
        (opened tableStart inner ts indents).2 tail := by
  obtain ⟨hspot, hplace, hmark⟩ := spot_keyLine inner name.toList
  have hkey := settles_key hready hcolumn h (gapNext_chars hspot _ _ _ _) hindent hclean
  have hinner := indentOf_opened tableStart ts hindent
  have hcleaned := hclean.opened tableStart (by simp) inner indents
  generalize opened tableStart inner ts indents = o at *
  refine hkey.bind fun q hbehind => ?_
  obtain ⟨c', rfl, hc', hcolumn'⟩ := hbehind.exists_eq
  have hcleanKey : Clean (value :: textToken (!isShortKey name.toList) (inner + 2) name.toList :: key ::
      o.1) := ((hcleaned.cons (by simp)).cons (by simp [textToken])).cons (by simp)
  refine (settles_value hspot hf.1 hinner hcolumn' hplace hmark hc'
    (lineWithin_entries htail) hcleanKey).bind fun q hwaits => ?_
  match hfields : fields with
  | [] => exact settles_done trivial (.refl _) (by simpa [charsOfEntries, tokensOfEntries] using hwaits)
  | (other, w) :: ws =>
    rw [charsOfEntries_cons] at hwaits
    obtain ⟨c'', hc'', hcolumn'', hready''⟩ := hwaits.ready (startsLine_keyLine _ _ _)
      (indentOf_head (by omega))
    have hmore := settles_entries hf.2 hready'' hcolumn'' hc'' (by omega) htail
      ((clean_tokensOf _ inner v).reverse.append hcleanKey)
    rw [opened_of_eq hinner] at hmore
    exact hmore.mono fun q hq => by simpa [tokensOfEntries] using hq
termination_by sizeOf ((name, v) :: fields)
decreasing_by
  all_goals
    try subst hfields
    simp
    try omega
end

/-! ### Documents -/

theorem Leads.readAll_end {p q : Progress} (h : Leads p q) {ts : List Token} {indents : List Nat}
    (hwaits : Waits q ts indents (line 0 [])) (hindents : ∀ n ∈ indents.head?, n ≤ 0) {fuel : Nat}
    (hfuel : p.cursor.rest.length < fuel) :
    Token.readAll fuel p = ts.reverse ++ List.replicate indents.length blockEnd ++ [streamEnd] := by
  obtain ⟨fuel', hfuel', heq⟩ := h.readAll hfuel
  obtain ⟨fuel', rfl⟩ := Nat.exists_eq_add_of_le' (show 1 ≤ fuel' by omega)
  obtain ⟨c, hc, _, hready⟩ := hwaits.ready (by simp [StartsLine]) hindents
  obtain ⟨r, htake, htokens⟩ := take_end hc ts indents
  rw [heq, Token.readAll, hready.step_run, htake]
  simp [htokens]

theorem Fails.readAll {p : Progress} (h : Fails p) {fuel : Nat} (hfuel : p.cursor.rest.length < fuel) :
    ∃ us m, Token.readAll fuel p = us ++ [fault m] ∧ Clean us := by
  obtain ⟨q, m, hq, hstep, hclean⟩ := h
  obtain ⟨fuel', hfuel', heq⟩ := hq.readAll hfuel
  obtain ⟨fuel', rfl⟩ := Nat.exists_eq_add_of_le' (show 1 ≤ fuel' by omega)
  refine ⟨q.settled, m, ?_, fun hm => ?_⟩
  · rw [heq, Token.readAll, hstep]
  · exact hclean (List.mem_reverse.mp (List.mem_of_mem_take hm))

/-- No document begins with the mark of a byte order. -/
theorem head_textChars_ne (fold : Bool) (indent column : Nat) (cs tail : List Char) :
    (textChars fold indent column cs ++ tail).head? ≠ some '\uFEFF' := by
  unfold textChars
  cases hstyle : TextStyle.of cs with
  | plain =>
    have htext := unmarked_plainChars (allowsPlain_of_plain hstyle) fold indent column
    obtain ⟨w, more, written, _, hout, hw, _, _⟩ := htext.lines.firstWord
    obtain ⟨ch, w, rfl⟩ := List.exists_cons_of_ne_nil hw.ne_nil
    dsimp only
    rw [hout]
    intro hhead
    obtain rfl : ch = '\uFEFF' := by simpa using hhead
    cases hw.ordinary _ List.mem_cons_self
  | single => simp [singleChars]
  | double => simp [doubleChars]

theorem head_keyLine_ne (indent : Nat) (name tail : List Char) :
    ((keyLine indent name).written ++ tail).head? ≠ some '\uFEFF' := by
  unfold keyLine
  split_ifs
  · rw [List.append_assoc]
    exact head_textChars_ne _ _ _ _ _
  · simp

/-- The tokens of a document, or a fault at the end of those that come before it. -/
structure Tokenized (fits : Prop) (cs : List Char) (ts : List Token) : Prop where
  done : fits → ofText cs = ts ++ [streamEnd]
  fails : ¬fits → ∃ us m, ofText cs = us ++ [fault m] ∧ Clean us

theorem toList_file_object (fields : List (String × Value)) :
    (file (.object fields)).toList = chars .root 0 0 (.object fields) ++ line 0 [] := by
  simp [file, isOpenEnded, String.toList_ofList, line, spaces]

theorem ofText_eq_readAll {cs : List Char} (hprint : cs.all isPrintable = true)
    (hhead : cs.head? ≠ some '\uFEFF') :
    ofText cs = Token.readAll (cs.length + 2) (resting (Cursor.start cs) [] [] true) := by
  have hmark : afterMark (Cursor.start cs) = Cursor.start cs := by
    refine if_neg fun h => hhead ?_
    cases cs with
    | nil => cases h
    | cons ch rest => exact congrArg some h
  rw [ofText, if_pos hprint]
  simp only [start, hmark]
  rfl

/-- The start of a text, where the first token stands at once. -/
theorem ready_start {cs : List Char} (h : StartsLine cs) :
    Ready (resting (Cursor.start cs) [] [] true) (resting (Cursor.start cs) [] [] true) :=
  ready_blanks (n := 0) (List.nil_append cs).symm h (by simp) (by simp)

theorem tokenized_file {fields : List (String × Value)} (hf : Value.FloatFreeFields fields) :
    Tokenized (KeysFitFields fields) (file (.object fields)).toList (tokensOf .root 0 (.object fields)) := by
  have htail : LineWithin 0 (line 0 []) := ⟨0, [], rfl, by simp [StartsLine], Nat.le_refl _⟩
  rw [toList_file_object]
  cases fields with
  | nil =>
    have hstarts : StartsLine ('\x7b' :: '\x7d' :: line 0 []) := startsLine_of_solid rfl (by decide)
    have hready := ready_start hstarts
    obtain ⟨q, hq, hwaits⟩ := leads_brackets .table hready rfl (by decide) (by simp [StartsLine])
    refine ⟨fun _ => ?_, fun h => absurd trivial h⟩
    rw [chars, Spot.gap, if_pos rfl, ofText_eq_readAll (by decide) (by decide)]
    exact hq.readAll_end hwaits (by simp) (by decide)
  | cons f fields =>
    obtain ⟨name, v⟩ := f
    obtain ⟨hspot, hbehind, _⟩ := spot_keyLine 0 name.toList
    have hnewline : isPrintable '\n' = true := by decide
    have htext : chars .root 0 0 (.object ((name, v) :: fields)) ++ line 0 [] =
        (keyLine 0 name.toList).written ++
          (chars (keyLine 0 name.toList).spot 0 (keyLine 0 name.toList).column v ++
            (charsOfEntries 0 fields ++ line 0 [])) := by
      simp only [chars, Spot.opening, Spot.tableIndent, if_true, List.nil_append, List.append_assoc]
    have hprint : ((keyLine 0 name.toList).written ++
        (chars (keyLine 0 name.toList).spot 0 (keyLine 0 name.toList).column v ++
          (charsOfEntries 0 fields ++ line 0 []))).all isPrintable = true := by
      simp only [line, List.all_append, List.all_cons, List.all_nil, printable_keyLine, printable_spaces,
        printable_chars hspot hbehind hf.1, printable_charsOfEntries hf.2, hnewline, Bool.and_self]
    have htokens := ofText_eq_readAll hprint (head_keyLine_ne _ _ _)
    rw [htext]
    have hstarts := startsLine_keyLine 0 name.toList
      (chars (keyLine 0 name.toList).spot 0 (keyLine 0 name.toList).column v ++
        (charsOfEntries 0 fields ++ line 0 []))
    generalize hcs : (keyLine 0 name.toList).written ++ _ = cs at *
    have hsettles := settles_entries hf (ready_start hstarts) (show (Cursor.start cs).column = 0 from rfl)
      hcs.symm (by decide) htail (by simp [Clean])
    have hfuel : (resting (Cursor.start cs) [] [] true).cursor.rest.length < cs.length + 2 :=
      Nat.lt_add_of_pos_right (by decide)
    rw [opened_of_lt (by decide)] at hsettles
    refine ⟨fun hfits => ?_, fun hfits => ?_⟩
    · obtain ⟨q, hq, hwaits⟩ := hsettles.done hfits
      rw [htokens, hq.readAll_end hwaits (by simp) hfuel]
      simp [tokensOf, tokensOfEntries, Spot.tableIndent]
    · rw [htokens]
      exact (hsettles.fails hfits).readAll hfuel

end ServiceAtlas.Yaml.Token
