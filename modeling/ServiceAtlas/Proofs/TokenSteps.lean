import Mathlib.Data.List.TakeWhile
import ServiceAtlas.Proofs.PlainText
import ServiceAtlas.Proofs.QuotedText
import ServiceAtlas.Proofs.Results

/-!
One step of the reader of tokens. Each step first passes blanks and line ends, forgets keys that did not
come, and closes the blocks that end here; then it takes one token. Both halves are described for the
places that stand in written documents.
-/

namespace ServiceAtlas.Yaml.Token
open Cursor

/-! ### The parts of a step -/

/-- What is done before a token is read. -/
def prepare : Read Unit := do
  skipToToken ((← cursor).rest.length + 1)
  dropStale
  closeBlocks (← cursor).column

/-- The token that comes next, if any. -/
def take : Read Bool := do
  if (← cursor).atEnd then
    readEnd
    return true
  readToken
  return false

theorem step_eq : step = (do prepare; take) := by
  simp [step, prepare, take]

section Runs
variable (p : Progress)

theorem run_cursor : cursor.run p = .ok (p.cursor, p) := rfl

theorem run_moveTo (c : Cursor) : (moveTo c).run p = .ok ((), { p with cursor := c }) := rfl

theorem run_emit (t : Token) :
    (emit t).run p = .ok ((), { p with tokens := t :: p.tokens, count := p.count + 1 }) := rfl

theorem run_setKeyAllowed (b : Bool) :
    (setKeyAllowed b).run p = .ok ((), { p with keyAllowed := b }) := rfl

theorem run_get : (get : Read Progress).run p = .ok (p, p) := rfl

theorem run_set (q : Progress) : (set q : Read Unit).run p = .ok ((), q) := rfl

theorem run_pure {α : Type} (a : α) : (pure a : Read α).run p = .ok (a, p) := rfl

theorem run_modify (f : Progress → Progress) : (modify f : Read Unit).run p = .ok ((), f p) := rfl

end Runs

/-! ### Blanks and line ends -/

section Gaps
variable {c : Cursor} {n : Nat} {rest : List Char} {ts : List Token} {count level : Nat}
  {indents : List Nat} {allowed : Bool} {ks : List Candidate}

theorem run_skipToToken_blanks (h : c.rest = spaces n ++ rest) (hrest : StartsLine rest) (fuel : Nat) :
    (skipToToken (fuel + 1)).run ⟨c, ts, count, level, indents, allowed, ks⟩ =
      .ok ((), ⟨c.skip n, ts, count, level, indents, allowed, ks⟩) := by
  have hskip : c.skipSpaces = c.skip n := by
    rw [skipSpaces, skipWhile, run_space h hrest.head_ne, length_spaces]
  have hleft : (c.skip n).rest = rest := by rw [skip_spaces h]
  have hhash : (c.skip n).head ≠ '#' := by
    cases rest with
    | nil => simp [head_of_nil hleft]
    | cons ch rest => rw [head_of_rest hleft]; exact (hrest ch rfl).2.1
  have hbreak : (c.skip n).lineBreak = ([], c.skip n) :=
    lineBreak_of_head (by rw [hleft]; exact fun ch hch => (hrest ch hch).2.2)
  simp only [skipToToken, StateT.run_bind, run_cursor, ok_bind, hskip, hhash, if_false, hbreak,
    run_moveTo]

theorem run_skipToToken_line (h : c.rest = '\n' :: (spaces n ++ rest)) (hrest : StartsLine rest)
    (fuel : Nat) :
    (skipToToken (fuel + 2)).run ⟨c, ts, count, 0, indents, allowed, ks⟩ =
      .ok ((), ⟨c.skip (n + 1), ts, count, 0, indents, true, ks⟩) := by
  have hskip : c.skipSpaces = c := skipWhile_of_head (by rw [h]; simp)
  rw [skipToToken]
  simp only [StateT.run_bind, run_cursor, ok_bind, hskip, head_of_rest h,
    show ¬('\n' = '#') by decide, if_false, lineBreak_eq h (show isBreak '\n' = true from rfl),
    run_moveTo, run_get, if_true, run_setKeyAllowed]
  exact run_skipToToken_blanks (forward_of_rest h) hrest fuel

end Gaps

/-! ### Keys that may have begun, and blocks that end -/

/-- Whether the key that may have begun here can no longer come. -/
def isStale (c : Cursor) (k : Candidate) : Bool :=
  k.line ≠ c.line || keyLimit < c.index - k.index

theorem dropStale_run (p : Progress) :
    dropStale.run p =
      if p.candidates.any fun k => isStale p.cursor k && k.required then .error .missingColon
      else .ok ((), { p with candidates := p.candidates.filter fun k => !isStale p.cursor k }) := by
  have hunfold : dropStale.run p =
      (if (p.candidates.any fun k => isStale p.cursor k && k.required) = true then
        (do throw .missingColon; set { p with
          candidates := p.candidates.filter fun k => !isStale p.cursor k } : Read Unit)
      else set { p with candidates := p.candidates.filter fun k => !isStale p.cursor k }).run p := rfl
  rw [hunfold]
  split_ifs <;> rfl

theorem run_dropStale {p : Progress}
    (h : ∀ k ∈ p.candidates, k.required = true → isStale p.cursor k = false) :
    dropStale.run p =
      .ok ((), { p with candidates := p.candidates.filter fun k => !isStale p.cursor k }) := by
  rw [dropStale_run, if_neg]
  rw [Bool.not_eq_true, List.any_eq_false]
  intro k hk hboth
  rw [Bool.and_eq_true] at hboth
  rw [h k hk hboth.2] at hboth
  cases hboth.1

/-- The blocks that end in front of a column: their number, and those that stay open. -/
def closed (indents : List Nat) (column : Nat) : Nat :=
  (indents.takeWhile fun n => column < n).length

theorem run_closeBlocks {c : Cursor} {ts : List Token} {count : Nat}
    {indents : List Nat} {allowed : Bool} {ks : List Candidate} (column : Nat) :
    (closeBlocks column).run ⟨c, ts, count, 0, indents, allowed, ks⟩ =
      .ok ((), ⟨c, List.replicate (closed indents column) blockEnd ++ ts,
        count + closed indents column, 0, indents.drop (closed indents column), allowed, ks⟩) := by
  simp only [closeBlocks, StateT.run_bind, run_get, ok_bind, if_true, run_set, closed,
    Nat.cast_lt, List.map_const']

/-- Blocks end to the left of where their lines begin. -/
theorem closed_eq_zero {indents : List Nat} {column : Nat} (h : ∀ n ∈ indents.head?, n ≤ column) :
    closed indents column = 0 := by
  cases indents with
  | nil => rfl
  | cons n indents =>
    have hn : ¬column < n := Nat.not_lt.mpr (h n rfl)
    simp [closed, hn]

theorem closed_cons {n column : Nat} (h : column < n) (indents : List Nat) :
    closed (n :: indents) column = closed indents column + 1 := by
  simp [closed, h]

/-! ### Places where a token begins -/

/-- Nothing is under way but the blocks that are open. -/
def resting (c : Cursor) (ts : List Token) (indents : List Nat) (allowed : Bool) : Progress :=
  ⟨c, ts, ts.length, 0, indents, allowed, []⟩

/-- The reader comes to the place where the next token begins. -/
structure Ready (p q : Progress) : Prop where
  run : prepare.run p = .ok ((), q)
  length_le : q.cursor.rest.length ≤ p.cursor.rest.length

theorem length_rest_skip_le (n : Nat) (c : Cursor) : (c.skip n).rest.length ≤ c.rest.length := by
  rw [rest_skip, List.length_drop]
  exact Nat.sub_le _ _

section Ready
variable {c : Cursor} {n : Nat} {rest : List Char} {ts : List Token} {count : Nat}
  {indents : List Nat} {allowed : Bool} {ks : List Candidate}

/-- Behind blanks on the same line. -/
theorem ready_blanks (h : c.rest = spaces n ++ rest) (hrest : StartsLine rest)
    (hks : ∀ k ∈ ks, isStale (c.skip n) k = false)
    (hindents : ∀ i ∈ indents.head?, i ≤ (c.skip n).column) :
    Ready ⟨c, ts, count, 0, indents, allowed, ks⟩ ⟨c.skip n, ts, count, 0, indents, allowed, ks⟩ where
  run := by
    have hkeep : ks.filter (fun k => !isStale (c.skip n) k) = ks :=
      List.filter_eq_self.mpr fun k hk => by rw [hks k hk]; rfl
    simp only [prepare, StateT.run_bind, run_cursor, ok_bind, run_skipToToken_blanks h hrest]
    rw [run_dropStale (fun k hk _ => hks k hk)]
    simp only [ok_bind, hkeep, run_closeBlocks, closed_eq_zero hindents]
    rfl
  length_le := length_rest_skip_le n c

/-- On the next line. -/
theorem ready_line (h : c.rest = '\n' :: (spaces n ++ rest)) (hrest : StartsLine rest)
    (hks : ∀ k ∈ ks, k.required = false ∧ k.line ≤ c.line) :
    Ready ⟨c, ts, ts.length, 0, indents, allowed, ks⟩
      (resting (c.skip (n + 1)) (List.replicate (closed indents n) blockEnd ++ ts)
        (indents.drop (closed indents n)) true) where
  run := by
    have hcursor : c.skip (n + 1) = ⟨rest, c.index + 1 + n, c.line + 1, n⟩ := by
      rw [skip_succ, skip_spaces (forward_of_rest h), forward_newline h, Nat.zero_add]
    have hdrop : ks.filter (fun k => !isStale (c.skip (n + 1)) k) = [] := by
      rw [List.filter_eq_nil_iff]
      intro k hk
      have := (hks k hk).2
      rw [hcursor]
      simp only [isStale, Bool.not_eq_true', Bool.or_eq_false_iff, decide_eq_false_iff_not, not_not,
        not_and]
      omega
    have hlength : c.rest.length + 1 = c.rest.length - 1 + 2 := by
      rw [h, List.length_cons]
      omega
    simp only [prepare, StateT.run_bind, run_cursor, ok_bind, hlength, run_skipToToken_line h hrest]
    rw [run_dropStale (fun k hk hreq => by rw [(hks k hk).1] at hreq; cases hreq)]
    have hcolumn : (c.skip (n + 1)).column = n := by rw [hcursor]
    simp only [ok_bind, hdrop, hcolumn, run_closeBlocks, resting, List.length_append,
      List.length_replicate, Nat.add_comm]
  length_le := length_rest_skip_le (n + 1) c

/-- On the next line, where the reader has come to already. -/
theorem ready_past (hcolumn : c.column = n) (hrest : StartsLine c.rest)
    (hks : ∀ k ∈ ks, k.required = false ∧ k.line < c.line) :
    Ready ⟨c, ts, ts.length, 0, indents, allowed, ks⟩
      (resting c (List.replicate (closed indents n) blockEnd ++ ts)
        (indents.drop (closed indents n)) allowed) where
  run := by
    have hdrop : ks.filter (fun k => !isStale c k) = [] := by
      rw [List.filter_eq_nil_iff]
      intro k hk
      have := (hks k hk).2
      simp only [isStale, Bool.not_eq_true', Bool.or_eq_false_iff, decide_eq_false_iff_not, not_not,
        not_and]
      omega
    simp only [prepare, StateT.run_bind, run_cursor, ok_bind,
      run_skipToToken_blanks (n := 0) (List.nil_append c.rest).symm hrest]
    rw [run_dropStale (fun k hk hreq => by rw [(hks k hk).1] at hreq; cases hreq)]
    simp only [ok_bind, skip, hdrop, run_closeBlocks, hcolumn, resting, List.length_append,
      List.length_replicate, Nat.add_comm]
  length_le := Nat.le_refl _

end Ready

/-! ### Tokens of one character -/

/-- Block contents stand to the right of this column. -/
def indentOf : List Nat → Int
  | [] => -1
  | n :: _ => n

/-- The tokens and the open blocks where a block may begin at a column. -/
def opened (opening : Token) (column : Nat) (ts : List Token) (indents : List Nat) :
    List Token × List Nat :=
  if indentOf indents < column then (opening :: ts, column :: indents) else (ts, indents)

theorem run_dropCandidate {p : Progress} (h : ∀ k ∈ p.candidates, k.level ≠ p.level) :
    dropCandidate.run p = .ok ((), p) := by
  have hany : (p.candidates.any fun k => k.level = p.level && k.required) = false := by
    rw [List.any_eq_false]
    intro k hk
    simp [h k hk]
  have hkeep : (p.candidates.filter fun k => k.level ≠ p.level) = p.candidates :=
    List.filter_eq_self.mpr fun k hk => by simp [h k hk]
  simp only [dropCandidate, StateT.run_bind, run_get, ok_bind, hany, Bool.false_eq_true, if_false, hkeep,
    run_set]

theorem indent_eq (p : Progress) : p.indent = indentOf p.indents := by
  unfold Progress.indent indentOf
  cases p.indents <;> rfl

theorem run_openBlock (column : Nat) (p : Progress) :
    (openBlock column).run p =
      .ok (decide (indentOf p.indents < column),
        { p with indents := if indentOf p.indents < column then column :: p.indents else p.indents }) := by
  simp only [openBlock, StateT.run_bind, run_get, ok_bind, indent_eq]
  by_cases h : indentOf p.indents < column
  · simp only [h, if_true, StateT.run_bind, run_set, ok_bind, run_pure, decide_true]
  · simp only [h, if_false, run_pure, decide_false]

theorem run_openFor {c : Cursor} {ts : List Token} {indents : List Nat} (opening : Token)
    (m : Malformation) :
    (openFor opening m).run (resting c ts indents true) =
      .ok ((), resting c (opened opening c.column ts indents).1
        (opened opening c.column ts indents).2 true) := by
  simp only [openFor, StateT.run_bind, run_get, ok_bind, opened, resting, if_true, Bool.not_true,
    Bool.false_eq_true, if_false, run_openBlock]
  by_cases h : indentOf indents < c.column
  · simp only [h, decide_true, if_true, run_emit, List.length_cons]
  · simp only [h, decide_false, Bool.false_eq_true, if_false, run_pure]

/-- A token that stands at a cursor is taken. -/
theorem run_take {p q : Progress} (h : p.cursor.rest ≠ []) (hread : readToken.run p = .ok ((), q)) :
    take.run p = .ok (false, q) := by
  obtain ⟨ch, rest, hrest⟩ := List.exists_cons_of_ne_nil h
  simp only [take, StateT.run_bind, run_cursor, ok_bind, atEnd_of_rest hrest, Bool.false_eq_true,
    if_false, hread]
  rfl

/-- No mark between documents stands where a character is followed by another one. -/
theorem atMark_eq_false {c : Cursor} {ch : Char} {rest : List Char} (h : c.rest = ch :: rest)
    (hgap : gapNext rest = true) : ∀ mark, mark = '-' ∨ mark = '.' → c.atMark mark = false := by
  intro mark hmark
  cases rest with
  | nil => simp [atMark, h]
  | cons d rest =>
    have hd : d ≠ mark := by
      rintro rfl
      rcases hmark with rfl | rfl <;> cases hgap
    simp [atMark, h, hd]

theorem take_entry {c : Cursor} {rest : List Char} (h : c.rest = '-' :: rest) (hgap : gapNext rest = true)
    (ts : List Token) (indents : List Nat) :
    take.run (resting c ts indents true) =
      .ok (false, resting c.forward (entry :: (opened listStart c.column ts indents).1)
        (opened listStart c.column ts indents).2 true) := by
  have hdash := atMark_eq_false h hgap '-' (.inl rfl)
  have hdot := atMark_eq_false h hgap '.' (.inr rfl)
  have hdispatch : readToken.run (resting c ts indents true) =
      readEntry.run (resting c ts indents true) := by
    simp [readToken, StateT.run_bind, resting, h, head_of_rest h, hdash, hdot, hgap]
  refine run_take (by simp [resting, h]) ?_
  rw [hdispatch]
  simp only [readEntry, StateT.run_bind, run_openFor, ok_bind]
  simp only [resting, run_setKeyAllowed, ok_bind]
  rw [run_dropCandidate (by simp)]
  simp only [ok_bind, run_cursor, run_moveTo, run_emit, List.length_cons]

theorem take_key {c : Cursor} {rest : List Char} (h : c.rest = '?' :: rest) (hgap : gapNext rest = true)
    (ts : List Token) (indents : List Nat) :
    take.run (resting c ts indents true) =
      .ok (false, resting c.forward (key :: (opened tableStart c.column ts indents).1)
        (opened tableStart c.column ts indents).2 true) := by
  have hdash := atMark_eq_false h hgap '-' (.inl rfl)
  have hdot := atMark_eq_false h hgap '.' (.inr rfl)
  have hdispatch : readToken.run (resting c ts indents true) =
      readKey.run (resting c ts indents true) := by
    simp [readToken, StateT.run_bind, resting, h, head_of_rest h, hdash, hdot, hgap]
  refine run_take (by simp [resting, h]) ?_
  rw [hdispatch]
  simp only [readKey, StateT.run_bind, run_openFor, ok_bind]
  simp only [resting, run_get, ok_bind, run_setKeyAllowed, decide_true]
  rw [run_dropCandidate (by simp)]
  simp only [ok_bind, run_cursor, run_moveTo, run_emit, List.length_cons]

theorem run_readToken_value {p : Progress} {rest : List Char} (h : p.cursor.rest = ':' :: rest)
    (hgap : gapNext rest = true) (hlevel : p.level = 0) : readToken.run p = readValue.run p := by
  have hdash := atMark_eq_false h hgap '-' (.inl rfl)
  have hdot := atMark_eq_false h hgap '.' (.inr rfl)
  simp [readToken, StateT.run_bind, h, head_of_rest h, hdash, hdot, hgap, hlevel]

/-- A colon on a line of its own. -/
theorem take_value {c : Cursor} {rest : List Char} (h : c.rest = ':' :: rest) (hgap : gapNext rest = true)
    (ts : List Token) (indents : List Nat) :
    take.run (resting c ts indents true) =
      .ok (false, resting c.forward (value :: (opened tableStart c.column ts indents).1)
        (opened tableStart c.column ts indents).2 true) := by
  refine run_take (by simp [resting, h]) ?_
  rw [run_readToken_value (p := resting c ts indents true) h hgap rfl]
  simp only [readValue, StateT.run_bind, run_get, ok_bind]
  rw [show (resting c ts indents true).candidates = [] from rfl, List.find?_nil]
  simp only [StateT.run_bind, run_openFor, ok_bind]
  simp only [resting, run_setKeyAllowed, ok_bind, decide_true]
  rw [run_dropCandidate (by simp)]
  simp only [ok_bind, run_cursor, run_moveTo, run_emit, List.length_cons]

/-- A colon behind a key on the same line. The tokens in front of the key come to stand there now. -/
theorem take_keyValue {c : Cursor} {rest : List Char} (h : c.rest = ':' :: rest)
    (hgap : gapNext rest = true) (t : Token) (ts : List Token) (indents : List Nat)
    (allowed required : Bool) (index line column : Nat) :
    take.run ⟨c, t :: ts, ts.length + 1, 0, indents, allowed,
        [⟨0, ts.length, required, index, line, column⟩]⟩ =
      .ok (false, resting c.forward (value :: t :: key :: (opened tableStart column ts indents).1)
        (opened tableStart column ts indents).2 false) := by
  refine run_take (by simp [h]) ?_
  rw [run_readToken_value h hgap rfl]
  simp only [readValue, StateT.run_bind, run_get, ok_bind, decide_true, List.find?_cons_of_pos, run_set,
    insertAt, run_modify, if_true, run_openBlock]
  have hbehind : ts.length + 1 - ts.length = 1 := Nat.add_sub_cancel_left _ _
  have hfarther : ts.length + 1 + 1 - ts.length = 2 := by omega
  by_cases hopen : indentOf indents < column
  · simp [hopen, opened, StateT.run_bind, ok_bind, run_setKeyAllowed, run_cursor, run_moveTo, run_emit,
      resting, hbehind, hfarther]
  · simp [hopen, opened, StateT.run_bind, ok_bind, run_setKeyAllowed, run_cursor, run_moveTo,
      run_emit, resting, hbehind]

/-- Where no key may stand, a colon is a fault. -/
theorem take_value_fails {c : Cursor} {rest : List Char} (h : c.rest = ':' :: rest)
    (hgap : gapNext rest = true) (ts : List Token) (count : Nat) (indents : List Nat) :
    take.run ⟨c, ts, count, 0, indents, false, []⟩ = .error .misplacedValue := by
  have hread : readToken.run ⟨c, ts, count, 0, indents, false, []⟩ = .error .misplacedValue := by
    rw [run_readToken_value h hgap rfl]
    rfl
  simp only [take, StateT.run_bind, run_cursor, ok_bind, atEnd_of_rest h, Bool.false_eq_true, if_false,
    hread]
  rfl

/-! ### Empty collections -/

/-- The key that may begin at a cursor. -/
def begun (c : Cursor) (position : Nat) (indents : List Nat) (allowed : Bool) : List Candidate :=
  if allowed then [⟨0, position, indentOf indents = c.column, c.index, c.line, c.column⟩] else []

theorem mem_begun {c : Cursor} {position : Nat} {indents : List Nat} {allowed : Bool} {k : Candidate}
    (h : k ∈ begun c position indents allowed) :
    k = ⟨0, position, indentOf indents = c.column, c.index, c.line, c.column⟩ := by
  unfold begun at h
  split_ifs at h
  · exact List.mem_singleton.mp h
  · cases h

theorem run_addCandidate (c : Cursor) (ts : List Token) (indents : List Nat) (allowed : Bool) :
    addCandidate.run (resting c ts indents allowed) =
      .ok ((), { resting c ts indents allowed with
        candidates := begun c ts.length indents allowed }) := by
  have hdrop : dropCandidate.run (resting c ts indents allowed) = .ok ((), resting c ts indents allowed) :=
    run_dropCandidate (by simp [resting])
  simp only [addCandidate, StateT.run_bind, run_get, ok_bind]
  cases allowed with
  | false => rfl
  | true =>
    simp only [show (resting c ts indents true).keyAllowed = true from rfl, if_true, StateT.run_bind,
      hdrop, ok_bind, run_modify, indent_eq, begun]
    simp only [resting, decide_true, Bool.true_and]
    rfl

/-- Two brackets with the tokens that they are. -/
inductive Brackets : Char → Char → Token → Token → Prop
  | list : Brackets '[' ']' flowListStart flowListEnd
  | table : Brackets '\x7b' '\x7d' flowTableStart flowTableEnd

theorem take_flowStart {left right : Char} {opening closing : Token}
    (hb : Brackets left right opening closing) {c : Cursor} {rest : List Char}
    (h : c.rest = left :: rest) (ts : List Token) (indents : List Nat) (allowed : Bool) :
    take.run (resting c ts indents allowed) =
      .ok (false, ⟨c.forward, opening :: ts, ts.length + 1, 1, indents, true,
        begun c ts.length indents allowed⟩) := by
  have hmark : ∀ mark, mark = '-' ∨ mark = '.' → c.atMark mark = false := by
    rintro mark (rfl | rfl) <;> cases hb <;> simp [atMark, h]
  have hdispatch : readToken.run (resting c ts indents allowed) =
      (readFlowStart opening).run (resting c ts indents allowed) := by
    cases hb <;>
      simp [readToken, StateT.run_bind, resting, head_of_rest h, hmark '-' (.inl rfl), hmark '.' (.inr rfl)]
  refine run_take (by simp [resting, h]) ?_
  rw [hdispatch]
  simp only [readFlowStart, StateT.run_bind, run_addCandidate, ok_bind, run_modify, run_setKeyAllowed,
    run_cursor, run_moveTo, run_emit]
  rfl

theorem take_flowEnd {left right : Char} {opening closing : Token}
    (hb : Brackets left right opening closing) {c : Cursor} {rest : List Char}
    (h : c.rest = right :: rest) (ts : List Token) (indents : List Nat) (allowed : Bool)
    {ks : List Candidate} (hks : ∀ k ∈ ks, k.level = 0) :
    take.run ⟨c, ts, ts.length, 1, indents, allowed, ks⟩ =
      .ok (false, ⟨c.forward, closing :: ts, ts.length + 1, 0, indents, false, ks⟩) := by
  have hmark : ∀ mark, mark = '-' ∨ mark = '.' → c.atMark mark = false := by
    rintro mark (rfl | rfl) <;> cases hb <;> simp [atMark, h]
  have hdispatch : readToken.run ⟨c, ts, ts.length, 1, indents, allowed, ks⟩ =
      (readFlowEnd closing).run ⟨c, ts, ts.length, 1, indents, allowed, ks⟩ := by
    cases hb <;>
      simp [readToken, StateT.run_bind, head_of_rest h, hmark '-' (.inl rfl), hmark '.' (.inr rfl)]
  refine run_take (by simp [h]) ?_
  rw [hdispatch, readFlowEnd, StateT.run_bind, run_dropCandidate (fun k hk => by simp [hks k hk])]
  simp only [StateT.run_bind, ok_bind, run_modify, run_setKeyAllowed, run_cursor, run_moveTo, run_emit]

/-- Inside brackets. -/
theorem ready_flow {c : Cursor} (hrest : StartsLine c.rest) (ts : List Token) (indents : List Nat)
    (allowed : Bool) {ks : List Candidate} (hks : ∀ k ∈ ks, isStale c k = false) :
    Ready ⟨c, ts, ts.length, 1, indents, allowed, ks⟩ ⟨c, ts, ts.length, 1, indents, allowed, ks⟩ where
  run := by
    have hkeep : ks.filter (fun k => !isStale c k) = ks :=
      List.filter_eq_self.mpr fun k hk => by rw [hks k hk]; rfl
    simp only [prepare, StateT.run_bind, run_cursor, ok_bind,
      run_skipToToken_blanks (n := 0) (List.nil_append c.rest).symm hrest]
    rw [run_dropStale (fun k hk _ => hks k hk)]
    simp only [skip, hkeep, closeBlocks, StateT.run_bind, run_get, ok_bind]
    rfl
  length_le := Nat.le_refl _

/-! ### Scalars -/

theorem atMark_of_take {c : Cursor} {mark : Char} (h : c.rest.take 3 ≠ [mark, mark, mark]) :
    c.atMark mark = false := by
  simp [atMark, h]

/-- What is no markup is none of the marks, nor one of those that a gap makes a mark. -/
theorem not_mark_of_free {ch : Char} {rest : List Char} (h : opensMarkup ch rest = false) :
    (∀ mark ∈ "#,[]\x7b\x7d&*!|>'\"%@\x60".toList, ch ≠ mark) ∧
      ∀ mark, mark = '?' ∨ mark = ':' ∨ mark = '-' → (decide (ch = mark) && gapNext rest) = false := by
  rw [opensMarkup, Bool.or_eq_false_iff] at h
  obtain ⟨hmarks, hgap⟩ := h
  refine ⟨?_, ?_⟩
  · rintro mark hmark rfl
    rw [List.contains_iff_mem.mpr hmark] at hmarks
    cases hmarks
  · rintro mark hmark
    by_cases hch : ch = mark
    · subst hch
      cases hnext : gapNext rest with
      | false => exact Bool.and_false _
      | true => rcases hmark with rfl | rfl | rfl <;> simp [hnext] at hgap
    · rw [decide_eq_false hch, Bool.false_and]

theorem startsPlain_of_opens {c : Cursor} {ch : Char} {rest : List Char} (h : c.rest = ch :: rest)
    (hopens : OpensPlain ch rest) : startsPlain false c = true := by
  obtain ⟨hmarks, hgap⟩ := not_mark_of_free hopens.free
  have hsolid : isGap ch = false := hopens.solid
  simp only [startsPlain, atEnd_of_rest h, head_of_rest h, h, List.drop_succ_cons, List.drop_zero, hsolid,
    Bool.not_false, Bool.true_and]
  by_cases hmark : ch = '?' ∨ ch = ':' ∨ ch = '-'
  · have hnext : gapNext rest = false := by
      have := hgap ch hmark
      rwa [decide_eq_true rfl, Bool.true_and] at this
    rcases hmark with rfl | rfl | rfl <;> simp [hnext]
  · have hnone : marks.contains ch = false := by
      rw [← Bool.not_eq_true, List.contains_iff_mem]
      intro hmem
      have hsplit : ch ∈ ['?', ':', '-'] ++ "#,[]\x7b\x7d&*!|>'\"%@\x60".toList :=
        List.Subset.trans (by decide) (List.Subset.refl _) hmem
      rcases List.mem_append.mp hsplit with hin | hin
      · exact hmark (by simpa using hin)
      · exact hmarks ch hin rfl
    rw [hnone]
    rfl

theorem run_readToken_plain {p : Progress} {ch : Char} {rest : List Char}
    (h : p.cursor.rest = ch :: rest) (hopens : OpensPlain ch rest) (hlevel : p.level = 0) :
    readToken.run p = readPlain.run p := by
  have hdash : p.cursor.atMark '-' = false := atMark_of_take (h ▸ hopens.mark '-' (.inl rfl))
  have hdot : p.cursor.atMark '.' = false := atMark_of_take (h ▸ hopens.mark '.' (.inr rfl))
  obtain ⟨hmarks, hgap⟩ := not_mark_of_free hopens.free
  have hstarts := startsPlain_of_opens h hopens
  rw [readToken]
  simp only [StateT.run_bind, run_get, ok_bind, head_of_rest h, hdash, hdot, hlevel, h,
    List.drop_succ_cons, List.drop_zero, hmarks '%' (by decide), hmarks '[' (by decide),
    hmarks ']' (by decide), hmarks '\x7b' (by decide), hmarks '\x7d' (by decide),
    hmarks ',' (by decide), hmarks '*' (by decide), hmarks '&' (by decide), hmarks '!' (by decide),
    hmarks '|' (by decide), hmarks '>' (by decide), hmarks '\'' (by decide), hmarks '"' (by decide),
    hgap '-' (by simp), hgap '?' (by simp), hgap ':' (by simp), decide_false, Bool.and_false,
    Bool.false_and, Bool.false_eq_true, if_false, ne_eq, not_true_eq_false, Bool.false_or, hstarts,
    if_true]

theorem take_plain {c after : Cursor} {ch : Char} {rest text : List Char} {broken : Bool}
    (h : c.rest = ch :: rest) (hopens : OpensPlain ch rest) (ts : List Token) (indents : List Nat)
    (allowed : Bool)
    (hread : plainRest false (indentOf indents) (c.rest.length + 1) [] false c = (text, broken, after)) :
    take.run (resting c ts indents allowed) =
      .ok (false, ⟨after, scalar text true :: ts, ts.length + 1, 0, indents, broken,
        begun c ts.length indents allowed⟩) := by
  refine run_take (by simp [resting, h]) ?_
  rw [run_readToken_plain (p := resting c ts indents allowed) h hopens rfl]
  simp only [readPlain, StateT.run_bind, run_addCandidate, ok_bind, run_setKeyAllowed, run_get, indent_eq]
  simp only [resting, ne_eq, not_true_eq_false, decide_false, hread, run_moveTo, ok_bind]
  cases broken with
  | false => simp only [Bool.false_eq_true, if_false, run_emit]
  | true => simp only [if_true, StateT.run_bind, run_setKeyAllowed, ok_bind, run_emit]

theorem run_readToken_quoted {p : Progress} {quote : Char} {rest : List Char}
    (hquote : quote = '\'' ∨ quote = '"') (h : p.cursor.rest = quote :: rest) (hlevel : p.level = 0) :
    readToken.run p = (readQuotedText quote).run p := by
  have hmark : ∀ mark, mark = '-' ∨ mark = '.' → p.cursor.atMark mark = false := by
    rintro mark (rfl | rfl) <;> rcases hquote with rfl | rfl <;> simp [atMark, h]
  rcases hquote with rfl | rfl <;>
    simp [readToken, StateT.run_bind, head_of_rest h, hmark '-' (.inl rfl), hmark '.' (.inr rfl), hlevel]

theorem take_quoted {c after : Cursor} {quote : Char} {rest text : List Char}
    (hquote : quote = '\'' ∨ quote = '"') (h : c.rest = quote :: rest) (ts : List Token)
    (indents : List Nat) (allowed : Bool) (hread : readQuoted quote c = .ok (text, after)) :
    take.run (resting c ts indents allowed) =
      .ok (false, ⟨after, scalar text false :: ts, ts.length + 1, 0, indents, false,
        begun c ts.length indents allowed⟩) := by
  refine run_take (by simp [resting, h]) ?_
  rw [run_readToken_quoted (p := resting c ts indents allowed) hquote h rfl]
  simp only [readQuotedText, readNodePart, StateT.run_bind, run_addCandidate, ok_bind, run_setKeyAllowed,
    run_cursor]
  simp only [resting, hread, ok_bind]
  rfl

/-! ### The end of the text -/

theorem take_end {c : Cursor} (h : c.rest = []) (ts : List Token) (indents : List Nat) :
    ∃ q, take.run (resting c ts indents true) = .ok (true, q) ∧
      q.tokens = streamEnd :: (List.replicate indents.length blockEnd ++ ts) := by
  have hend : c.atEnd = true := by simp [atEnd, h]
  have hclose : indents.takeWhile (fun (n : Nat) => decide ((-1 : Int) < n)) = indents :=
    List.takeWhile_eq_self_iff.mpr fun n _ => by simp; omega
  have hall : (closeBlocks (-1)).run (resting c ts indents true) =
      .ok ((), ⟨c, List.replicate indents.length blockEnd ++ ts, ts.length + indents.length, 0, [], true,
        []⟩) := by
    simp only [closeBlocks, StateT.run_bind, run_get, ok_bind, resting, if_true, run_set, hclose,
      List.map_const', List.drop_length]
  refine ⟨⟨c, streamEnd :: (List.replicate indents.length blockEnd ++ ts),
    ts.length + indents.length + 1, 0, [], false, []⟩, ?_, rfl⟩
  simp only [take, StateT.run_bind, run_cursor, ok_bind]
  rw [show (resting c ts indents true).cursor = c from rfl, hend]
  simp only [if_true, readEnd, closeAll, StateT.run_bind, hall, ok_bind]
  rw [run_dropCandidate (by simp)]
  rfl

end ServiceAtlas.Yaml.Token
