import Mathlib.Tactic.ByContra
import Mathlib.Tactic.Tauto
import ServiceAtlas.Yaml.Token

/-!
How a cursor moves through a text. What is left behind `n` characters does not depend on how they were
passed; line and column change in a plain way as long as none of them ends a line.
-/

namespace ServiceAtlas.Yaml

/-! ### Characters -/

/-- A character that moves a cursor one column on, and nothing else. -/
def Steady (ch : Char) : Prop := Cursor.isLineEnd ch = false ∧ ch ≠ '\uFEFF'

/-- No gap begins with this character. -/
def Solid (ch : Char) : Prop := isGap ch = false

theorem isLineEnd_of_isBreak {ch : Char} (h : isBreak ch = true) : Cursor.isLineEnd ch = true := by
  simp [Cursor.isLineEnd, h]

theorem isBreak_iff {ch : Char} :
    isBreak ch = true ↔ ch = '\n' ∨ ch = '\u0085' ∨ ch = '\u2028' ∨ ch = '\u2029' := by
  simp [isBreak, or_assoc]

theorem isGap_iff {ch : Char} :
    isGap ch = true ↔
      ch = '\x00' ∨ ch = ' ' ∨ ch = '\t' ∨ Cursor.isLineEnd ch = true := by
  simp only [isGap, Cursor.isLineEnd, Bool.or_eq_true, decide_eq_true_eq]
  tauto

theorem Solid.not_lineEnd {ch : Char} (h : Solid ch) : Cursor.isLineEnd ch = false := by
  by_contra hend
  have hgap : isGap ch = true := isGap_iff.mpr (.inr (.inr (.inr (by simpa using hend))))
  rw [h] at hgap
  cases hgap

theorem Solid.ne_space {ch : Char} (h : Solid ch) : ch ≠ ' ' := by
  rintro rfl
  cases h

theorem Solid.ne_tab {ch : Char} (h : Solid ch) : ch ≠ '\t' := by
  rintro rfl
  cases h

theorem steady_space : Steady ' ' := ⟨rfl, by decide⟩

theorem mem_spaces {n : Nat} {ch : Char} (h : ch ∈ spaces n) : ch = ' ' := List.eq_of_mem_replicate h

theorem spaces_succ (n : Nat) : spaces (n + 1) = ' ' :: spaces n := rfl

theorem length_spaces (n : Nat) : (spaces n).length = n := List.length_replicate

namespace Cursor
variable {c : Cursor} {cs tail : List Char} {ch : Char}

/-! ### Passing characters -/

theorem rest_forward (c : Cursor) : c.forward.rest = c.rest.tail := by
  unfold forward
  split
  · simp_all
  · split <;> simp_all

theorem forward_of_rest (h : c.rest = ch :: tail) : c.forward.rest = tail := by
  rw [rest_forward, h]
  rfl

theorem skip_succ (n : Nat) (c : Cursor) : c.skip (n + 1) = c.forward.skip n := rfl

theorem skip_one (c : Cursor) : c.skip 1 = c.forward := rfl

theorem skip_add (m n : Nat) (c : Cursor) : c.skip (m + n) = (c.skip m).skip n := by
  induction m generalizing c with
  | zero => rw [Nat.zero_add]; rfl
  | succ m ih => rw [Nat.succ_add, skip_succ, skip_succ, ih]

theorem rest_skip (n : Nat) (c : Cursor) : (c.skip n).rest = c.rest.drop n := by
  induction n generalizing c with
  | zero => rfl
  | succ n ih => rw [skip_succ, ih, rest_forward, List.drop_tail]

theorem rest_skip_length (h : c.rest = cs ++ tail) : (c.skip cs.length).rest = tail := by
  rw [rest_skip, h, List.drop_left]

theorem index_forward (h : c.rest = ch :: tail) : c.forward.index = c.index + 1 := by
  simp only [forward, h]
  split <;> rfl

theorem line_le_forward (c : Cursor) : c.line ≤ c.forward.line := by
  unfold forward
  split
  · exact Nat.le_refl _
  · split
    · exact Nat.le_succ _
    · exact Nat.le_refl _

theorem index_skip {n : Nat} (h : n ≤ c.rest.length) : (c.skip n).index = c.index + n := by
  induction n generalizing c with
  | zero => rfl
  | succ n ih =>
    cases hrest : c.rest with
    | nil => simp [hrest] at h
    | cons ch tail =>
      have htail : c.forward.rest = tail := forward_of_rest hrest
      rw [skip_succ, ih (by rw [htail]; simpa [hrest] using h), index_forward hrest]
      omega

theorem line_le_skip (n : Nat) (c : Cursor) : c.line ≤ (c.skip n).line := by
  induction n generalizing c with
  | zero => exact Nat.le_refl _
  | succ n ih => exact Nat.le_trans (line_le_forward c) (ih c.forward)

theorem forward_steady (h : c.rest = ch :: tail) (hch : Steady ch) :
    c.forward = ⟨tail, c.index + 1, c.line, c.column + 1⟩ := by
  obtain ⟨hend, hmark⟩ := hch
  have hbreak : isBreak ch = false := by
    cases hb : isBreak ch with
    | false => rfl
    | true => rw [isLineEnd_of_isBreak hb] at hend; cases hend
  have hreturn : ch ≠ '\r' := by
    rintro rfl
    cases hend
  simp [forward, h, hbreak, hreturn, hmark]

theorem skip_steady (h : c.rest = cs ++ tail) (hcs : ∀ ch ∈ cs, Steady ch) :
    c.skip cs.length = ⟨tail, c.index + cs.length, c.line, c.column + cs.length⟩ := by
  induction cs generalizing c with
  | nil =>
    rw [List.nil_append] at h
    subst h
    rfl
  | cons ch cs ih =>
    have hforward := forward_steady h (hcs ch List.mem_cons_self)
    have hskip := ih (c := c.forward) (by rw [hforward]; rfl) fun d hd => hcs d (List.mem_cons_of_mem _ hd)
    rw [List.length_cons, skip_succ, hskip, hforward]
    simp only [mk.injEq, true_and]
    omega

theorem skip_spaces {n : Nat} (h : c.rest = spaces n ++ tail) :
    c.skip n = ⟨tail, c.index + n, c.line, c.column + n⟩ := by
  have := skip_steady h fun ch hch => mem_spaces hch ▸ steady_space
  rwa [length_spaces] at this

theorem forward_newline (h : c.rest = '\n' :: tail) :
    c.forward = ⟨tail, c.index + 1, c.line + 1, 0⟩ := by
  simp [forward, h, isBreak]

/-! ### Looking ahead -/

theorem head_of_rest (h : c.rest = ch :: tail) : c.head = ch := by
  simp [head, h]

theorem head_of_nil (h : c.rest = []) : c.head = '\x00' := by
  simp [head, h]

theorem atEnd_of_rest (h : c.rest = ch :: tail) : c.atEnd = false := by
  simp [atEnd, h]

theorem run_eq {p : Char → Bool} (h : c.rest = cs ++ tail) (hcs : ∀ ch ∈ cs, p ch = true)
    (htail : ∀ ch ∈ tail.head?, p ch = false) : c.run p = cs := by
  have hnil : tail.takeWhile p = [] := by
    cases tail with
    | nil => rfl
    | cons ch tail => exact List.takeWhile_cons_of_neg (by simp [htail ch rfl])
  rw [run, h, List.takeWhile_append_of_pos hcs, hnil, List.append_nil]

theorem run_eq_nil {p : Char → Bool} (h : ∀ ch ∈ c.rest.head?, p ch = false) : c.run p = [] :=
  run_eq (List.nil_append _).symm (by simp) h

theorem skipWhile_of_head {p : Char → Bool} (h : ∀ ch ∈ c.rest.head?, p ch = false) :
    c.skipWhile p = c := by
  rw [skipWhile, run_eq_nil h]
  rfl

/-- The line break that a character is read as. -/
def lineBreakOf (ch : Char) : Char := if ch = '\u0085' then '\n' else ch

theorem lineBreak_eq (h : c.rest = ch :: tail) (hch : isBreak ch = true) :
    c.lineBreak = ([lineBreakOf ch], c.forward) := by
  rcases isBreak_iff.mp hch with rfl | rfl | rfl | rfl <;> simp [lineBreak, h, lineBreakOf]

theorem lineBreak_of_head (h : ∀ ch ∈ c.rest.head?, isLineEnd ch = false) : c.lineBreak = ([], c) := by
  cases hrest : c.rest with
  | nil => simp [lineBreak, hrest]
  | cons ch tail =>
    have hch : isLineEnd ch = false := h ch (by simp [hrest])
    simp only [isLineEnd, Bool.or_eq_false_iff, decide_eq_false_iff_not] at hch
    have hbreak : ¬(ch = '\n' ∨ ch = '\u0085' ∨ ch = '\u2028' ∨ ch = '\u2029') := fun hb => by
      rw [isBreak_iff.mpr hb] at hch
      cases hch.2
    simp only [not_or] at hbreak
    unfold lineBreak
    split
    all_goals
      rename_i hmatch
      first | rfl | (rw [hrest] at hmatch; cases hmatch; simp at hch hbreak)

theorem atLineEnd_head (h : c.rest = ch :: tail) :
    (!c.atEnd && isLineEnd c.head) = isLineEnd ch := by
  simp [atEnd_of_rest h, head_of_rest h]

/-- No separator stands where a blank or a line break stands. -/
theorem atSeparator_eq_false (h : c.rest = ch :: tail) (hdash : ch ≠ '-') (hdot : ch ≠ '.') :
    c.atSeparator = false := by
  have hmark : ∀ mark, ch ≠ mark → c.atMark mark = false := by
    intro mark hne
    cases htake : (c.rest.take 3 == [mark, mark, mark]) with
    | false => simp [atMark, htake]
    | true =>
      rw [h] at htake
      have := eq_of_beq htake
      simp only [List.take_succ_cons, List.cons.injEq] at this
      exact absurd this.1 hne
  rw [atSeparator, hmark '-' hdash, hmark '.' hdot]
  rfl

end Cursor
end ServiceAtlas.Yaml
