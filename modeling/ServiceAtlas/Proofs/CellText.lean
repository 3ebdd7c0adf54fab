import ServiceAtlas.Console.Sheet
import ServiceAtlas.Proofs.Results

/-!
What a table on a screen shows of the texts in its cells. They are read as markup: a text without square
brackets is shown but for its emoji codes and control characters, while a tag in front of a text leaves
no trace but its style.
-/

namespace ServiceAtlas

namespace Markup
variable {cs : List Char}

/-! ### Texts without brackets -/

theorem bracket?_of_unbracketed (h : '[' ∉ cs) : bracket? cs = none := by
  unfold bracket?
  dsimp only
  split
  · rename_i rest hdrop
    have hmem : '[' ∈ cs.drop (cs.takeWhile (· = '\\')).length := by
      rw [hdrop]
      exact List.mem_cons_self
    exact absurd (List.mem_of_mem_drop hmem) h
  · rfl

theorem piecesUpTo_of_unbracketed (h : '[' ∉ cs) {fuel : Nat} (hfuel : cs.length ≤ fuel) :
    piecesUpTo fuel cs = cs.map .char := by
  induction cs generalizing fuel with
  | nil => cases fuel <;> rfl
  | cons c cs ih =>
    cases fuel with
    | zero => cases hfuel
    | succ fuel =>
      rw [piecesUpTo, bracket?_of_unbracketed h, List.map_cons,
        ih (fun hm => h (List.mem_cons_of_mem _ hm)) (Nat.le_of_succ_le_succ hfuel)]

theorem tokensBehind_chars (run cs : List Char) :
    tokensBehind run (cs.map .char) = [.text (run.reverse ++ cs)] := by
  induction cs generalizing run with
  | nil => simp [tokensBehind]
  | cons c cs ih => simp [tokensBehind, ih]

theorem unescapeBrackets_of_unbracketed (h : '[' ∉ cs) : unescapeBrackets cs = cs := by
  induction cs with
  | nil => rfl
  | cons c cs ih =>
    have hrest := ih fun hm => h (List.mem_cons_of_mem _ hm)
    unfold unescapeBrackets
    split
    · rename_i rest heq
      obtain ⟨rfl, rfl⟩ := List.cons.inj heq
      exact absurd (List.mem_cons_of_mem _ List.mem_cons_self) h
    · rename_i heq
      obtain ⟨rfl, rfl⟩ := List.cons.inj heq
      rw [hrest]
    · rename_i heq
      cases heq

theorem tokens_of_unbracketed (h : '[' ∉ cs) : tokens cs = [.text cs] := by
  rw [tokens, pieces, piecesUpTo_of_unbracketed h (Nat.le_refl _), tokensBehind_chars]
  rfl

/-- Nothing in a text without brackets is a tag. -/
theorem read_of_unbracketed (h : '[' ∉ cs) : read cs = .ok (.unmarked (Emoji.replace cs)) := by
  have hstep : (tokens cs).foldlM Reading.step .start =
      .ok ⟨Marked.sanitized (Emoji.replace cs), [], []⟩ := by
    rw [tokens_of_unbracketed h, List.foldlM_cons, Reading.step, unescapeBrackets_of_unbracketed h]
    rfl
  rw [read, hstep]
  exact congrArg Except.ok (congrArg _ (List.mergeSort_nil ..))

/-! ### Texts behind a tag -/

/-- What can stand between the brackets of a tag that begins a style. -/
structure Opens (inside : List Char) : Prop where
  starts : ∃ c ∈ inside.head?, startsTag c = true ∧ c ≠ '/'
  unbracketed : ∀ c ∈ inside, c ≠ '[' ∧ c ≠ ']'

theorem Opens.bracket? {inside : List Char} (h : Opens inside) (cs : List Char) :
    bracket? (bracketed inside ++ cs) = some ⟨0, inside, cs⟩ := by
  obtain ⟨⟨c, hhead, hstarts, _⟩, hunbracketed⟩ := h
  cases inside with
  | nil => cases hhead
  | cons first more =>
    obtain rfl : first = c := Option.some.inj hhead
    have hinner : (more ++ ']' :: cs).takeWhile (fun c => c ≠ '[' && c ≠ ']') = more := by
      rw [List.takeWhile_append_of_pos]
      · simp
      · intro d hd
        simpa using hunbracketed d (List.mem_cons_of_mem _ hd)
    have htag : tag? (first :: (more ++ ']' :: cs)) = some (first :: more, cs) := by
      rw [tag?, hinner, List.drop_left]
      exact if_pos hstarts
    simp [Markup.bracket?, bracketed, htag]

theorem tokens_behind_tag {inside : List Char} (h : Opens inside) (hcs : '[' ∉ cs) :
    tokens (bracketed inside ++ cs) = [.text [], .text [], .tag (tagOf inside), .text cs] := by
  have hfuel : cs.length ≤ (inside ++ ']' :: cs).length := by
    simp only [List.length_append, List.length_cons]
    omega
  have hpieces : pieces (bracketed inside ++ cs) = .bracket 0 inside :: cs.map .char := by
    have hbracket := h.bracket? cs
    simp only [bracketed, List.cons_append, List.append_assoc, List.nil_append] at hbracket
    simp only [pieces, bracketed, List.cons_append, List.append_assoc, List.nil_append,
      List.length_cons, piecesUpTo, hbracket]
    rw [piecesUpTo_of_unbracketed hcs hfuel]
  rw [tokens, hpieces, tokensBehind, tokensBehind_chars]
  rfl

theorem Opens.not_closing {inside : List Char} (h : Opens inside) :
    (tagOf inside).name.toList.head? ≠ some '/' := by
  obtain ⟨c, hhead, _, hc⟩ := h.starts
  have hname : (tagOf inside).name = String.ofList (inside.takeWhile (· ≠ '=')) := by
    unfold tagOf
    dsimp only
    split <;> rfl
  rw [hname, String.toList_ofList]
  intro hslash
  cases inside with
  | nil => cases hhead
  | cons first more =>
    obtain rfl : first = c := Option.some.inj hhead
    rw [List.takeWhile_cons] at hslash
    split at hslash
    · exact hc (Option.some.inj hslash)
    · cases hslash

theorem step_tag (r : Reading) {t : Tag} (h : t.name.toList.head? ≠ some '/') :
    r.step (.tag t) = (Reading.canonical t.name).map fun name =>
      { r with opened := ⟨r.chars.length, { t with name }⟩ :: r.opened } := by
  rw [Reading.step]
  split
  · rename_i name hname
    rw [hname] at h
    exact absurd rfl h
  · cases Reading.canonical t.name <;> rfl

theorem chars_finish (r : Reading) : r.finish.chars = r.chars := by
  have hfold : ∀ (opened : List Opened) (r : Reading),
      (opened.foldl (fun r o => r.closeAt o []) r).chars = r.chars := by
    intro opened
    induction opened with
    | nil => intro r; rfl
    | cons o opened ih => intro r; exact ih (r.closeAt o [])
  exact hfold r.opened r

/-- A tag in front of a text is not shown, whatever it is; only what stands behind it is. A tag that
means no style leaves no trace at all, and one that asks for a colour without its number stops the whole
table. -/
theorem read_behind_tag {inside : List Char} (h : Opens inside) (hcs : '[' ∉ cs) :
    (read (bracketed inside ++ cs)).map Marked.chars =
      (Reading.canonical (tagOf inside).name).map fun _ => Marked.sanitized (Emoji.replace cs) := by
  rw [read, tokens_behind_tag h hcs]
  have hempty : Reading.step .start (.text []) = .ok .start := rfl
  simp only [List.foldlM_cons, List.foldlM_nil, hempty, ok_bind, step_tag _ h.not_closing]
  cases Reading.canonical (tagOf inside).name with
  | error f => rfl
  | ok name =>
    rw [Except.map, ok_bind, Reading.step, unescapeBrackets_of_unbracketed hcs]
    exact congrArg Except.ok (chars_finish _)

end Markup

/-- A cell of a sheet shows its text but for the emoji codes and control characters in it, as long as no
square bracket is. -/
theorem Sheet.cell_shown {s : String} (h : '[' ∉ s.toList) :
    ∃ cell, Sheet.cellOf (.text s) = .ok cell ∧
      cell.read = .ok (.unmarked (Emoji.replace s.toList)) := by
  refine ⟨_, rfl, ?_⟩
  rw [Grid.Cell.read, Markup.read_of_unbracketed h]

/-- A tag in square brackets is no text to a table. -/
example : (Grid.Cell.read (.markup "[beta] F".toList)).toOption.map Marked.chars = some " F".toList := by
  decide +kernel

end ServiceAtlas
