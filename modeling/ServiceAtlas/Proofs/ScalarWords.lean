import ServiceAtlas.Proofs.Numerals
import ServiceAtlas.Proofs.Patterns
import ServiceAtlas.Proofs.PlainText
import ServiceAtlas.Yaml.Number

/-!
Null, truth values and whole numbers as they stand in a YAML document: one word of plain text each, which
is known for what it is and read as the value that it was written for.
-/

namespace ServiceAtlas

/-! ### Whole numbers -/

namespace Text

/-- The digits of a numeral, with a sign or without it. -/
theorem intChars_cases (n : Int) :
    n < 0 ∧ intChars n = '-' :: natChars n.natAbs ∨ 0 ≤ n ∧ intChars n = natChars n.natAbs := by
  unfold intChars
  split_ifs with h
  · exact .inl ⟨h, rfl⟩
  · exact .inr ⟨by omega, rfl⟩

theorem mem_intChars {n : Int} {c : Char} (h : c ∈ intChars n) : c = '-' ∨ c.isDigit = true := by
  rcases intChars_cases n with ⟨_, hn⟩ | ⟨_, hn⟩
  · rw [hn, List.mem_cons] at h
    exact h.imp id isDigit_of_mem_natChars
  · rw [hn] at h
    exact .inr (isDigit_of_mem_natChars h)

theorem notMem_intChars {n : Int} {c : Char} (hsign : c ≠ '-') (hdigit : c.isDigit = false) :
    c ∉ intChars n := by
  intro h
  rcases mem_intChars h with rfl | hc
  · exact hsign rfl
  · rw [hdigit] at hc
    cases hc

theorem isDigit_bounds {c : Char} (h : c.isDigit = true) : 0x30 ≤ c.toNat ∧ c.toNat ≤ 0x39 := by
  simp only [Char.isDigit, Bool.and_eq_true, decide_eq_true_eq] at h
  exact ⟨UInt32.le_iff_toNat_le.mp h.1, UInt32.le_iff_toNat_le.mp h.2⟩

/-- What holds of the ten digits holds of every digit. -/
theorem forall_isDigit {p : Char → Prop} (h : ∀ d < 10, p (digitChar d)) {c : Char}
    (hc : c.isDigit = true) : p c := by
  obtain ⟨hlow, hhigh⟩ := isDigit_bounds hc
  have hchar : digitChar (c.toNat - 0x30) = c := by
    rw [digitChar, show 0x30 + (c.toNat - 0x30) = c.toNat by omega, Char.ofNat_toNat]
  exact hchar ▸ h (c.toNat - 0x30) (by omega)

theorem digitIn?_of_isDigit {c : Char} (h : c.isDigit = true) :
    digitIn? 10 c = some (c.toNat - 0x30) :=
  forall_isDigit (p := fun c => digitIn? 10 c = some (c.toNat - 0x30)) (by decide +kernel) h

theorem not_isPadding_of_isDigit {c : Char} (h : c.isDigit = true) : isPadding c = false :=
  forall_isDigit (p := fun c => isPadding c = false) (by decide +kernel) h

theorem groupedDigits?_of_isDigit {cs : List Char} (hne : cs ≠ [])
    (h : ∀ c ∈ cs, c.isDigit = true) :
    groupedDigits? 10 cs = some (cs.map fun c => c.toNat - 0x30) := by
  induction cs with
  | nil => exact absurd rfl hne
  | cons c cs ih =>
    rw [List.forall_mem_cons] at h
    cases cs with
    | nil => simp [groupedDigits?, digitIn?_of_isDigit h.1]
    | cons d cs =>
      have hline : d ≠ '_' := by
        rintro rfl
        cases h.2 _ List.mem_cons_self
      rw [groupedDigits?]
      · simp [digitIn?_of_isDigit h.1, ih (List.cons_ne_nil _ _) h.2]
      · simp
      · simp [hline]

theorem unpadded_of_isDigit {cs : List Char} (h : ∀ c ∈ cs, c.isDigit = true) : unpadded cs = cs := by
  have hdrop : ∀ ds : List Char, (∀ c ∈ ds, c.isDigit = true) → ds.dropWhile isPadding = ds := by
    intro ds hds
    cases ds with
    | nil => rfl
    | cons c ds =>
      exact List.dropWhile_cons_of_neg (by simp [not_isPadding_of_isDigit (hds c List.mem_cons_self)])
  rw [unpadded, hdrop cs h, hdrop cs.reverse (by simpa using h), List.reverse_reverse]

theorem unsigned_of_isDigit {cs : List Char} (h : ∀ c ∈ cs, c.isDigit = true) :
    unsigned cs = (false, cs) := by
  unfold unsigned
  split
  · cases h '-' List.mem_cons_self
  · cases h '+' List.mem_cons_self
  · rfl

/-- A numeral is read as its number, unless it has too many digits. -/
theorem integer?_natChars (n : Nat) :
    integer? 10 (natChars n) =
      if (natChars n).length ≤ digitLimit then some (n : Int) else none := by
  have hdigits : ∀ c ∈ natChars n, c.isDigit = true := fun c hc => isDigit_of_mem_natChars hc
  have hmark : withoutMark 10 (natChars n) = natChars n := by
    unfold withoutMark
    split
    · rfl
    · rfl
  rw [integer?, unpadded_of_isDigit hdigits, unsigned_of_isDigit hdigits]
  simp only [hmark, groupedDigits?_of_isDigit (natChars_ne_nil n) hdigits, valueOf_natChars,
    bind, Option.bind, List.length_map]
  by_cases hlength : (natChars n).length ≤ digitLimit
  · simp [hlength]
  · simp [hlength]

end Text

namespace Yaml
open Text

theorem magnitudeOf_natChars (n : Nat) :
    Number.magnitudeOf (natChars n) =
      if (natChars n).length ≤ digitLimit then .ok (n : Int) else .error .unreadableNumber := by
  rcases natChars_head n with ⟨hzero, rfl⟩ | ⟨c, rest, hcs, hc⟩
  · rw [hzero]
    rfl
  · have hcolon : ∀ d ∈ natChars n, decide (d = ':') = false := by
      intro d hd
      have hdigit := isDigit_of_mem_natChars hd
      rw [decide_eq_false_iff_not]
      rintro rfl
      cases hdigit
    have hunfold : Number.magnitudeOf (natChars n) =
        (do return Number.sixties (← (pieces (· = ':') (natChars n)).mapM (Number.integer 10))) := by
      rw [hcs]
      unfold Number.magnitudeOf
      split
      · next h => cases h
      · next h => exact absurd (List.cons.inj h).1 hc
      · next h => exact absurd (List.cons.inj h).1 hc
      · next h => exact absurd (List.cons.inj h).1 hc
      · rfl
    rw [hunfold, pieces_of_none hcolon, List.mapM_cons, List.mapM_nil, Number.integer,
      integer?_natChars]
    split_ifs with hlength
    · simp [Number.require, bind, Except.bind, pure, Except.pure, Number.sixties]
    · rfl

/-- A whole number comes back, unless it has too many digits. -/
theorem intOf_intChars (n : Int) :
    Number.intOf (intChars n) =
      if (natChars n.natAbs).length ≤ digitLimit then .ok n else .error .unreadableNumber := by
  have hline : without '_' (intChars n) = intChars n := by
    refine List.filter_eq_self.mpr fun c hc => ?_
    rw [decide_eq_true_eq]
    rintro rfl
    exact notMem_intChars (by decide) rfl hc
  rw [Number.intOf, hline]
  rcases intChars_cases n with ⟨hn, hcs⟩ | ⟨hn, hcs⟩
  · have hvalue : -(n.natAbs : Int) = n := by omega
    rw [hcs, unsigned]
    dsimp only
    rw [magnitudeOf_natChars]
    by_cases hlength : (natChars n.natAbs).length ≤ digitLimit
    · rw [if_pos hlength, if_pos hlength]
      exact congrArg Except.ok hvalue
    · rw [if_neg hlength, if_neg hlength]
      rfl
  · have hvalue : (n.natAbs : Int) = n := by omega
    rw [hcs, unsigned_of_isDigit fun c hc => isDigit_of_mem_natChars hc]
    dsimp only
    rw [magnitudeOf_natChars]
    by_cases hlength : (natChars n.natAbs).length ≤ digitLimit
    · rw [if_pos hlength, if_pos hlength]
      exact congrArg Except.ok hvalue
    · rw [if_neg hlength, if_neg hlength]
      rfl

namespace ScalarKind
open Text.Pattern

/-- A float has a point. -/
theorem holds_floatPattern : Holds '.' floatPattern :=
  .either (((((holds_char '.').left _).right _).right _).right _)
    (.either ((holds_char '.').left _)
      (.either ((((((holds_char '.').left _).right _).right _).right _).right _)
        (.either (((holds_char '.').left _).right _)
          (.either ((holds_char '.').left _) (holds_never '.')))))

theorem mem_digits {n : Nat} :
    natChars n ∈ (either (char '0') (both firstDigit (many digitOrLine))).language := by
  have hdigits : ∀ c ∈ natChars n, c.isDigit = true := fun c hc => isDigit_of_mem_natChars hc
  rcases natChars_head n with ⟨hzero, _⟩ | ⟨c, rest, hcs, hc⟩
  · rw [hzero]
    exact .inl ⟨'0', rfl, rfl⟩
  · rw [hcs, List.forall_mem_cons] at hdigits
    rw [hcs, ← List.singleton_append]
    refine .inr (append_mem_both ⟨c, by simp [hdigits.1, hc], rfl⟩ (mem_many_one fun d hd => ?_))
    simp [hdigits.2 d hd]

theorem mem_intPattern (n : Int) : intChars n ∈ intPattern.language := by
  refine .inr (.inr (.inl ?_))
  rcases intChars_cases n with ⟨_, hcs⟩ | ⟨_, hcs⟩
  · rw [hcs, ← List.singleton_append]
    exact append_mem_both (show ['-'] ∈ sign.language from .inl ⟨'-', rfl, rfl⟩) mem_digits
  · rw [hcs, ← List.nil_append (natChars n.natAbs)]
    exact append_mem_both (nil_mem_maybe _) mem_digits

theorem ofNumberLike_intChars (n : Int) : ofNumberLike (intChars n) = int := by
  have hfloat : floatPattern.covers (intChars n) = false := by
    rw [← Bool.not_eq_true, covers_iff]
    exact fun h => notMem_intChars (by decide) rfl (holds_floatPattern _ h)
  have hint : intPattern.covers (intChars n) = true := covers_iff.mpr (mem_intPattern n)
  simp [ofNumberLike, hfloat, hint]

theorem ofPlain_intChars (n : Int) : ofPlain (intChars n) = int := by
  have hend : withoutLineEnd (intChars n) = intChars n := by
    rw [withoutLineEnd, if_neg]
    intro h
    exact notMem_intChars (by decide) rfl (List.mem_of_getLast? h)
  have hstart : ∀ c ∈ (intChars n).head?, startsNumber c = true := by
    intro c hc
    rcases mem_intChars (List.mem_of_mem_head? hc) with rfl | hdigit
    · rfl
    · simp [startsNumber, hdigit]
  cases hcs : intChars n with
  | nil =>
    rcases intChars_cases n with ⟨_, h⟩ | ⟨_, h⟩
    · rw [h] at hcs
      cases hcs
    · exact absurd (h.symm.trans hcs) (natChars_ne_nil _)
  | cons c rest =>
    rw [hcs] at hend hstart
    simp only [ofPlain, hend, hstart c rfl, if_true]
    rw [← hcs, ofNumberLike_intChars]

end ScalarKind

/-! ### Words of plain text -/

theorem ordinary_of_isDigit {c : Char} (h : c.isDigit = true) : isOrdinary c = true ∧ Solid c :=
  forall_isDigit (p := fun c => isOrdinary c = true ∧ Solid c)
    (by unfold Solid; decide +kernel) h

theorem mem_marks_of_isDigit {c : Char} (h : c.isDigit = true) (rest : List Char) :
    opensMarkup c rest = false ∧ c ≠ ':' ∧ c ≠ '#' ∧ c ≠ '-' ∧ c ≠ '.' := by
  have hmarks : c ∉ "#,[]\x7b\x7d&*!|>'\"%@\x60".toList ∧ c ≠ ':' ∧ c ≠ '#' ∧ c ≠ '-' ∧ c ≠ '.' ∧
      c ≠ '?' :=
    forall_isDigit (p := fun c => c ∉ "#,[]\x7b\x7d&*!|>'\"%@\x60".toList ∧ c ≠ ':' ∧ c ≠ '#' ∧
      c ≠ '-' ∧ c ≠ '.' ∧ c ≠ '?') (by decide +kernel) h
  obtain ⟨hin, hcolon, hhash, hdash, hdot, hquestion⟩ := hmarks
  refine ⟨?_, hcolon, hhash, hdash, hdot⟩
  simp only [opensMarkup, hcolon, hdash, hquestion, decide_false, Bool.or_self, Bool.false_and,
    Bool.or_false]
  simpa using hin

theorem holdsMarkup_eq_false {cs : List Char} (hcolon : ':' ∉ cs) (hhash : '#' ∉ cs)
    (behindGap : Bool) : holdsMarkup behindGap cs = false := by
  induction cs generalizing behindGap with
  | nil => rfl
  | cons c cs ih =>
    rw [List.mem_cons, not_or] at hcolon hhash
    simp [holdsMarkup, Ne.symm hcolon.1, Ne.symm hhash.1, ih hcolon.2 hhash.2]

theorem digits_of_natChars (n : Nat) :
    ∃ c rest, natChars n = c :: rest ∧ c.isDigit = true ∧ ':' ∉ rest ∧ '#' ∉ rest := by
  obtain ⟨c, rest, hcs⟩ := List.exists_cons_of_ne_nil (natChars_ne_nil n)
  have hdigits : ∀ d ∈ c :: rest, d.isDigit = true := fun d hd => isDigit_of_mem_natChars (hcs ▸ hd)
  rw [List.forall_mem_cons] at hdigits
  refine ⟨c, rest, hcs, hdigits.1, fun h => ?_, fun h => ?_⟩ <;> cases hdigits.2 _ h

theorem isMarkup_intChars (n : Int) : isMarkup (intChars n) = false := by
  obtain ⟨c, rest, hcs, hdigit, hcolon, hhash⟩ := digits_of_natChars n.natAbs
  obtain ⟨hopens, hc, hd, hdash, hdot⟩ := mem_marks_of_isDigit hdigit rest
  rcases intChars_cases n with ⟨_, hn⟩ | ⟨_, hn⟩
  · have hgap : gapNext (c :: rest) = false := (ordinary_of_isDigit hdigit).2
    have hholds : holdsMarkup (isGap '-') (c :: rest) = false :=
      holdsMarkup_eq_false (by simp [Ne.symm hc, hcolon]) (by simp [Ne.symm hd, hhash]) _
    rw [hn, hcs]
    simp [isMarkup, opensMarkup, hgap, hholds, hdash]
  · rw [hn, hcs]
    simp [isMarkup, hopens, holdsMarkup_eq_false hcolon hhash, hdash, hdot]

theorem plainWord_intChars (n : Int) : Token.PlainWord (intChars n) where
  ne_nil h := by
    have := ScalarKind.ofPlain_intChars n
    rw [h] at this
    cases this
  ordinary c hc := by
    rcases mem_intChars hc with rfl | hdigit
    · rfl
    · exact (ordinary_of_isDigit hdigit).1
  solid c hc := by
    rcases mem_intChars hc with rfl | hdigit
    · rfl
    · exact (ordinary_of_isDigit hdigit).2
  last h := notMem_intChars (by decide) rfl (List.mem_of_getLast? h)
  first h := notMem_intChars (by decide) rfl (List.mem_of_mem_head? h)

/-- What stands for a value that is neither text nor a collection nor a float. -/
def wordOf : Value → Option (List Char)
  | .null => some "null".toList
  | .bool b => some (if b then "true".toList else "false".toList)
  | .int n => some (intChars n)
  | _ => none

theorem plainWord_of_all {w : List Char} (hne : w ≠ [])
    (hall : w.all (fun ch => isOrdinary ch && !isGap ch) = true) (hlast : w.getLast? ≠ some ':')
    (hfirst : w.head? ≠ some '#') : Token.PlainWord w := by
  have hch : ∀ ch ∈ w, isOrdinary ch = true ∧ Solid ch := by
    intro ch hmem
    have := List.all_eq_true.mp hall ch hmem
    rwa [Bool.and_eq_true, Bool.not_eq_true'] at this
  exact ⟨hne, fun ch h => (hch ch h).1, fun ch h => (hch ch h).2, hlast, hfirst⟩

theorem unmarked_wordOf {v : Value} {w : List Char} (h : wordOf v = some w) (indent : Nat) :
    Token.Unmarked indent w w := by
  cases v with
  | null =>
    cases h
    exact .word (plainWord_of_all (by decide) (by decide) (by decide) (by decide)) (by decide)
  | bool b =>
    cases h
    cases b
    · exact .word (plainWord_of_all (by decide) (by decide) (by decide) (by decide)) (by decide)
    · exact .word (plainWord_of_all (by decide) (by decide) (by decide) (by decide)) (by decide)
  | int n =>
    cases h
    exact .word (plainWord_intChars n) (isMarkup_intChars n)
  | float x => cases h
  | text s => cases h
  | list items => cases h
  | object fields => cases h

end Yaml
end ServiceAtlas
