import Mathlib.Data.List.Basic
import ServiceAtlas.Text.Blank
import ServiceAtlas.Text.Case

/-!
Lower case is reached in one step: what a character becomes is left alone from then on. No blank
comes out of a character that is none.
-/

namespace ServiceAtlas.Text

/-! ### The tables -/

/-- A run of a case table takes one code point to another. -/
structure Sends (run : Nat × Nat × Nat × Nat) (n m : Nat) : Prop where
  first : run.1 ≤ n
  last : n ≤ run.2.1
  step : (n - run.1) % run.2.2.1 = 0
  image : m = run.2.2.2 + (n - run.1)

theorem imageIn_sends {runs : List (Nat × Nat × Nat × Nat)} {n m : Nat}
    (h : imageIn runs n = some m) : ∃ run ∈ runs, Sends run n m := by
  obtain ⟨run, hrun, hm⟩ := List.exists_of_findSome?_eq_some h
  obtain ⟨first, last, step, image⟩ := run
  refine ⟨_, hrun, ?_⟩
  dsimp only at hm
  split at hm
  · rename_i hc
    simp only [Bool.and_eq_true, decide_eq_true_eq, beq_iff_eq] at hc
    exact ⟨hc.1.1, hc.1.2, hc.2, (Option.some.inj hm).symm⟩
  · cases hm

/-- What one run gives, the other does not take: it ends before, begins behind, or takes only every
other code point, and just not these. -/
def misses (run other : Nat × Nat × Nat × Nat) : Bool :=
  Nat.blt (run.2.2.2 + (run.2.1 - run.1)) other.1 || Nat.blt other.2.1 run.2.2.2 ||
    (Nat.beq other.2.2.1 2 && (Nat.beq run.2.2.1 2 || Nat.beq run.1 run.2.1) &&
      Nat.beq ((run.2.2.2 + other.1) % 2) 1)

theorem not_sends_of_misses {run other : Nat × Nat × Nat × Nat} {n m k : Nat}
    (h : misses run other = true) (hrun : Sends run n m) : ¬Sends other m k := by
  rintro ⟨hfirst, hlast, hstep, _⟩
  obtain ⟨hn, hn', heven, rfl⟩ := hrun
  simp only [misses, Bool.or_eq_true, Bool.and_eq_true, Nat.blt_eq, Nat.beq_eq] at h
  rcases h with (h | h) | ⟨⟨htwo, h⟩, hodd⟩
  · omega
  · omega
  · rw [htwo] at hstep
    rcases h with h | h
    · rw [h] at heven
      omega
    · omega

/-- Code points that are no image of a run: control characters and punctuation, blanks, the one capital
with a lower case of two characters, halves of characters, and what lies behind the last plane. -/
def barred : List (Nat × Nat × Nat × Nat) :=
  [(0, 0x60, 1, 0), (0x7B, 0xA0, 1, 0), (0x130, 0x130, 1, 0), (0x1680, 0x1680, 1, 0),
   (0x2000, 0x205F, 1, 0), (0x3000, 0x3000, 1, 0), (0xD800, 0xDFFF, 1, 0),
   (0x110000, 0x200000, 1, 0)]

theorem lowerRuns_miss :
    (lowerRuns.all fun run => (lowerRuns ++ barred).all fun other => misses run other) = true := by
  decide +kernel

theorem lowerRuns_small :
    (lowerRuns.all fun run => Nat.blt (run.2.2.2 + (run.2.1 - run.1)) 0x200000) = true := by
  decide +kernel

/-- An image is taken by no run, and is not barred. -/
theorem image_settled {n m : Nat} (h : imageIn lowerRuns n = some m) :
    imageIn lowerRuns m = none ∧ m < 0x200000 ∧
      ∀ other ∈ barred, ¬(other.1 ≤ m ∧ m ≤ other.2.1) := by
  obtain ⟨run, hrun, hsends⟩ := imageIn_sends h
  have hmiss := List.all_eq_true.mp (List.all_eq_true.mp lowerRuns_miss run hrun)
  have hbound := Nat.blt_eq.mp (List.all_eq_true.mp lowerRuns_small run hrun)
  refine ⟨?_, ?_, ?_⟩
  · refine Option.eq_none_iff_forall_ne_some.mpr fun k hk => ?_
    obtain ⟨other, hother, hagain⟩ := imageIn_sends hk
    exact not_sends_of_misses (hmiss other (List.mem_append_left _ hother)) hsends hagain
  · have hlast := hsends.last
    rw [hsends.image]
    omega
  · rintro other hother ⟨hfirst, hlast⟩
    have hstep : other.2.2.1 = 1 := by
      have hone : (barred.all fun run => run.2.2.1 == 1) = true := by decide
      simpa using List.all_eq_true.mp hone other hother
    refine not_sends_of_misses (hmiss other (List.mem_append_right _ hother)) hsends
      ⟨hfirst, hlast, ?_, rfl⟩
    rw [hstep, Nat.mod_one]

/-! ### Characters -/

/-- The character is its own lower case. -/
def IsSmall (c : Char) : Prop := c ≠ 'Σ' ∧ lowerChar c = [c]

/-- What holds of all code points below a bound holds of the characters there. -/
theorem of_below {p : Char → Prop} {bound : Nat} (h : ∀ n < bound, p (Char.ofNat n)) {c : Char}
    (hc : c.toNat < bound) : p c := by
  have hp := h c.toNat hc
  rwa [Char.ofNat_toNat] at hp

theorem toNat_sigma : 'Σ'.toNat = 0x3A3 := rfl

theorem isSmall_of_plain {c : Char} (h : c.toNat < 0x80) (hlow : c.toLower = c) : IsSmall c := by
  refine ⟨?_, by rw [lowerChar, if_pos h, hlow]⟩
  rintro rfl
  exact absurd h (by decide)

/-- Plain characters reach their lower case in one step. -/
theorem toLower_plain {c : Char} (h : c.toNat < 0x80) :
    IsSmall c.toLower ∧ (isBlank c.toLower = true → isBlank c = true) := by
  have hall := of_below (p := fun c => c.toLower.toNat < 0x80 ∧ c.toLower.toLower = c.toLower ∧
    (isBlank c.toLower = true → isBlank c = true)) (by decide) h
  obtain ⟨hlow, hagain, hblank⟩ := hall
  exact ⟨isSmall_of_plain hlow hagain, hblank⟩

/-- Behind the plain characters the tables decide. -/
theorem lowerChar_of_not_plain {c : Char} (h : ¬c.toNat < 0x80) (hs : c.toNat ≠ 0x130) :
    lowerChar c = [((imageIn lowerRuns c.toNat).map Char.ofNat).getD c] := by
  have hlookup : lowerSpecials.lookup c.toNat = none := by simp [lowerSpecials, hs]
  rw [lowerChar, if_neg h, caseOf, hlookup]

/-- The image of a run is a small character, and no blank. -/
theorem image_small {n m : Nat} (h : imageIn lowerRuns n = some m) :
    IsSmall (Char.ofNat m) ∧ isBlank (Char.ofNat m) = false := by
  obtain ⟨hnone, hbound, hbarred⟩ := image_settled h
  simp only [barred, List.forall_mem_cons, List.not_mem_nil, false_implies, implies_true,
    and_true, Nat.zero_le, true_and] at hbarred
  have hvalid : m.isValidChar := by
    unfold Nat.isValidChar
    omega
  have htoNat : (Char.ofNat m).toNat = m := by
    have hof : Char.ofNat m = Char.ofNatAux m hvalid := dif_pos hvalid
    rw [hof]
    rfl
  have hblank : isBlank (Char.ofNat m) = false := by
    simp only [isBlank, htoNat, Bool.or_eq_false_iff, Bool.and_eq_false_iff, decide_eq_false_iff_not,
      beq_eq_false_iff_ne]
    omega
  refine ⟨?_, hblank⟩
  by_cases hplain : (Char.ofNat m).toNat < 0x80
  · have hletter := of_below (p := fun c => 0x61 ≤ c.toNat → c.toNat ≤ 0x7A → c.toLower = c)
      (by decide) hplain
    exact isSmall_of_plain hplain (hletter (by omega) (by omega))
  · refine ⟨?_, ?_⟩
    · intro he
      rw [← htoNat, he, toNat_sigma] at hnone
      have hsome : (imageIn lowerRuns 0x3A3).isSome = true := by decide +kernel
      rw [hnone] at hsome
      cases hsome
    · rw [lowerChar_of_not_plain hplain (by omega), htoNat,
        hnone]
      rfl

/-- What a character becomes in lower case is small, and blank only if the character is. -/
theorem lowerChar_small {c d : Char} (hc : c ≠ 'Σ') (h : d ∈ lowerChar c) :
    IsSmall d ∧ (isBlank d = true → isBlank c = true) := by
  by_cases hplain : c.toNat < 0x80
  · rw [lowerChar, if_pos hplain] at h
    obtain rfl := List.mem_singleton.mp h
    exact toLower_plain hplain
  · by_cases hspecial : c.toNat = 0x130
    · have htwo : lowerChar c = ['i', Char.ofNat 0x307] := by
        rw [lowerChar, if_neg hplain, caseOf, hspecial]
        rfl
      rw [htwo] at h
      have hd : d = 'i' ∨ d = Char.ofNat 0x307 := by simpa using h
      rcases hd with rfl | rfl
      · exact ⟨⟨by decide, by decide⟩, fun hb => absurd hb (by decide)⟩
      · exact ⟨⟨by decide, by decide +kernel⟩, fun hb => absurd hb (by decide)⟩
    · have hlower := lowerChar_of_not_plain hplain hspecial
      rw [hlower] at h
      obtain rfl := List.mem_singleton.mp h
      cases hm : imageIn lowerRuns c.toNat with
      | none =>
        rw [hm] at hlower
        exact ⟨⟨hc, hlower⟩, id⟩
      | some m =>
        obtain ⟨hsmall, hblank⟩ := image_small hm
        exact ⟨hsmall, fun hb => absurd (hblank.symm.trans hb) Bool.false_ne_true⟩

theorem lowerChar_ne_nil (c : Char) : lowerChar c ≠ [] := by
  by_cases hplain : c.toNat < 0x80
  · rw [lowerChar, if_pos hplain]
    exact List.cons_ne_nil _ _
  · by_cases hspecial : c.toNat = 0x130
    · rw [lowerChar, if_neg hplain, caseOf, hspecial]
      exact List.cons_ne_nil _ _
    · rw [lowerChar_of_not_plain hplain hspecial]
      exact List.cons_ne_nil _ _

/-! ### Texts -/

/-- Each character makes way for some small ones, which are blank only if it is. -/
theorem lowerAfter_cons (before : List Char) (c : Char) (rest : List Char) :
    ∃ small, lowerAfter before (c :: rest) = small ++ lowerAfter (c :: before) rest ∧
      small ≠ [] ∧ ∀ d ∈ small, IsSmall d ∧ (isBlank d = true → isBlank c = true) := by
  refine ⟨_, by rw [lowerAfter], ?_, ?_⟩
  · split
    · exact List.cons_ne_nil _ _
    · exact lowerChar_ne_nil c
  · intro d hd
    split at hd
    · -- A capital sigma becomes one of the two small ones.
      have hsigma : d = 'ς' ∨ d = 'σ' := by
        split at hd
        · exact Or.inl (List.mem_singleton.mp hd)
        · exact Or.inr (List.mem_singleton.mp hd)
      rcases hsigma with rfl | rfl
      · exact ⟨⟨by decide, by decide +kernel⟩, fun hb => absurd hb (by decide)⟩
      · exact ⟨⟨by decide, by decide +kernel⟩, fun hb => absurd hb (by decide)⟩
    · rename_i hc
      exact lowerChar_small hc hd

theorem small_of_mem_lowerAfter {cs before : List Char} {d : Char}
    (h : d ∈ lowerAfter before cs) : IsSmall d := by
  induction cs generalizing before with
  | nil => cases h
  | cons c rest ih =>
    obtain ⟨small, he, _, hsmall⟩ := lowerAfter_cons before c rest
    rw [he] at h
    rcases List.mem_append.mp h with h | h
    · exact (hsmall d h).1
    · exact ih h

theorem lowerAfter_of_small {cs before : List Char} (h : ∀ c ∈ cs, IsSmall c) :
    lowerAfter before cs = cs := by
  induction cs generalizing before with
  | nil => rfl
  | cons c rest ih =>
    obtain ⟨hsigma, hlower⟩ := h c List.mem_cons_self
    rw [lowerAfter, if_neg hsigma, hlower, ih fun d hd => h d (List.mem_cons_of_mem _ hd)]
    rfl

/-- Lower case is left alone. -/
theorem lower_lower (s : String) : lower (lower s) = lower s := by
  unfold lower
  rw [String.toList_ofList, lowerAfter_of_small fun _ => small_of_mem_lowerAfter]

example : lower "ΟΔΟΣ İ" = "οδος i̇" := by decide +kernel

end ServiceAtlas.Text
