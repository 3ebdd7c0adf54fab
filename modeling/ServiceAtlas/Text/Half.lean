/-!
Halves of surrogate pairs that stand alone. An escape can name one, but no character has its number.
Text keeps such a half as one of 2048 characters of a plane without any assigned one, so that it
survives until it is shown or written. There such a character always counts as the half: a text that
holds one of them by itself is not told from a text that holds the half. Points make the difference.
-/

namespace ServiceAtlas.Text

def isHighHalf (n : Nat) : Bool := 0xD800 ≤ n && n < 0xDC00

def isLowHalf (n : Nat) : Bool := 0xDC00 ≤ n && n < 0xE000

def isHalf (n : Nat) : Bool := isHighHalf n || isLowHalf n

/-- How far behind its number a half is kept. -/
def halfOffset : Nat := 0x70000

/-- The character with a number, or the one that a half is kept as. -/
def charOfUnit (n : Nat) : Char := if isHalf n then Char.ofNat (halfOffset + n) else Char.ofNat n

/-- The half that a character is kept for. -/
def half? (c : Char) : Option Nat :=
  let n := c.toNat - halfOffset
  if halfOffset ≤ c.toNat && isHalf n then some n else none

def holdsHalf (cs : List Char) : Bool := cs.any fun c => (half? c).isSome

/-- The number of a character, or of a half that stands alone. -/
abbrev Point := Fin 0x110000

/-- The number of a character. -/
def pointOf (c : Char) : Point := Fin.ofNat _ c.toNat

/-- What a character of a text stands for: its own number, or that of the half that it is kept for. -/
def keptPoint (c : Char) : Point := ((half? c).map (Fin.ofNat _)).getD (pointOf c)

/-- What the characters of a text stand for. -/
def points (s : String) : List Point := s.toList.map keptPoint

/-- The character with a number; a half has none. -/
def charOf? (p : Point) : Option Char := if isHalf p then none else some (Char.ofNat p)

/-- The character of two halves. -/
def joinHalves (high low : Nat) : Char := Char.ofNat (0x10000 + (high - 0xD800) * 0x400 + (low - 0xDC00))

/-- The text with every half given up: its three bytes become three replacement characters. -/
def withoutHalves (cs : List Char) : List Char :=
  cs.flatMap fun c => if (half? c).isSome then List.replicate 3 '\uFFFD' else [c]

theorem isHalf_iff {n : Nat} : isHalf n ↔ 0xD800 ≤ n ∧ n < 0xE000 := by
  simp only [isHalf, isHighHalf, isLowHalf, Bool.or_eq_true, Bool.and_eq_true, decide_eq_true_eq]
  omega

theorem charOf?_eq_some_iff {p : Point} {c : Char} : charOf? p = some c ↔ p = pointOf c := by
  have hp := p.isLt
  constructor
  · intro h
    unfold charOf? at h
    split at h
    · cases h
    · rename_i hwhole
      rw [isHalf_iff] at hwhole
      have hv : p.val.isValidChar := by unfold Nat.isValidChar; omega
      obtain rfl := Option.some.inj h
      have hn : (Char.ofNat p).toNat = p := by
        have hof : Char.ofNat p = Char.ofNatAux p hv := dif_pos hv
        rw [hof]
        rfl
      rw [pointOf, hn]
      exact (Fin.ofNat_val_eq_self p).symm
  · rintro rfl
    have hvalid : c.toNat.isValidChar := c.valid
    have hlt : c.toNat < 0x110000 := by unfold Nat.isValidChar at hvalid; omega
    have hval : (pointOf c).val = c.toNat := Nat.mod_eq_of_lt hlt
    have hwhole : ¬isHalf (pointOf c).val = true := by
      rw [hval, isHalf_iff]
      unfold Nat.isValidChar at hvalid
      omega
    rw [charOf?, if_neg hwhole, hval, Char.ofNat_toNat]

theorem half?_charOfUnit {n : Nat} (h : isHalf n) : half? (charOfUnit n) = some n := by
  have hn := isHalf_iff.1 h
  have hv : (halfOffset + n).isValidChar := by unfold Nat.isValidChar halfOffset; omega
  have hc : (Char.ofNat (halfOffset + n)).toNat = halfOffset + n := by
    have hof : Char.ofNat (halfOffset + n) = Char.ofNatAux (halfOffset + n) hv := dif_pos hv
    rw [hof]
    rfl
  simp [charOfUnit, h, half?, hc]

end ServiceAtlas.Text
