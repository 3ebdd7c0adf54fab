import ServiceAtlas.Text.Half

/-!
Text of any script in plain characters. The plain characters of the text come first; the others follow
in the order of their code points, each as the number of places passed over since the one before. The
digits of such a number have thresholds, and the digit below its threshold is the last one.
-/

namespace ServiceAtlas.Url.Punycode

def isPlain (c : Char) : Bool := c.toNat < 0x80

def base : Nat := 36

/-- The digit below which a number ends at a place, counted from zero. -/
def threshold (bias place : Nat) : Nat := min 26 (max 1 (base * (place + 1) - bias))

theorem threshold_pos (bias place : Nat) : 1 ≤ threshold bias place := by
  unfold threshold
  omega

/-- How often a number is divided until it is small, and what is left of it. -/
def shrink (delta : Nat) : Nat × Nat :=
  if 455 < delta then
    let (times, rest) := shrink (delta / 35)
    (times + 1, rest)
  else (0, delta)
termination_by delta
decreasing_by exact Nat.div_lt_self (by omega) (by omega)

/-- The bias after a number, for a text that has `size` characters by then. -/
def adapt (isFirst : Bool) (delta size : Nat) : Nat :=
  let delta := if isFirst then delta / 700 else delta / 2
  let (times, rest) := shrink (delta + delta / size)
  base * times + base * rest / (rest + 38)

/-! Writing. -/

def digitChar (d : Nat) : Char := Char.ofNat (if d < 26 then 0x61 + d else 0x30 + (d - 26))

def digits (bias place n : Nat) : List Char :=
  let t := threshold bias place
  if n < t then [digitChar n]
  else digitChar (t + (n - t) % (base - t)) :: digits bias (place + 1) ((n - t) / (base - t))
termination_by n
decreasing_by
  have := threshold_pos bias place
  calc (n - threshold bias place) / (base - threshold bias place)
      ≤ n - threshold bias place := Nat.div_le_self _ _
    _ < n := by omega

/-- What is written so far; `delta` counts the places passed over, `size` the characters written. -/
structure Writing where
  out : List Char
  delta : Nat
  bias : Nat
  size : Nat

/-- Goes past one character of the text while the characters with code point `point` are written. -/
def Writing.pass (plain point : Nat) (w : Writing) (c : Char) : Writing :=
  if c.toNat < point then { w with delta := w.delta + 1 }
  else if c.toNat = point then
    ⟨w.out ++ digits w.bias 0 w.delta, 0, adapt (w.size = plain) w.delta (w.size + 1), w.size + 1⟩
  else w

/-- Writes the characters with the code points given, which ascend; those below `reached` are
written. -/
def Writing.passAll (cs : List Char) (plain : Nat) (w : Writing) (reached : Nat) : List Nat → Writing
  | [] => w
  | point :: rest =>
    let w := { w with delta := w.delta + (point - reached) * (w.size + 1) }
    let w := cs.foldl (Writing.pass plain point) w
    passAll cs plain { w with delta := w.delta + 1 } (point + 1) rest

def encode (cs : List Char) : List Char :=
  let plain := cs.filter isPlain
  let points := ((cs.filter fun c => !isPlain c).map Char.toNat).eraseDups.mergeSort
  let start := if plain.isEmpty then [] else plain ++ ['-']
  (Writing.passAll cs plain.length ⟨start, 0, 72, plain.length⟩ 0x80 points).out

/-! Reading. -/

def digitValue? (c : Char) : Option Nat :=
  if 'a' ≤ c ∧ c ≤ 'z' then some (c.toNat - 0x61)
  else if c.isDigit then some (c.toNat - 0x30 + 26)
  else none

/-- The text read so far, the last code point put into it and the place behind it, and the number that
is being read. -/
structure Reading where
  text : List Char
  isFirst : Bool := true
  point : Nat := 0x80
  place : Nat := 0
  bias : Nat := 72
  delta : Nat := 0
  weight : Nat := 1
  digits : Nat := 0

/-- Puts in the character that the number leads to. -/
def Reading.put (r : Reading) (delta : Nat) : Option Reading :=
  let size := r.text.length + 1
  let place := (r.place + delta) % size
  let point := r.point + (r.place + delta) / size
  if 0x10FFFF < point then none
  else some
    { text := r.text.take place ++ Text.charOfUnit point :: r.text.drop place
      isFirst := false
      point := point
      place := place + 1
      bias := adapt r.isFirst delta size }

def Reading.step (r : Reading) (c : Char) : Option Reading := do
  let d ← digitValue? c
  let t := threshold r.bias r.digits
  let delta := r.delta + d * r.weight
  if d < t then r.put delta
  else some { r with delta := delta, weight := r.weight * (base - t), digits := r.digits + 1 }

/-- The plain characters, up to the last hyphen, and the digits behind it. -/
def parts (cs : List Char) : List Char × List Char :=
  let digits := (cs.reverse.takeWhile (· ≠ '-')).reverse
  ((cs.take (cs.length - digits.length)).dropLast, digits)

/-- The text of small letters, digits and hyphens read. Its last number has to be complete. -/
def decode? (cs : List Char) : Option (List Char) := do
  let (plain, digits) := parts cs
  let r ← digits.foldlM Reading.step { text := plain }
  if r.digits = 0 then some r.text else none

end ServiceAtlas.Url.Punycode
