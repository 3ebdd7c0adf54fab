import ServiceAtlas.Text.Blank
import ServiceAtlas.Text.Digits

/-!
Whole numbers given as text: padded or not, signed or not, in digits of any script, with low lines
between digits, and in any base up to sixteen with the mark of that base in front or without it.
-/

namespace ServiceAtlas.Text

/-- The blanks that may stand around a number. The separators of information do not belong to them. -/
def isPadding (c : Char) : Bool := isBlank c && !(0x1C ≤ c.toNat && c.toNat ≤ 0x1F)

def unpadded (cs : List Char) : List Char :=
  ((cs.dropWhile isPadding).reverse.dropWhile isPadding).reverse

/-- Whether a number is negative, and the number without its sign. -/
def unsigned (cs : List Char) : Bool × List Char :=
  match cs with
  | '-' :: rest => (true, rest)
  | '+' :: rest => (false, rest)
  | cs => (false, cs)

/-- The value of a character as a digit: of a letter, or of a decimal digit of any script. -/
def digitIn? (base : Nat) (c : Char) : Option Nat :=
  ((hexValue? c).or (digitValue? c)).filter (· < base)

/-- Digits in groups divided by single low lines. -/
def groupedDigits? (base : Nat) : List Char → Option (List Nat)
  | [] => none
  | [c] => (digitIn? base c).map ([·])
  | c :: '_' :: rest => do return (← digitIn? base c) :: (← groupedDigits? base rest)
  | c :: rest => do return (← digitIn? base c) :: (← groupedDigits? base rest)

/-- The letter that marks a base behind a zero. -/
def baseMark? (base : Nat) : Option Char :=
  [(2, 'b'), (8, 'o'), (16, 'x')].lookup base

/-- A number without the mark of its base. One low line may stand behind the mark. -/
def withoutMark (base : Nat) (cs : List Char) : List Char :=
  match cs with
  | '0' :: mark :: rest =>
    if baseMark? base = some mark.toLower then
      (match rest with
      | '_' :: rest => rest
      | rest => rest)
    else cs
  | cs => cs

/-- How many digits a decimal number has at most. -/
def digitLimit : Nat := 4300

def integer? (base : Nat) (cs : List Char) : Option Int := do
  let (negative, body) := unsigned (unpadded cs)
  let ds ← groupedDigits? base (withoutMark base body)
  if base = 10 && digitLimit < ds.length then none
  else
    let n : Int := valueOf base ds
    return if negative then -n else n

example : integer? 10 " -1_000 ".toList = some (-1000) ∧ integer? 16 "0x_fF".toList = some 255 ∧
    integer? 10 "1__0".toList = none ∧ integer? 8 "0o18".toList = none := by decide +kernel

end ServiceAtlas.Text
