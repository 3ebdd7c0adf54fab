import ServiceAtlas.Text.Digits

/-!
Binary floating-point numbers as decimal text. A number is written with the fewest digits that read
back as the same number, and of those with the digits nearest to it.
-/

namespace ServiceAtlas.Decimal

/-- A decimal number `digits · 10 ^ exponent`. -/
structure Scaled where
  digits : Nat
  exponent : Int

/-- A positive binary number `mantissa · 2 ^ exponent`. At a power of two the next smaller number
is only half as far away as the next greater one. -/
structure Binary where
  mantissa : Nat
  exponent : Int
  atPower : Bool

/-- The finite number behind the bits of a float, its sign left out. -/
def Binary.ofBits (bits : UInt64) : Binary :=
  let fraction : Nat := bits.toNat % Nat.pow 2 52
  let field : Nat := bits.toNat / Nat.pow 2 52 % Nat.pow 2 11
  if field = 0 then ⟨fraction, -1074, false⟩
  else ⟨fraction + Nat.pow 2 52, (field : Int) - 1075, fraction = 0 && field > 1⟩

/-- A ratio of whole numbers. -/
structure Ratio where
  num : Nat
  den : Nat

def Ratio.le (a b : Ratio) : Bool := a.num * b.den ≤ b.num * a.den

def Ratio.lt (a b : Ratio) : Bool := a.num * b.den < b.num * a.den

def power (base : Nat) (exponent : Int) : Ratio :=
  if exponent < 0 then ⟨1, Nat.pow base exponent.natAbs⟩ else ⟨Nat.pow base exponent.natAbs, 1⟩

def Ratio.scale (n : Nat) (r : Ratio) : Ratio := ⟨n * r.num, r.den⟩

/-- The numbers that read back as `b` lie between these two, the ends counted in for an even
mantissa. -/
def Binary.low (b : Binary) : Ratio :=
  (power 2 (b.exponent - 2)).scale (4 * b.mantissa - if b.atPower then 1 else 2)

def Binary.high (b : Binary) : Ratio := (power 2 (b.exponent - 2)).scale (4 * b.mantissa + 2)

def Binary.value (b : Binary) : Ratio := (power 2 b.exponent).scale b.mantissa

/-- Whether a decimal number reads back as `b`. -/
def Binary.covers (b : Binary) (r : Ratio) : Bool :=
  if b.mantissa % 2 = 0 then b.low.le r && r.le b.high else b.low.lt r && r.lt b.high

/-- The largest `e` up to `start` with `10 ^ e ≤ r`, tried downward. -/
def magnitudeFrom (r : Ratio) : Nat → Int → Int
  | 0, e => e
  | fuel + 1, e => if (power 10 e).le r then e else magnitudeFrom r fuel (e - 1)

/-- The decimal exponent of a positive finite number. -/
def Binary.magnitude (b : Binary) : Int :=
  let guess : Int := (b.exponent + (Nat.log2 b.mantissa : Int) + 1) * 30103 / 100000 + 1
  magnitudeFrom b.value 8 guess

def whole (r : Ratio) : Nat := r.num / r.den

/-- The two neighbours of `b` on the grid of multiples of `10 ^ exponent` that read back as `b`,
nearest first; a tie goes to the even one. -/
def Binary.onGrid (b : Binary) (exponent : Int) : Option Nat :=
  let step := power 10 exponent
  let v := b.value
  let under := v.num * step.den / (v.den * step.num)
  let fits := fun d => b.covers (step.scale d)
  let twice : Ratio := ⟨2 * v.num, v.den⟩
  let middle := step.scale (2 * under + 1)
  let upFirst := middle.lt twice || (middle.le twice && under % 2 = 1)
  let first := if upFirst then under + 1 else under
  let second := if upFirst then under else under + 1
  if fits first then some first else if fits second then some second else none

/-- The grid with the fewest digits, from `count` digits on, that has a number reading back as
`b`. -/
def Binary.shortestFrom (b : Binary) (magnitude : Int) : Nat → Nat → Scaled
  | 0, count => ⟨whole b.value, magnitude + 1 - count⟩
  | fuel + 1, count =>
    let exponent := magnitude + 1 - count
    match b.onGrid exponent with
    | some d => ⟨d, exponent⟩
    | none => b.shortestFrom magnitude fuel (count + 1)

def Binary.shortest (b : Binary) : Scaled := b.shortestFrom b.magnitude 17 1

def trimZeros : Nat → Scaled → Scaled
  | 0, s => s
  | fuel + 1, s =>
    if s.digits ≠ 0 ∧ s.digits % 10 = 0 then trimZeros fuel ⟨s.digits / 10, s.exponent + 1⟩ else s

/-- From the sixteenth power of ten on, and below a ten-thousandth, a number is written with an
exponent of at least two digits; every number shows a point or an exponent. -/
def Scaled.chars (s : Scaled) : List Char :=
  let s := trimZeros 20 s
  let ds := Text.natChars s.digits
  let point : Int := ds.length + s.exponent
  if point > 16 ∨ point < -3 then
    let e := point - 1
    let size := Text.natChars e.natAbs
    let fraction := match ds.drop 1 with
      | [] => []
      | rest => '.' :: rest
    ds.take 1 ++ fraction ++ 'e' :: (if e < 0 then '-' else '+') ::
      (if size.length < 2 then '0' :: size else size)
  else if point ≤ 0 then '0' :: '.' :: List.replicate point.natAbs '0' ++ ds
  else if ds.length ≤ point then ds ++ List.replicate (point.natAbs - ds.length) '0' ++ ['.', '0']
  else ds.take point.natAbs ++ '.' :: ds.drop point.natAbs

/-- The texts of the numbers that are not finite. -/
structure Names where
  nan : String
  infinity : String

def isNegative (x : Float) : Bool := x.toBits.toNat / Nat.pow 2 63 = 1

def isNaN (bits : UInt64) : Bool :=
  bits.toNat / Nat.pow 2 52 % Nat.pow 2 11 = Nat.pow 2 11 - 1 && bits.toNat % Nat.pow 2 52 ≠ 0

def isInfinite (bits : UInt64) : Bool :=
  bits.toNat / Nat.pow 2 52 % Nat.pow 2 11 = Nat.pow 2 11 - 1 && bits.toNat % Nat.pow 2 52 = 0

def isFinite (x : Float) : Bool := !isNaN x.toBits && !isInfinite x.toBits

def chars (names : Names) (x : Float) : List Char :=
  if isNaN x.toBits then names.nan.toList
  else
    let body :=
      if isInfinite x.toBits then names.infinity.toList
      else if x.toBits.toNat % Nat.pow 2 63 = 0 then ['0', '.', '0']
      else (Binary.ofBits x.toBits).shortest.chars
    if isNegative x then '-' :: body else body

def text (names : Names) (x : Float) : String := String.ofList (chars names x)

/-- The float nearest to `± digits · 10 ^ exponent`. A decimal exponent far outside the range of
floats is not worked out. -/
def toFloat (negative : Bool) (digits : Nat) (exponent : Int) : Float :=
  let size := (Text.natChars digits).length
  let x : Float :=
    if digits = 0 then 0.0
    else if exponent + size > 400 then 1.0 / 0.0
    else if exponent + size < -400 then 0.0
    else Float.ofScientific digits (exponent < 0) exponent.natAbs
  if negative then -x else x

/-- The whole number that a float is, if it is one. -/
def toInt? (x : Float) : Option Int :=
  if !isFinite x then none
  else if x.toBits.toNat % Nat.pow 2 63 = 0 then some 0
  else
    let v := (Binary.ofBits x.toBits).value
    if v.num % v.den = 0 then some (if isNegative x then -(v.num / v.den : Nat) else (v.num / v.den : Nat))
    else none

end ServiceAtlas.Decimal
