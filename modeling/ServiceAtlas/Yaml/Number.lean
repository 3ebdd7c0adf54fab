import ServiceAtlas.Json.Reader
import ServiceAtlas.Text.Case
import ServiceAtlas.Text.Integer
import ServiceAtlas.Yaml.Malformation

/-!
Numbers and truth values from the text of YAML scalars. Whole numbers may be binary, octal,
hexadecimal, or counted in sixties; low lines divide digits.
-/

namespace ServiceAtlas.Yaml.Number

def require {α : Type} (x : Option α) (m : Malformation) : Except Malformation α :=
  match x with
  | some a => .ok a
  | none => .error m

def integer (base : Nat) (cs : List Char) : Except Malformation Int :=
  require (Text.integer? base cs) .unreadableNumber

/-- The value of places that each count sixty times the next. -/
def sixties (ns : List Int) : Int := ns.foldl (fun n d => 60 * n + d) 0

def magnitudeOf (cs : List Char) : Except Malformation Int := do
  match cs with
  | [] => throw .emptyNumber
  | '0' :: 'b' :: rest => integer 2 rest
  | '0' :: 'x' :: rest => integer 16 rest
  | '0' :: _ => integer 8 cs
  | cs => return sixties (← (Text.pieces (· = ':') cs).mapM (integer 10))

/-- A number may have a sign of its own behind the first one. -/
def intOf (cs : List Char) : Except Malformation Int := do
  let (negative, body) := Text.unsigned (Text.without '_' cs)
  let n ← magnitudeOf body
  return if negative then -n else n

/-- The text with plain digits in place of those of other scripts. -/
def plainDigits (cs : List Char) : List Char :=
  cs.map fun c => ((Text.digitValue? c).map Text.digitChar).getD c

/-- A decimal number with a point, an exponent, both or neither. -/
def decimal? (negative : Bool) (body : List Char) : Option Float :=
  let whole := body.takeWhile Char.isDigit
  let rest := body.dropWhile Char.isDigit
  let (fraction, rest) := match rest with
    | '.' :: tail => (tail.takeWhile Char.isDigit, tail.dropWhile Char.isDigit)
    | rest => ([], rest)
  let (exponent, rest) := Json.readExponent rest
  if (whole ++ fraction).isEmpty || !rest.isEmpty then none
  else
    let digits := Text.valueOf 10 (Json.digitsOf (whole ++ fraction))
    some (Decimal.toFloat negative digits (exponent.getD 0 - fraction.length))

/-- The names of numbers that are not finite, where a tag calls for a float. -/
def namedFloats : List (String × Float) :=
  [("inf", 1.0 / 0.0), ("infinity", 1.0 / 0.0), ("nan", 0.0 / 0.0)]

def plainFloat (cs : List Char) : Except Malformation Float :=
  let (negative, body) := Text.unsigned (plainDigits (Text.unpadded cs))
  match decimal? negative body, namedFloats.lookup (String.ofList body) with
  | some x, _ => .ok x
  | none, some x => .ok (if negative then -x else x)
  | none, none => .error .unreadableNumber

/-- The last number of places that floats can count in sixties. -/
def sixtiesLimit : Nat := 174

/-- The value of places from the last one up, each counting sixty times the one before. -/
def floatSixties (place : Nat) (sum : Float) : List Float → Except Malformation Float
  | [] => .ok sum
  | x :: rest =>
    if sixtiesLimit ≤ place then .error .oversized
    else floatSixties (place + 1) (sum + x * Decimal.toFloat false (60 ^ place) 0) rest

def floatBody (body : List Char) : Except Malformation Float := do
  if body = ".inf".toList then return 1.0 / 0.0
  else if body = ".nan".toList then return 0.0 / 0.0
  else if body.contains ':' then
    floatSixties 0 0.0 (← (Text.pieces (· = ':') body).mapM plainFloat).reverse
  else plainFloat body

def floatOf (cs : List Char) : Except Malformation Float := do
  let cs := (Text.lower (String.ofList (Text.without '_' cs))).toList
  if cs.isEmpty then throw .emptyNumber
  let (negative, body) := Text.unsigned cs
  let x ← floatBody body
  return if negative then -x else x

def boolWords : List (String × Bool) :=
  [("yes", true), ("no", false), ("true", true), ("false", false), ("on", true), ("off", false)]

def boolOf (cs : List Char) : Except Malformation Bool :=
  require (boolWords.lookup (Text.lower (String.ofList cs))) .unknownWord

end ServiceAtlas.Yaml.Number
