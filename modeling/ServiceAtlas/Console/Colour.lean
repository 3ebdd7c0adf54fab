import ServiceAtlas.Console.ColourTable
import ServiceAtlas.Rounding
import ServiceAtlas.Text.Blank
import ServiceAtlas.Text.Case
import ServiceAtlas.Text.Digits
import ServiceAtlas.Text.Search

/-!
Colours: by name, by number or mixed of three lights. A terminal that knows fewer of them shows the
one that comes closest.
-/

namespace ServiceAtlas

/-- How many colours a terminal knows. -/
inductive Depth where
  | sixteen
  | numbered
  | mixed
deriving DecidableEq

/-- A colour as a terminal is told of it. -/
inductive Shade where
  | standard
  | numbered (n : Nat)
  | mixed (red green blue : Nat)
deriving DecidableEq

/-- A shade under the name that it was asked for by. -/
structure Colour where
  name : String
  shade : Shade
deriving DecidableEq

/-- Why a text is no colour. -/
inductive Colour.Fault where
  | unknown
  | numberMissing
deriving DecidableEq

/-- Which side of a character is coloured. -/
inductive Ground where
  | front
  | back
deriving DecidableEq

namespace Shade

/-- The lights of a numbered colour: sixteen old ones, then a cube of six steps a side, then greys. -/
def lightsOf (n : Nat) : Nat × Nat × Nat :=
  let step (k : Nat) : Nat := Colour.steps.getD k 0
  if n = 7 then (192, 192, 192)
  else if n = 8 then (128, 128, 128)
  else if n < 16 then
    let light (bit : Nat) : Nat := if n / bit % 2 = 0 then 0 else if n < 8 then 128 else 255
    (light 1, light 2, light 4)
  else if n < 232 then (step ((n - 16) / 36), step ((n - 16) / 6 % 6), step ((n - 16) % 6))
  else (8 + 10 * (n - 232), 8 + 10 * (n - 232), 8 + 10 * (n - 232))

/-- How far apart two lights are. -/
def apart (a b : Nat) : Nat := (a - b) + (b - a)

def squared (n : Nat) : Nat := n * n

/-- How different two colours look; the eye sees red and blue the better the more red there is. -/
def difference (p q : Nat × Nat × Nat) : Nat :=
  let red := (p.1 + q.1) / 2
  (512 + red) * squared (apart p.1 q.1) / 256 + 4 * squared (apart p.2.1 q.2.1) +
    (767 - red) * squared (apart p.2.2 q.2.2) / 256

/-- The place of the least of some numbers, the first one of several. -/
def leastPlace (ns : List Nat) : Nat := ns.findIdx fun n => ns.all (n ≤ ·)

/-- The colour of the old sixteen that looks most like it. -/
def closest (lights : Nat × Nat × Nat) : Shade :=
  numbered (leastPlace (Colour.sixteen.map (difference lights)))

/-- The step of the cube that is nearest to a light. -/
def nearestStep (light : Nat) : Nat :=
  if light < 95 then nearest light 95 else nearest (light - 55) 40

/-- A colour with little of a hue becomes a grey, any other one of the cube. -/
def inNumbers (red green blue : Nat) : Shade :=
  let most := max red (max green blue)
  let least := min red (min green blue)
  let room := if most + least ≤ 255 then most + least else 510 - (most + least)
  if 20 * (most - least) < 3 * room ∨ most = least then
    let grey := nearest (25 * (most + least)) 510
    numbered (if grey = 0 then 16 else if grey = 25 then 231 else 231 + grey)
  else numbered (16 + 36 * nearestStep red + 6 * nearestStep green + nearestStep blue)

/-- The shade that a terminal shows in place of one that it may not know. -/
def within (d : Depth) : Shade → Shade
  | standard => standard
  | numbered n => if d = .sixteen && 16 ≤ n then closest (lightsOf n) else numbered n
  | mixed r g b =>
    match d with
    | .sixteen => closest (r, g, b)
    | .numbered => inNumbers r g b
    | .mixed => mixed r g b

/-- The numbers that tell a terminal of a shade. -/
def codes (side : Ground) (s : Shade) : List Nat :=
  let lift := if side = .front then 0 else 10
  match s with
  | standard => [39 + lift]
  | numbered n =>
    if n < 8 then [30 + n + lift] else if n < 16 then [82 + n + lift] else [38 + lift, 5, n]
  | mixed r g b => [38 + lift, 2, r, g, b]

end Shade

namespace Colour

/-- The value of two hexadecimal digits. -/
def lightOfHex? (high low : Char) : Option Nat := do
  return 16 * (← Text.hexValue? high) + (← Text.hexValue? low)

/-- A colour given by a hexadecimal number. -/
def ofHex? : List Char → Option Shade
  | [a, b, c, d, e, f] => do
    return .mixed (← lightOfHex? a b) (← lightOfHex? c d) (← lightOfHex? e f)
  | _ => none

/-- What stands in brackets behind a word, if it does. -/
def arguments? (word : String) (cs : List Char) : Option (List Char) :=
  match Text.after? (word.toList ++ ['(']) cs with
  | some rest => if rest.getLast? = some ')' then some rest.dropLast else none
  | none => none

def ofNumber (cs : List Char) : Except Fault Shade :=
  match cs.mapM Text.plainDigit? with
  | none | some [] => .error .unknown
  | some ds =>
    let n := Text.valueOf 10 ds
    if 3 < ds.length ∨ 255 < n then .error .unknown else .ok (.numbered n)

def lightOfDigits (cs : List Char) : Except Fault Nat :=
  match cs.mapM Text.digitValue? with
  | none => .error .unknown
  | some [] => .error .numberMissing
  | some ds => .ok (Text.valueOf 10 ds)

/-- A colour given by three lights. -/
def ofLights (cs : List Char) : Except Fault Shade :=
  if cs.isEmpty || cs.any fun c => c ≠ ',' && (Text.digitValue? c).isNone then .error .unknown
  else
    match Text.pieces (· = ',') cs with
    | [r, g, b] => do
      let lights ← [r, g, b].mapM lightOfDigits
      match lights with
      | [r, g, b] => if [r, g, b].all (· ≤ 255) then return .mixed r g b else throw .unknown
      | _ => throw .unknown
    | _ => .error .unknown

def shadeOf (word : String) : Except Fault Shade :=
  let cs := word.toList
  match names.lookup word, arguments? "color" cs, arguments? "rgb" cs with
  | some n, _, _ => .ok (.numbered n)
  | none, some number, _ => ofNumber number
  | none, none, some lights => ofLights lights
  | none, none, none =>
    if word = "default" then .ok .standard
    else
      match cs with
      | '#' :: digits => (ofHex? digits).elim (.error .unknown) .ok
      | _ => .error .unknown

/-- The colour that a word names. -/
def read (word : String) : Except Fault Colour := do
  let name := Text.lower word
  return ⟨name, ← shadeOf name⟩

end Colour
end ServiceAtlas
