import ServiceAtlas.Yaml.Datum

/-!
The order in which a set shows its numbers. Each goes into a slot of a row that has at least twice as
many of them, by the remainder that it leaves; the row is then read from its start. Other members leave
no remainder, and a set that holds one of them stays in the order in which it was written.
-/

namespace ServiceAtlas.Yaml.Slots

/-- Remainders are taken by this prime, in which a power of two has an inverse that is one as well. -/
def modulus : Nat := Nat.pow 2 61 - 1

/-- A remainder with its sign, as a count of 64 bits; the one behind zero is passed over. -/
def signed (negative : Bool) (r : Nat) : Nat :=
  if !negative || r = 0 then r else if r = 1 then Nat.pow 2 64 - 2 else Nat.pow 2 64 - r

/-- The remainder of a positive number, whole or not. -/
def ofBinary (b : Decimal.Binary) : Nat :=
  b.mantissa * Nat.pow 2 (b.exponent % 61).toNat % modulus

/-- Equal numbers leave the same remainder. -/
def remainder? : Datum → Option Nat
  | .bool b => some b.toNat
  | .int n => some (signed (n < 0) (n.natAbs % modulus))
  | .float x =>
    if Decimal.isNaN x.toBits then none
    else if Decimal.isInfinite x.toBits then some (signed (Decimal.isNegative x) 314159)
    else some (signed (Decimal.isNegative x) (ofBinary (Decimal.Binary.ofBits x.toBits)))
  | _ => none

/-- The size of the row for so many members: eight up to four of them, and else the first power of two
above twice their number. -/
def rowSize (members : Nat) : Nat := if members < 5 then 8 else Nat.pow 2 (Nat.log2 (2 * members) + 1)

abbrev Row := Array (Option Datum)

def isFree (row : Row) (place : Nat) : Bool := row[place]?.any Option.isNone

/-- The first free slot from a place on: that one or the nine behind it, if there are as many, and then
those from a place further away. The jumps come by every place when `spread` is used up. -/
def freeSlot (row : Row) (jumps spread place : Nat) : Nat :=
  let length := if place + 10 ≤ row.size then 10 else 1
  match (List.range' place length).find? (isFree row), jumps with
  | some found, _ => found
  | none, 0 => place
  | none, jumps + 1 =>
    let spread := spread / 32
    freeSlot row jumps spread ((5 * place + 1 + spread) % row.size)

def put (row : Row) (member : Datum × Nat) : Row :=
  let place := freeSlot row (row.size + 13) member.2 (member.2 % row.size)
  row.setIfInBounds place (some member.1)

/-- The members of a set in the order in which it shows them. -/
def ordered (members : List Datum) : List Datum :=
  match members.mapM fun d => (remainder? d).map (Prod.mk d) with
  | none => members
  | some numbers =>
    (numbers.foldl put (Array.replicate (rowSize members.length) none)).toList.filterMap id

end ServiceAtlas.Yaml.Slots
