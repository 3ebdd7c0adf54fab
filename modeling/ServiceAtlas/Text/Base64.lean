import ServiceAtlas.Text.Encoding

/-!
Bytes as text of 64 characters: three bytes make four characters, and the last group is filled up.
-/

namespace ServiceAtlas.Text.Base64

def char (n : Nat) : Char :=
  if n < 26 then Char.ofNat (0x41 + n)
  else if n < 52 then Char.ofNat (0x61 + (n - 26))
  else if n < 62 then Char.ofNat (0x30 + (n - 52))
  else if n = 62 then '+'
  else '/'

def encode : Bytes → List Char
  | a :: b :: c :: rest =>
    let a := a.toNat
    let b := b.toNat
    let c := c.toNat
    char (a / 4) :: char (a % 4 * 16 + b / 16) :: char (b % 16 * 4 + c / 64) :: char (c % 64) ::
      encode rest
  | [a, b] =>
    let a := a.toNat
    let b := b.toNat
    [char (a / 4), char (a % 4 * 16 + b / 16), char (b % 16 * 4), '=']
  | [a] => [char (a.toNat / 4), char (a.toNat % 4 * 16), '=', '=']
  | [] => []

def value? (c : Char) : Option Nat :=
  if 'A' ≤ c ∧ c ≤ 'Z' then some (c.toNat - 0x41)
  else if 'a' ≤ c ∧ c ≤ 'z' then some (c.toNat - 0x61 + 26)
  else if '0' ≤ c ∧ c ≤ '9' then some (c.toNat - 0x30 + 52)
  else if c = '+' then some 62
  else if c = '/' then some 63
  else none

/-- The six bits of the characters before in the group, and how many signs of filling have come. -/
structure Group where
  bits : List Nat
  filling : Nat

/-- The bytes behind the characters of the encoding; others are passed over. The filling ends the text
once it completes a group; a group that is left incomplete is a fault. -/
def decodeFrom (g : Group) : List Char → Option Bytes
  | [] => if g.bits.isEmpty then some [] else none
  | c :: rest =>
    if c = '=' then
      if g.bits.length < 2 then decodeFrom g rest
      else if 4 ≤ g.bits.length + g.filling + 1 then some []
      else decodeFrom { g with filling := g.filling + 1 } rest
    else
      match value? c, g.bits with
      | none, _ => decodeFrom g rest
      | some x, [] => decodeFrom ⟨[x], 0⟩ rest
      | some y, [x] => (decodeFrom ⟨[x, y], 0⟩ rest).map (.ofNat (x * 4 + y / 16) :: ·)
      | some z, [x, y] => (decodeFrom ⟨[x, y, z], 0⟩ rest).map (.ofNat (y % 16 * 16 + z / 4) :: ·)
      | some w, bits =>
        (decodeFrom ⟨[], 0⟩ rest).map (.ofNat ((bits.getLast?.getD 0) % 4 * 64 + w) :: ·)

def decode? (cs : List Char) : Option Bytes := decodeFrom ⟨[], 0⟩ cs

end ServiceAtlas.Text.Base64
