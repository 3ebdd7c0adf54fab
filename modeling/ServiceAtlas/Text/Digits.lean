/-!
Whole numbers as text: decimal digits of any script read, plain digits written, and hexadecimal of
a fixed width.
-/

namespace ServiceAtlas.Text

/-- The zero of every run of ten decimal digits (Unicode 14). -/
def zeros : List Nat :=
  [0x30, 0x660, 0x6F0, 0x7C0, 0x966, 0x9E6, 0xA66, 0xAE6, 0xB66, 0xBE6, 0xC66, 0xCE6, 0xD66,
   0xDE6, 0xE50, 0xED0, 0xF20, 0x1040, 0x1090, 0x17E0, 0x1810, 0x1946, 0x19D0, 0x1A80, 0x1A90,
   0x1B50, 0x1BB0, 0x1C40, 0x1C50, 0xA620, 0xA8D0, 0xA900, 0xA9D0, 0xA9F0, 0xAA50, 0xABF0,
   0xFF10, 0x104A0, 0x10D30, 0x11066, 0x110F0, 0x11136, 0x111D0, 0x112F0, 0x11450, 0x114D0,
   0x11650, 0x116C0, 0x11730, 0x118E0, 0x11950, 0x11C50, 0x11D50, 0x11DA0, 0x16A60, 0x16AC0,
   0x16B50, 0x1D7CE, 0x1D7D8, 0x1D7E2, 0x1D7EC, 0x1D7F6, 0x1E140, 0x1E2F0, 0x1E950, 0x1FBF0]

/-- The value of a decimal digit of any script. -/
def digitValue? (c : Char) : Option Nat :=
  zeros.findSome? fun first =>
    if first ≤ c.toNat && c.toNat < first + 10 then some (c.toNat - first) else none

/-- The value of one of the ten plain digits. -/
def plainDigit? (c : Char) : Option Nat :=
  if c.isDigit then some (c.toNat - 0x30) else none

def digitChar (d : Nat) : Char := Char.ofNat (0x30 + d)

/-- The digits of a number, the last one first. -/
def digitsBelow (n : Nat) : List Nat :=
  if n < 10 then [n] else n % 10 :: digitsBelow (n / 10)

def natChars (n : Nat) : List Char := (digitsBelow n).reverse.map digitChar

def nat (n : Nat) : String := String.ofList (natChars n)

/-- A number with zeros in front of it, up to a width. -/
def padded (width n : Nat) : String :=
  let cs := natChars n
  String.ofList (List.replicate (width - cs.length) '0' ++ cs)

def intChars (n : Int) : List Char :=
  if n < 0 then '-' :: natChars n.natAbs else natChars n.natAbs

def int (n : Int) : String := String.ofList (intChars n)

/-- The number that digits denote, the first one being the highest. -/
def valueOf (base : Nat) (digits : List Nat) : Nat := digits.foldl (fun n d => base * n + d) 0

def hexChar (upperCase : Bool) (d : Nat) : Char :=
  if d < 10 then Char.ofNat (0x30 + d) else Char.ofNat ((if upperCase then 0x41 else 0x61) + (d - 10))

/-- The last `width` hexadecimal digits of a number. -/
def hex (upperCase : Bool) (width n : Nat) : List Char :=
  match width with
  | 0 => []
  | width + 1 => hex upperCase width (n / 16) ++ [hexChar upperCase (n % 16)]

def hexValue? (c : Char) : Option Nat :=
  if c.isDigit then some (c.toNat - 0x30)
  else if 'a' ≤ c ∧ c ≤ 'f' then some (c.toNat - 0x61 + 10)
  else if 'A' ≤ c ∧ c ≤ 'F' then some (c.toNat - 0x41 + 10)
  else none

theorem valueOf_append (base : Nat) (ds : List Nat) (d : Nat) :
    valueOf base (ds ++ [d]) = base * valueOf base ds + d := by
  simp [valueOf]

theorem valueOf_digitsBelow (n : Nat) : valueOf 10 (digitsBelow n).reverse = n := by
  induction n using Nat.strongRecOn with
  | _ n ih =>
    unfold digitsBelow
    split
    · simp [valueOf]
    · rw [List.reverse_cons, valueOf_append, ih (n / 10) (by omega)]
      omega

theorem digitsBelow_lt {n d : Nat} (h : d ∈ digitsBelow n) : d < 10 := by
  induction n using Nat.strongRecOn with
  | _ n ih =>
    unfold digitsBelow at h
    split at h
    · simp at h; omega
    · rcases List.mem_cons.1 h with h | h
      · omega
      · exact ih (n / 10) (by omega) h

end ServiceAtlas.Text
