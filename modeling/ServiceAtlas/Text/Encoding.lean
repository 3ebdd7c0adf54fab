import ServiceAtlas.Text.Digits
import ServiceAtlas.Text.Half

/-!
Text as bytes. UTF-8 is written and read; the two wider encodings, told by their byte order marks
or their zero bytes, are read.
-/

namespace ServiceAtlas.Text

abbrev Bytes := List UInt8

def encodeChar (c : Char) : Bytes :=
  let n := c.toNat
  if n < 0x80 then [.ofNat n]
  else if n < 0x800 then [.ofNat (0xC0 + n / 0x40), .ofNat (0x80 + n % 0x40)]
  else if n < 0x10000 then
    [.ofNat (0xE0 + n / 0x1000), .ofNat (0x80 + n / 0x40 % 0x40), .ofNat (0x80 + n % 0x40)]
  else
    [.ofNat (0xF0 + n / 0x40000), .ofNat (0x80 + n / 0x1000 % 0x40),
      .ofNat (0x80 + n / 0x40 % 0x40), .ofNat (0x80 + n % 0x40)]

def encode (cs : List Char) : Bytes := cs.flatMap encodeChar

/-- The bytes of a text that holds whole characters only. -/
def encode? (cs : List Char) : Option Bytes := if holdsHalf cs then none else some (encode cs)

/-- A byte that is part of no character is named by one of the last low halves. -/
def rawByte? (c : Char) : Option UInt8 :=
  (half? c).bind fun n => if 0xDC80 ≤ n && n ≤ 0xDCFF then some (.ofNat (n - 0xDC00)) else none

/-- The bytes of a file name. -/
def encodeName? : List Char → Option Bytes
  | [] => some []
  | c :: rest => do
    let bytes ← match rawByte? c with
      | some b => some [b]
      | none => encode? [c]
    return bytes ++ (← encodeName? rest)

/-- Why bytes are no text. -/
inductive Malformation where
  | startByte
  | continuationByte
  | endOfData
  | truncated
  | outOfRange
deriving DecidableEq

def Malformation.text : Malformation → String
  | startByte => "invalid start byte"
  | continuationByte => "invalid continuation byte"
  | endOfData => "unexpected end of data"
  | truncated => "truncated data"
  | outOfRange => "code point not in range(0x110000)"

/-- What a byte sequence begins with: a character of some bytes, or some bytes that are none. -/
inductive Lead where
  | char (c : Char) (size : Nat)
  | fault (reason : Malformation) (size : Nat)

def isTail (b : UInt8) : Bool := 0x80 ≤ b.toNat && b.toNat < 0xC0

/-- The six bits that a byte after the first contributes. -/
def tailBits (b : UInt8) : Nat := b.toNat % 0x40

/-- The bytes that may follow the first one, where not every byte after the first will do. -/
def mayFollow (first second : UInt8) : Bool :=
  isTail second &&
    (if first = 0xE0 then 0xA0 ≤ second.toNat
    else if first = 0xED then second.toNat < 0xA0
    else if first = 0xF0 then 0x90 ≤ second.toNat
    else if first = 0xF4 then second.toNat < 0x90
    else true)

def lead2 (b : UInt8) (rest : Bytes) : Lead :=
  match rest with
  | [] => .fault .endOfData 1
  | c :: _ =>
    if isTail c then .char (Char.ofNat (b.toNat % 0x20 * 0x40 + tailBits c)) 2
    else .fault .continuationByte 1

def lead3 (b : UInt8) (rest : Bytes) : Lead :=
  match rest with
  | [] => .fault .endOfData 1
  | c :: rest =>
    if !mayFollow b c then .fault .continuationByte 1
    else match rest with
      | [] => .fault .endOfData 2
      | d :: _ =>
        if isTail d then
          .char (Char.ofNat (b.toNat % 0x10 * 0x1000 + tailBits c * 0x40 + tailBits d)) 3
        else .fault .continuationByte 2

def lead4 (b : UInt8) (rest : Bytes) : Lead :=
  match rest with
  | [] => .fault .endOfData 1
  | c :: rest =>
    if !mayFollow b c then .fault .continuationByte 1
    else match rest with
      | [] => .fault .endOfData 2
      | d :: rest =>
        if !isTail d then .fault .continuationByte 2
        else match rest with
          | [] => .fault .endOfData 3
          | e :: _ =>
            if isTail e then
              .char (Char.ofNat (b.toNat % 0x08 * 0x40000 + tailBits c * 0x1000 +
                tailBits d * 0x40 + tailBits e)) 4
            else .fault .continuationByte 3

def leadUtf8 (b : UInt8) (rest : Bytes) : Lead :=
  let n := b.toNat
  if n < 0x80 then .char (Char.ofNat n) 1
  else if n < 0xC2 then .fault .startByte 1
  else if n < 0xE0 then lead2 b rest
  else if n < 0xF0 then lead3 b rest
  else if n < 0xF5 then lead4 b rest
  else .fault .startByte 1

/-- Half of a surrogate pair may have three bytes of its own. -/
def leadWithHalves (b : UInt8) (rest : Bytes) : Lead :=
  match b, rest with
  | 0xED, c :: d :: _ =>
    if isTail c && 0xA0 ≤ c.toNat && isTail d then
      .char (charOfUnit (0xD000 + tailBits c * 0x40 + tailBits d)) 3
    else leadUtf8 b rest
  | _, _ => leadUtf8 b rest

/-- Bytes that are no text, with their place. -/
structure DecodeError where
  encoding : String
  start : Nat
  size : Nat
  byte : UInt8
  reason : Malformation

def DecodeError.message (e : DecodeError) : String :=
  let place :=
    if e.size = 1 then
      "byte 0x" ++ String.ofList (hex false 2 e.byte.toNat) ++ " in position " ++ nat e.start
    else "bytes in position " ++ nat e.start ++ "-" ++ nat (e.start + e.size - 1)
  "'" ++ e.encoding ++ "' codec can't decode " ++ place ++ ": " ++ e.reason.text

/-- All characters, by a rule for the head of the bytes. The first `skip` bytes belong to the
character before. -/
def decodeBy (encoding : String) (head : UInt8 → Bytes → Lead) (position skip : Nat) :
    Bytes → Except DecodeError (List Char)
  | [] => .ok []
  | b :: rest =>
    match skip with
    | skip + 1 => decodeBy encoding head (position + 1) skip rest
    | 0 =>
      match head b rest with
      | .fault reason size => .error ⟨encoding, position, size, b, reason⟩
      | .char c size => (decodeBy encoding head (position + 1) (size - 1) rest).map (c :: ·)

/-- As `decodeBy`, with the replacement character for every fault. -/
def replaceBy (head : UInt8 → Bytes → Lead) (skip : Nat) : Bytes → List Char
  | [] => []
  | b :: rest =>
    match skip with
    | skip + 1 => replaceBy head skip rest
    | 0 =>
      match head b rest with
      | .fault _ size => '\uFFFD' :: replaceBy head (size - 1) rest
      | .char c size => c :: replaceBy head (size - 1) rest

def decode (bytes : Bytes) : Except DecodeError (List Char) := decodeBy "utf-8" leadUtf8 0 0 bytes

def decodeReplacing (bytes : Bytes) : List Char := replaceBy leadUtf8 0 bytes

/-- Which of a number's bytes stands first. -/
inductive Order where
  | little
  | big
deriving DecidableEq

def Order.number (order : Order) (bytes : Bytes) : Nat :=
  let high := match order with
    | little => bytes.reverse
    | big => bytes
  high.foldl (fun n b => 0x100 * n + b.toNat) 0

def Order.suffix : Order → String
  | little => "le"
  | big => "be"

def unit (order : Order) (b c : UInt8) : Nat := order.number [b, c]

def leadUtf16 (order : Order) (b : UInt8) (rest : Bytes) : Lead :=
  match rest with
  | [] => .fault .truncated 1
  | c :: rest =>
    let n := unit order b c
    match isHighHalf n, rest with
    | true, d :: e :: _ =>
      let m := unit order d e
      if isLowHalf m then .char (joinHalves n m) 4 else .char (charOfUnit n) 2
    | _, _ => .char (charOfUnit n) 2

def leadUtf32 (order : Order) (b : UInt8) (rest : Bytes) : Lead :=
  match rest with
  | c :: d :: e :: _ =>
    let n := order.number [b, c, d, e]
    if 0x110000 ≤ n then .fault .outOfRange 4 else .char (charOfUnit n) 4
  | rest => .fault .truncated (rest.length + 1)

/-- An encoding and how many bytes of mark stand before the text. -/
inductive Scheme where
  | utf8 (mark : Nat)
  | utf16 (order : Order) (mark : Nat)
  | utf32 (order : Order) (mark : Nat)

/-- The scheme of bytes without a mark: zero bytes tell the width and the order. -/
def Scheme.ofZeros : Bytes → Scheme
  | a :: b :: c :: d :: _ =>
    if a = 0 then (if b = 0 then .utf32 .big 0 else .utf16 .big 0)
    else if b = 0 then (if c = 0 ∧ d = 0 then .utf32 .little 0 else .utf16 .little 0)
    else .utf8 0
  | [a, b] => if a = 0 then .utf16 .big 0 else if b = 0 then .utf16 .little 0 else .utf8 0
  | _ => .utf8 0

def Scheme.of : Bytes → Scheme
  | 0x00 :: 0x00 :: 0xFE :: 0xFF :: _ => .utf32 .big 4
  | 0xFF :: 0xFE :: 0x00 :: 0x00 :: _ => .utf32 .little 4
  | 0xFE :: 0xFF :: _ => .utf16 .big 2
  | 0xFF :: 0xFE :: _ => .utf16 .little 2
  | 0xEF :: 0xBB :: 0xBF :: _ => .utf8 3
  | bytes => Scheme.ofZeros bytes

/-- The text of bytes in whichever encoding they are. The mark counts in the places of the wide
encodings alone. -/
def decodeAny (bytes : Bytes) : Except DecodeError (List Char) :=
  match Scheme.of bytes with
  | .utf8 mark => decodeBy "utf-8" leadWithHalves 0 0 (bytes.drop mark)
  | .utf16 order mark =>
    decodeBy ("utf-16-" ++ order.suffix) (leadUtf16 order) mark 0 (bytes.drop mark)
  | .utf32 order mark =>
    decodeBy ("utf-32-" ++ order.suffix) (leadUtf32 order) mark 0 (bytes.drop mark)

/-- Every line end is read as one line feed. -/
def unifyLines : List Char → List Char
  | [] => []
  | '\r' :: '\n' :: rest => '\n' :: unifyLines rest
  | '\r' :: rest => '\n' :: unifyLines rest
  | c :: rest => c :: unifyLines rest

end ServiceAtlas.Text
