import ServiceAtlas.Text.Encoding

/-!
Escapes in addresses. A character that a part of an address does not hold as it is stands there as its
bytes, each behind a percent sign. Percent signs themselves stay, so that text with escapes in it
is not escaped again.
-/

namespace ServiceAtlas.Url

/-- The parts of an address that differ in what they hold. -/
inductive Part where
  | userinfo
  | host
  | path
  | query
  | fragment

/-- The printable characters that a part does not hold as they are. -/
def Part.escaped : Part → List Char
  | query => "\"#<>".toList
  | path => "\"#<>?`\x7b\x7d".toList
  | userinfo => "\"#<>?`\x7b\x7d/;=@[\\]^|".toList
  | fragment => "\"<>`".toList
  | host => "#/:<>?@[]^".toList

def Part.keeps (part : Part) (c : Char) : Bool :=
  0x20 < c.toNat && c.toNat < 0x7F && !part.escaped.contains c

def percent (c : Char) : List Char :=
  (Text.encodeChar c).flatMap fun b => '%' :: Text.hex true 2 b.toNat

/-- The text as a part holds it. Half of a character has no bytes. -/
def escape? (part : Part) (cs : List Char) : Option (List Char) :=
  let other := cs.filter fun c => !part.keeps c
  if Text.holdsHalf other then none
  else some (cs.flatMap fun c => if part.keeps c then [c] else percent c)

/-- The bytes that a text with escapes stands for. A percent sign without two digits behind it stands
for itself. -/
def unescapedBytes : List Char → Text.Bytes
  | [] => []
  | '%' :: a :: b :: rest =>
    match Text.hexValue? a, Text.hexValue? b with
    | some x, some y => .ofNat (16 * x + y) :: unescapedBytes rest
    | _, _ => Text.encodeChar '%' ++ unescapedBytes (a :: b :: rest)
  | c :: rest => Text.encodeChar c ++ unescapedBytes rest

def unescape (cs : List Char) : List Char := Text.decodeReplacing (unescapedBytes cs)

/-! Names and values of a query. -/

def isQueryChar (c : Char) : Bool := c.isAlphanum || ['_', '.', '-', '~'].contains c

def queryWord? (s : String) : Option (List Char) :=
  if Text.holdsHalf s.toList then none
  else some (s.toList.flatMap fun c =>
    if c = ' ' then ['+'] else if isQueryChar c then [c] else percent c)

end ServiceAtlas.Url
