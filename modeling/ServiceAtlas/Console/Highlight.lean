import ServiceAtlas.Console.Marked
import ServiceAtlas.Text.Finder

/-!
Parts of a message that stand out on a coloured terminal: numbers, addresses, paths, quoted text,
brackets and the like. Each kind has a style of its own.
-/

namespace ServiceAtlas.Highlight
open Text Finder

def word : Finder := one isWordChar

def digit : Finder := one Char.isDigit

def hexDigit : Finder := one fun c => (hexValue? c).isSome

/-- A decimal digit of any script. -/
def anyDigit : Finder := one fun c => (digitValue? c).isSome

/-- `count` groups with a mark behind each, and a last one. -/
def groups (count : Nat) (group : Finder) (mark : Char) : Finder :=
  both (times count (both group (char mark))) group

def element : Finder :=
  inOrder [named "tag_start" (char '<'),
    named "tag_name" (zeroOrMore (one fun c => isWordChar c || "-.:|".toList.contains c)),
    named "tag_contents" (zeroOrMore (one fun _ => true)), named "tag_end" (char '>')]

def assignment : Finder :=
  inOrder [named "attrib_name" (between 1 50 word), char '=',
    maybe (named "attrib_value" (inOrder [maybe (char '"'), oneOrMore word, maybe (char '"')]))]

def bracket : Finder := named "brace" (oneOf "[]()\x7b\x7d")

def ipv4 : Finder := named "ipv4" (groups 3 (between 1 3 digit) '.')

def ipv6 : Finder :=
  named "ipv6"
    (both (between 1 7 (inOrder [between 1 4 hexDigit, char ':', maybe (char ':')]))
      (between 1 4 hexDigit))

/-- The address of a device: so many groups in one of three notations. -/
def device (name : String) (short long : Nat) : Finder :=
  let pair := between 1 2 hexDigit
  named name (anyOf [groups short pair '-', groups short pair ':', groups long (times 4 hexDigit) '.'])

def uuid : Finder :=
  let dash := char '-'
  let four := times 4 hexDigit
  named "uuid"
    (inOrder [times 8 hexDigit, dash, four, dash, four, dash, four, dash, times 12 hexDigit])

def call : Finder :=
  both (named "call" (many .fewest 0 none (one fun c => isWordChar c || c = '.'))) (char '(')

/-- A word that stands by itself. -/
def keyword (name s : String) : Finder := inOrder [edge true, named name (text s), edge true]

def keywords : Finder :=
  anyOf [keyword "bool_true" "True", keyword "bool_false" "False", keyword "none" "None"]

def ellipsis : Finder := named "ellipsis" (text "...")

def sign : Finder := oneOf "-+"

def exponent (g : Greed) : Finder :=
  maybe (inOrder [char 'e', maybe sign, many g 1 none anyDigit])

/-- Digits with or without a point. -/
def decimal : Finder := inOrder [oneOrMore digit, maybe (char '.'), zeroOrMore digit]

def signedDecimal : Finder :=
  inOrder [notBehind isWordChar, maybe (char '-'), decimal, exponent .fewest]

def complex : Finder :=
  named "number_complex"
    (inOrder [signedDecimal, maybe (inOrder [sign, decimal, exponent .most]), char 'j'])

def number : Finder :=
  named "number" (either (both signedDecimal (edge true)) (both (text "0x") (zeroOrMore hexDigit)))

def pathChar : Finder := one fun c => isWordChar c || "-._+".toList.contains c

def path : Finder :=
  inOrder [named "path"
      (inOrder [edge false, zeroOrMore (both (char '/') (oneOrMore pathChar)), char '/']),
    maybe (named "filename" (zeroOrMore pathChar))]

/-- Text in quotes on one line; a quote behind a backslash does not end it. -/
def quotedBy (quote : String) : Finder :=
  inOrder [maybe (char 'b'), text quote, many .fewest 0 none (one (· ≠ '\n')),
    notBehind (· = '\\'), text quote]

def quoted : Finder :=
  both (notBehind fun c => c = '\\' || isWordChar c)
    (named "str" (anyOf [quotedBy "'''", quotedBy "'", quotedBy "\"\"\"", quotedBy "\""]))

def url : Finder :=
  let isUrlChar (c : Char) : Bool := c.isAlphanum || "-$_+!\u0060(),.?/;:&=%#~@".toList.contains c
  named "url"
    (inOrder [anyOf (["file", "https", "http", "ws", "wss"].map text), text "://",
      zeroOrMore (one isUrlChar)])

/-- What is looked for, in passes one after the other. -/
def passes : List Finder :=
  [element, assignment, bracket,
    anyOf [ipv4, ipv6, device "eui64" 7 3, device "eui48" 5 2, uuid, call, keywords, ellipsis,
      complex, number, path, quoted, url]]

/-- The regions of a message that stand out. -/
def regions (cs : List Char) : List Region :=
  passes.flatMap fun p => (p.finds cs).map fun f =>
    ⟨f.start, f.stop, Style.named ("repr." ++ f.name)⟩

end ServiceAtlas.Highlight
