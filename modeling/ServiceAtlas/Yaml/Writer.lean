import ServiceAtlas.Text.Half
import ServiceAtlas.Value
import ServiceAtlas.Yaml.Scalar

/-!
Values written as YAML: one line for each scalar item, two blanks of indentation for each level, and
lists inside tables level with their keys. Text stands plain where it reads back as the same text,
else in single quotes, else in double quotes with escapes. Lines over eighty columns are folded at
single blanks.
-/

namespace ServiceAtlas.Yaml

def isBreak (c : Char) : Bool := c = '\n' || c = '\u0085' || c = '\u2028' || c = '\u2029'

def isGap (c : Char) : Bool :=
  c = '\x00' || c = ' ' || c = '\t' || c = '\r' || isBreak c

/-- Whether what follows a character parts it from the rest. -/
def gapNext : List Char → Bool
  | [] => true
  | c :: _ => isGap c

/-- Characters that may stand in a document as they are. -/
def isOrdinary (c : Char) : Bool :=
  let n := c.toNat
  c = '\n' || (0x20 ≤ n && n ≤ 0x7E) || n == 0x85 || (0xA0 ≤ n && n ≤ 0xD7FF) ||
    (0xE000 ≤ n && n ≤ 0xFFFD && n != 0xFEFF) ||
    (0x10000 ≤ n && n < 0x10FFFF && (Text.half? c).isNone)

def opensMarkup (c : Char) (rest : List Char) : Bool :=
  "#,[]\x7b\x7d&*!|>'\"%@\x60".toList.contains c || ((c = '?' || c = ':' || c = '-') && gapNext rest)

/-- Whether a colon before a gap, or a hash behind one, stands in the text. -/
def holdsMarkup (behindGap : Bool) : List Char → Bool
  | [] => false
  | c :: rest =>
    (c = ':' && gapNext rest) || (c = '#' && behindGap) || holdsMarkup (isGap c) rest

/-- Whether the text as a whole would read as markup. -/
def isMarkup (cs : List Char) : Bool :=
  match cs with
  | [] => false
  | c :: rest =>
    opensMarkup c rest || holdsMarkup (isGap c) rest ||
      cs.take 3 == ['-', '-', '-'] || cs.take 3 == ['.', '.', '.']

/-- Whether somewhere `p` holds of a character and `q` of the next. -/
def adjacent (p q : Char → Bool) : List Char → Bool
  | c :: d :: rest => (p c && q d) || adjacent p q (d :: rest)
  | _ => false

def isSpace (c : Char) : Bool := c = ' '

def atEnds (p : Char → Bool) (cs : List Char) : Bool := cs.head?.any p || cs.getLast?.any p

inductive TextStyle where
  | plain
  | single
  | double
deriving DecidableEq

/-- Single quotes keep neither special characters nor blanks beside line breaks. -/
def allowsSingle (cs : List Char) : Bool :=
  cs.all isOrdinary && !adjacent isBreak isSpace cs && !adjacent isSpace isBreak cs

def allowsPlain (cs : List Char) : Bool :=
  allowsSingle cs && !cs.any isBreak && !atEnds isSpace cs && !isMarkup cs &&
    ScalarKind.ofPlain cs = .text

def TextStyle.of (cs : List Char) : TextStyle :=
  if allowsPlain cs then .plain else if allowsSingle cs then .single else .double

/-- Lines are folded behind this column. -/
def width : Nat := 80

def spaces (n : Nat) : List Char := List.replicate n ' '

/-- A piece of text: blanks, line breaks, or anything else. -/
inductive Run where
  | word (cs : List Char)
  | blank (count : Nat)
  | breaks (cs : List Char)

/-- One more character in front of the runs. -/
def Run.push (c : Char) : List Run → List Run
  | runs =>
    if isSpace c then
      match runs with
      | .blank n :: rest => .blank (n + 1) :: rest
      | runs => .blank 1 :: runs
    else if isBreak c then
      match runs with
      | .breaks cs :: rest => .breaks (c :: cs) :: rest
      | runs => .breaks [c] :: runs
    else
      match runs with
      | .word cs :: rest => .word (c :: cs) :: rest
      | runs => .word [c] :: runs

def runsOf (cs : List Char) : List Run := cs.foldr Run.push []

/-- Text that stands plain or between single quotes. A single blank behind the last column becomes a
line break; a line break of the text is written twice. -/
def flowRuns (write : Char → List Char) (fold : Bool) (indent column : Nat) (first : Bool) :
    List Run → List Char
  | [] => []
  | .word cs :: rest =>
    let written := cs.flatMap write
    written ++ flowRuns write fold indent (column + written.length) false rest
  | .blank n :: rest =>
    if n = 1 && width < column && fold && !first && !rest.isEmpty then
      '\n' :: spaces indent ++ flowRuns write fold indent indent false rest
    else spaces n ++ flowRuns write fold indent (column + n) false rest
  | .breaks cs :: rest =>
    (if cs.head? = some '\n' then ['\n'] else []) ++ cs ++ spaces indent ++
      flowRuns write fold indent indent false rest

def plainChars (fold : Bool) (indent column : Nat) (cs : List Char) : List Char :=
  flowRuns (fun c => [c]) fold indent column true (runsOf cs)

def doubleQuote (c : Char) : List Char := if c = '\'' then ['\'', '\''] else [c]

def singleChars (fold : Bool) (indent column : Nat) (cs : List Char) : List Char :=
  '\'' :: flowRuns doubleQuote fold indent (column + 1) true (runsOf cs) ++ ['\'']

/-- Characters that stand between double quotes as they are. -/
def isBare (c : Char) : Bool :=
  let n := c.toNat
  ((0x20 ≤ n && n ≤ 0x7E) || (0xA0 ≤ n && n ≤ 0xD7FF) || (0xE000 ≤ n && n ≤ 0xFFFD)) &&
    ! ['"', '\\', '\u2028', '\u2029', '\uFEFF'].contains c

/-- The escapes of one letter. -/
def escapeLetters : List (Char × Char) :=
  [('\x00', '0'), ('\x07', 'a'), ('\x08', 'b'), ('\t', 't'), ('\n', 'n'), ('\x0b', 'v'),
    ('\x0c', 'f'), ('\r', 'r'), ('\x1b', 'e'), ('"', '"'), ('\\', '\\'), ('\u0085', 'N'),
    ('\u00A0', '_'), ('\u2028', 'L'), ('\u2029', 'P')]

def escape (c : Char) : List Char :=
  match escapeLetters.lookup c with
  | some letter => ['\\', letter]
  | none =>
    let n := (Text.half? c).getD c.toNat
    if n ≤ 0xFF then '\\' :: 'x' :: Text.hex true 2 n
    else if n ≤ 0xFFFF then '\\' :: 'u' :: Text.hex true 4 n
    else '\\' :: 'U' :: Text.hex true 8 n

/-- A line broken inside double quotes, and the column behind it. A blank that comes next is kept by
a backslash. -/
def brokenLine (indent : Nat) (next : List Char) : List Char × Nat :=
  let kept := next.head? = some ' '
  (['\\', '\n'] ++ spaces indent ++ (if kept then ['\\'] else []),
    indent + if kept then 1 else 0)

/-- Text between double quotes. A line may be broken before a blank or behind an escape, but not
beside the quotes. -/
def doubleRest (fold : Bool) (indent column : Nat) (first fresh : Bool) : List Char → List Char
  | [] => []
  | c :: rest =>
    let inside := fold && !first && !rest.isEmpty
    if isBare c then
      if inside && (c = ' ' || fresh) && width < column then
        let (line, column) := brokenLine indent (c :: rest)
        line ++ c :: doubleRest fold indent (column + 1) false false rest
      else c :: doubleRest fold indent (column + 1) false false rest
    else
      let written := escape c
      let column := column + written.length
      if inside && width < column - 1 then
        let (line, column) := brokenLine indent rest
        written ++ line ++ doubleRest fold indent column false true rest
      else written ++ doubleRest fold indent column false true rest

def doubleChars (fold : Bool) (indent column : Nat) (cs : List Char) : List Char :=
  '"' :: doubleRest fold indent (column + 1) true false cs ++ ['"']

def textChars (fold : Bool) (indent column : Nat) (cs : List Char) : List Char :=
  match TextStyle.of cs with
  | .plain => plainChars fold indent column cs
  | .single => singleChars fold indent column cs
  | .double => doubleChars fold indent column cs

def floatNames : Decimal.Names := ⟨".nan", ".inf"⟩

/-- A float with an exponent has a point before it. -/
def floatChars (x : Float) : List Char :=
  let cs := Decimal.chars floatNames x
  if cs.contains 'e' && !cs.contains '.' then
    cs.takeWhile (· ≠ 'e') ++ ['.', '0'] ++ cs.dropWhile (· ≠ 'e')
  else cs

/-- Where an item stands: by itself, behind the dash of a list, behind a key, or behind the colon of a
key that has its own line. -/
inductive Spot where
  | root
  | item
  | value
  | farValue
deriving DecidableEq

/-- The indentation of what is inside a table at this spot. -/
def Spot.tableIndent (spot : Spot) (indent : Nat) : Nat := if spot = .root then 0 else indent + 2

/-- Lists behind a key are level with it. -/
def Spot.listIndent (spot : Spot) (indent : Nat) : Nat :=
  match spot with
  | .root => 0
  | .value => indent
  | _ => indent + 2

/-- What stands before the first entry. -/
def Spot.opening (spot : Spot) (indent : Nat) : List Char :=
  match spot with
  | .root => []
  | .value => '\n' :: spaces indent
  | _ => [' ']

/-- What stands before an item that is not parted into lines. -/
def Spot.gap (spot : Spot) : List Char := if spot = .root then [] else [' ']

/-- A key stands on the line of its value if it is short, not empty and on one line. -/
def isShortKey (cs : List Char) : Bool := !cs.isEmpty && cs.length ≤ 122 && !cs.any isBreak

/-- A key with its colon, and how the value stands behind it: its spot and column. -/
structure KeyLine where
  written : List Char
  spot : Spot
  column : Nat

def keyLine (indent : Nat) (key : List Char) : KeyLine :=
  if isShortKey key then
    let written := textChars false (indent + 2) indent key
    ⟨written ++ [':'], .value, indent + written.length + 1⟩
  else
    ⟨'?' :: ' ' :: textChars true (indent + 2) (indent + 2) key ++ '\n' :: spaces indent ++ [':'],
      .farValue, indent + 1⟩

mutual
/-- A value at a spot. `indent` is the indentation of what it stands in, `column` the column behind
the mark before it. -/
def chars (spot : Spot) (indent column : Nat) : Value → List Char
  | .null => spot.gap ++ "null".toList
  | .bool b => spot.gap ++ (if b then "true".toList else "false".toList)
  | .int n => spot.gap ++ Text.intChars n
  | .float x => spot.gap ++ floatChars x
  | .text s => spot.gap ++ textChars true (indent + 2) (column + spot.gap.length) s.toList
  | .list [] => spot.gap ++ ['[', ']']
  | .list (v :: rest) =>
    let inner := spot.listIndent indent
    spot.opening inner ++ '-' :: chars .item inner (inner + 1) v ++ charsOfItems inner rest
  | .object [] => spot.gap ++ ['{', '}']
  | .object ((key, v) :: rest) =>
    let inner := spot.tableIndent indent
    let line := keyLine inner key.toList
    spot.opening inner ++ line.written ++ chars line.spot inner line.column v ++
      charsOfEntries inner rest

def charsOfItems (indent : Nat) : List Value → List Char
  | [] => []
  | v :: rest =>
    '\n' :: spaces indent ++ '-' :: chars .item indent (indent + 1) v ++ charsOfItems indent rest

def charsOfEntries (indent : Nat) : List (String × Value) → List Char
  | [] => []
  | (key, v) :: rest =>
    let line := keyLine indent key.toList
    '\n' :: spaces indent ++ line.written ++ chars line.spot indent line.column v ++
      charsOfEntries indent rest
end

/-- Whether the document is one plain scalar, which nothing but an end mark closes. -/
def isOpenEnded : Value → Bool
  | .text s => TextStyle.of s.toList = .plain
  | .list _ | .object _ => false
  | _ => true

/-- A whole document. -/
def file (v : Value) : String :=
  String.ofList (chars .root 0 0 v ++ ['\n'] ++ if isOpenEnded v then ['.', '.', '.', '\n'] else [])

end ServiceAtlas.Yaml
