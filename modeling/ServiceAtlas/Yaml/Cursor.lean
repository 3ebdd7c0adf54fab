import ServiceAtlas.Yaml.Writer

/-!
A place in a YAML text: what is left of it, and the line and column reached.
-/

namespace ServiceAtlas.Yaml

structure Cursor where
  rest : List Char
  index : Nat
  line : Nat
  column : Nat

namespace Cursor

def start (cs : List Char) : Cursor := ⟨cs, 0, 0, 0⟩

/-- The character `n` places on; behind the end there is none but NUL. -/
def peek (c : Cursor) (n : Nat) : Char := (c.rest[n]?).getD '\x00'

def head (c : Cursor) : Char := c.rest.headD '\x00'

def atEnd (c : Cursor) : Bool := c.rest.isEmpty

def forward (c : Cursor) : Cursor :=
  match c.rest with
  | [] => c
  | ch :: rest =>
    if isBreak ch || (ch = '\r' && rest.head? ≠ some '\n') then ⟨rest, c.index + 1, c.line + 1, 0⟩
    else ⟨rest, c.index + 1, c.line, if ch = '\uFEFF' then c.column else c.column + 1⟩

def skip : Nat → Cursor → Cursor
  | 0, c => c
  | n + 1, c => skip n c.forward

def run (p : Char → Bool) (c : Cursor) : List Char := c.rest.takeWhile p

def skipWhile (p : Char → Bool) (c : Cursor) : Cursor := c.skip (c.run p).length

def isLineEnd (ch : Char) : Bool := ch = '\r' || isBreak ch

/-- The line break at the cursor, as it is read, and what follows. Only the two separators of
Unicode stay as they are. -/
def lineBreak (c : Cursor) : List Char × Cursor :=
  match c.rest with
  | '\r' :: '\n' :: _ => (['\n'], c.skip 2)
  | '\r' :: _ | '\n' :: _ | '\u0085' :: _ => (['\n'], c.forward)
  | '\u2028' :: _ => (['\u2028'], c.forward)
  | '\u2029' :: _ => (['\u2029'], c.forward)
  | _ => ([], c)

def skipSpaces (c : Cursor) : Cursor := c.skipWhile (· = ' ')

def skipLine (c : Cursor) : Cursor := c.skipWhile fun ch => !isLineEnd ch

/-- Whether a mark of three characters stands at the cursor with a gap behind it. -/
def atMark (c : Cursor) (ch : Char) : Bool := c.rest.take 3 == [ch, ch, ch] && gapNext (c.rest.drop 3)

/-- Whether a mark that begins or ends a document stands at the cursor. -/
def atSeparator (c : Cursor) : Bool := c.atMark '-' || c.atMark '.'

def atLineEnd (c : Cursor) : Bool := c.atEnd || isLineEnd c.head

def atGap (c : Cursor) : Bool := gapNext c.rest

end Cursor
end ServiceAtlas.Yaml
