import ServiceAtlas.Value

/-!
Values written as JSON text: over indented lines, or on one line. Characters beyond ASCII stand as
they are, and the numbers that are not finite have the names that the reader knows.
-/

namespace ServiceAtlas.Json

def floatNames : Decimal.Names := ⟨"NaN", "Infinity"⟩

def escaped (c : Char) : List Char :=
  if c = '"' then ['\\', '"']
  else if c = '\\' then ['\\', '\\']
  else if c = '\n' then ['\\', 'n']
  else if c = '\r' then ['\\', 'r']
  else if c = '\t' then ['\\', 't']
  else if c = '\x08' then ['\\', 'b']
  else if c = '\x0c' then ['\\', 'f']
  else if c.toNat < 0x20 then '\\' :: 'u' :: Text.hex false 4 c.toNat
  else [c]

def textChars (cs : List Char) : List Char := '"' :: cs.flatMap escaped ++ ['"']

/-- What stands after a bracket and before its partner, and what stands after a comma, each at
the depth of the items. -/
structure Layout where
  edge : Nat → List Char
  next : Nat → List Char

def Layout.line (depth : Nat) : List Char := '\n' :: List.replicate (2 * depth) ' '

/-- Each item on a line of its own, two blanks deeper than what holds it. -/
def Layout.block : Layout := ⟨Layout.line, Layout.line⟩

/-- All on one line, with a blank after each comma. -/
def Layout.inline : Layout := ⟨fun _ => [], fun _ => [' ']⟩

mutual
def chars (layout : Layout) (depth : Nat) : Value → List Char
  | .null => "null".toList
  | .bool b => if b then "true".toList else "false".toList
  | .int n => Text.intChars n
  | .float x => Decimal.chars floatNames x
  | .text s => textChars s.toList
  | .list [] => ['[', ']']
  | .list (v :: rest) =>
    '[' :: layout.edge (depth + 1) ++ chars layout (depth + 1) v ++ charsOfItems layout (depth + 1) rest
      ++ layout.edge depth ++ [']']
  | .object [] => ['{', '}']
  | .object ((k, v) :: rest) =>
    '{' :: layout.edge (depth + 1) ++ textChars k.toList ++ ':' :: ' ' :: chars layout (depth + 1) v
      ++ charsOfFields layout (depth + 1) rest ++ layout.edge depth ++ ['}']

def charsOfItems (layout : Layout) (depth : Nat) : List Value → List Char
  | [] => []
  | v :: rest => ',' :: layout.next depth ++ chars layout depth v ++ charsOfItems layout depth rest

def charsOfFields (layout : Layout) (depth : Nat) : List (String × Value) → List Char
  | [] => []
  | (k, v) :: rest =>
    ',' :: layout.next depth ++ textChars k.toList ++ ':' :: ' ' :: chars layout depth v
      ++ charsOfFields layout depth rest
end

/-- The indented text, without a line end of its own. -/
def block (v : Value) : String := String.ofList (chars .block 0 v)

def inline (v : Value) : String := String.ofList (chars .inline 0 v)

/-- A whole file: the indented text and a line end. -/
def file (v : Value) : String := block v ++ "\n"

end ServiceAtlas.Json
