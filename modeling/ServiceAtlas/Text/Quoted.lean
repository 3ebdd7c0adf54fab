import ServiceAtlas.Text.Digits
import ServiceAtlas.Text.Half
import ServiceAtlas.Text.PrintableTable
import ServiceAtlas.Text.Ranges

/-!
Quoted text, as messages show it: single quotes unless the text holds a single quote and no double
one, and an escape for every character that has no picture.
-/

namespace ServiceAtlas.Text

def isPrintable (c : Char) : Bool :=
  if c.toNat < 0x7F then 0x20 ≤ c.toNat else !inRanges unprintableRanges c

/-- The quote that needs the fewest escapes. -/
def quoteFor (cs : List Char) : Char :=
  if cs.contains '\'' && !cs.contains '"' then '"' else '\''

def escapeIn (quote c : Char) : List Char :=
  if c = quote ∨ c = '\\' then ['\\', c]
  else if c = '\n' then ['\\', 'n']
  else if c = '\r' then ['\\', 'r']
  else if c = '\t' then ['\\', 't']
  else if isPrintable c then [c]
  else if let some n := half? c then '\\' :: 'u' :: hex false 4 n
  else if c.toNat < 0x100 then '\\' :: 'x' :: hex false 2 c.toNat
  else if c.toNat < 0x10000 then '\\' :: 'u' :: hex false 4 c.toNat
  else '\\' :: 'U' :: hex false 8 c.toNat

def quotedChars (cs : List Char) : List Char :=
  let quote := quoteFor cs
  quote :: cs.flatMap (escapeIn quote) ++ [quote]

def quoted (s : String) : String := String.ofList (quotedChars s.toList)

end ServiceAtlas.Text
