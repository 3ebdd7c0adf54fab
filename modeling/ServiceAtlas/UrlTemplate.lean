import ServiceAtlas.Text.Search

/-!
URL templates. A variable stands between braces; a plus sign after the opening brace lets it take
several segments, which a document does not tell apart.
-/

namespace ServiceAtlas.UrlTemplate

def isBrace (c : Char) : Bool := c = '{' || c = '}'

/-- Whether the next brace is a closing one. -/
def closesNext (cs : List Char) : Bool := (cs.dropWhile fun c => !isBrace c).head? = some '}'

/-- The template with a plus sign dropped after each brace that opens a variable. -/
def normalizeChars : List Char → List Char
  | [] => []
  | '{' :: '+' :: rest =>
    if closesNext rest then '{' :: normalizeChars rest else '{' :: '+' :: normalizeChars rest
  | c :: rest => c :: normalizeChars rest

def normalize (url : String) : String := String.ofList (normalizeChars url.toList)

/-- The name up to the next brace, if that brace closes and the name is not empty. -/
def enclosed? (cs : List Char) : Option (List Char) :=
  match cs.takeWhile fun c => !isBrace c with
  | [] => none
  | name => if closesNext cs then some name else none

/-- All texts between an opening brace and the brace after it, where that one closes. -/
def enclosedTexts : List Char → List (List Char)
  | [] => []
  | c :: rest =>
    if c = '{' then (enclosed? rest).toList ++ enclosedTexts rest else enclosedTexts rest

/-- The template without any plus sign. -/
def plain (url : String) : List Char := Text.without '+' url.toList

/-- The names of the placeholders, in order. -/
def placeholders (url : String) : List String := (enclosedTexts (plain url)).map String.ofList

/-- Whether a variable of this name stands in the template. -/
def mentions (plain : List Char) (name : List Char) : Bool :=
  Text.occurs ('{' :: name ++ ['}']) plain

end ServiceAtlas.UrlTemplate
