import ServiceAtlas.Text.Blank

/-!
Calls as they stand in a tag: the name of a handler and, in brackets, plain values. Only whether a
text is such a call matters; what it calls is never run.
-/

namespace ServiceAtlas.Arguments

def isNameChar (c : Char) : Bool := c.isAlphanum || c = '_' || c = '.' || 0x7F < c.toNat

/-- What follows a text in quotes. -/
def afterQuoted (quote : Char) : List Char → Option (List Char)
  | [] | '\n' :: _ => none
  | '\\' :: _ :: rest => afterQuoted quote rest
  | c :: rest => if c = quote then some rest else afterQuoted quote rest

def keywords : List String := ["None", "True", "False"]

/-- What follows a number or a keyword. -/
def afterWord (cs : List Char) : Option (List Char) :=
  let cs := match cs with
    | '-' :: rest | '+' :: rest => rest
    | cs => cs
  let word := cs.takeWhile isNameChar
  let isNumber := word.any Char.isDigit && word.all fun c => c.isDigit || c = '.' || c = '_'
  if isNumber || keywords.contains (String.ofList word) then some (cs.drop word.length) else none

mutual
/-- What follows a value that nests at most `fuel` deep. -/
def afterValue : (fuel : Nat) → List Char → Option (List Char)
  | 0, _ => none
  | fuel + 1, cs =>
    match Text.trimLeft cs with
    | '(' :: rest => afterItems fuel ')' rest
    | '[' :: rest => afterItems fuel ']' rest
    | '\x7b' :: rest => afterItems fuel '\x7d' rest
    | '"' :: rest => afterQuoted '"' rest
    | '\'' :: rest => afterQuoted '\'' rest
    | cs => afterWord cs

/-- What follows values with commas or colons between them, and the bracket behind them. -/
def afterItems : (fuel : Nat) → (closing : Char) → List Char → Option (List Char)
  | 0, _, _ => none
  | fuel + 1, closing, cs =>
    match Text.trimLeft cs with
    | [] => none
    | c :: rest =>
      if c = closing then some rest
      else
        match afterValue fuel (c :: rest) with
        | none => none
        | some rest =>
          match Text.trimLeft rest with
          | ',' :: rest => afterItems fuel closing rest
          | ':' :: rest => if closing = '\x7d' then afterItems fuel closing rest else none
          | d :: rest => if d = closing then some rest else none
          | [] => none
end

def isValue (cs : List Char) : Bool :=
  match afterValue (cs.length + 1) cs with
  | some rest => rest.all Text.isBlank
  | none => false

/-- Whether the text is a name, a name with values in brackets, or a value. -/
def isCall (cs : List Char) : Bool :=
  let body := cs.dropWhile isNameChar
  body.isEmpty || (body.head? = some '(' && isValue body) || isValue cs

end ServiceAtlas.Arguments
