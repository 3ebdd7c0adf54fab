import ServiceAtlas.Console.EmojiTable
import ServiceAtlas.Text.Blank
import ServiceAtlas.Text.Case
import ServiceAtlas.Text.Digits
import ServiceAtlas.Text.Search

/-!
Emoji written by name: a name between two colons stands for a picture. Behind the name can stand
whether the picture is to be plain or coloured. A name that nobody knows stays as it is.
-/

namespace ServiceAtlas.Emoji

/-- The name and the picture of an entry of the table. -/
def readEntry (entry : String) : Option (String × List Char) :=
  match entry.splitOn "=" with
  | [name, codes] =>
    ((codes.splitOn "+").mapM fun (code : String) => code.toList.mapM Text.hexValue?).map
      fun numbers => (name, numbers.map fun digits => Char.ofNat (Text.valueOf 16 digits))
  | _ => none

def entries : List (String × List Char) :=
  (entriesText.splitOn "\n").flatMap fun line => (Text.wordsOf line).filterMap readEntry

def variants : List (String × Char) := [("text", '\uFE0E'), ("emoji", '\uFE0F')]

/-- A name without the variant behind it, and the variant. -/
def splitVariant (name : List Char) : List Char × Option Char :=
  let found? (v : String × Char) : Option (List Char × Option Char) :=
    (Text.after? ('-' :: v.1.toList).reverse name.reverse).map fun rest => (rest.reverse, some v.2)
  (variants.findSome? found?).getD (name, none)

/-- What a name between colons stands for. -/
def picture? (name : List Char) : Option (List Char) :=
  let (bare, variant) := splitVariant name
  (entries.lookup (Text.lower (String.ofList bare))).map (· ++ variant.toList)

/-- The name behind a colon, and what follows the colon that ends it. -/
def name? (cs : List Char) : Option (List Char × List Char) :=
  let name := cs.takeWhile fun c => c ≠ ':' && !Text.isBlank c
  match cs.drop name.length with
  | ':' :: rest => some (name, rest)
  | _ => none

/-- The pictures of a text of at most `fuel` characters. -/
def replaceUpTo : (fuel : Nat) → List Char → List Char
  | 0, cs => cs
  | _ + 1, [] => []
  | fuel + 1, ':' :: cs =>
    match name? cs with
    | none => ':' :: replaceUpTo fuel cs
    | some (name, rest) =>
      (picture? name).getD (':' :: name ++ [':']) ++ replaceUpTo fuel rest
  | fuel + 1, c :: cs => c :: replaceUpTo fuel cs

/-- The text with pictures in place of their names. -/
def replace (cs : List Char) : List Char := replaceUpTo cs.length cs

end ServiceAtlas.Emoji
