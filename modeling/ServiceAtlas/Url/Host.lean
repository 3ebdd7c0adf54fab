import ServiceAtlas.Text.Case
import ServiceAtlas.Url.Label
import ServiceAtlas.Url.Numeric
import ServiceAtlas.Url.Percent

/-!
The host of an address: numbers, a name in plain characters, or a name in any script.
-/

namespace ServiceAtlas.Url

/-- The characters that divide a name into labels. -/
def isLabelEnd (c : Char) : Bool := ['.', '\u3002', '\uFF0E', '\uFF61'].contains c

/-- A name in any script, label by label. A dot at its end stays. -/
def plainName? (cs : List Char) : Option (List Char) := do
  let labels := Text.pieces isLabelEnd cs
  let isClosed := labels.getLast? = some []
  let limit := if isClosed then Label.nameLimit + 1 else Label.nameLimit
  let plain ← (if isClosed then labels.dropLast else labels).mapM Label.plain?
  let name := List.intercalate ['.'] (if isClosed then plain ++ [[]] else plain)
  if cs.length ≤ Label.nameLimit + 1 && name.length ≤ limit then some name else none

/-- What is inside brackets. -/
def bracketed? (cs : List Char) : Option (List Char) :=
  if cs.head? = some '[' && cs.getLast? = some ']' then some cs.tail.dropLast else none

/-- The host as an address holds it; none if it is not valid. -/
def host? (cs : List Char) : Option (List Char) :=
  if cs.isEmpty then some []
  else if looksNumeric cs then (if isQuad cs then some cs else none)
  else match bracketed? cs with
    | some inner => if isLongAddress inner then some inner else none
    | none =>
      let small := (Text.lower (String.ofList cs)).toList
      if cs.all Punycode.isPlain then escape? .host small else plainName? small

end ServiceAtlas.Url
