/-!
What can be wrong with a YAML text.
-/

namespace ServiceAtlas.Yaml

inductive Malformation where
  | unprintable
  | noToken
  | misplacedEntry
  | misplacedKey
  | misplacedValue
  | missingColon
  | directive
  | anchorName
  | tagName
  | blockHeader
  | unclosedText
  | separatorInText
  | escape
  | codePoint
  | unexpectedToken
  | severalDocuments
  | undefinedTag
  | undefinedAlias
  | repeatedAnchor
  | noReading
  | otherNode
  | unhashableKey
  | emptyNumber
  | unreadableNumber
  | unknownWord
  | noDate
  | noDateText
  | oversized
  | selfContained
  | endless
deriving DecidableEq

def Malformation.message : Malformation → String
  | unprintable => "a special character is not allowed"
  | noToken => "a character cannot start any token"
  | misplacedEntry => "a list item is not allowed here"
  | misplacedKey => "a key is not allowed here"
  | misplacedValue => "a value is not allowed here"
  | missingColon => "a colon is missing behind a key"
  | directive => "a directive is malformed"
  | anchorName => "an anchor or a reference to one has no proper name"
  | tagName => "a tag has no proper name"
  | blockHeader => "the head of a block of text is malformed"
  | unclosedText => "a quoted text is not closed"
  | separatorInText => "a quoted text holds a document separator"
  | escape => "an escape is malformed"
  | codePoint => "an escape names no character"
  | unexpectedToken => "a token is not expected here"
  | severalDocuments => "there is more than one document"
  | undefinedTag => "a tag handle is not defined"
  | undefinedAlias => "an alias is not defined"
  | repeatedAnchor => "an anchor is defined twice"
  | noReading => "a tag has no reading"
  | otherNode => "a tag does not fit its node"
  | unhashableKey => "a list or table is no key"
  | emptyNumber => "a number has no digits"
  | unreadableNumber => "a number is malformed"
  | unknownWord => "a word is neither true nor false"
  | noDate => "a date is malformed"
  | noDateText => "a date is no scalar"
  | oversized => "a number is out of range"
  | selfContained => "a key holds itself"
  | endless => "a node leads to itself without an end"

/-- The values of scalars that are out of range are not looked for: they end a run as a thing that
was never expected. -/
def Malformation.isExpected : Malformation → Bool
  | codePoint | emptyNumber | unreadableNumber | unknownWord | noDate | noDateText | oversized
  | endless => false
  | _ => true

end ServiceAtlas.Yaml
