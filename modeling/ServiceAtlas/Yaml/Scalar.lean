import ServiceAtlas.Text.Pattern

/-!
What a plain scalar of YAML 1.1 stands for. The writer leaves text plain only where it stands for
text, and the reader tells numbers, truth values and dates by the same patterns.
-/

namespace ServiceAtlas.Yaml

inductive ScalarKind where
  | null
  | bool
  | int
  | float
  | date
  | merge
  | defaultValue
  | indicator
  | text
deriving DecidableEq

namespace ScalarKind
open Text.Pattern

def nullWords : List String := ["~", "null", "Null", "NULL"]

def trueWords : List String := ["yes", "Yes", "YES", "true", "True", "TRUE", "on", "On", "ON"]

def falseWords : List String := ["no", "No", "NO", "false", "False", "FALSE", "off", "Off", "OFF"]

def sign : Text.Pattern := maybe (oneOf ['+', '-'])

def digitOrLine : Text.Pattern := one fun c => c.isDigit || c = '_'

def firstDigit : Text.Pattern := one fun c => c.isDigit && c ≠ '0'

/-- A number below sixty behind a colon, of one digit or two. -/
def sixtieth : Text.Pattern :=
  inOrder [char ':', maybe (oneOf ['0', '1', '2', '3', '4', '5']), digit]

def intPattern : Text.Pattern :=
  anyOf
    [inOrder [sign, char '0', char 'b', some (oneOf ['0', '1', '_'])],
      inOrder [sign, char '0', some (oneOf ['0', '1', '2', '3', '4', '5', '6', '7', '_'])],
      inOrder [sign, either (char '0') (both firstDigit (many digitOrLine))],
      inOrder [sign, char '0', char 'x',
        some (one fun c => c.isDigit || ('a' ≤ c && c ≤ 'f') || ('A' ≤ c && c ≤ 'F') || c = '_')],
      inOrder [sign, firstDigit, many digitOrLine, some sixtieth]]

def exponent : Text.Pattern :=
  maybe (inOrder [oneOf ['e', 'E'], oneOf ['+', '-'], some digit])

def word (s : String) : Text.Pattern := inOrder (s.toList.map char)

def floatPattern : Text.Pattern :=
  anyOf
    [inOrder [sign, digit, many digitOrLine, char '.', many digitOrLine, exponent],
      inOrder [char '.', digit, many digitOrLine, exponent],
      inOrder [sign, digit, many digitOrLine, some sixtieth, char '.', many digitOrLine],
      inOrder [sign, char '.', anyOf [word "inf", word "Inf", word "INF"]],
      inOrder [char '.', anyOf [word "nan", word "NaN", word "NAN"]]]

def oneOrTwo : Text.Pattern := both digit (maybe digit)

def two : Text.Pattern := exactly 2 digit

def space : Text.Pattern := oneOf [' ', '\t']

def zone : Text.Pattern :=
  both (many space)
    (either (char 'Z')
      (inOrder [oneOf ['+', '-'], oneOrTwo, maybe (both (char ':') two)]))

/-- Year, month and day, the last two of one digit or two. -/
def dayPattern : Text.Pattern := inOrder [exactly 4 digit, char '-', oneOrTwo, char '-', oneOrTwo]

def clockPattern : Text.Pattern :=
  inOrder
    [either (oneOf ['T', 't']) (some space), oneOrTwo, char ':', two, char ':', two,
      maybe (both (char '.') (many digit)), maybe zone]

/-- A plain scalar is a date without a time only if month and day have two digits. -/
def datePattern : Text.Pattern :=
  either (inOrder [exactly 4 digit, char '-', two, char '-', two]) (both dayPattern clockPattern)

/-- What a tag for dates accepts. -/
def taggedDatePattern : Text.Pattern := both dayPattern (maybe clockPattern)

def startsNumber (c : Char) : Bool := c.isDigit || c = '+' || c = '-' || c = '.'

/-- The kind of a scalar that begins as a number may. -/
def ofNumberLike (cs : List Char) : ScalarKind :=
  if floatPattern.covers cs then float
  else if intPattern.covers cs then int
  else if datePattern.covers cs then date
  else text

/-- The text without a line end behind its last character, which changes nothing. -/
def withoutLineEnd (cs : List Char) : List Char :=
  if cs.getLast? = .some '\n' then cs.dropLast else cs

def ofPlain (cs : List Char) : ScalarKind :=
  match cs with
  | [] => null
  | c :: _ =>
    let body := withoutLineEnd cs
    if startsNumber c then ofNumberLike body
    else
      let s := String.ofList body
      if trueWords.contains s || falseWords.contains s then bool
      else if nullWords.contains s then null
      else if s = "<<" then merge
      else if s = "=" then defaultValue
      else if ["!", "&", "*"].contains s then indicator
      else text

end ScalarKind
end ServiceAtlas.Yaml
