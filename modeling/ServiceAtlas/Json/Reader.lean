import ServiceAtlas.Stack
import ServiceAtlas.Text.Half
import ServiceAtlas.Text.Integer
import ServiceAtlas.Text.Search
import ServiceAtlas.Value

/-!
JSON text read as values. Blanks may stand between any two items; of several fields with one key
the last value counts, at the place of the first; the names of the numbers that are not finite are
read as well. A fault names its place in the text.
-/

namespace ServiceAtlas.Json

/-- What is wrong at the place of a fault. -/
inductive Cause where
  | expectingValue
  | expectingKey
  | expectingColon
  | expectingComma
  | extraData
  | unterminatedText
  | controlCharacter
  | badEscape
  | badHexEscape
  | byteOrderMark
  | tooManyDigits (count : Nat)
  | tooDeep

def Cause.message : Cause → String
  | expectingValue => "Expecting value"
  | expectingKey => "Expecting property name enclosed in double quotes"
  | expectingColon => "Expecting ':' delimiter"
  | expectingComma => "Expecting ',' delimiter"
  | extraData => "Extra data"
  | unterminatedText => "Unterminated string starting at"
  | controlCharacter => "Invalid control character at"
  | badEscape => "Invalid \\escape"
  | badHexEscape => "Invalid \\uXXXX escape"
  | byteOrderMark => "Unexpected UTF-8 BOM (decode using utf-8-sig)"
  | tooManyDigits count =>
    "Exceeds the limit (" ++ Text.nat Text.digitLimit ++
      " digits) for integer string conversion: value has " ++ Text.nat count ++
      " digits; use sys.set_int_max_str_digits() to increase the limit"
  | tooDeep => "maximum recursion depth exceeded while decoding a JSON array from a unicode string"

/-- The text keeps to the grammar and still asks for too much. -/
def Cause.isExcess : Cause → Bool
  | tooManyDigits _ | tooDeep => true
  | _ => false

/-- A fault and the text from its place on. -/
structure Fault where
  cause : Cause
  rest : List Char

/-- A fault and how many characters stand before it. -/
structure Error where
  cause : Cause
  offset : Nat
  before : List Char

def Fault.within (whole : List Char) (f : Fault) : Error :=
  let offset := whole.length - f.rest.length
  ⟨f.cause, offset, whole.take offset⟩

/-- Lines and columns count from one, offsets from zero. -/
def Error.place (e : Error) : String :=
  let line := e.before.count '\n' + 1
  let column := (e.before.reverse.takeWhile (· ≠ '\n')).length + 1
  "line " ++ Text.nat line ++ " column " ++ Text.nat column ++ " (char " ++ Text.nat e.offset ++ ")"

/-- An excess has no place. -/
def Error.message (e : Error) : String :=
  if e.cause.isExcess then e.cause.message else e.cause.message ++ ": " ++ e.place

def isSpace (c : Char) : Bool := c = ' ' || c = '\t' || c = '\n' || c = '\r'

def skipSpace (cs : List Char) : List Char := cs.dropWhile isSpace

def hex4? (a b c d : Char) : Option Nat := do
  return Text.valueOf 16 [← Text.hexValue? a, ← Text.hexValue? b, ← Text.hexValue? c, ← Text.hexValue? d]

def simpleEscape? : Char → Option Char
  | '"' => some '"'
  | '\\' => some '\\'
  | '/' => some '/'
  | 'b' => some '\x08'
  | 'f' => some '\x0c'
  | 'n' => some '\n'
  | 'r' => some '\r'
  | 't' => some '\t'
  | _ => none

/-- The number that the four hexadecimal digits after an escape sign denote. The fourth is never the
last character of the text. -/
def readUnit (cs : List Char) : Except Fault (Nat × List Char) :=
  match cs with
  | a :: b :: c :: d :: next :: rest =>
    match hex4? a b c d with
    | some n => .ok (n, next :: rest)
    | none => .error ⟨.badHexEscape, 'u' :: cs⟩
  | _ => .error ⟨.badHexEscape, 'u' :: cs⟩

/-- What follows an escape that begins here, if there is room for it and one character more. -/
def nextUnit? (cs : List Char) : Option (List Char) :=
  match cs with
  | '\\' :: 'u' :: rest => if 5 ≤ rest.length then some rest else none
  | _ => none

/-- The character of an escape of four hexadecimal digits; the two halves of a pair make one. -/
def readHex (cs : List Char) : Except Fault (Char × List Char) := do
  let (n, rest) ← readUnit cs
  match Text.isHighHalf n, nextUnit? rest with
  | true, some low =>
    let (m, more) ← readUnit low
    return if Text.isLowHalf m then (Text.joinHalves n m, more) else (Text.charOfUnit n, rest)
  | _, _ => return (Text.charOfUnit n, rest)

/-- The character that an escape denotes, once the backslash is passed. -/
def readEscape (opening cs : List Char) : Except Fault (Char × List Char) :=
  match cs with
  | [] => .error ⟨.unterminatedText, opening⟩
  | 'u' :: rest => readHex rest
  | c :: rest =>
    match simpleEscape? c with
    | none => .error ⟨.badEscape, '\\' :: c :: rest⟩
    | some e => .ok (e, rest)

theorem readUnit_length {cs rest : List Char} {n : Nat} (h : readUnit cs = .ok (n, rest)) :
    rest.length ≤ cs.length := by
  unfold readUnit at h
  split at h
  · split at h <;> simp_all
    obtain ⟨-, rfl⟩ := h
    simp only [List.length_cons]
    omega
  · cases h

theorem nextUnit?_length {cs rest : List Char} (h : nextUnit? cs = some rest) :
    rest.length ≤ cs.length := by
  unfold nextUnit? at h
  split at h
  · split at h <;> simp_all
    omega
  · cases h

theorem readHex_length {cs rest : List Char} {c : Char} (h : readHex cs = .ok (c, rest)) :
    rest.length ≤ cs.length := by
  unfold readHex at h
  cases hu : readUnit cs with
  | error _ => rw [hu] at h; cases h
  | ok first =>
    obtain ⟨n, next⟩ := first
    have hn := readUnit_length hu
    rw [hu] at h
    simp only [bind, Except.bind] at h
    split at h
    · next hx =>
      have hl := nextUnit?_length hx
      split at h
      · cases h
      · next second hs =>
        obtain ⟨m, more⟩ := second
        have hm := readUnit_length hs
        simp only [pure, Except.pure, Except.ok.injEq] at h
        split at h <;> (simp only [Prod.mk.injEq] at h; obtain ⟨-, rfl⟩ := h; omega)
    · simp only [pure, Except.pure, Except.ok.injEq, Prod.mk.injEq] at h
      obtain ⟨-, rfl⟩ := h
      exact hn

theorem readEscape_length {opening cs rest : List Char} {c : Char}
    (h : readEscape opening cs = .ok (c, rest)) : rest.length ≤ cs.length := by
  unfold readEscape at h
  split at h
  · cases h
  · have := readHex_length h
    simp only [List.length_cons]
    omega
  · split at h
    · cases h
    · simp only [Except.ok.injEq, Prod.mk.injEq] at h
      obtain ⟨-, rfl⟩ := h
      simp

/-- The text up to the closing quote, once the opening one is passed. -/
def readText (opening cs : List Char) : Except Fault (List Char × List Char) :=
  match cs with
  | [] => .error ⟨.unterminatedText, opening⟩
  | '"' :: rest => .ok ([], rest)
  | '\\' :: rest =>
    match h : readEscape opening rest with
    | .error fault => .error fault
    | .ok (c, more) =>
      have : more.length ≤ rest.length := readEscape_length h
      (readText opening more).map fun (text, rest) => (c :: text, rest)
  | c :: rest =>
    if c.toNat < 0x20 then .error ⟨.controlCharacter, c :: rest⟩
    else (readText opening rest).map fun (text, rest) => (c :: text, rest)
termination_by cs.length

def digitsOf (cs : List Char) : List Nat := cs.map fun c => c.toNat - 0x30

/-- The digits after a point, where a digit follows the point. -/
def readFraction (cs : List Char) : List Char × List Char :=
  match cs with
  | '.' :: rest =>
    match rest.takeWhile Char.isDigit with
    | [] => ([], cs)
    | ds => (ds, rest.dropWhile Char.isDigit)
  | _ => ([], cs)

/-- The exponent, where an `e` is followed by a digit or by a sign and a digit. -/
def readExponent (cs : List Char) : Option Int × List Char :=
  match cs with
  | e :: rest =>
    if e = 'e' ∨ e = 'E' then
      let (negative, rest) := match rest with
        | '-' :: rest => (true, rest)
        | '+' :: rest => (false, rest)
        | rest => (false, rest)
      match rest.takeWhile Char.isDigit with
      | [] => (none, cs)
      | ds =>
        let n : Int := Text.valueOf 10 (digitsOf ds)
        (some (if negative then -n else n), rest.dropWhile Char.isDigit)
    else (none, cs)
  | [] => (none, cs)

/-- A number with neither a fraction nor an exponent is whole; it has `digits` digits at most. -/
def readUnsigned (digits : Nat) (negative : Bool) (whole rest : List Char) :
    Except Fault (Value × List Char) :=
  let (fraction, rest) := readFraction rest
  let (exponent, rest) := readExponent rest
  if !fraction.isEmpty || exponent.isSome then
    let mantissa := Text.valueOf 10 (digitsOf (whole ++ fraction))
    .ok (.float (Decimal.toFloat negative mantissa (exponent.getD 0 - fraction.length)), rest)
  else if digits < whole.length then .error ⟨.tooManyDigits whole.length, rest⟩
  else
    let n : Int := Text.valueOf 10 (digitsOf whole)
    .ok (.int (if negative then -n else n), rest)

/-- The number at the head of the text; a zero in front stands alone. -/
def readNumber (digits : Nat) (cs : List Char) : Except Fault (Value × List Char) :=
  let (negative, body) := match cs with
    | '-' :: rest => (true, rest)
    | cs => (false, cs)
  match body with
  | '0' :: rest => readUnsigned digits negative ['0'] rest
  | c :: rest =>
    if c.isDigit then
      readUnsigned digits negative (c :: rest.takeWhile Char.isDigit) (rest.dropWhile Char.isDigit)
    else .error ⟨.expectingValue, cs⟩
  | [] => .error ⟨.expectingValue, cs⟩

/-- The words that stand for a value. -/
def constants : List (String × Value) :=
  [("null", .null), ("true", .bool true), ("false", .bool false), ("NaN", .float (0.0 / 0.0)),
    ("Infinity", .float (1.0 / 0.0)), ("-Infinity", .float (-(1.0 / 0.0)))]

def readConstant? (cs : List Char) : Option (Value × List Char) :=
  constants.findSome? fun (word, v) => (Text.after? word.toList cs).map fun rest => (v, rest)

mutual
/-- The value at the head of the text, with `levels` still open to what stands inside and numbers of
`digits` at most. Each nested step uses one unit of `fuel`. -/
def readValue (digits fuel levels : Nat) (cs : List Char) : Except Fault (Value × List Char) :=
  match fuel with
  | 0 => .error ⟨.expectingValue, cs⟩
  | fuel + 1 =>
    match cs, levels with
    | '"' :: rest, _ => do
      let (text, rest) ← readText cs rest
      return (.text (String.ofList text), rest)
    | '[' :: _, 0 | '{' :: _, 0 => .error ⟨.tooDeep, cs⟩
    | '[' :: rest, levels + 1 =>
      match skipSpace rest with
      | ']' :: rest => return (.list [], rest)
      | rest => do
        let (items, rest) ← readItems digits fuel levels rest
        return (.list items, rest)
    | '{' :: rest, levels + 1 =>
      match skipSpace rest with
      | '}' :: rest => return (.object [], rest)
      | rest => do
        let (fields, rest) ← readFields digits fuel levels rest
        return (.object (Table.ofEntries fields), rest)
    | cs, _ =>
      match readConstant? cs with
      | some found => return found
      | none => readNumber digits cs

/-- The items up to the closing bracket, the first one at the head of the text. -/
def readItems (digits fuel levels : Nat) (cs : List Char) : Except Fault (List Value × List Char) :=
  match fuel with
  | 0 => .error ⟨.expectingValue, cs⟩
  | fuel + 1 => do
    let (v, rest) ← readValue digits fuel levels cs
    match skipSpace rest with
    | ']' :: rest => return ([v], rest)
    | ',' :: rest =>
      let (vs, rest) ← readItems digits fuel levels (skipSpace rest)
      return (v :: vs, rest)
    | rest => .error ⟨.expectingComma, rest⟩

/-- The fields up to the closing brace, the first key at the head of the text. -/
def readFields (digits fuel levels : Nat) (cs : List Char) :
    Except Fault (List (String × Value) × List Char) :=
  match fuel with
  | 0 => .error ⟨.expectingKey, cs⟩
  | fuel + 1 =>
    match cs with
    | '"' :: rest => do
      let (key, rest) ← readText cs rest
      match skipSpace rest with
      | ':' :: rest =>
        let (v, rest) ← readValue digits fuel levels (skipSpace rest)
        match skipSpace rest with
        | '}' :: rest => return ([(String.ofList key, v)], rest)
        | ',' :: rest =>
          let (more, rest) ← readFields digits fuel levels (skipSpace rest)
          return ((String.ofList key, v) :: more, rest)
        | rest => .error ⟨.expectingComma, rest⟩
      | rest => .error ⟨.expectingColon, rest⟩
    | cs => .error ⟨.expectingKey, cs⟩
end

/-- Enough for every text of this length: a step that passes no character is followed by one
that does. -/
def fuelFor (cs : List Char) : Nat := 2 * cs.length + 2

variable [Stack]

/-- The one value that a text holds, with nothing but blanks around it. -/
def readWhole (cs : List Char) : Except Error Value :=
  match readValue Text.digitLimit (fuelFor cs) (Stack.levels .readJson) (skipSpace cs) with
  | .error fault => .error (fault.within cs)
  | .ok (v, rest) =>
    match skipSpace rest with
    | [] => .ok v
    | rest => .error (Fault.within cs ⟨.extraData, rest⟩)

/-- The value in a text that was read from a file. A mark of the byte order should be gone by then. -/
def readChars (cs : List Char) : Except Error Value :=
  match cs with
  | '\uFEFF' :: _ => .error (Fault.within cs ⟨.byteOrderMark, cs⟩)
  | cs => readWhole cs

def read (s : String) : Except Error Value := readChars s.toList

end ServiceAtlas.Json
