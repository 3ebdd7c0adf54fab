import ServiceAtlas.Text.Encoding
import ServiceAtlas.Text.Search
import ServiceAtlas.Value.Display
import ServiceAtlas.Yaml.Date

/-!
What YAML text holds: values, dates and bytes, and tables whose keys need not be text. Keys are one and
the same if they are equal as numbers or otherwise; of several values for one key the last one counts.
-/

namespace ServiceAtlas.Yaml

inductive Datum where
  | null
  | bool (b : Bool)
  | int (n : Int)
  | float (x : Float)
  | text (s : String)
  | bytes (bs : Text.Bytes)
  | date (d : Day)
  | moment (d : Day) (c : Clock)
  | list (items : List Datum)
  | table (entries : List (Datum × Datum))
  | set (items : List Datum)
  | pairs (entries : List (Datum × Datum))
  /-- The list or the table that this one stands inside of, at whatever depth. -/
  | listAgain
  | tableAgain

namespace Datum

def kindName : Datum → String
  | null => "NoneType"
  | bool _ => "bool"
  | int _ => "int"
  | float _ => "float"
  | text _ => "str"
  | bytes _ => "bytes"
  | date _ => "date"
  | moment _ _ => "datetime"
  | list _ | pairs _ | listAgain => "list"
  | table _ | tableAgain => "dict"
  | set _ => "set"

mutual
def ofValue : Value → Datum
  | .null => null
  | .bool b => bool b
  | .int n => int n
  | .float x => float x
  | .text s => text s
  | .list items => list (ofItems items)
  | .object fields => table (ofFields fields)

def ofItems : List Value → List Datum
  | [] => []
  | v :: rest => ofValue v :: ofItems rest

def ofFields : List (String × Value) → List (Datum × Datum)
  | [] => []
  | (key, v) :: rest => (text key, ofValue v) :: ofFields rest
end

/-- The number that a datum equals, if it equals a whole one. -/
def whole? : Datum → Option Int
  | bool b => some (if b then 1 else 0)
  | int n => some n
  | float x => Decimal.toInt? x
  | _ => none

/-- Whether two data are the same key. -/
def sameKey (a b : Datum) : Bool :=
  match a, b with
  | null, null => true
  | text s, text t => s = t
  | bytes bs, bytes cs => bs = cs
  | date d, date e => d = e
  | moment d c, moment e f =>
    c.offset.isSome = f.offset.isSome && instant d c = instant e f
  | float x, float y =>
    x.toBits = y.toBits || (whole? (float x)).isSome && whole? (float x) = whole? (float y)
  | a, b => (whole? a).isSome && whole? a = whole? b

def floatNames : Decimal.Names := Value.floatNames

def joinedBy (parts : List String) : String := Text.join ", " parts

def dayParts (d : Day) : List String := [Text.nat d.year, Text.nat d.month, Text.nat d.day]

def zonePart (offset : Int) : String :=
  if offset = 0 then "datetime.timezone.utc"
  else
    let days := offset / 86400
    let seconds := offset % 86400
    let parts := (if days = 0 then [] else ["days=" ++ Text.int days]) ++
      (if seconds = 0 then [] else ["seconds=" ++ Text.int seconds])
    "datetime.timezone(datetime.timedelta(" ++ joinedBy parts ++ "))"

def clockParts (c : Clock) : List String :=
  [Text.nat c.hour, Text.nat c.minute] ++
    (if c.micros ≠ 0 then [Text.nat c.second, Text.nat c.micros]
    else if c.second ≠ 0 then [Text.nat c.second] else []) ++
    match c.offset with
    | some offset => ["tzinfo=" ++ zonePart offset]
    | none => []

/-- A byte as it stands in quoted bytes. -/
def byteChars (quote : Char) (b : UInt8) : List Char :=
  if b.toNat < 0x80 then Text.escapeIn quote (Char.ofNat b.toNat)
  else '\\' :: 'x' :: Text.hex false 2 b.toNat

def quotedBytes (bs : Text.Bytes) : String :=
  let quote := Text.quoteFor (bs.map fun b => Char.ofNat b.toNat)
  String.ofList ('b' :: quote :: bs.flatMap (byteChars quote) ++ [quote])

mutual
/-- The quoted form, in which every kind of datum can be told apart. -/
def inspected : Datum → String
  | null => "None"
  | bool b => if b then "True" else "False"
  | int n => Text.int n
  | float x => Decimal.text floatNames x
  | text s => Text.quoted s
  | bytes bs => quotedBytes bs
  | date d => "datetime.date(" ++ joinedBy (dayParts d) ++ ")"
  | moment d c => "datetime.datetime(" ++ joinedBy (dayParts d ++ clockParts c) ++ ")"
  | list items => "[" ++ joinedBy (inspectedItems items) ++ "]"
  | table entries => "\x7b" ++ joinedBy (inspectedEntries entries) ++ "\x7d"
  | set items => if items.isEmpty then "set()" else "\x7b" ++ joinedBy (inspectedItems items) ++ "\x7d"
  | pairs entries => "[" ++ joinedBy (inspectedPairs entries) ++ "]"
  | listAgain => "[...]"
  | tableAgain => "\x7b...\x7d"

def inspectedItems : List Datum → List String
  | [] => []
  | d :: rest => inspected d :: inspectedItems rest

def inspectedEntries : List (Datum × Datum) → List String
  | [] => []
  | (k, v) :: rest => (inspected k ++ ": " ++ inspected v) :: inspectedEntries rest

def inspectedPairs : List (Datum × Datum) → List String
  | [] => []
  | (k, v) :: rest => ("(" ++ inspected k ++ ", " ++ inspected v ++ ")") :: inspectedPairs rest
end

/-! Numbers too long to be shown. -/

mutual
/-- Whether a number with too many digits stands somewhere inside. -/
def isOversized : Datum → Bool
  | int n => 10 ^ Text.digitLimit ≤ n.natAbs
  | list items | set items => anyOversized items
  | table entries | pairs entries => anyEntryOversized entries
  | _ => false

def anyOversized : List Datum → Bool
  | [] => false
  | d :: rest => isOversized d || anyOversized rest

def anyEntryOversized : List (Datum × Datum) → Bool
  | [] => false
  | (k, v) :: rest => isOversized k || isOversized v || anyEntryOversized rest
end

end Datum
end ServiceAtlas.Yaml
