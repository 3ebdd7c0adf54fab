import ServiceAtlas.Text.Half
import ServiceAtlas.Text.Integer
import ServiceAtlas.Text.Search
import ServiceAtlas.Value

/-!
Values read into typed fields. A reading is lenient where the meaning is plain, and when it fails
it reports everything that is wrong, in the order of the fields.
-/

namespace ServiceAtlas

/-- What is wrong with the value of one field. -/
inductive Complaint where
  | missing
  | notText
  | brokenText
  | notInt
  | unreadableInt
  | oversizedInt
  | fractionalInt
  | notFinite
  | notBool
  | unreadableBool
  | notChoice
  | notList
  | notSequence
  | notTable
  | notRecord
deriving DecidableEq

def Complaint.name : Complaint → String
  | missing => "missing"
  | notText => "string_type"
  | brokenText => "string_unicode"
  | notInt => "int_type"
  | unreadableInt => "int_parsing"
  | oversizedInt => "int_parsing_size"
  | fractionalInt => "int_from_float"
  | notFinite => "finite_number"
  | notBool => "bool_type"
  | unreadableBool => "bool_parsing"
  | notChoice => "enum"
  | notList => "list_type"
  | notSequence => "tuple_type"
  | notTable => "dict_type"
  | notRecord => "model_type"

/-- A complaint and the way to the value that it is about. -/
structure Issue where
  place : List String
  complaint : Complaint
deriving DecidableEq

/-- The place as a message shows it. -/
def Issue.shownPlace (i : Issue) : String :=
  String.ofList (Text.withoutHalves (Text.join "." i.place).toList)

def Issue.message (i : Issue) : String := i.shownPlace ++ ": " ++ i.complaint.name

/-- All that is wrong with one record. -/
structure Report where
  record : String
  issues : List Issue
deriving DecidableEq

def Report.message (r : Report) : String :=
  r.record ++ " invalid [" ++ Text.join "; " (r.issues.map Issue.message) ++ "]"

/-- A value that was read, or all issues with it. -/
inductive Checked (α : Type) where
  | good (a : α)
  | bad (issues : List Issue)

namespace Checked
variable {α β : Type}

def map (f : α → β) : Checked α → Checked β
  | good a => good (f a)
  | bad issues => bad issues

/-- Both readings take place whatever comes of the first. -/
def apply (f : Checked (α → β)) (a : Checked α) : Checked β :=
  match f, a with
  | good f, good a => good (f a)
  | good _, bad issues => bad issues
  | bad issues, good _ => bad issues
  | bad issues, bad more => bad (issues ++ more)

instance : Applicative Checked where
  map := map
  pure := good
  seq f a := apply f (a ())

def complain (complaint : Complaint) : Checked α := bad [⟨[], complaint⟩]

/-- The issues are those of the value at `step`. -/
def under (step : String) : Checked α → Checked α
  | good a => good a
  | bad issues => bad (issues.map fun i => ⟨step :: i.place, i.complaint⟩)

def toExcept (record : String) : Checked α → Except Report α
  | good a => .ok a
  | bad issues => .error ⟨record, issues⟩

def toOption : Checked α → Option α
  | good a => some a
  | bad _ => none

/-- Every element is read, each at its position. -/
def all (read : Value → Checked α) (position : Nat) : List Value → Checked (List α)
  | [] => good []
  | v :: rest => List.cons <$> under (Text.nat position) (read v) <*> all read (position + 1) rest

/-- Every entry is read, each at its key. -/
def entries (read : Value → Checked α) : List (String × Value) → Checked (List (String × α))
  | [] => good []
  | (key, v) :: rest =>
    List.cons <$> (Prod.mk key <$> under key (read v)) <*> entries read rest

def any (v : Value) : Checked Value := good v

def text : Value → Checked String
  | .text s => good s
  | _ => complain .notText

def list (read : Value → Checked α) : Value → Checked (List α)
  | .list items => all read 0 items
  | _ => complain .notList

def sequence (read : Value → Checked α) : Value → Checked (List α)
  | .list items => all read 0 items
  | _ => complain .notSequence

def table (read : Value → Checked α) : Value → Checked (Table α)
  | .object fields => entries read fields
  | _ => complain .notTable

def optional (read : Value → Checked α) : Value → Checked (Option α)
  | .null => good none
  | v => some <$> read v

/-- A reading of text that has to be made of whole characters. -/
def wholeText (read : List Char → Checked α) (s : String) : Checked α :=
  if Text.holdsHalf s.toList then complain .brokenText else read s.toList

def choice (options : List (String × α)) : Value → Checked α
  | .text s =>
    wholeText (fun _ =>
      match options.lookup s with
      | some a => good a
      | none => complain .notChoice) s
  | _ => complain .notChoice

/-- The whole part of a number whose fraction, if there is one, is made of zeros. -/
def beforeZeros (cs : List Char) : List Char :=
  match cs.dropWhile (· ≠ '.') with
  | '.' :: '0' :: tail => if tail.all (· = '0') then cs.takeWhile (· ≠ '.') else cs
  | _ => cs

/-- What is left when zeros in front, and low lines among them, are passed; of nothing else the last
of them stays. -/
def afterZeros (last : Char) : List Char → List Char
  | [] => [last]
  | c :: rest => if c = '0' ∨ c = '_' then afterZeros c rest else c :: rest

def withoutZeros (cs : List Char) : List Char :=
  match cs with
  | '0' :: rest => afterZeros '0' rest
  | cs => cs

/-- A low line stands neither at an end nor beside another. -/
def isDivided (cs : List Char) : Bool :=
  cs.head? ≠ some '_' && cs.getLast? ≠ some '_' && !Text.occurs ['_', '_'] cs

def naturalOfDigits (cs : List Char) : Checked Nat :=
  match cs.mapM Text.plainDigit? with
  | none | some [] | some (0 :: _ :: _) => complain .unreadableInt
  | some ds => if Text.digitLimit < ds.length then complain .oversizedInt else good (Text.valueOf 10 ds)

/-- A number without low lines and needless zeros. -/
def intOfDigits (cs : List Char) : Checked Int :=
  match cs with
  | '-' :: rest => (fun n : Nat => -(n : Int)) <$> naturalOfDigits rest
  | cs => (fun n : Nat => (n : Int)) <$> naturalOfDigits cs

/-- The text of a number without its padding, a plus sign, zeros in front and a fraction of zeros. A
minus sign stands behind such zeros, if there are any. -/
def bareNumber (cs : List Char) : List Char :=
  match beforeZeros (Text.unpadded cs) with
  | '+' :: rest => if rest.head? = some '-' then [] else withoutZeros rest
  | cs => withoutZeros cs

def intOfText (cs : List Char) : Checked Int :=
  let body := bareNumber cs
  if isDivided body then intOfDigits (Text.without '_' body) else complain .unreadableInt

/-- Whole floats count as whole numbers as long as they fit into 64 bits. -/
def intOfFloat (x : Float) : Checked Int :=
  if !Decimal.isFinite x then complain .notFinite
  else match Decimal.toInt? x with
    | none => complain .fractionalInt
    | some n => if n.natAbs < Nat.pow 2 63 then good n else complain .oversizedInt

def int : Value → Checked Int
  | .int n => good n
  | .bool b => good (if b then 1 else 0)
  | .float x => intOfFloat x
  | .text s => wholeText intOfText s
  | _ => complain .notInt

/-- The words for yes and no, in any case. -/
def boolWords : List (String × Bool) :=
  [("0", false), ("off", false), ("f", false), ("false", false), ("n", false), ("no", false),
    ("1", true), ("on", true), ("t", true), ("true", true), ("y", true), ("yes", true)]

def boolOfInt (n : Int) : Checked Bool :=
  if n = 0 then good false else if n = 1 then good true else complain .unreadableBool

def bool : Value → Checked Bool
  | .bool b => good b
  | .int n => if -Int.pow 2 63 ≤ n && n < Int.pow 2 63 then boolOfInt n else complain .notBool
  | .float x =>
    match intOfFloat x with
    | good n => boolOfInt n
    | bad _ => complain .notBool
  | .text s =>
    wholeText (fun cs =>
      match boolWords.lookup (String.ofList (cs.map Char.toLower)) with
      | some b => good b
      | none => complain .unreadableBool) s
  | _ => complain .notBool

/-- The fields of a record. -/
def record (read : Table Value → Checked α) : Value → Checked α
  | .object fields => read fields
  | _ => complain .notRecord

/-- The fields of a record that takes fields of any other name as well. Every name has to be made of
whole characters, and nothing else is looked at when one is not. -/
def openRecord (read : Table Value → Checked α) : Value → Checked α
  | .object fields =>
    if fields.any fun e => Text.holdsHalf e.1.toList then complain .brokenText else read fields
  | _ => complain .notRecord

def required (fields : Table Value) (key : String) (read : Value → Checked α) : Checked α :=
  under key <| match fields.find? key with
    | some v => read v
    | none => complain .missing

def field (fields : Table Value) (key : String) (default : α) (read : Value → Checked α) :
    Checked α :=
  match fields.find? key with
  | some v => under key (read v)
  | none => good default

def optionalField (fields : Table Value) (key : String) (read : Value → Checked α) :
    Checked (Option α) :=
  field fields key none (optional read)

end Checked
end ServiceAtlas
