import ServiceAtlas.Json.Reader
import ServiceAtlas.Text.Blank
import ServiceAtlas.Yaml.Malformation
import ServiceAtlas.Yaml.Scalar

/-!
Dates and times from the text of YAML scalars.
-/

namespace ServiceAtlas.Yaml

structure Day where
  year : Nat
  month : Nat
  day : Nat
deriving DecidableEq

/-- A time of day with its distance from universal time in seconds, if it has one. -/
structure Clock where
  hour : Nat
  minute : Nat
  second : Nat
  micros : Nat
  offset : Option Int
deriving DecidableEq

def isLeap (year : Nat) : Bool := year % 4 = 0 && (year % 100 ≠ 0 || year % 400 = 0)

def daysIn (year month : Nat) : Nat :=
  if month = 2 then (if isLeap year then 29 else 28)
  else if [4, 6, 9, 11].contains month then 30 else 31

def Day.isReal (d : Day) : Bool :=
  1 ≤ d.year && 1 ≤ d.month && d.month ≤ 12 && 1 ≤ d.day && d.day ≤ daysIn d.year d.month

/-- Days from the first of March of the year zero. -/
def Day.number (d : Day) : Int :=
  let year : Int := if d.month ≤ 2 then d.year - 1 else d.year
  let month : Int := (d.month + 9) % 12
  365 * year + year / 4 - year / 100 + year / 400 + (153 * month + 2) / 5 + d.day - 1

/-- Microseconds from the first of March of the year zero, in universal time. -/
def instant (d : Day) (c : Clock) : Int :=
  let seconds : Int := 3600 * c.hour + 60 * c.minute + c.second - c.offset.getD 0
  (86400 * d.number + seconds) * 1000000 + c.micros

def Clock.isReal (c : Clock) : Bool :=
  c.hour < 24 && c.minute < 60 && c.second < 60 &&
    (c.offset.getD 0).natAbs < 24 * 60 * 60

namespace Date

def number (cs : List Char) : Nat := Text.valueOf 10 (Json.digitsOf cs)

/-- Microseconds from the digits of a fraction. -/
def microsOf (cs : List Char) : Nat := number ((cs ++ List.replicate 6 '0').take 6)

/-- The distance from universal time that a zone names. -/
def offsetOf (cs : List Char) : Option Int :=
  match cs.dropWhile fun c => c = ' ' || c = '\t' with
  | [] => none
  | 'Z' :: _ => some 0
  | sign :: rest =>
    let hours := rest.takeWhile Char.isDigit
    let minutes := (rest.dropWhile Char.isDigit).drop 1
    let n : Int := number hours * 3600 + number minutes * 60
    some (if sign = '-' then -n else n)

/-- The time behind a date. -/
def clockOf (cs : List Char) : Clock :=
  let body := cs.dropWhile fun c => !c.isDigit
  let hour := body.takeWhile Char.isDigit
  let rest := (body.dropWhile Char.isDigit).drop 1
  let minute := rest.take 2
  let second := (rest.drop 3).take 2
  let rest := rest.drop 5
  let (fraction, zone) := match rest with
    | '.' :: tail => (tail.takeWhile Char.isDigit, tail.dropWhile Char.isDigit)
    | rest => ([], rest)
  ⟨number hour, number minute, number second, microsOf fraction, offsetOf zone⟩

/-- Year, month and day at the head of a text, and what follows. -/
def dayOf (cs : List Char) : Day × List Char :=
  let year := cs.take 4
  let rest := cs.drop 5
  let month := rest.takeWhile Char.isDigit
  let rest := (rest.dropWhile Char.isDigit).drop 1
  let day := rest.takeWhile Char.isDigit
  (⟨number year, number month, number day⟩, rest.dropWhile Char.isDigit)

/-- The date in a text, with the time if one follows. -/
def read (cs : List Char) : Except Malformation (Day × Option Clock) := do
  let body := ScalarKind.withoutLineEnd cs
  if !ScalarKind.taggedDatePattern.covers body then throw .noDate
  let (d, rest) := dayOf body
  if !d.isReal then throw .unreadableNumber
  match rest with
  | [] => return (d, none)
  | rest =>
    let c := clockOf rest
    if c.isReal then return (d, some c) else throw .unreadableNumber

end Date
end ServiceAtlas.Yaml
