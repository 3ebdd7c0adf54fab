import ServiceAtlas.Text.Blank
import ServiceAtlas.Text.Digits

/-!
Hosts given as numbers: four numbers with dots between them, or groups of hexadecimal digits with
colons between them.
-/

namespace ServiceAtlas.Url

/-- Whether a host consists of four runs of digits with any one character between each two. Such a host
is meant as numbers. A run of `n` digits can be read as up to `(n + 1) / 2` of the four. -/
def looksNumeric (cs : List Char) : Bool :=
  let runs := Text.pieces (fun c => !c.isDigit) cs
  runs.length ≤ 4 && runs.all (fun run => !run.isEmpty) &&
    4 ≤ (runs.map fun run => (run.length + 1) / 2).foldr (· + ·) 0

/-- A number below 256 that is written without needless zeros. -/
def isOctet (cs : List Char) : Bool :=
  let digits := cs.filterMap Text.plainDigit?
  digits.length = cs.length && 0 < cs.length && cs.length ≤ 3 && Text.valueOf 10 digits < 0x100 &&
    (cs.length = 1 || cs.head? ≠ some '0')

def isQuad (cs : List Char) : Bool :=
  let octets := Text.pieces (· = '.') cs
  octets.length = 4 && octets.all isOctet

/-- One of the eight groups of a long address. -/
def isGroup (cs : List Char) : Bool :=
  0 < cs.length && cs.length ≤ 4 && cs.all fun c => (Text.hexValue? c).isSome

/-- The last group may be given as four numbers, which stand for two groups. -/
def spreadQuad (groups : List (List Char)) : List (List Char) :=
  if groups.getLast?.any isQuad then groups.dropLast ++ [['0'], ['0']] else groups

/-- The groups on one side of the gap. There may be none. -/
def besideGap (groups : List (List Char)) : List (List Char) :=
  if groups = [[]] then [] else groups

/-- Eight groups, or fewer with a gap inside, which is an empty group. -/
def areGroups (groups : List (List Char)) : Bool :=
  match groups.tail.dropLast.findIdx? List.isEmpty with
  | some i =>
    let given := besideGap (groups.take (i + 1)) ++ besideGap (groups.drop (i + 2))
    given.length < 8 && given.all isGroup
  | none => groups.length = 8 && groups.all isGroup

/-- A long address. A zone may follow it behind a percent sign. -/
def isLongAddress (cs : List Char) : Bool :=
  let zone := cs.dropWhile (· ≠ '%')
  !cs.contains '/' && zone ≠ ['%'] && !zone.tail.contains '%' &&
    areGroups (spreadQuad (Text.pieces (· = ':') (cs.takeWhile (· ≠ '%'))))

example : isLongAddress "::1%eth0".toList ∧ isLongAddress "1:2:3:4:5:6:1.2.3.4".toList ∧
    ¬ isLongAddress "1::2::3".toList ∧ ¬ isLongAddress ":1::2".toList := by decide

end ServiceAtlas.Url
