import ServiceAtlas.Text.Ranges
import ServiceAtlas.Text.Search
import ServiceAtlas.Url.Label.AllowedTable
import ServiceAtlas.Url.Label.CompositionTable
import ServiceAtlas.Url.Label.DirectionTable
import ServiceAtlas.Url.Label.JoiningTable
import ServiceAtlas.Url.Label.MarkTable
import ServiceAtlas.Url.Label.ScriptTable
import ServiceAtlas.Url.Punycode

/-!
Labels of host names in any script. A label is composed, holds allowed characters only, and runs in
one direction; on the wire it stands in plain characters.
-/

namespace ServiceAtlas.Url.Label

/-! Composition. -/

/-- The class by which marks behind one character are put in order; zero for other characters. -/
def classOf (c : Char) : Nat :=
  (classRuns.findSome? fun (first, last, n) =>
    if first ≤ c.toNat && c.toNat ≤ last then some n else none).getD 0

/-- How often a character can be taken apart. -/
def decompositionDepth : Nat := 4

def decompose : (depth : Nat) → Char → List Char
  | 0, c => [c]
  | depth + 1, c =>
    match compositions.find? fun (whole, _, _) => whole = c.toNat with
    | some (_, a, b) => decompose depth (Char.ofNat a) ++ decompose depth (Char.ofNat b)
    | none => [c]

/-- Puts a character before a text, behind the marks in front of it that have a lower class. -/
def orderIn (c : Char) : List Char → List Char
  | [] => [c]
  | d :: rest =>
    if classOf d ≠ 0 && classOf d < classOf c then d :: orderIn c rest else c :: d :: rest

def composition? (a b : Char) : Option Char :=
  (compositions.find? fun (_, first, second) => first = a.toNat ∧ second = b.toNat).map fun e =>
    Char.ofNat e.1

/-- Joins a character with marks behind it. The marks that found no partner are `held`, the last of
them of class `last`; a mark behind one of no lower class finds none either. -/
def composeFrom (c : Char) (held : List Char) (last : Nat) : List Char → List Char
  | [] => c :: held
  | d :: rest =>
    let n := classOf d
    let joined := if held.isEmpty || last < n then composition? c d else none
    match joined with
    | some whole => composeFrom whole held last rest
    | none =>
      if n = 0 then c :: held ++ composeFrom d [] 0 rest else composeFrom c (held ++ [d]) n rest

def compose (cs : List Char) : List Char :=
  match (cs.flatMap (decompose decompositionDepth)).foldr orderIn [] with
  | [] => []
  | c :: rest => composeFrom c [] 0 rest

/-! Direction. -/

inductive Direction where
  | left
  | right
  | arabicNumber
  | number
  | following
  | neutral
deriving DecidableEq

def direction (c : Char) : Direction :=
  if Text.inRanges rightRanges c then .right
  else if Text.inRanges arabicNumberRanges c then .arabicNumber
  else if Text.inRanges numberRanges c then .number
  else if Text.inRanges followingRanges c then .following
  else if Text.inRanges neutralRanges c then .neutral
  else .left

/-- A label with anything that runs from right to left begins and ends with it, numbers at the end
allowed, holds nothing that runs from left to right, and mixes no two kinds of digits. -/
def keepsDirection (cs : List Char) : Bool :=
  let ds := cs.map direction
  if ds.contains .right || ds.contains .arabicNumber then
    ds.head? = some .right && !ds.contains .left &&
      !(ds.contains .number && ds.contains .arabicNumber) &&
      (ds.reverse.dropWhile (· = .following)).head?.any (· ≠ .neutral)
  else true

/-! Characters that are allowed in some company only. -/

/-- The class of the marks that silence a vowel. -/
def silencing : Nat := 9

def followsSilence (before : List Char) : Bool := before.head?.any fun c => classOf c = silencing

/-- Whether the nearest character that is no mark joins with the side that is asked for. -/
def joins (ranges : List (Nat × Nat)) (cs : List Char) : Bool :=
  (cs.dropWhile (Text.inRanges transparentRanges)).head?.any fun c =>
    Text.inRanges dualRanges c || Text.inRanges ranges c

def isArabicDigit (c : Char) : Bool := 0x660 ≤ c.toNat && c.toNat ≤ 0x669

def isExtendedArabicDigit (c : Char) : Bool := 0x6F0 ≤ c.toNat && c.toNat ≤ 0x6F9

/-- Whether a character is allowed where it stands: `before` it, nearest first, and `after` it. -/
def fits (label before : List Char) (c : Char) (after : List Char) : Bool :=
  match c.toNat with
  | 0x200C =>
    followsSilence before || (joins leftJoiningRanges before && joins rightJoiningRanges after)
  | 0x200D => followsSilence before
  | 0xB7 => before.head? = some 'l' && after.head? = some 'l'
  | 0x375 => after.head?.any (Text.inRanges greekRanges)
  | 0x5F3 | 0x5F4 => before.head?.any (Text.inRanges hebrewRanges)
  | 0x30FB => label.any fun d => d ≠ c && Text.inRanges eastAsianRanges d
  | _ =>
    if isArabicDigit c then !label.any isExtendedArabicDigit
    else if isExtendedArabicDigit c then !label.any isArabicDigit
    else Text.inRanges allowedRanges c

def allFit (label before : List Char) : List Char → Bool
  | [] => true
  | c :: rest => fits label before c rest && allFit label (c :: before) rest

/-! Whole labels. -/

/-- Hyphens stand neither at an end nor third and fourth, where they mark a label in plain
characters. -/
def keepsHyphens (cs : List Char) : Bool :=
  (cs.drop 2).take 2 ≠ ['-', '-'] && cs.head? ≠ some '-' && cs.getLast? ≠ some '-'

/-- No label is longer than a whole name. -/
def nameLimit : Nat := 253

def isValid (cs : List Char) : Bool :=
  !cs.isEmpty && cs.length ≤ nameLimit + 1 && keepsHyphens cs &&
    !(cs.head?.any (Text.inRanges markRanges)) && allFit cs [] cs && keepsDirection cs &&
    compose cs = cs

def limit : Nat := 63

def mark : List Char := "xn--".toList

/-- What a label in plain characters stands for. -/
def meaning? (cs : List Char) : Option (List Char) :=
  match Text.after? mark cs with
  | none => some cs
  | some rest => if rest.getLast?.all (· = '-') then none else Punycode.decode? rest

/-- The label in plain characters, if it is valid. -/
def plain? (cs : List Char) : Option (List Char) :=
  let written := if cs.all Punycode.isPlain then cs else mark ++ Punycode.encode cs
  let meant := if cs.all Punycode.isPlain then meaning? cs else some cs
  if meant.any isValid && written.length ≤ limit then some written else none

end ServiceAtlas.Url.Label
