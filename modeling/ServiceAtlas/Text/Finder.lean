import ServiceAtlas.Text.Ranges
import ServiceAtlas.Text.LetterTable

/-!
Patterns that are looked for inside of text, with names for the parts of what was found. Of several
ways to match at one place the first one counts: the left side of a choice before the right one, and
more or fewer repetitions first as the pattern says.
-/

namespace ServiceAtlas.Text

/-- Whether a character belongs to a word. -/
def isWordChar (c : Char) : Bool := c = '_' || inRanges letterRanges c

/-- Which number of repetitions is tried first. -/
inductive Greed where
  | most
  | fewest
deriving DecidableEq

inductive Finder where
  | empty
  | one (test : Char → Bool)
  | both (p q : Finder)
  | either (p q : Finder)
  /-- From `least` to `most` repetitions, or without an end. -/
  | many (g : Greed) (least : Nat) (most : Option Nat) (p : Finder)
  | named (name : String) (p : Finder)
  /-- The character before is not one of these. -/
  | notBehind (test : Char → Bool)
  /-- The edge of a word, or no such edge. -/
  | edge (wanted : Bool)

/-- A part that was found. -/
structure Find where
  name : String
  start : Nat
  stop : Nat
deriving DecidableEq

/-- A place in a text: what stands before it and after it, and what was found on the way. -/
structure Scan where
  before : Option Char
  place : Nat
  rest : List Char
  finds : List Find

namespace Scan

def start (cs : List Char) : Scan := ⟨none, 0, cs, []⟩

def next? (s : Scan) : Option Scan :=
  match s.rest with
  | [] => none
  | c :: rest => some { s with before := some c, place := s.place + 1, rest }

def isEdge (s : Scan) : Bool := s.before.any isWordChar != s.rest.head?.any isWordChar

end Scan

namespace Finder

def inOrder (ps : List Finder) : Finder := ps.foldr both empty

def anyOf : List Finder → Finder
  | [] => one fun _ => false
  | [p] => p
  | p :: rest => either p (anyOf rest)

def char (c : Char) : Finder := one (· = c)

def text (s : String) : Finder := inOrder (s.toList.map char)

def oneOf (s : String) : Finder := one s.toList.contains

def maybe (p : Finder) : Finder := many .most 0 (some 1) p

def zeroOrMore (p : Finder) : Finder := many .most 0 none p

def oneOrMore (p : Finder) : Finder := many .most 1 none p

def between (least most : Nat) (p : Finder) : Finder := many .most least (some most) p

def times (n : Nat) (p : Finder) : Finder := between n n p

/-- All ways to repeat a step, of which there are at most `fuel`, in the order of their greed. -/
def repeated (g : Greed) (step : Scan → List Scan) : (fuel least : Nat) → (most : Option Nat) →
    Scan → List Scan
  | 0, least, _, s => if least = 0 then [s] else []
  | fuel + 1, least, most, s =>
    let here := if least = 0 then [s] else []
    if most = some 0 then here
    else
      let further := ((step s).filter fun t => s.place < t.place).flatMap
        (repeated g step fuel (least - 1) (most.map (· - 1)))
      match g with
      | .most => further ++ here
      | .fewest => here ++ further

/-- All ways to match from a place on, the first one first. -/
def scans : Finder → Scan → List Scan
  | empty, s => [s]
  | one test, s => if s.rest.head?.any test then s.next?.toList else []
  | both p q, s => (p.scans s).flatMap q.scans
  | either p q, s => p.scans s ++ q.scans s
  | many g least most p, s => repeated g p.scans (s.rest.length + 1) least most s
  | named name p, s =>
    (p.scans s).map fun t => { t with finds := t.finds ++ [⟨name, s.place, t.place⟩] }
  | notBehind test, s => if s.before.any test then [] else [s]
  | edge wanted, s => if s.isEdge = wanted then [s] else []

/-- What is found from a place on, in at most `fuel` steps; a match begins where the last one ended. -/
def findsUpTo (p : Finder) : (fuel : Nat) → Scan → List Find
  | 0, _ => []
  | fuel + 1, s =>
    match (p.scans { s with finds := [] }).head? with
    | some t =>
      if s.place < t.place then t.finds ++ findsUpTo p fuel t
      else (s.next?.map (findsUpTo p fuel)).getD []
    | none => (s.next?.map (findsUpTo p fuel)).getD []

/-- The named parts of all matches in a text; those without a character are left out. -/
def finds (p : Finder) (cs : List Char) : List Find :=
  (p.findsUpTo (cs.length + 1) (.start cs)).filter fun f => f.start < f.stop

end Finder
end ServiceAtlas.Text
