import ServiceAtlas.Console.Colour
import ServiceAtlas.Console.ThemeTable

/-!
How text looks on a terminal. A style is written as words, such as `bold red on white`; styles can
be laid over each other, and what the upper one says nothing of shows through from below.
-/

namespace ServiceAtlas

/-- What a style turns on or off. -/
inductive Style.Attribute where
  | bold | dim | italic | underline | blink | blink2 | reverse | conceal | strike | underline2
  | frame | encircle | overline
deriving DecidableEq

namespace Style.Attribute

/-- All attributes in the order in which they are written, each with its code for a terminal. -/
def all : List (Attribute × Nat) :=
  [(bold, 1), (dim, 2), (italic, 3), (underline, 4), (blink, 5), (blink2, 6), (reverse, 7),
    (conceal, 8), (strike, 9), (underline2, 21), (frame, 51), (encircle, 52), (overline, 53)]

def name : Attribute → String
  | bold => "bold"
  | dim => "dim"
  | italic => "italic"
  | underline => "underline"
  | blink => "blink"
  | blink2 => "blink2"
  | reverse => "reverse"
  | conceal => "conceal"
  | strike => "strike"
  | underline2 => "underline2"
  | frame => "frame"
  | encircle => "encircle"
  | overline => "overline"

/-- Shorter names. -/
def aliases : List (String × Attribute) :=
  [("b", bold), ("d", dim), ("i", italic), ("u", underline), ("r", reverse), ("c", conceal),
    ("s", strike), ("uu", underline2), ("o", overline)]

def ofName? (word : String) : Option Attribute :=
  (aliases.lookup word).or ((all.map Prod.fst).find? fun a => a.name = word)

end Style.Attribute

/-- A style. Of several settings of one attribute the first one counts. -/
structure Style where
  settings : List (Style.Attribute × Bool) := []
  front : Option Colour := none
  back : Option Colour := none
  /-- The address that the text leads to. It is not written out. -/
  link : Option String := none
deriving DecidableEq

namespace Style

def plain : Style := {}

/-- One style laid over another. -/
def atop (upper lower : Style) : Style where
  settings := upper.settings ++ lower.settings
  front := upper.front <|> lower.front
  back := upper.back <|> lower.back
  link := upper.link <|> lower.link

/-- Styles laid over each other, the first one at the bottom. -/
def overAll (styles : List Style) : Style := styles.foldl (fun below s => s.atop below) plain

def withoutColours (s : Style) : Style := { s with front := none, back := none }

/-- The words of a style. An attribute that was set twice has its last setting. -/
def readWords (s : Style) : List String → Except Colour.Fault Style
  | [] => .ok s
  | word :: rest =>
    let name := Text.lower word
    if name = "on" then
      match rest with
      | [] => .error .unknown
      | word :: rest => do
        let c ← Colour.read word
        readWords { s with back := some c } rest
    else if name = "not" then
      match rest with
      | [] => .error .unknown
      | word :: rest =>
        match Attribute.ofName? word with
        | some a => readWords { s with settings := (a, false) :: s.settings } rest
        | none => .error .unknown
    else if name = "link" then
      match rest with
      | [] => .error .unknown
      | word :: rest => readWords { s with link := some word } rest
    else
      match Attribute.ofName? name with
      | some a => readWords { s with settings := (a, true) :: s.settings } rest
      | none => do
        let c ← Colour.read word
        readWords { s with front := some c } rest

def noneName : String := "none"

def read (definition : String) : Except Colour.Fault Style :=
  if Text.strip definition = noneName then .ok plain else readWords plain (Text.wordsOf definition)

/-- The words that say the same as a style, in a fixed order. -/
def words (s : Style) : List String :=
  (Attribute.all.filterMap fun (a, _) =>
      (s.settings.lookup a).map fun on => if on then a.name else "not " ++ a.name) ++
    s.front.toList.map Colour.name ++ s.back.toList.map ("on " ++ ·.name) ++
    s.link.toList.map ("link " ++ ·)

def definition (s : Style) : String :=
  match s.words with
  | [] => noneName
  | ws => Text.join " " ws

/-- The one way in which styles that say the same are written. What is no style keeps its words. -/
def canonical (definition : String) : Except Colour.Fault String :=
  match read definition with
  | .ok s => .ok s.definition
  | .error .unknown => .ok (Text.lower (Text.strip definition))
  | .error .numberMissing => .error .numberMissing

/-- The style that a name or a definition stands for; any other text leaves text as it is. -/
def named (definition : String) : Style :=
  (read ((theme.lookup definition).getD definition)).toOption.getD plain

/-- The numbers that tell a terminal of a style. -/
def codes (depth : Depth) (s : Style) : List Nat :=
  (Attribute.all.filterMap fun (a, code) => if s.settings.lookup a = some true then some code else none) ++
    s.front.toList.flatMap (fun c => (c.shade.within depth).codes .front) ++
    s.back.toList.flatMap (fun c => (c.shade.within depth).codes .back)

example : (named "b red on #ffffff").codes .sixteen = [1, 31, 107] ∧
    (named "repr.number").definition = "bold not italic cyan" := by decide +kernel

end Style
end ServiceAtlas
