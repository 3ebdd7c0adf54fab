import ServiceAtlas.Console.Arguments
import ServiceAtlas.Console.Emoji
import ServiceAtlas.Console.Marked

/-!
Markup for coloured text: a tag in square brackets begins or ends a style, and a backslash in front
takes the bracket for itself. Tags are not shown, but their styles lie over the text between them.
-/

namespace ServiceAtlas.Markup

/-- Characters that can follow the bracket of a tag. -/
def startsTag (c : Char) : Bool := c.isLower || c = '#' || c = '/' || c = '@'

/-- What stands between the bracket before `cs` and its partner, if both make a tag, and what follows
them. -/
def tag? (cs : List Char) : Option (List Char × List Char) :=
  match cs with
  | [] => none
  | first :: rest =>
    let inner := rest.takeWhile fun c => c ≠ '[' && c ≠ ']'
    match rest.drop inner.length with
    | ']' :: after => if startsTag first then some (first :: inner, after) else none
    | _ => none

/-- Backslashes in front of a tag, its inside, and what follows it. -/
structure Bracket where
  backslashes : Nat
  inside : List Char
  after : List Char

def bracket? (cs : List Char) : Option Bracket :=
  let lead := cs.takeWhile (· = '\\')
  match cs.drop lead.length with
  | '[' :: rest => (tag? rest).map fun t => ⟨lead.length, t.1, t.2⟩
  | _ => none

/-- Text between brackets, and brackets. -/
inductive Piece where
  | char (c : Char)
  | bracket (backslashes : Nat) (inside : List Char)

/-- The pieces of a text of at most `fuel` characters. -/
def piecesUpTo : (fuel : Nat) → List Char → List Piece
  | 0, _ | _, [] => []
  | fuel + 1, c :: cs =>
    match bracket? (c :: cs) with
    | some b => .bracket b.backslashes b.inside :: piecesUpTo fuel b.after
    | none => .char c :: piecesUpTo fuel cs

def pieces (cs : List Char) : List Piece := piecesUpTo cs.length cs

def bracketed (inside : List Char) : List Char := '[' :: inside ++ [']']

def escapePiece : Piece → List Char
  | .char c => [c]
  | .bracket n inside => List.replicate (2 * n + 1) '\\' ++ bracketed inside

/-- A last backslash is doubled, so that it does not escape what follows. -/
def doubleLast (cs : List Char) : List Char :=
  match cs.reverse with
  | ['\\'] => cs ++ ['\\']
  | '\\' :: c :: _ => if c = '\\' then cs else cs ++ ['\\']
  | _ => cs

/-- Text in which nothing is a tag. -/
def escape (cs : List Char) : List Char := doubleLast ((pieces cs).flatMap escapePiece)

/-- Outside of tags a backslash before a bracket is not shown. -/
def unescapeBrackets : List Char → List Char
  | '\\' :: '[' :: rest => '[' :: unescapeBrackets rest
  | c :: rest => c :: unescapeBrackets rest
  | [] => []

/-- Text in a style. -/
def styled (style : String) (cs : List Char) : List Char :=
  bracketed style.toList ++ cs ++ bracketed ('/' :: style.toList)

/-! Reading. -/

/-- Why markup cannot be shown. -/
inductive Fault where
  | nothingToClose
  | notOpen (name : String)
  | badArguments (text : String)
  | numberMissing
deriving DecidableEq

def Fault.message : Fault → String
  | nothingToClose => "there is no tag to close"
  | notOpen name => "there is no open tag " ++ name
  | badArguments text => "these are no plain values: " ++ text
  | numberMissing => "a colour lacks a number"

/-- The name of a tag, and what stands behind an equals sign. -/
structure Tag where
  name : String
  parameters : Option String
deriving DecidableEq

inductive Token where
  | text (cs : List Char)
  | tag (t : Tag)

def tagOf (inside : List Char) : Tag :=
  let name := inside.takeWhile (· ≠ '=')
  match inside.drop name.length with
  | _ :: parameters => ⟨String.ofList name, some (String.ofList parameters)⟩
  | [] => ⟨String.ofList name, none⟩

/-- Of two backslashes before a tag one is shown; one that is left over makes the tag text. -/
def bracketTokens (backslashes : Nat) (inside : List Char) : List Token :=
  .text (List.replicate (backslashes / 2) '\\') ::
    [if backslashes % 2 = 1 then .text (bracketed inside) else .tag (tagOf inside)]

/-- The tokens of pieces; `run` holds the characters since the last bracket, backwards. -/
def tokensBehind (run : List Char) : List Piece → List Token
  | [] => [.text run.reverse]
  | .char c :: rest => tokensBehind (c :: run) rest
  | .bracket n inside :: rest =>
    .text run.reverse :: bracketTokens n inside ++ tokensBehind [] rest

def tokens (cs : List Char) : List Token := tokensBehind [] (pieces cs)

/-- A tag that was opened, and the place where it was. -/
structure Opened where
  place : Nat
  tag : Tag

/-- The style that a tag asks for. -/
def Tag.style (t : Tag) : Style :=
  Style.named (match t.parameters with
    | none => t.name
    | some parameters => t.name ++ " " ++ parameters)

/-- The arguments of a handler have to be plain values. Any other tag has a style. -/
def Tag.check (t : Tag) : Except Fault Unit :=
  match t.parameters with
  | some parameters =>
    if Text.startsWith t.name "@" && !Arguments.isCall (Text.trim parameters.toList) then
      .error (.badArguments parameters)
    else .ok ()
  | none => .ok ()

/-- Text under reading: what is shown so far, the tags that are open, the last one first, and the
regions of those that were closed, likewise. -/
structure Reading where
  chars : List Char
  opened : List Opened
  regions : List Region

namespace Reading

def start : Reading := ⟨[], [], []⟩

def closeAt (r : Reading) (o : Opened) (opened : List Opened) : Reading :=
  { r with opened, regions := ⟨o.place, r.chars.length, o.tag.style⟩ :: r.regions }

/-- Closes the tag that was opened last, of those with a name if one is given. -/
def close (r : Reading) (name : String) : Except Fault Reading := do
  let found := if name = "" then r.opened.head? else r.opened.find? fun o => o.tag.name = name
  match found with
  | none => throw (if name = "" then .nothingToClose else .notOpen name)
  | some o =>
    o.tag.check
    return r.closeAt o (if name = "" then r.opened.drop 1 else r.opened.eraseP fun o => o.tag.name = name)

def canonical (name : String) : Except Fault String :=
  match Style.canonical name with
  | .ok name => .ok name
  | .error _ => .error .numberMissing

def step (r : Reading) : Token → Except Fault Reading
  | .text cs =>
    .ok { r with chars := r.chars ++ Marked.sanitized (Emoji.replace (unescapeBrackets cs)) }
  | .tag t =>
    match t.name.toList with
    | '/' :: name => do
      let name := Text.trim name
      if name.isEmpty then r.close "" else r.close (← canonical (String.ofList name))
    | _ => do
      let name ← canonical t.name
      return { r with opened := ⟨r.chars.length, { t with name }⟩ :: r.opened }

/-- All tags that are still open are closed at the end. -/
def finish (r : Reading) : Reading :=
  r.opened.foldl (fun r o => r.closeAt o []) r

end Reading

/-- The text of markup. A region that begins earlier lies lower; of those that begin at one place the
one that was closed last does. -/
def read (cs : List Char) : Except Fault Marked := do
  let r ← (tokens cs).foldlM Reading.step .start
  let r := r.finish
  return ⟨r.chars, none, r.regions.mergeSort fun a b => a.start ≤ b.start⟩

end ServiceAtlas.Markup
