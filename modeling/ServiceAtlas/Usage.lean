import ServiceAtlas.Noted
import ServiceAtlas.Text.Blank
import ServiceAtlas.Text.Case
import ServiceAtlas.UrlTemplate

/-!
Usage lines. A function is shown with its arguments behind its name: `[name]` and `[<name>]` are
optional and travel in the query; `<name>` is required and travels in the path if the URL has a place
for it or the method carries no body, and in the body otherwise. Other tokens are skipped.
-/

namespace ServiceAtlas

/-- Where an argument travels in a request. -/
inductive Placement where
  | path
  | query
  | body
deriving DecidableEq

def Placement.name : Placement → String
  | path => "path"
  | query => "query"
  | body => "body"

structure Parameter where
  name : String
  placement : Placement
  isOptional : Bool
deriving DecidableEq

namespace Usage

inductive Token where
  | optional (name : List Char)
  | required (name : List Char)
deriving DecidableEq

def Token.name : Token → List Char
  | optional name => name
  | required name => name

/-- What stands between two brackets that begin and end a text. -/
def within? (opening closing : Char) : List Char → Option (List Char)
  | [] => none
  | c :: rest => if c = opening ∧ rest.getLast? = some closing then some rest.dropLast else none

def isBracket (c : Char) : Bool := ['[', ']', '<', '>', '{', '}'].contains c

/-- A name holds no bracket of any kind. -/
def isName (cs : List Char) : Bool := !cs.isEmpty && cs.all fun c => !isBracket c

def readToken? (cs : List Char) : Option Token :=
  match within? '[' ']' cs with
  | some inner =>
    let name := (within? '<' '>' inner).getD inner
    if isName name then some (.optional name) else none
  | none =>
    match within? '<' '>' cs with
    | some name => if isName name then some (.required name) else none
    | none => none

/-- Requests of these methods carry no body. -/
def bodiless : List String := ["GET", "DELETE"]

/-- What the tokens are read against: the template without plus signs, the method in capitals, and
the declared arguments, if they are known. -/
structure Setting where
  template : List Char
  method : String
  known : Option (List String)

def Setting.make (url method : String) (known : Option (List String)) : Setting :=
  ⟨UrlTemplate.plain url, Text.upper method, known⟩

def Setting.knows (s : Setting) (name : String) : Bool :=
  match s.known with
  | some names => names.contains name
  | none => true

def place (s : Setting) (name : List Char) : Noted Placement :=
  if UrlTemplate.mentions s.template name then return .path
  else if bodiless.contains s.method then do
    Noted.note (.placedByMethod (String.ofList name) s.method)
    return .path
  else return .body

def parameterOf (s : Setting) : Token → Noted Parameter
  | .optional name => return ⟨String.ofList name, .query, true⟩
  | .required name => return ⟨String.ofList name, ← place s name, false⟩

/-- The parameter of a token, unless the token is unreadable, its name undeclared or `taken`. -/
def readParameter (s : Setting) (taken : List String) (token : List Char) :
    Noted (Option Parameter) :=
  match readToken? token with
  | none => do
    Noted.note (.unreadableToken (String.ofList token))
    return none
  | some t => do
    let p ← parameterOf s t
    if !s.knows p.name then
      Noted.note (.undeclaredParameter p.name)
      return none
    else if taken.contains p.name then
      Noted.note (.repeatedParameter p.name)
      return none
    else return some p

/-- The parameters of the tokens, the first of each name. -/
def readParameters (s : Setting) (taken : List String) : List (List Char) → Noted (List Parameter)
  | [] => return []
  | token :: rest => do
    match ← readParameter s taken token with
    | none => readParameters s taken rest
    | some p => return p :: (← readParameters s (p.name :: taken) rest)

/-- The parameters of a usage line; the first token is the name of the function. -/
def parameters (usage : String) (s : Setting) : Noted (List Parameter) :=
  readParameters s [] ((Text.words usage.toList).drop 1)

end Usage
end ServiceAtlas
