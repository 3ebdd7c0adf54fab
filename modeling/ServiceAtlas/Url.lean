import ServiceAtlas.Table
import ServiceAtlas.Text.Integer
import ServiceAtlas.Url.Host

/-!
Addresses. An address is read into its parts, each of which is brought into the one form in which it
is sent; a reference is put under the address of a service, and its query is replaced.
-/

namespace ServiceAtlas

structure Url where
  scheme : List Char
  userinfo : List Char
  host : List Char
  port : Option Int
  path : List Char
  query : Option (List Char)
  fragment : Option (List Char)
deriving DecidableEq

namespace Url

/-- Why a text is no address. -/
inductive Fault where
  | malformed
  | halfCharacter

/-- The parts of an address as they are written. -/
structure Parts where
  scheme : List Char
  authority : List Char
  path : List Char
  query : Option (List Char)
  fragment : Option (List Char)

/-! Reading. -/

def isSchemeChar (c : Char) : Bool := c.isAlphanum || ['+', '.', '-'].contains c

/-- The scheme and what follows its colon. A colon in front ends an empty scheme. -/
def schemeOf (cs : List Char) : List Char × List Char :=
  let scheme := cs.takeWhile isSchemeChar
  match cs.dropWhile isSchemeChar with
  | ':' :: rest => if scheme.head?.all Char.isAlpha then (scheme, rest) else ([], cs)
  | _ => ([], cs)

def authorityOf (cs : List Char) : List Char × List Char :=
  match cs with
  | '/' :: '/' :: rest =>
    let ends (c : Char) : Bool := ['/', '?', '#'].contains c
    (rest.takeWhile (!ends ·), rest.dropWhile (!ends ·))
  | cs => ([], cs)

/-- What stands before the first `stop`, and what follows it if there is one. -/
def splitAt (stop : Char) (cs : List Char) : List Char × Option (List Char) :=
  match cs.dropWhile (· ≠ stop) with
  | [] => (cs, none)
  | _ :: rest => (cs.takeWhile (· ≠ stop), some rest)

def Parts.read (cs : List Char) : Parts :=
  let (scheme, cs) := schemeOf cs
  let (authority, cs) := authorityOf cs
  let (cs, fragment) := splitAt '#' cs
  let (path, query) := splitAt '?' cs
  ⟨scheme, authority, path, query, fragment⟩

/-- An authority without the user that its last at-sign ends. -/
def userinfoOf (authority : List Char) : List Char × List Char :=
  let rest := (authority.reverse.takeWhile (· ≠ '@')).reverse
  ((authority.take (authority.length - rest.length)).dropLast, rest)

/-- Host and port. Colons inside brackets belong to the host. -/
def hostOf (cs : List Char) : List Char × List Char :=
  let beyond := (cs.reverse.takeWhile (· ≠ ']')).reverse
  let host :=
    if cs.head? = some '[' && cs.contains ']' then cs.take (cs.length - beyond.length)
    else cs.takeWhile (· ≠ ':')
  match cs.drop host.length with
  | ':' :: port => (host, port)
  | port => (host, port)

/-- The ports that schemes imply. -/
def impliedPorts : List (String × Int) :=
  [("ftp", 21), ("http", 80), ("https", 443), ("ws", 80), ("wss", 443)]

/-- A port, unless it is the one that the scheme implies. -/
def portOf (scheme port : List Char) : Except Fault (Option Int) :=
  if port.isEmpty then .ok none
  else match Text.integer? 10 port with
    | none => .error .malformed
    | some n => .ok (if impliedPorts.lookup (String.ofList scheme) = some n then none else some n)

/-- The steps of a path with those taken that lead nowhere or back. -/
def walk (done : List (List Char)) : List (List Char) → List (List Char)
  | [] => done
  | step :: rest =>
    if step = ['.'] then walk done rest
    else if step = ['.', '.'] then walk (if done = [[]] then done else done.dropLast) rest
    else walk (done ++ [step]) rest

def normalizedPath (path : List Char) : List Char :=
  List.intercalate ['/'] (walk [] (Text.pieces (· = '/') path))

/-- Behind an authority a path begins with a slash or is empty; where there is neither scheme nor
authority, it must not be taken for one of them. -/
def isPathAllowed (hasScheme hasAuthority : Bool) (path : List Char) : Bool :=
  if hasAuthority then path.head?.all (· = '/')
  else hasScheme || !(path.take 2 = ['/', '/'] || path.head? = some ':')

/-- No part is longer. -/
def limit : Nat := 65536

def Parts.isOversized (p : Parts) : Bool :=
  [p.scheme, p.authority, p.path, p.query.getD [], p.fragment.getD []].any fun cs =>
    limit < cs.length

def escaped (part : Part) (cs : List Char) : Except Fault (List Char) :=
  match escape? part cs with
  | some cs => .ok cs
  | none => .error .halfCharacter

/-- The address of some parts, each brought into its form. -/
def ofParts (p : Parts) : Except Fault Url := do
  if p.isOversized then throw .malformed
  let (user, place) := userinfoOf p.authority
  let (hostText, portText) := hostOf place
  let userinfo ← escaped .userinfo user
  let some host := host? hostText | throw .malformed
  let port ← portOf p.scheme portText
  let hasScheme := !p.scheme.isEmpty
  let hasAuthority := !userinfo.isEmpty || !host.isEmpty || port.isSome
  if !isPathAllowed hasScheme hasAuthority p.path then throw .malformed
  return {
    scheme := p.scheme.map Char.toLower
    userinfo
    host
    port
    path := ← escaped .path (if hasScheme || hasAuthority then normalizedPath p.path else p.path)
    query := ← p.query.mapM (escaped .query)
    fragment := ← p.fragment.mapM (escaped .fragment) }

/-- Reads an address or a part of one. It holds no control characters. -/
def read (cs : List Char) : Except Fault Url :=
  if limit < cs.length || cs.any (fun c => c.toNat < 0x20 || c.toNat = 0x7F) then .error .malformed
  else ofParts (Parts.read cs)

/-! Writing. -/

def hostText (u : Url) : List Char :=
  if u.host.contains ':' then '[' :: u.host ++ [']'] else u.host

def authority (u : Url) : List Char :=
  (if u.userinfo.isEmpty then [] else u.userinfo ++ ['@']) ++ u.hostText ++
    (match u.port with
    | some n => ':' :: Text.intChars n
    | none => [])

def parts (u : Url) : Parts := ⟨u.scheme, u.authority, u.path, u.query, u.fragment⟩

def chars (u : Url) : List Char :=
  let marked (c : Char) (part : Option (List Char)) : List Char := (part.map (c :: ·)).getD []
  (if u.scheme.isEmpty then [] else u.scheme ++ [':']) ++
    (if u.authority.isEmpty then [] else '/' :: '/' :: u.authority) ++
    u.path ++ marked '?' u.query ++ marked '#' u.fragment

def text (u : Url) : String := String.ofList u.chars

/-- The path, which is never empty in a request. -/
def sentPath (u : Url) : List Char := if u.path.isEmpty then ['/'] else u.path

/-- Path and query, as a request names them. -/
def target (u : Url) : List Char :=
  u.sentPath ++ (match u.query with
    | some query => '?' :: query
    | none => [])

/-- The path as messages show it. -/
def shownPath (u : Url) : String := String.ofList (unescape u.sentPath)

/-- The name and the secret of the user that the address names. -/
def user? (u : Url) : Option (String × String) :=
  let (name, secret) := splitAt ':' u.userinfo
  let name := unescape name
  let secret := unescape (secret.getD [])
  if name.isEmpty && secret.isEmpty then none else some (String.ofList name, String.ofList secret)

/-! Addresses made from others. -/

def withTarget (u : Url) (target : List Char) : Except Fault Url :=
  let (path, query) := splitAt '?' target
  ofParts { u.parts with path, query }

/-- The address with a slash at its end, so that references can follow it. -/
def asBase (u : Url) : Except Fault Url :=
  if u.target.getLast? = some '/' then .ok u else u.withTarget (u.target ++ ['/'])

/-- An address that names scheme and host stands for itself; any other one goes below the base. -/
def under (base reference : Url) : Except Fault Url :=
  if !reference.scheme.isEmpty && !reference.host.isEmpty then .ok reference
  else base.withTarget (base.target ++ reference.target.dropWhile (· = '/'))

/-- Names with their values, each of which has an entry of its own. -/
abbrev Query := List (String × List String)

def Query.entries (q : Query) : List (String × String) := q.flatMap fun e => e.2.map (e.1, ·)

def Query.chars? (q : Query) : Option (List Char) := do
  let words ← q.entries.mapM fun (name, value) => do
    return (← queryWord? name) ++ '=' :: (← queryWord? value)
  return List.intercalate ['&'] words

/-- The address with another query; without names there is none. -/
def withQuery (u : Url) (q : Query) : Except Fault Url :=
  if q.isEmpty then ofParts { u.parts with query := none }
  else match q.chars? with
    | some query => ofParts { u.parts with query := some query }
    | none => .error .halfCharacter

end Url
end ServiceAtlas
