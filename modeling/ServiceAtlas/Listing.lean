import ServiceAtlas.Descriptor.Classify
import ServiceAtlas.Function
import ServiceAtlas.Operation

/-!
What a service offers, in rows: its functions with their routes, and its types with their members.
-/

namespace ServiceAtlas

structure Listing where
  headers : List String
  rows : List (List String)
  title : String

namespace Listing
variable [Stack]

/-- What stands where there is nothing to show. -/
def blank : String := "-"

def titled (what : String) (rows : List (List String)) : String :=
  what ++ " (" ++ Text.nat rows.length ++ ")"

def shownMethod (console : Option ConsoleView) : String :=
  match console.bind ConsoleView.method with
  | none | some "" => blank
  | some method => Text.upper method

def shownUrl (console : Option ConsoleView) : String :=
  match console.bind ConsoleView.url with
  | none | some "" => blank
  | some url => UrlTemplate.normalize url

def functionRow (f : JoinedFunction) : List String :=
  [f.name, shownMethod f.console, shownUrl f.console,
    Text.join ", " (Operation.tagsOf f.full {})]

def functionHeaders : List String := ["Function", "Method", "URL", "Tags"]

def ofFunctions (functions : List JoinedFunction) : Listing :=
  let rows := functions.map functionRow
  ⟨functionHeaders, rows, titled "Functions" rows⟩

/-- Of many members only so many are shown. -/
def memberLimit : Nat := 5

def shownMembers (names : List String) : String :=
  let first := Text.join ", " (names.take memberLimit)
  let shown := if memberLimit < names.length then first ++ "..." else first
  if shown = "" then blank else shown

def typeRow (name : String) (d : Descriptor) : List String :=
  [name, d.kind, shownMembers d.memberNames]

def typeHeaders : List String := ["Type", "Kind", "Members"]

def readTypes : List (String × Value) → Traced (List (List String))
  | [] => return []
  | (name, raw) :: rest => do
    let d ← Descriptor.classify .standard raw
    return typeRow name d :: (← readTypes rest)

/-- The types of a catalogue that has any. -/
def ofTypes (catalogue : Value) : Traced (Option Listing) := do
  match catalogue with
  | .object [] => return none
  | .object types =>
    let rows ← readTypes types
    return some ⟨typeHeaders, rows, titled "Types" rows⟩
  | _ => return none

end Listing
end ServiceAtlas
