import ServiceAtlas.Files

/-!
Where the program keeps its own files: on systems that follow the base directory rules under the
directories that these name, elsewhere in one hidden directory in the user's home. A directory that is
asked for is made.
-/

namespace ServiceAtlas.Directories
open Program

def application : String := "helpspec"

def hiddenName : String := "." ++ application

/-- Systems on which programs keep to the base directory rules. -/
def followsBaseRules (platform : String) : Bool :=
  platform = "Linux" || Text.endsWith platform "BSD"

/-- The home directory that an account or a variable names; what begins with the sign for a home names
none. -/
def homeOfText (s : String) : Program Path :=
  let bare := (s.toList.reverse.dropWhile (· = '/')).reverse
  if bare.head? = some '~' then fail .noHome
  else if bare.isEmpty then return Path.ofText "/"
  else return Path.ofText (String.ofList bare)

def accountHome (account : String) : Program Path := do
  match ← request (.accountHome account) with
  | some s => homeOfText s
  | none => fail .noHome

/-- The home of the user: what the variable says, or else the account. -/
def home : Program Path := do
  match ← request (.environment "HOME") with
  | some s => homeOfText s
  | none => accountHome ""

/-- The path with a sign for a home directory in front resolved. -/
def expand (p : Path) : Program Path := do
  match p.homeAccount? with
  | none => return p
  | some "" => return p.fromHome (← home)
  | some account => return p.fromHome (← accountHome account)

/-- A base directory: what the variable says, or else the place under the home that the rules give. -/
def base (variableName : String) (place : List String) : Program Path := do
  match ← request (.environment variableName) with
  | none | some "" =>
    let h ← home
    return ⟨h.root, h.segments ++ place⟩
  | some s => return Path.ofText s

def made (p : Path) : Program Path := do
  ofOs (← Files.makeDirectories p)
  return p

/-- Where the global settings are. -/
def config : Program Path := do
  if followsBaseRules (← request .platform) then
    made ((← base "XDG_CONFIG_HOME" [".config"]).child application)
  else made ((← home).child hiddenName)

/-- Where records of failed runs go. -/
def data : Program Path := do
  if followsBaseRules (← request .platform) then
    made ((← base "XDG_DATA_HOME" [".local", "share"]).child application)
  else made (((← home).child hiddenName).child "logs")

end ServiceAtlas.Directories
