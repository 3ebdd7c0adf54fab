import ServiceAtlas.Text.Digits

/-!
What an operating system answers when it refuses a request on a file.
-/

namespace ServiceAtlas

inductive OsError where
  | notFound
  | alreadyExists
  | notDirectory
  | isDirectory
  | noSpace
  | other (code : Nat) (text : String)
deriving DecidableEq

namespace OsError

def code : OsError → Nat
  | notFound => 2
  | alreadyExists => 17
  | notDirectory => 20
  | isDirectory => 21
  | noSpace => 28
  | other code _ => code

def text : OsError → String
  | notFound => "No such file or directory"
  | alreadyExists => "File exists"
  | notDirectory => "Not a directory"
  | isDirectory => "Is a directory"
  | noSpace => "No space left on device"
  | other _ text => text

def message (e : OsError) : String := "[Errno " ++ Text.nat e.code ++ "] " ++ e.text

end OsError
end ServiceAtlas
