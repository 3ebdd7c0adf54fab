import ServiceAtlas.Checked

/-!
What a run works from: the two help catalogues, the application info, and the address of the service
if it is known.
-/

namespace ServiceAtlas

structure Payloads where
  console : Table Value := []
  full : Table Value := []
  appInfo : Table Value := []
  baseUrl : Option String := none

namespace Payloads

def readFields (fields : Table Value) : Checked Payloads :=
  Payloads.mk
    <$> Checked.field fields "console" [] (Checked.table Checked.any)
    <*> Checked.field fields "full" [] (Checked.table Checked.any)
    <*> Checked.field fields "app_info" [] (Checked.table Checked.any)
    <*> Checked.optionalField fields "base_url" Checked.text

def read : Value → Checked Payloads := Checked.record readFields

def toValue (p : Payloads) : Value :=
  .object
    [("console", .object p.console), ("full", .object p.full), ("app_info", .object p.appInfo),
      ("base_url", .ofOption .text p.baseUrl)]

end Payloads
end ServiceAtlas
