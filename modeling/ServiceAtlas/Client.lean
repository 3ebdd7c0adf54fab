import ServiceAtlas.Credential
import ServiceAtlas.Payloads
import ServiceAtlas.Text.Case

/-!
Asking the service to describe itself. A request that fails for a reason that may pass is sent again,
after a delay that doubles with each try; every other refusal ends the run.
-/

namespace ServiceAtlas

/-- What it takes to talk to a service. -/
structure Client where
  service : Service
  base : Url
  authorization : Option String

namespace Client
open Program
variable [Stack]

/-- An address that has to be valid. -/
def address (url : Except Url.Fault Url) : Except Failure Url :=
  url.mapError fun
    | .malformed => .badAddress
    | .halfCharacter => .halfCharacter

def addressOf (s : String) : Except Failure Url := address (Url.read s.toList)

/-- A client that authenticates by the headers given or, without them, with the secret of the
settings. -/
def connect (service : Service) (headers : Option (Table Value)) : Program Client := do
  if service.port.isNone then fail .noPort
  let headers ← match headers with
    | some headers => pure headers
    | none => do pure [(Credential.headerName, .text (← Credential.authenticate service))]
  let base ← ofExcept (addressOf service.baseUrl)
  let base ← ofExcept (address base.asBase)
  return ⟨service, base, ← ofExcept (Credential.ofHeaders headers)⟩

/-- A user that the address names takes the place of the one that the client stands for. -/
def authorizationFor (c : Client) (url : Url) : Except Failure (Option String) :=
  match url.user? with
  | some (name, secret) => some <$> Credential.basicHeader (Text.points name) (Text.points secret)
  | none => .ok c.authorization

def requestFor (c : Client) (method path : String) (query : Url.Query) :
    Except Failure Http.Request := do
  let url ← address (c.base.under (← addressOf path))
  let url ← address (url.withQuery query)
  if !Credential.isSendable (String.ofList url.host) then throw .notPlain
  return ⟨Text.upper method, url, query.entries, ← c.authorizationFor url⟩

/-- From this status on a refusal is the fault of the service and may pass. -/
def serverErrors : Nat := 500

/-- From this status on a reply is a refusal. -/
def refusals : Nat := 400

/-- The delay in seconds after a try; the first has number zero. -/
def delayAfter (attempt : Nat) : Nat := Nat.pow 2 attempt

/-- Why a request is sent again after an answer, unless the answer counts. -/
def retryAfter? (delay attempt retries : Nat) : Http.Outcome → Option Diagnostic
  | .networkError reason => some (.connectionRetry reason delay attempt retries)
  | .reply answer =>
    if answer.status < serverErrors then none
    else some (.serverRetry answer.status delay attempt retries)
  | .protocolError _ => none

/-- What an answer comes to after which the request is not sent again. -/
def conclude (c : Client) (retries : Nat) : Http.Outcome → Except Failure Http.Reply
  | .reply answer => .ok answer
  | .networkError reason => .error (.unreachable c.service.baseUrl (retries + 1) reason)
  | .protocolError _ => .error .brokenReply

/-- Sends a request until an answer counts, with `left` of all retries still to come. -/
def sendUpTo (c : Client) (r : Http.Request) (retries : Nat) : (left : Nat) → Program Http.Reply
  | 0 => do ofExcept (c.conclude retries (← request (.send r)))
  | left + 1 => do
    let answer ← request (.send r)
    let attempt := retries - (left + 1)
    let delay := delayAfter attempt
    match retryAfter? delay (attempt + 1) retries answer with
    | none => ofExcept (c.conclude retries answer)
    | some d =>
      note d
      request (.sleep delay)
      sendUpTo c r retries left

/-- A refusal without a readable body is shown in part only. -/
def detailLimit : Nat := 200

/-- The fields that may say why a request was refused, the most telling one first. -/
def detailKeys : List String := ["message", "error", "detail"]

def detailOfValue : Value → String
  | .object fields =>
    let given := detailKeys.filterMap fun key =>
      (Table.find? fields key).filter Value.isGiven
    (given.head?.map Value.display).getD ""
  | v => v.display

def readJson (body : Text.Bytes) : Except BodyFault Value := do
  let cs ← (Text.decodeAny body).mapError BodyFault.bytes
  (Json.readWhole cs).mapError BodyFault.json

/-- What the body of a refusal tells. -/
def detailOf (answer : Http.Reply) : Except Failure String :=
  match readJson answer.body with
  | .ok v => .ok (detailOfValue v)
  | .error fault =>
    if fault.isTooDeep then .error .nestedTooDeep
    else .ok (String.ofList (answer.text.take detailLimit))

/-- A reply that is no refusal. -/
def accept (r : Http.Request) (answer : Http.Reply) : Except Failure Http.Reply :=
  if answer.status < refusals then .ok answer
  else do throw (.refused answer.status r.path (← detailOf answer))

/-- A request is not even made where the settings leave no try for it. -/
def send (c : Client) (method path : String) (query : Url.Query) : Program Http.Reply :=
  if c.service.maxRetries < 0 then fail .retriesSpent
  else do
    let r ← ofExcept (c.requestFor method path query)
    let retries := c.service.maxRetries.toNat
    ofExcept (accept r (← c.sendUpTo r retries retries))

/-- The object that a body holds. -/
def objectOf (label : String) (body : Text.Bytes) : Except Failure (Table Value) :=
  if body.isEmpty then .error (.emptyBody label)
  else match readJson body with
    | .error fault => .error (if fault.isTooDeep then .nestedTooDeep else .badBody label fault)
    | .ok (.object fields) => .ok fields
    | .ok v => .error (.bodyNotObject label v.kindName)

def fetchHelp (c : Client) (format : String) : Program (Table Value) := do
  if !Failure.helpFormats.contains format then fail (.unknownFormat format)
  else
    let answer ← c.send "GET" c.service.helpPath [("format", [format])]
    ofExcept (objectOf (format ++ " help") answer.body)

/-- An empty path says that there is no application info. -/
def fetchAppInfo (c : Client) : Program (Table Value) := do
  if c.service.appInfoPath = "" then return []
  else
    let answer ← c.send "GET" c.service.appInfoPath []
    ofExcept (objectOf "application info" answer.body)

def gather (baseUrl : String) (appInfo console full : Except Failure (Table Value)) :
    Except Failure Payloads := do
  let appInfo ← appInfo
  let console ← console
  return ⟨console, ← full, appInfo, some baseUrl⟩

/-- All that the service says of itself. The parts do not wait for each other's result, so each is asked
for even when another one fails. Here they are asked for one by one, and of several failures the first
in this order counts; a service that is asked for all of them at once may fail in any order. -/
def fetchAll (c : Client) : Program Payloads := do
  note (.fetching c.service.baseUrl)
  let appInfo ← attempt c.fetchAppInfo
  let console ← attempt (c.fetchHelp "Console")
  let full ← attempt (c.fetchHelp "Full")
  ofExcept (gather c.service.baseUrl appInfo console full)

/-- The payloads of a running service. -/
def introspect (service : Service) : Program Payloads := do
  (← connect service none).fetchAll

end Client
end ServiceAtlas
