import ServiceAtlas.Checked
import ServiceAtlas.Value.Display

/-!
What a run reports beside its result. A diagnostic names its cause; level and wording follow from
it.
-/

namespace ServiceAtlas

inductive Level where
  | debug
  | info
  | success
  | warning
  | error
deriving DecidableEq

inductive Diagnostic where
  | malformedMember (entry : Value)
  | malformedField (entry : Value)
  | emptyTypeName (name : String)
  | nestedTypeName (name : String)
  | unusableTypeName (name : String)
  | noTypeCatalogue (kind : String)
  | shapelessType (name : String)
  | anyTypeReplaced
  | unreadableToken (token : String)
  | undeclaredParameter (name : String)
  | repeatedParameter (name : String)
  | placedByMethod (name method : String)
  | noFullCatalogue
  | noConsoleCatalogue
  | namelessFunction (entry : Value)
  | malformedFunction (name : Value) (report : Report)
  | repeatedFunction (name : String)
  | malformedConsoleEntry (name : String) (report : Report)
  | malformedArgument (entry : Value)
  | namelessArgument (entry : Value)
  | noConsoleEntry (function : String)
  | noUrl (function : String)
  | noMethod (function url : String)
  | routed (method url function : String)
  | secondBody (function argument : String)
  | undeclaredVariable (function name : String)
  | replacedRoute (method url before function : String)
  | overridesApplied (count : Nat)
  | partWritten (path : String)
  | fetching (address : String)
  | connectionRetry (reason : String) (delay attempt retries : Nat)
  | serverRetry (status delay attempt retries : Nat)
  | readingSaved (directory : String)
  | configDirectory (path : String)
  | written (path : String)
  | payloadsSaved (directory : String)
  | noTypes
  | translated (schemas operations paths : Nat)
  | stopped (reason : String)
  | said (level : Level) (text : String)

namespace Diagnostic

def level : Diagnostic → Level
  | malformedMember _ | malformedField _ | emptyTypeName _ | nestedTypeName _
  | unusableTypeName _ | shapelessType _ | anyTypeReplaced | unreadableToken _
  | undeclaredParameter _ | repeatedParameter _ | placedByMethod _ _ | repeatedFunction _
  | malformedArgument _ | namelessArgument _ | routed _ _ _ | undeclaredVariable _ _
  | overridesApplied _ | connectionRetry _ _ _ _ | serverRetry _ _ _ _ | readingSaved _ => .debug
  | partWritten _ | fetching _ | configDirectory _ | noTypes | translated _ _ _ => .info
  | written _ | payloadsSaved _ => .success
  | noTypeCatalogue _ | noFullCatalogue | noConsoleCatalogue | namelessFunction _
  | malformedFunction _ _ | malformedConsoleEntry _ _ | noConsoleEntry _ | noUrl _
  | noMethod _ _ | secondBody _ _ | replacedRoute _ _ _ _ => .warning
  | stopped _ => .error
  | said level _ => level

/-- A nameless function is shown in part only. -/
def namelessLimit : Nat := 200

def tries (delay attempt retries : Nat) : String :=
  "retrying in " ++ Text.nat delay ++ "s (attempt " ++ Text.nat attempt ++ "/" ++
    Text.nat retries ++ ")"

def message : Diagnostic → String
  | malformedMember entry => "Skipping malformed enum value: " ++ entry.inspected
  | malformedField entry => "Skipping malformed object field: " ++ entry.inspected
  | emptyTypeName name => "Empty type name (from " ++ Text.quoted name ++ "), using AnyType"
  | nestedTypeName name =>
    "Nested type used as a name (" ++ Text.quoted name ++ "), using AnyType"
  | unusableTypeName name => "Unresolvable type name " ++ Text.quoted name ++ ", using AnyType"
  | noTypeCatalogue kind =>
    "Type catalogue is not a mapping (" ++ kind ++ "); only AnyType will be emitted"
  | shapelessType name => "Type " ++ Text.quoted name ++ " has no shape, emitting an empty object"
  | anyTypeReplaced => "Catalogue defines AnyType; replacing it with the fallback schema"
  | unreadableToken token => "Unrecognised usage token " ++ Text.quoted token ++ ", skipping"
  | undeclaredParameter name =>
    "Usage parameter " ++ Text.quoted name ++ " has no declared argument, skipping"
  | repeatedParameter name =>
    "Usage parameter " ++ Text.quoted name ++ " repeated, keeping the first"
  | placedByMethod name method =>
    Text.quoted name ++ " is not in the URL template but " ++ method ++ " places it in the path"
  | noFullCatalogue => "Full help payload has no function list"
  | noConsoleCatalogue => "Console help payload has no function catalogue"
  | namelessFunction entry =>
    String.ofList (("Skipping function without a name: " ++ entry.inspected).toList.take namelessLimit)
  | malformedFunction name report =>
    "Skipping malformed function " ++ name.display ++ ": " ++ report.message
  | repeatedFunction name => "Function " ++ name ++ " is listed twice, keeping the later entry"
  | malformedConsoleEntry name report =>
    "Console entry for " ++ name ++ " is malformed, ignoring it: " ++ report.message
  | malformedArgument entry => "Skipping malformed console argument: " ++ entry.inspected
  | namelessArgument entry => "Argument without a name: " ++ entry.inspected
  | noConsoleEntry function => "No console entry for " ++ function ++ ", skipping"
  | noUrl function => "No URL found for " ++ function ++ ", skipping"
  | noMethod function url => "No HTTP method for " ++ function ++ " (" ++ url ++ "), skipping"
  | routed method url function => method ++ " " ++ url ++ " <- " ++ function
  | secondBody function argument =>
    function ++ " declares more than one body argument; using " ++ argument
  | undeclaredVariable function name =>
    function ++ ": declaring path variable \x7b" ++ name ++ "\x7d missing from the usage string"
  | replacedRoute method url before function =>
    method ++ " " ++ url ++ " is already provided by " ++ before ++ "; replacing it with " ++
      function
  | overridesApplied count => "Applying " ++ Text.nat count ++ " type name override(s)"
  | partWritten path | written path => "Wrote " ++ path
  | fetching address => "Fetching introspection payloads from " ++ address
  | connectionRetry reason delay attempt retries =>
    "Connection error: " ++ reason ++ ", " ++ tries delay attempt retries
  | serverRetry status delay attempt retries =>
    "Server error " ++ Text.nat status ++ ", " ++ tries delay attempt retries
  | readingSaved directory => "Reading saved payloads from " ++ directory
  | configDirectory path => "Config directory: " ++ path
  | payloadsSaved directory => "Saved introspection payloads to " ++ directory
  | noTypes => "No types in the Console help payload."
  | translated schemas operations paths =>
    "Translated " ++ Text.nat schemas ++ " schemas and " ++ Text.nat operations ++
      " operations on " ++ Text.nat paths ++ " paths"
  | stopped reason => reason
  | said _ text => text

end Diagnostic
end ServiceAtlas
