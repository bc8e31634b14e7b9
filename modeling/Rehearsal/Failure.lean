import Rehearsal.Check.Asset
import Rehearsal.Session.Policy
import Rehearsal.Span.Text
import Rehearsal.Text.Integer

/-!
Everything that can go wrong, by cause. A failure ends the run that met it. A cause that another party words,
a reader of a foreign format or the system, ends its message with that wording, its detail.
-/
namespace Rehearsal
open Check (Asset)
open Session (Policy)
open Wire (Kind)

inductive ConfigFault where
  | pattern (source detail : String)
  | offset (seconds : Int)
  | clock (seconds : Int)
  | policy (text : String)
  | missingFile (path : String)
  | unreadableFile (path detail : String)
  | malformed (path : Option String) (detail : String)
  | offsetText (text : String) (why : Text.IntegerFault)
  | timeoutText (text : String) (why : Span.Fault)
  | markerText (text : String)
  | locale (text : String)
  | blankIdentity (field : String)
  | applicationId (id : String)
  | userId (id : String)
  | offsetRange (seconds limit : Int)
  | marker (c : Char)
  | zeroTimeout
  | blankOAuth (field : String)
  | noEndpoint

inductive StateFault where
  | alreadyStarted (session : String)
  | notStarted (kind : Kind)
  | closed (label session : String) (policy : Policy)
  | nothingToCheck (predicate : String)

inductive ProtocolFault where
  | malformed (detail : String)
  | noResponse (label : String)
  | unanswered

inductive ScriptFault where
  | unknownAssertion (name : String)
  | unknownAsset (name : String)
  | unknownName (text : String)
  | missingKey (text : String)
  | blankInKey (key : String)
  | pattern (text source detail : String)
  | notAList (shape : String)
  | emptyMap
  | notAScalar (key shape : String)
  | mixedMap (keys : List String)
  | launchValue (text : String)
  | requestValue (text : String)
  | missingSlotName (key : String)
  | unknownReference (value : String)
  | missingValue (key : String)
  | delay (text : String) (why : Span.Fault)
  | noIntentName
  | noUtterance
  | slotsWithoutIntent
  | unnamedIntent
  | unworded
  | notSendable (kind : Kind)
  | keyNotScalar (key : String)
  | tagged (tag : String)
  | noName
  | noSessions (name : String)
  | unreadableFile (path detail : String)
  | inSession (number : Nat) (fault : ScriptFault)

inductive TransportFault where
  | request (endpoint detail : String)
  | status (kind : Kind) (endpoint status : String)
  | body (detail : String)
  | refresh (detail : String)
  | refreshStatus (status : String)
  | token (detail : String)
  /-- The words of a transport of the user's own. -/
  | other (text : String)

inductive Unresolved where
  | noResponse
  | absent
deriving DecidableEq

inductive Failure where
  | config (f : ConfigFault)
  | state (f : StateFault)
  | protocol (f : ProtocolFault)
  | validation (check : String) (observed : Option String)
  | script (f : ScriptFault)
  | unresolved (asset : Asset) (why : Unresolved)
  | transport (f : TransportFault)
  | io (detail : String)
  | json (detail : String)
  | yaml (detail : String)
  | toml (detail : String)
  /-- The run breaks off without an error. -/
  | breakdown

structure Message where
  text : String
  detail : Option String := none

namespace Message

def plain (text : String) : Message := ⟨text, none⟩

def mapText (m : Message) (f : String → String) : Message := { m with text := f m.text }

def full (m : Message) : String := m.text ++ m.detail.getD ""

end Message

def ConfigFault.message : ConfigFault → Message
  | .pattern source detail => ⟨"invalid pattern " ++ Text.quoted source ++ ": ", detail⟩
  | .offset n => .plain ("timestamp offset out of range: " ++ toString n ++ "s")
  | .clock n => .plain ("virtual clock out of range (offset " ++ toString n ++ "s)")
  | .policy text =>
    .plain ("invalid closed-session policy " ++ text ++ " (expected " ++
      "|".intercalate (Policy.all.map (·.name)) ++ ")")
  | .missingFile path => .plain ("config file not found: " ++ path)
  | .unreadableFile path detail => ⟨"read config " ++ path ++ ": ", detail⟩
  | .malformed none detail => ⟨"parse config: ", detail⟩
  | .malformed (some path) detail => ⟨"parse config " ++ path ++ ": ", detail⟩
  | .offsetText text why =>
    .plain ("invalid SKILLCHECK_TIMESTAMP_OFFSET_SECS value " ++ text ++ ": " ++ why.message)
  | .timeoutText text why => .plain ("invalid SKILLCHECK_TIMEOUT value " ++ text ++ ": " ++ why.message)
  | .markerText text =>
    .plain ("reference marker must be exactly one character, got " ++ Text.quoted text)
  | .locale text => .plain ("invalid locale " ++ Text.quoted text ++ " (expected ll-CC, e.g. en-US)")
  | .blankIdentity field => .plain ("identity." ++ field ++ " is empty")
  | .applicationId id =>
    .plain ("identity.application_id " ++ Text.quoted id ++ " is not amzn1.ask.skill.<uuid>")
  | .userId id => .plain ("identity.user_id " ++ Text.quoted id ++ " is not amzn1.ask.account.[A-Z0-9]+")
  | .offsetRange n limit =>
    .plain ("identity.timestamp_offset_secs out of range: " ++ toString n ++ " (limit ±" ++ toString limit ++ ")")
  | .marker c => .plain ("script.reference_marker must be a symbol, got " ++ Text.quotedChar c)
  | .zeroTimeout => .plain "transport.timeout must be positive"
  | .blankOAuth field => .plain ("transport.oauth." ++ field ++ " is empty")
  | .noEndpoint => .plain "transport endpoint is empty; set [transport].endpoint or --endpoint"

def StateFault.message : StateFault → String
  | .alreadyStarted session => "session " ++ session ++ " already started"
  | .notStarted kind => "cannot send " ++ kind.wireName ++ " before the session is started"
  | .closed label session policy =>
    "cannot send " ++ label ++ " on closed session " ++ session ++ " (policy " ++ policy.name ++ ")"
  | .nothingToCheck predicate => "no response to check '" ++ predicate ++ "' against"

def ProtocolFault.message : ProtocolFault → Message
  | .malformed detail => ⟨"malformed response envelope: ", detail⟩
  | .noResponse label => .plain ("skill returned no response to " ++ label)
  | .unanswered => .plain "request produced no response"

def ScriptFault.message : ScriptFault → Message
  | .unknownAssertion name => .plain ("unknown assertion '" ++ name ++ "'")
  | .unknownAsset name => .plain ("unknown asset '" ++ name ++ "'")
  | .unknownName text => .plain ("unknown assertion or asset '" ++ text ++ "'")
  | .missingKey text => .plain ("missing session attribute key in '" ++ text ++ "'")
  | .blankInKey key => .plain ("session attribute key '" ++ key ++ "' contains whitespace")
  | .pattern text source detail =>
    (ConfigFault.pattern source detail).message.mapText fun m => "in '" ++ text ++ "': configuration error: " ++ m
  | .notAList shape => .plain ("expected a list of actions, got " ++ shape)
  | .emptyMap => .plain "empty map in script"
  | .notAScalar key shape => .plain ("parameter '" ++ key ++ "' must be a scalar, got " ++ shape)
  | .mixedMap keys => .plain ("map mixes parameters and conditions: " ++ ", ".intercalate keys)
  | .launchValue text => .plain ("launch only accepts true, got '" ++ text ++ "'")
  | .requestValue text =>
    .plain ("unknown request type '" ++ text ++ "' (expected launch|intent|utterance)")
  | .missingSlotName key => .plain ("missing slot name in '" ++ key ++ "'")
  | .unknownReference value => .plain ("unknown asset in reference '" ++ value ++ "'")
  | .missingValue key => .plain ("'" ++ key ++ "' needs a value")
  | .delay text why => .plain ("invalid delay '" ++ text ++ "': " ++ why.message)
  | .noIntentName => .plain "request: intent needs an intent name"
  | .noUtterance => .plain "request: utterance needs an utterance"
  | .slotsWithoutIntent => .plain "slots given without an intent request"
  | .unnamedIntent => .plain "intent request without a name"
  | .unworded => .plain "utterance request without text"
  | .notSendable kind => .plain (kind.wireName ++ " cannot be sent from a script")
  | .keyNotScalar key => .plain ("map keys must be scalars, got " ++ key)
  | .tagged tag => .plain ("tagged values are not supported: " ++ tag)
  | .noName => .plain "script name is empty"
  | .noSessions name => .plain ("script '" ++ name ++ "' has no sessions")
  | .unreadableFile path detail => ⟨"failed to read script " ++ path ++ ": ", detail⟩
  | .inSession number fault => fault.message.mapText fun m => "session " ++ toString number ++ ": " ++ m

def TransportFault.message : TransportFault → Message
  | .request endpoint detail => ⟨"request to " ++ endpoint ++ " failed: ", detail⟩
  | .status kind endpoint code =>
    .plain (kind.wireName ++ " to " ++ endpoint ++ " returned HTTP " ++ code)
  | .body detail => ⟨"reading response body: ", detail⟩
  | .refresh detail => ⟨"token refresh failed: ", detail⟩
  | .refreshStatus code => .plain ("token refresh HTTP " ++ code)
  | .token detail => ⟨"token response parse: ", detail⟩
  | .other text => .plain text

def Unresolved.message : Unresolved → String
  | .noResponse => "no previous response"
  | .absent => "asset absent from the previous response"

namespace Failure

def code : Failure → String
  | .config _ => "configuration_error"
  | .state _ => "state_error"
  | .protocol _ => "protocol_error"
  | .validation .. => "validation_error"
  | .script _ => "script_error"
  | .unresolved .. => "unresolved_reference_error"
  | .transport _ => "transport_error"
  | .io _ => "io_error"
  | .json _ => "json_error"
  | .yaml _ => "yaml_error"
  | .toml _ => "toml_error"
  | .breakdown => "panic"

def message : Failure → Message
  | .config f => f.message.mapText fun m => "configuration error: " ++ m
  | .state f => .plain ("session state error: " ++ f.message)
  | .protocol f => f.message.mapText fun m => "protocol error: " ++ m
  | .validation check observed =>
    .plain ("validation failed: " ++ check ++ match observed with
      | some text => " (observed: " ++ text ++ ")"
      | none => "")
  | .script f => f.message.mapText fun m => "script error: " ++ m
  | .unresolved asset why =>
    .plain ("unresolved reference '" ++ asset.name ++ "': " ++ why.message)
  | .transport f => f.message.mapText fun m => "transport error: " ++ m
  | .io detail => ⟨"I/O error: ", detail⟩
  | .json detail => ⟨"JSON error: ", detail⟩
  | .yaml detail => ⟨"YAML error: ", detail⟩
  | .toml detail => ⟨"TOML error: ", detail⟩
  | .breakdown => .plain "broken off"

end Failure
end Rehearsal
