import Rehearsal.Proofs.Traversal
import Rehearsal.Settings.Overrides

/-!
What one source says of each option. A document says it under a key of one of its tables, the environment in a variable, and
what is there is read or refused, never passed over.
-/
namespace Rehearsal.Settings
open Session (Policy)

/-- The options that a layer sets one by one. OAuth settings are set as a whole. -/
inductive Item where
  | applicationId
  | userId
  | accessToken
  | locale
  | offset
  | policy
  | marker
  | endpoint
  | timeout

namespace Item

abbrev Value : Item → Type
  | applicationId | userId | accessToken | locale | endpoint => String
  | offset => Int
  | policy => Policy
  | marker => Char
  | timeout => Span

def name : Item → String
  | applicationId => "APPLICATION_ID"
  | userId => "USER_ID"
  | accessToken => "ACCESS_TOKEN"
  | locale => "LOCALE"
  | offset => "TIMESTAMP_OFFSET_SECS"
  | policy => "CLOSED_POLICY"
  | marker => "REFERENCE_MARKER"
  | endpoint => "ENDPOINT"
  | timeout => "TIMEOUT"

def read : (i : Item) → String → Except Failure i.Value
  | applicationId | userId | accessToken | locale | endpoint => .ok
  | offset => offsetOf
  | policy => policyOf
  | marker => markerOf
  | timeout => timeoutOf

end Item

def Layer.said (l : Layer) : (i : Item) → Option i.Value
  | .applicationId => l.applicationId
  | .userId => l.userId
  | .accessToken => l.accessToken
  | .locale => l.locale
  | .offset => l.offset
  | .policy => l.policy
  | .marker => l.marker
  | .endpoint => l.endpoint
  | .timeout => l.timeout

/-! The environment. -/

section
variable {env : Environment} {l : Layer}

end

/-! Documents. -/

inductive Group where
  | identity
  | session
  | script
  | transport

namespace Group

def name : Group → String
  | identity => "identity"
  | session => "session"
  | script => "script"
  | transport => "transport"

def keys : Group → List String
  | identity => ["application_id", "user_id", "access_token", "locale", "timestamp_offset_secs"]
  | session => ["closed_policy"]
  | script => ["reference_marker"]
  | transport => ["endpoint", "timeout", "oauth"]

end Group

namespace Item

def group : Item → Group
  | applicationId | userId | accessToken | locale | offset => .identity
  | policy => .session
  | marker => .script
  | endpoint | timeout => .transport

def key : Item → String
  | applicationId => "application_id"
  | userId => "user_id"
  | accessToken => "access_token"
  | locale => "locale"
  | offset => "timestamp_offset_secs"
  | policy => "closed_policy"
  | marker => "reference_marker"
  | endpoint => "endpoint"
  | timeout => "timeout"

end Item

section
variable {g : Group} {t : Toml.Table} {v : Toml.Value} {l l' : Layer} {w : Written}

end
end Rehearsal.Settings
