import Rehearsal.Settings.Layer

/-! The layer that environment variables make, and the whole stack of layers. -/
namespace Rehearsal.Settings
open Session (Policy)

abbrev Environment := String → Option String

def variableName (name : String) : String := "SKILLCHECK_" ++ name

def markerOf (text : String) : Except Failure Char :=
  match text.toList with
  | [c] => .ok c
  | _ => .error (.config (.markerText text))

def offsetOf (text : String) : Except Failure Int :=
  match Text.int64? text.toList with
  | .ok n => .ok n
  | .error why => .error (.config (.offsetText text why))

def policyOf (text : String) : Except Failure Policy :=
  match Policy.ofText? text with
  | some p => .ok p
  | none => .error (.config (.policy text))

def timeoutOf (text : String) : Except Failure Span :=
  match Span.ofText text.toList with
  | .ok s => .ok s
  | .error .brokenCarry => .error .breakdown
  | .error why => .error (.config (.timeoutText text why))

def knownVariables : List String :=
  ["CONFIG", "APPLICATION_ID", "USER_ID", "ACCESS_TOKEN", "LOCALE", "TIMESTAMP_OFFSET_SECS", "CLOSED_POLICY",
    "REFERENCE_MARKER", "ENDPOINT", "TIMEOUT", "OAUTH_REFRESH_TOKEN", "OAUTH_CLIENT_SECRET"].map variableName

def readSet (env : Environment) (name : String) (read : String → Except Failure α) : Except Failure (Option α) :=
  match env (variableName name) with
  | none => .ok none
  | some text => (read text).map some

/-- The layer of the environment; of two bad values the earlier one here is reported. -/
def Layer.ofEnvironment (env : Environment) : Except Failure Layer := do
  let offset ← readSet env "TIMESTAMP_OFFSET_SECS" offsetOf
  let policy ← readSet env "CLOSED_POLICY" policyOf
  let marker ← readSet env "REFERENCE_MARKER" markerOf
  let timeout ← readSet env "TIMEOUT" timeoutOf
  return {
    applicationId := env (variableName "APPLICATION_ID")
    userId := env (variableName "USER_ID")
    accessToken := env (variableName "ACCESS_TOKEN")
    locale := env (variableName "LOCALE")
    offset, policy, marker, timeout
    endpoint := env (variableName "ENDPOINT") }

/-- Puts secrets of the environment into the OAuth settings, which they make if there are none. -/
def withSecrets (env : Environment) (o : Option OAuth) : Option OAuth :=
  match env (variableName "OAUTH_REFRESH_TOKEN"), env (variableName "OAUTH_CLIENT_SECRET") with
  | none, none => o
  | token, secret =>
    let o := o.getD {}
    some { o with refreshToken := token.getD o.refreshToken, clientSecret := secret.getD o.clientSecret }

def overridden (s : Settings) (env : Environment) : Except Failure Settings := do
  let l ← Layer.ofEnvironment env
  let s := s.overlaid l
  return { s with oauth := withSecrets env s.oauth }

def ofText (text : String) : Except Failure Settings := do
  let l ← Layer.ofText none text
  (({} : Settings).overlaid l).checked

end Rehearsal.Settings
