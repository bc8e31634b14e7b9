import Rehearsal.Json.Record
import Rehearsal.Settings.Basic
import Rehearsal.Transport.Exchange

/-! New access tokens: a refresh token is exchanged for one, and the server may put another refresh token in its place. -/
namespace Rehearsal.Transport
open Settings (OAuth)

structure Grant where
  accessToken : String
  refreshToken : Option String := none
deriving DecidableEq

namespace Grant

def ofSource? (depth : Nat) (v : Json.Source) : Option Grant := do
  let f : Json.Fields ← v.fields? ["access_token", "refresh_token"] depth
  return { accessToken := ← f.need "access_token" (·.text?), refreshToken := ← f.get? "refresh_token" (·.text?) }

def ofBytes? (bytes : List UInt8) : Option Grant :=
  (Json.Source.ofBytes? bytes).bind (ofSource? Json.depthLimit)

end Grant
end Rehearsal.Transport

/-! Forms: named values in one text, as servers take them in the body of a request. -/
namespace Rehearsal.Transport.Form

def contentType : String := "application/x-www-form-urlencoded"

def isUnreserved (c : Char) : Bool :=
  c.isAlphanum || c == '-' || c == '_' || c == '.' || c == '~'

def encodeField : String × String → List Char
  | (name, value) => name.toList ++ '=' :: Text.Percent.encode isUnreserved value.toList

def encode (fields : List (String × String)) : List Char :=
  ['&'].intercalate (fields.map encodeField)

end Rehearsal.Transport.Form

namespace Rehearsal.Settings.OAuth
open Transport

def refreshFields (o : OAuth) : List (String × String) :=
  [("grant_type", "refresh_token"), ("refresh_token", o.refreshToken), ("client_id", o.clientId),
    ("client_secret", o.clientSecret)]

def refreshBody (o : OAuth) : List UInt8 := Text.Utf8.encode (Form.encode o.refreshFields)

def grant (reply : Except String Reply) : Except Failure Grant :=
  match reply with
  | .error detail => .error (.transport (.refresh detail))
  | .ok r =>
    if !r.isSuccess then .error (.transport (.refreshStatus r.statusText))
    else match r.body.bind Grant.ofBytes? with
      | some g => .ok g
      | none => .error (.transport (.token "no tokens"))

def refreshDispatch (o : OAuth) : Dispatch := { url := o.tokenUrl, contentType := Form.contentType, body := o.refreshBody }

/-- A new access token. Only success changes the refresh token. -/
def refresh [Monad m] (client : Client m) (o : OAuth) : m (Except Failure String × OAuth) := do
  match grant (← client o.refreshDispatch) with
  | .error f => return (.error f, o)
  | .ok g => return (.ok g.accessToken, { o with refreshToken := g.refreshToken.getD o.refreshToken })

end Rehearsal.Settings.OAuth
