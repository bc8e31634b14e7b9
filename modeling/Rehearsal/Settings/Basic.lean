import Rehearsal.Session.Identity
import Rehearsal.Session.Policy
import Rehearsal.Span.Text
import Rehearsal.Unicode.Category

/-!
Settings: who talks, what a closed session is still sent, how scripts mark references, and where the skill is.
They are put together from layers, of which the later ones count, and are checked as a whole.
-/
namespace Rehearsal
open Session (Profile Policy)
namespace Settings

structure OAuth where
  tokenUrl : String := ""
  clientId : String := ""
  clientSecret : String := ""
  refreshToken : String := ""
deriving DecidableEq

def defaultTimeout : Span := .ofSeconds (.ofNat 10)

end Settings

structure Settings where
  profile : Profile := {}
  policy : Policy := .default
  /-- What a slot begins with that reads an asset. -/
  marker : Char := '$'
  endpoint : Option String := none
  timeout : Span := Settings.defaultTimeout
  oauth : Option Settings.OAuth := none
deriving DecidableEq

namespace Settings

def isLocale (s : String) : Bool :=
  match s.toList with
  | [a, b, h, c, d] => a.isLower && b.isLower && h == '-' && c.isUpper && d.isUpper
  | _ => false

def OAuth.fields (o : OAuth) : List (String × String) :=
  [("token_url", o.tokenUrl), ("client_id", o.clientId), ("client_secret", o.clientSecret),
    ("refresh_token", o.refreshToken)]

def firstBlank (fields : List (String × Option String)) : Option String :=
  (fields.find? fun (_, v) => v.any Text.isBlankText).map (·.1)

def profileFault? (p : Profile) : Option ConfigFault :=
  if !isLocale p.locale then some (.locale p.locale)
  else match firstBlank [("application_id", p.applicationId), ("user_id", p.userId), ("access_token", p.accessToken)] with
    | some field => some (.blankIdentity field)
    | none =>
      match p.applicationId.filter (!Wire.Ids.isApplicationId ·), p.userId.filter (!Wire.Ids.isUserId ·) with
      | some id, _ => some (.applicationId id)
      | none, some id => some (.userId id)
      | none, none =>
        match Session.checkOffset p.offset with
        | .ok _ => none
        | .error _ => some (.offsetRange p.offset Session.offsetLimit)

def fault? (s : Settings) : Option ConfigFault :=
  match profileFault? s.profile with
  | some f => some f
  | none =>
    if Unicode.isAlphanumeric s.marker || Text.isBlank s.marker then some (.marker s.marker)
    else if s.timeout.nanos = 0 then some .zeroTimeout
    else match s.oauth with
      | none => none
      | some o => (firstBlank (o.fields.map fun (name, v) => (name, some v))).map .blankOAuth

def checked (s : Settings) : Except Failure Settings :=
  match s.fault? with
  | some f => .error (.config f)
  | none => .ok s

structure Layer where
  applicationId : Option String := none
  userId : Option String := none
  accessToken : Option String := none
  locale : Option String := none
  offset : Option Int := none
  policy : Option Policy := none
  marker : Option Char := none
  endpoint : Option String := none
  timeout : Option Span := none
  oauth : Option OAuth := none

def overlaid (s : Settings) (l : Layer) : Settings :=
  { profile :=
      { applicationId := l.applicationId <|> s.profile.applicationId
        userId := l.userId <|> s.profile.userId
        accessToken := l.accessToken <|> s.profile.accessToken
        locale := l.locale.getD s.profile.locale
        offset := l.offset.getD s.profile.offset }
    policy := l.policy.getD s.policy
    marker := l.marker.getD s.marker
    endpoint := l.endpoint <|> s.endpoint
    timeout := l.timeout.getD s.timeout
    oauth := l.oauth <|> s.oauth }

end Settings
end Rehearsal
