import Rehearsal.Json.Outline
import Rehearsal.Json.Record
import Rehearsal.Wire.Request

/-! Envelopes: a request with the session and the user it belongs to, as it goes to the skill. -/
namespace Rehearsal.Wire
open Json

structure User where
  id : String
  accessToken : Option String := none
deriving DecidableEq

structure Party where
  applicationId : String
  user : User
deriving DecidableEq

structure SessionPart where
  fresh : Bool
  id : String
  party : Party
  attributes : Members := []

structure IntentPart where
  name : String
  slots : Slots := []
deriving DecidableEq

/-- The request itself; what belongs to one kind alone is absent in the others. -/
structure Payload where
  type : String
  requestId : String
  timestamp : String
  locale : String
  intent : Option IntentPart := none
  text : Option String := none
  reason : Option EndReason := none
deriving DecidableEq

structure Envelope where
  version : String
  session : SessionPart
  context : Party
  request : Payload

def protocolVersion : String := "1.0"

namespace Payload

def ofRequest (r : Request) (requestId timestamp locale : String) : Payload :=
  let bare : Payload := { type := r.kind.wireName, requestId, timestamp, locale }
  match r with
  | .sessionStarted | .launch => bare
  | .intent name slots => { bare with intent := some ⟨name, slots⟩ }
  | .utterance text => { bare with text := some text }
  | .sessionEnded reason => { bare with reason := some reason }

end Payload

private def str (s : String) : Option Outline := some (.text s)

namespace User

def outline (u : User) : Outline :=
  .present [("userId", str u.id), ("accessToken", u.accessToken.map .text)]

def ofSource? (depth : Nat) (v : Source) : Option User := do
  let f : Fields ← v.fields? ["userId", "accessToken"] depth
  return { id := ← f.need "userId" (·.text?), accessToken := ← f.get? "accessToken" (·.text?) }

end User

def applicationOutline (id : String) : Outline := .present [("applicationId", str id)]

def application? (depth : Nat) (v : Source) : Option String := do
  let f : Fields ← v.fields? ["applicationId"] depth
  f.need "applicationId" (·.text?)

namespace Slot

def outline (s : Slot) : Outline := .present [("name", str s.name), ("value", str s.value)]

def ofSource? (depth : Nat) (v : Source) : Option Slot := do
  let f : Fields ← v.fields? ["name", "value"] depth
  return ⟨← f.need "name" (·.text?), ← f.need "value" (·.text?)⟩

end Slot

namespace Slots

def outline (s : Slots) : Outline := .record (s.map fun (key, slot) => (key, slot.outline))

def ofSource? (depth : Nat) : Source → Option Slots
  | .object members =>
    if depth = 0 then none else
      members.foldlM (fun slots (key, v) => do
        let key ← key
        let slot ← Slot.ofSource? (depth - 1) v
        return Keyed.insert key slot slots) []
  | _ => none

end Slots

namespace IntentPart

def outline (i : IntentPart) : Outline :=
  .present [("name", str i.name), ("slots", some (Slots.outline i.slots))]

def ofSource? (depth : Nat) (v : Source) : Option IntentPart := do
  let f : Fields ← v.fields? ["name", "slots"] depth
  return { name := ← f.need "name" (·.text?), slots := ← f.getD "slots" [] (Slots.ofSource? (depth - 1)) }

end IntentPart

namespace Payload

def outline (p : Payload) : Outline :=
  .present [("type", str p.type), ("requestId", str p.requestId), ("timestamp", str p.timestamp),
    ("locale", str p.locale), ("intent", p.intent.map (·.outline)), ("text", p.text.map .text),
    ("reason", p.reason.map fun r => .text r.wireName)]

def toValue (p : Payload) : Value := p.outline.toValue

def ofSource? (depth : Nat) (v : Source) : Option Payload := do
  let f : Fields ← v.fields? ["type", "requestId", "timestamp", "locale", "intent", "text", "reason"] depth
  return {
    type := ← f.need "type" (·.text?)
    requestId := ← f.need "requestId" (·.text?)
    timestamp := ← f.need "timestamp" (·.text?)
    locale := ← f.need "locale" (·.text?)
    intent := ← f.get? "intent" (IntentPart.ofSource? (depth - 1))
    text := ← f.get? "text" (·.text?)
    reason := ← f.get? "reason" fun r => (r.choice? Source.isNull).bind EndReason.ofName? }

end Payload

namespace SessionPart

def outline (s : SessionPart) : Outline :=
  .present [("new", some (.leaf (.bool s.fresh))), ("sessionId", str s.id),
    ("application", some (applicationOutline s.party.applicationId)), ("attributes", some (.leaf (.object s.attributes))),
    ("user", some s.party.user.outline)]

def ofSource? (depth : Nat) (v : Source) : Option SessionPart := do
  let f : Fields ← v.fields? ["new", "sessionId", "application", "attributes", "user"] depth
  let applicationId ← f.need "application" (application? (depth - 1))
  let user ← f.need "user" (User.ofSource? (depth - 1))
  return {
    fresh := ← f.need "new" (·.bool?)
    id := ← f.need "sessionId" (·.text?)
    party := { applicationId, user }
    attributes := ← f.getD "attributes" [] (·.members? (depth - 1)) }

end SessionPart

namespace Party

def outline (p : Party) : Outline :=
  .present [("System", some (.present [("application", some (applicationOutline p.applicationId)),
    ("user", some p.user.outline)]))]

def ofSource? (depth : Nat) (v : Source) : Option Party := do
  let f : Fields ← v.fields? ["System"] depth
  f.need "System" fun v => do
    let f : Fields ← v.fields? ["application", "user"] (depth - 1)
    return {
      applicationId := ← f.need "application" (application? (depth - 2))
      user := ← f.need "user" (User.ofSource? (depth - 2)) }

end Party

namespace Envelope

def outline (e : Envelope) : Outline :=
  .present [("version", str e.version), ("session", some e.session.outline), ("context", some e.context.outline),
    ("request", some e.request.outline)]

def toValue (e : Envelope) : Value := e.outline.toValue

def toBytes (e : Envelope) : List UInt8 := Text.Utf8.encode e.outline.line

def ofSource? (depth : Nat) (v : Source) : Option Envelope := do
  let f : Fields ← v.fields? ["version", "session", "context", "request"] depth
  return {
    version := ← f.need "version" (·.text?)
    session := ← f.need "session" (SessionPart.ofSource? (depth - 1))
    context := ← f.need "context" (Party.ofSource? (depth - 1))
    request := ← f.need "request" (Payload.ofSource? (depth - 1)) }

def ofBytes? (bytes : List UInt8) : Option Envelope :=
  (Source.ofBytes? bytes).bind (ofSource? depthLimit)

end Envelope
end Rehearsal.Wire
