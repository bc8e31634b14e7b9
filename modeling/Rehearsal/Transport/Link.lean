import Rehearsal.Transport.Refresh
import Rehearsal.World

/-!
The link to a skill over HTTP. Envelopes are posted with the access token; if the skill rejects it and tokens can be
had, the token is renewed and the same envelope posted once more.
-/
namespace Rehearsal.Transport
open Settings (OAuth)
open Wire (Kind Envelope)

structure Link where
  endpoint : String
  token : Option String := none
  oauth : Option OAuth := none
deriving DecidableEq

namespace Link

def ofSettings (s : Settings) (token : Option String) : Except Failure Link :=
  let endpoint := Text.trimText (s.endpoint.getD "")
  if endpoint = "" then .error (.config .noEndpoint) else .ok { endpoint, token, oauth := s.oauth }

def contentType : String := "application/json"

def dispatch (l : Link) (body : List UInt8) : Dispatch :=
  { url := l.endpoint, contentType, authorization := l.token.map ("Bearer " ++ ·), body }

def post [Monad m] (client : Client m) (l : Link) (body : List UInt8) : m (Except Failure Reply) := do
  let reply ← client (l.dispatch body)
  return reply.mapError fun detail => .transport (.request l.endpoint detail)

def answer (l : Link) (kind : Kind) (r : Reply) : Answer :=
  if !r.isSuccess then .error (.transport (.status kind l.endpoint r.statusText))
  else match r.body with
    | none => .error (.transport (.body "the connection was closed"))
    | some bytes => .ok (if bytes.all Text.isBlankByte then none else some bytes)

def retry [Monad m] (client : Client m) (l : Link) (o : OAuth) (kind : Kind) (body : List UInt8) : m (Answer × Link) := do
  match ← o.refresh client with
  | (.error f, o) => return (.error f, { l with oauth := some o })
  | (.ok token, o) =>
    let l := { l with token := some token, oauth := some o }
    return ((← l.post client body).bind (l.answer kind), l)

def fire [Monad m] (client : Client m) (kind : Kind) (body : List UInt8) (l : Link) : m (Answer × Link) := do
  match ← l.post client body with
  | .error f => return (.error f, l)
  | .ok r =>
    match l.oauth with
    | some o => if r.isRejection then l.retry client o kind body else return (l.answer kind r, l)
    | none => return (l.answer kind r, l)

def world [Monad m] (around : Surroundings m) (client : Client m) : World (StateT Link m) where
  deliver kind e := fun l => l.fire client kind e.toBytes
  now := around.now
  draw bound := around.draw bound
  wait s := around.wait s

end Link
end Rehearsal.Transport
