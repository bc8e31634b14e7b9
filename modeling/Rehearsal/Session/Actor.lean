import Rehearsal.Session.Identity
import Rehearsal.Session.Policy
import Rehearsal.Wire.ResponseText

/-!
One conversation with the skill. It begins with the probe that the session has started; each response replaces
the session's attributes and says whether the session is closed; what may be sent to a closed session is a
matter of policy. A request that fails leaves the conversation as it was.
-/
namespace Rehearsal
open Json (Members)
open Wire

structure Session where
  id : String
  /-- Until the first probe has gone out. -/
  fresh : Bool := true
  attributes : Members := []
  closed : Bool := false

namespace Session

inductive Stage where
  | created
  | started
  | opened
  | closed
deriving DecidableEq

def Stage.name : Stage → String
  | .created => "created"
  | .started => "started"
  | .opened => "open"
  | .closed => "closed"

structure Actor where
  identity : Identity
  policy : Policy
  session : Session
  stage : Stage := .created
  last : Option Response := none
  /-- The requests that were delivered. -/
  fired : Nat := 0

namespace Actor

def create (identity : Identity) (policy : Policy) (n : Nat) : Actor :=
  { identity, policy, session := { id := Ids.session n } }

def refusal? (a : Actor) (r : Request) : Option StateFault :=
  if r.kind = .sessionStarted then
    if a.stage ≠ .created then some (.alreadyStarted a.session.id) else closedRefusal?
  else if a.stage = .created then some (.notStarted r.kind)
  else closedRefusal?
where
  closedRefusal? : Option StateFault :=
    if a.session.closed ∧ !a.policy.allows r.kind then some (.closed r.label a.session.id a.policy) else none

def wrap (a : Actor) (r : Request) (requestId timestamp : String) : Envelope :=
  { version := protocolVersion
    session := { fresh := a.session.fresh, id := a.session.id, party := a.identity.party, attributes := a.session.attributes }
    context := a.identity.party
    request := .ofRequest r requestId timestamp a.identity.locale }

def envelope [Monad m] (w : World m) (a : Actor) (r : Request) : m (Except Failure Envelope) := do
  match a.refusal? r with
  | some f => return .error (.state f)
  | none =>
    let n ← w.draw Ids.uuidBound
    let now ← w.now
    return (a.identity.timestamp now).map fun t => a.wrap r (Ids.request n) t

def apply (a : Actor) (r : Response) : Actor :=
  { a with
    session := { a.session with closed := r.ends, attributes := r.attributes.getD [] }
    stage := if r.ends then .closed else .opened }

def noteStarted (a : Actor) : Actor :=
  { a with session := { a.session with fresh := false }, stage := .started }

def noteEnded (a : Actor) : Actor :=
  { a with session := { a.session with closed := true }, stage := .closed }

def readAnswer (r : Request) (answer : Option (List UInt8)) : Except Failure Response :=
  match answer with
  | none => .error (.protocol (.noResponse r.label))
  | some bytes =>
    match Response.read bytes with
    | .blank => .error (.protocol (.noResponse r.label))
    | .malformed => .error (.protocol (.malformed "no response"))
    | .response response => .ok response

/-- What a delivered request changes. The answers to probes are passed over. -/
def settle (a : Actor) (r : Request) (answer : Option (List UInt8)) : Except Failure (Option Response) × Actor :=
  let a := { a with fired := a.fired + 1 }
  match r.kind with
  | .sessionStarted => (.ok none, a.noteStarted)
  | .sessionEnded => (.ok none, a.noteEnded)
  | .launch | .intent | .utterance =>
    match readAnswer r answer with
    | .error f => (.error f, a)
    | .ok response => (.ok (some response), { a.apply response with last := some response })

def fire [Monad m] (w : World m) (r : Request) (a : Actor) : m (Except Failure (Option Response) × Actor) := do
  match ← a.envelope w r with
  | .error f => return (.error f, a)
  | .ok e =>
    match ← w.deliver r.kind e with
    | .error f => return (.error f, a)
    | .ok answer => return a.settle r answer

end Actor
end Session
end Rehearsal
