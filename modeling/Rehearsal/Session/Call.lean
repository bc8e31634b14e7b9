import Rehearsal.Session.Actor

/-!
What the owner of a conversation asks of it: to begin, to say one thing or another, to end. Each is one request;
those that converse have to bring a response.
-/
namespace Rehearsal.Session
open Wire (EndReason Request Response Slots)
variable {m : Type → Type} [Monad m]

namespace Actor

/-- Fires the probe that the session has started. Its answer does not count. -/
def start (w : World m) (a : Actor) : m (Except Failure Unit × Actor) := do
  let (x, a) ← a.fire w .sessionStarted
  return (x.map fun _ => (), a)

def endSession (w : World m) (reason : EndReason) (a : Actor) : m (Except Failure Unit × Actor) := do
  let (x, a) ← a.fire w (.sessionEnded reason)
  return (x.map fun _ => (), a)

def converse (w : World m) (r : Request) (a : Actor) : m (Except Failure Response × Actor) := do
  let (x, a) ← a.fire w r
  match x with
  | .error f => return (.error f, a)
  | .ok (some response) => return (.ok response, a)
  | .ok none => return (.error (.protocol .unanswered), a)

def launch (w : World m) (a : Actor) : m (Except Failure Response × Actor) := a.converse w .launch

def intent (w : World m) (name : String) (slots : List (String × String)) (a : Actor) :
    m (Except Failure Response × Actor) :=
  a.converse w (.intent name (.ofPairs slots))

def say (w : World m) (text : String) (a : Actor) : m (Except Failure Response × Actor) :=
  a.converse w (.utterance text)

end Actor

inductive Call where
  | start
  | launch
  | intent (name : String) (slots : List (String × String))
  | say (text : String)
  | endSession (reason : EndReason)
  | fire (r : Request)

namespace Call

def request : Call → Request
  | .start => .sessionStarted
  | .launch => .launch
  | .intent name slots => .intent name (.ofPairs slots)
  | .say text => .utterance text
  | .endSession reason => .sessionEnded reason
  | .fire r => r

def perform (w : World m) (a : Actor) : Call → m (Except Failure (Option Response) × Actor)
  | .start => do
    let (x, a) ← a.start w
    return (x.map fun _ => none, a)
  | .launch => do
    let (x, a) ← a.launch w
    return (x.map some, a)
  | .intent name slots => do
    let (x, a) ← a.intent w name slots
    return (x.map some, a)
  | .say text => do
    let (x, a) ← a.say w text
    return (x.map some, a)
  | .endSession reason => do
    let (x, a) ← a.endSession w reason
    return (x.map fun _ => none, a)
  | .fire r => a.fire w r

end Call
end Rehearsal.Session
