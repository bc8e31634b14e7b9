import Rehearsal.Transport.Exchange
import Rehearsal.World

/-!
Skills and servers inside the program: a handler that is shown envelopes as the wire would carry them, and what answers from
a list.
-/
namespace Rehearsal.Transport
open Json (Value)
open Wire (Kind Envelope)

def valueBytes (v : Value) : List UInt8 := Text.Utf8.encode v.chars

def deliverLocally [Monad m] (handler : Envelope → m (Except Failure (Option Value))) (_ : Kind) (e : Envelope) :
    m Answer := do
  match Envelope.ofBytes? e.toBytes with
  | none => return .error (.json "the envelope is not decodable")
  | some e =>
    let answer ← handler e
    return answer.map fun v => v.map valueBytes

def inTurn : Client (StateM (List Reply)) := fun _ => do
  match ← get with
  | [] => return .error "no connection"
  | r :: rest => set rest; return .ok r

end Rehearsal.Transport

namespace Rehearsal.Session

def listed : World (StateM (List Answer)) where
  deliver _ _ := fun
    | [] => pure (.ok none, [])
    | x :: rest => pure (x, rest)
  now := return 0
  draw _ := return 0
  wait _ := return ()

end Rehearsal.Session
