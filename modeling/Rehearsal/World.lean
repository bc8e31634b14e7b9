import Rehearsal.Failure
import Rehearsal.Wire.Envelope

/-!
What a run needs from outside: someone who delivers envelopes, a clock, chance, and a way to wait. A world may be
the real one, or one that answers from a list and remembers what it was given.
-/
namespace Rehearsal
open Wire (Kind Envelope)

abbrev Answer := Except Failure (Option (List UInt8))

structure Surroundings (m : Type → Type) where
  /-- Seconds since the start of 1970. -/
  now : m Int
  /-- A random number below the bound. -/
  draw : Nat → m Nat
  wait : Span → m Unit

structure World (m : Type → Type) extends Surroundings m where
  deliver : Kind → Envelope → m Answer

structure Delivery where
  kind : Kind
  envelope : Envelope
  answer : Answer

namespace World

def recorded [Monad m] (w : World m) : World (StateT (List Envelope) m) where
  deliver kind e := do
    modify (e :: ·)
    w.deliver kind e
  now := w.now
  draw bound := w.draw bound
  wait s := w.wait s

def observed [Monad m] (w : World m) : World (StateT (List Delivery) m) where
  deliver kind e := do
    let answer ← w.deliver kind e
    modify (· ++ [⟨kind, e, answer⟩])
    return answer
  now := w.now
  draw bound := w.draw bound
  wait s := w.wait s

end World
end Rehearsal
