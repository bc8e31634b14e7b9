import Rehearsal.Proofs.Session.Closing

/-!
A policy tells whether a request is sent, and nothing of how: under another that lets it through as well, it comes to the
same.
-/
namespace Rehearsal.Session
open Wire (Kind Request)

def Actor.under (policy : Policy) (a : Actor) : Actor := { a with policy }

variable {p : Policy} {a : Actor} {r : Request}

theorem barred_of_strict (strict : p ≠ .allowLaunchAndSessionEnded) {k : Kind} (h : k ≠ .sessionEnded) : p.allows k = false := by
  cases p <;> simp_all [Policy.allows]

/-- What no policy lets through, or what needs no leave, is sent under both or under neither. -/
theorem free_under (barred : a.session.closed = true → a.policy.allows r.kind = false) (free : a.refusal? r = none) :
    (a.under p).refusal? r = none := by
  obtain ⟨order, leave⟩ := (refusal?_eq_none_iff a r).mp free
  refine (refusal?_eq_none_iff (a.under p) r).mpr ⟨order, fun closed => ?_⟩
  have allowed := leave closed
  rw [barred closed] at allowed
  cases allowed

theorem refused_under (barred : a.session.closed = true → p.allows r.kind = false) {f : StateFault}
    (refusal : a.refusal? r = some f) :
    (a.under p).refusal? r = some f ∨ ∃ label id, f = .closed label id a.policy ∧
      (a.under p).refusal? r = some (.closed label id p) := by
  by_cases probe : r.kind = .sessionStarted <;> by_cases created : a.stage = .created <;>
    by_cases closed : a.session.closed = true <;>
      simp_all [Actor.refusal?, Actor.refusal?.closedRefusal?, Actor.under]

@[simp] theorem under_self : a.under a.policy = a := rfl

@[simp] theorem identity_under : (a.under p).identity = a.identity := rfl

@[simp] theorem wrap_under : (a.under p).wrap r = a.wrap r := rfl

@[simp] theorem settle_under (answer : Option (List UInt8)) :
    (a.under p).settle r answer = ((a.settle r answer).1, (a.settle r answer).2.under p) := by
  cases kind : r.kind <;> cases read : Actor.readAnswer r answer <;> simp [Actor.settle, kind, read] <;> rfl

theorem fire_under {m : Type → Type} [Monad m] [LawfulMonad m] (w : World m) (free : a.refusal? r = none)
    (free' : (a.under p).refusal? r = none) :
    (a.under p).fire w r = (fun out => (out.1, out.2.under p)) <$> a.fire w r := by
  simp only [fire_free w free, fire_free w free', map_bind, identity_under, wrap_under]
  congr; funext n; congr; funext now
  cases a.identity.timestamp now with
  | error f => simp
  | ok time =>
    simp only [map_bind]
    congr; funext answer
    cases answer <;> simp

end Rehearsal.Session
