import Rehearsal.Proofs.Script.Parts
import Rehearsal.Proofs.Session.Sending

/-!
In worlds that answer alike runs are alike. So to watch a run is not to change it: without the record of its deliveries it is
the run in the world itself.
-/
namespace Rehearsal.Script
open Session (Actor Identity Policy)
open Wire (Request)

def Matches {m₁ m₂ : Type → Type} (R : ∀ {α : Type}, m₁ α → m₂ α → Prop) {α : Type} (x : Play m₁ α) (y : Play m₂ α) : Prop :=
  ∀ live, R (x.run.run live) (y.run.run live)

variable {m₁ m₂ : Type → Type} [Monad m₁] [Monad m₂] {R : ∀ {α : Type}, m₁ α → m₂ α → Prop}
  {w₁ : World m₁} {w₂ : World m₂}

theorem matches_composes (c : Composes @R) : Composes (@Matches m₁ m₂ @R) where
  pure v := fun live => c.pure (Except.ok v, live)
  bind hx hy := fun live => c.bind (hx live) fun out => by
    obtain ⟨f | v, live'⟩ := out
    · exact c.pure (Except.error f, live')
    · exact hy v live'

section
variable (c : Composes @R)
include c

theorem matches_lift {α : Type} {x : m₁ α} {y : m₂ α} (alike : R x y) : Matches @R (x : Play m₁ α) (y : Play m₂ α) :=
  fun _ => c.bind (c.bind alike fun _ => c.pure _) fun _ => c.pure _

theorem matches_throw {α : Type} (f : Failure) : Matches @R (throw f : Play m₁ α) (throw f : Play m₂ α) :=
  fun live => c.pure (Except.error f, live)

theorem matches_get : Matches @R (get : Play m₁ Live) (get : Play m₂ Live) :=
  fun _ => c.bind (c.pure _) fun _ => c.pure _

theorem matches_count (f : Report → Report) : Matches @R (count f) (count f) :=
  fun _ => c.bind (c.pure _) fun _ => c.pure _

theorem matches_fire (alike : World.Alike @R w₁ w₂) (r : Request) : Matches @R (fire w₁ r) (fire w₂ r) :=
  fun live => c.bind (c.fire alike live.actor r) fun _ => c.pure _

theorem matches_current (p : Check.Predicate) : Matches @R (current p) (current p) :=
  (matches_composes c).bind (matches_get c) fun live => by
    cases live.actor.last with
    | none => exact matches_throw c _
    | some r => exact (matches_composes c).pure r

theorem matches_verify (p : Check.Predicate) : Matches @R (verify p) (verify p) :=
  (matches_composes c).bind (matches_current c p) fun r => by
    cases p.require r with
    | error f => exact matches_throw c f
    | ok => exact matches_count c _

theorem matches_test (p : Check.Predicate) : Matches @R (test p) (test p) :=
  (matches_composes c).bind (matches_current c p) fun r => by
    cases p.holds r <;> exact (matches_composes c).bind (matches_count c _) fun _ => (matches_composes c).pure _

theorem matches_ask (alike : World.Alike @R w₁ w₂) (n : Node) : Matches @R (ask w₁ n) (ask w₂ n) := by
  unfold ask
  cases n.kind? with
  | none => exact (matches_composes c).pure ()
  | some k =>
    refine (matches_composes c).bind (matches_get c) fun live => ?_
    cases n.request k live.actor.last with
    | error f => exact matches_throw c f
    | ok r => exact matches_fire c alike r

theorem matches_runNode [LawfulMonad m₁] (alike : World.Alike @R w₁ w₂) (n : Node) :
    Matches @R (runNode w₁ n) (runNode w₂ n) :=
  (matches_composes c).runNode .same w₁ w₂ fun n' _ => {
    wait := fun s _ => matches_lift c (alike.wait s)
    ask := matches_ask c alike n'
    checks := (matches_composes c).checkAll fun p _ => matches_verify c p
    test := fun p _ _ => matches_test c p }

end
end Rehearsal.Script

namespace Rehearsal.Composes
open Script
open Session (Identity Policy)

variable {m₁ m₂ : Type → Type} [Monad m₁] [Monad m₂] [LawfulMonad m₁] {R : ∀ {α : Type}, m₁ α → m₂ α → Prop}
  {w₁ : World m₁} {w₂ : World m₂} (c : Composes @R) (alike : World.Alike @R w₁ w₂) (identity : Identity) (policy : Policy)
include c alike

theorem runSession (n : Node) (report : Report) :
    R (Script.runSession w₁ identity policy n report) (Script.runSession w₂ identity policy n report) := by
  refine c.bind (alike.draw _) fun id => c.bind (c.fire alike _ _) fun start => ?_
  obtain ⟨f | x, a⟩ := start
  · exact c.pure _
  · refine c.bind (matches_runNode c alike n ⟨a, report⟩) fun middle => ?_
    obtain ⟨f | u, live⟩ := middle
    · exact c.pure _
    · dsimp only
      split
      · exact c.pure _
      · refine c.bind (c.fire alike _ _) fun stop => ?_
        obtain ⟨f | y, b⟩ := stop <;> exact c.pure _

theorem runSessions (ns : List Node) (report : Report) :
    R (Script.runSessions w₁ identity policy ns report) (Script.runSessions w₂ identity policy ns report) := by
  induction ns generalizing report with
  | nil => exact c.pure _
  | cons n rest ih =>
    refine c.bind (c.runSession alike identity policy n report) fun first => ?_
    obtain ⟨f | u, report⟩ := first
    · exact c.pure _
    · exact ih report

theorem run (s : Script) : R (s.run w₁ identity policy) (s.run w₂ identity policy) :=
  c.bind (c.runSessions alike identity policy _ _) fun _ => c.pure _

end Rehearsal.Composes

namespace Rehearsal.Script
open Session (Identity Policy)

variable {m : Type → Type} [Monad m] [LawfulMonad m] (w : World m) (identity : Identity) (policy : Policy)

/-- A watched session comes to what the session comes to, and leaves the world as that does. -/
theorem runSession_observed (n : Node) (report : Report) (log : List Delivery) :
    Prod.fst <$> (runSession w.observed identity policy n report).run log = runSession w identity policy n report :=
  forgets_composes.runSession (observed_alike w) identity policy n report log

/-- A watched script comes to what the script comes to, and leaves the world as that does. -/
theorem run_observed (script : Script) (log : List Delivery) :
    Prod.fst <$> (run w.observed identity policy script).run log = run w identity policy script :=
  forgets_composes.run (observed_alike w) identity policy script log

end Rehearsal.Script
