import Rehearsal.Session.Actor

/-!
Two programs side by side, each in a monad of its own. A relation that goes through doing one thing after the other goes
from two worlds to all that actors do in them.
-/
namespace Rehearsal
open Session (Actor)
open Wire (Envelope Kind Request)

variable {m₁ m₂ : Type → Type} [Monad m₁] [Monad m₂] {R : ∀ {α : Type}, m₁ α → m₂ α → Prop}
  {w₁ : World m₁} {w₂ : World m₂}

structure Composes (R : ∀ {α : Type}, m₁ α → m₂ α → Prop) : Prop where
  pure : ∀ {α : Type} (v : α), R (pure v) (pure v)
  bind : ∀ {α β : Type} {x₁ : m₁ α} {x₂ : m₂ α} {y₁ : α → m₁ β} {y₂ : α → m₂ β},
    R x₁ x₂ → (∀ v, R (y₁ v) (y₂ v)) → R (x₁ >>= y₁) (x₂ >>= y₂)

structure Surroundings.Alike (R : ∀ {α : Type}, m₁ α → m₂ α → Prop) (w₁ : Surroundings m₁) (w₂ : Surroundings m₂) : Prop where
  now : R w₁.now w₂.now
  draw : ∀ bound, R (w₁.draw bound) (w₂.draw bound)
  wait : ∀ s, R (w₁.wait s) (w₂.wait s)

structure World.Alike (R : ∀ {α : Type}, m₁ α → m₂ α → Prop) (w₁ : World m₁) (w₂ : World m₂) : Prop
    extends Surroundings.Alike @R w₁.toSurroundings w₂.toSurroundings where
  deliver : ∀ kind e, R (w₁.deliver kind e) (w₂.deliver kind e)

theorem Composes.envelope (c : Composes @R) (alike : World.Alike @R w₁ w₂) (a : Actor) (r : Request) :
    R (a.envelope w₁ r) (a.envelope w₂ r) := by
  unfold Actor.envelope
  cases a.refusal? r with
  | some f => exact c.pure _
  | none => exact c.bind (alike.draw _) fun _ => c.bind alike.now fun _ => c.pure _

theorem Composes.fire (c : Composes @R) (alike : World.Alike @R w₁ w₂) (a : Actor) (r : Request) :
    R (a.fire w₁ r) (a.fire w₂ r) := by
  refine c.bind (c.envelope alike a r) fun built => ?_
  cases built with
  | error f => exact c.pure _
  | ok e =>
    refine c.bind (alike.deliver r.kind e) fun answer => ?_
    cases answer <;> exact c.pure _

def OverState (R : ∀ {α : Type}, m₁ α → m₂ α → Prop) (τ : Type) {α : Type} (x : StateT τ m₁ α) (y : StateT τ m₂ α) : Prop :=
  ∀ t, R (x.run t) (y.run t)

theorem Composes.overState (c : Composes @R) (τ : Type) : Composes (@OverState m₁ m₂ @R τ) where
  pure v := fun t => c.pure (v, t)
  bind hx hy := fun t => c.bind (hx t) fun out => hy out.1 out.2

theorem Composes.lift (c : Composes @R) {τ α : Type} {x : m₁ α} {y : m₂ α} (alike : R x y) :
    OverState @R τ (monadLift x : StateT τ m₁ α) (monadLift y : StateT τ m₂ α) :=
  fun _ => c.bind alike fun _ => c.pure _

def Forgets {m : Type → Type} [Monad m] {τ : Type} : ∀ {α : Type}, StateT τ m α → m α → Prop :=
  fun x y => ∀ t, Prod.fst <$> x.run t = y

section
variable {m : Type → Type} [Monad m] [LawfulMonad m] {τ : Type}

theorem forgets_composes : Composes (@Forgets m _ τ) where
  pure v := fun t => by simp
  bind hx hy := fun t => by
    rw [StateT.run_bind, map_bind, ← hx t, bind_map_left]
    congr; funext out
    exact hy out.1 out.2

theorem forgets_lift {α : Type} (x : m α) : Forgets (monadLift x : StateT τ m α) x := fun t => by simp

/-- To watch a world is not to change it. -/
theorem observed_alike (w : World m) : World.Alike (@Forgets m _ (List Delivery)) w.observed w where
  deliver kind e := fun log => by simp [World.observed]
  now := forgets_lift w.now
  draw bound := forgets_lift (w.draw bound)
  wait s := forgets_lift (w.wait s)

end
end Rehearsal
