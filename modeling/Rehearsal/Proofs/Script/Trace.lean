import Rehearsal.Proofs.Script.Series

/-!
What holds of each delivery and of what the world becomes over it holds of a whole run, as far as it goes through doing
one thing after the other.
-/
namespace Rehearsal.Script
open Session (History Identity Policy)

variable {τ : Type}

structure Traces (w : World (StateM τ)) (Q : τ → History → τ → Prop) : Prop where
  nothing : ∀ s, Q s [] s
  more : ∀ {s s' s'' : τ} {a b : History}, Q s a s' → Q s' b s'' → Q s (a ++ b) s''
  now : ∀ s, Q s [] (w.now.run s).2
  draw : ∀ bound s, Q s [] ((w.draw bound).run s).2
  wait : ∀ d s, Q s [] ((w.wait d).run s).2
  deliver : ∀ kind e s, Q s [⟨kind, e, ((w.deliver kind e).run s).1⟩] ((w.deliver kind e).run s).2

def Honest (w : World (StateM τ)) : Prop :=
  Traces w fun _ new _ => ∀ d ∈ new, ∀ f, d.answer = .error f → ∃ fault, f = .transport fault

def Traced (Q : τ → History → τ → Prop) {α : Type} (x : StateT History (StateM τ) α) : Prop :=
  ∀ log s, ∃ new, ((x.run log).run s).1.2 = log ++ new ∧ Q s new ((x.run log).run s).2

variable {w : World (StateM τ)} {Q : τ → History → τ → Prop} (t : Traces w Q)
include t

theorem traced_composes :
    Composes fun {α} (x : StateT History (StateM τ) α) (_ : StateT History (StateM τ) α) => Traced Q x where
  pure v := fun log s => ⟨[], (List.append_nil log).symm, t.nothing s⟩
  bind {α β x₁ x₂ y₁ y₂} hx hy := fun log s => by
    obtain ⟨new, grown, first⟩ := hx log s
    obtain ⟨⟨⟨v, log₁⟩, s₁⟩, run⟩ : ∃ out, (x₁.run log).run s = out := ⟨_, rfl⟩
    obtain ⟨later, grown', second⟩ := hy v log₁ s₁
    have both : ((x₁ >>= y₁).run log).run s = ((y₁ v).run log₁).run s₁ := by
      rw [StateT.run_bind, StateT.run_bind, run]
      rfl
    rw [run] at grown first
    have grown : log₁ = log ++ new := grown
    rw [both]
    exact ⟨new ++ later, by rw [grown', grown, List.append_assoc], t.more first second⟩

theorem traced_observed :
    World.Alike (fun {α} (x : StateT History (StateM τ) α) (_ : StateT History (StateM τ) α) => Traced Q x)
      w.observed w.observed where
  now := fun log s => ⟨[], (List.append_nil log).symm, t.now s⟩
  draw bound := fun log s => ⟨[], (List.append_nil log).symm, t.draw bound s⟩
  wait d := fun log s => ⟨[], (List.append_nil log).symm, t.wait d s⟩
  deliver kind e := fun _ s => ⟨[⟨kind, e, ((w.deliver kind e).run s).1⟩], rfl, t.deliver kind e s⟩

theorem session_traced (identity : Identity) (policy : Policy) (n : Node) (report : Report) (s : τ) :
    Q s (session w identity policy n report s).log (session w identity policy n report s).world := by
  obtain ⟨new, log, traced⟩ := (traced_composes t).runSession (traced_observed t) identity policy n report [] s
  have log : (session w identity policy n report s).log = new := log
  rw [log]
  exact traced

theorem played_traced (identity : Identity) (policy : Policy) (script : Script) (s : τ) :
    Q s (played w identity policy script s).log (played w identity policy script s).world := by
  obtain ⟨new, log, traced⟩ := (traced_composes t).run (traced_observed t) identity policy script [] s
  have log : (played w identity policy script s).log = new := log
  rw [log]
  exact traced

end Rehearsal.Script
