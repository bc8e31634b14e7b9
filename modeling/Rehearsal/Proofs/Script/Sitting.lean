import Rehearsal.Proofs.Script.Play

/-!
A session as one part of a run: the probe that it has started, the node, and the probe that the user has ended it unless
the skill did. Its report is what the actor and the run have counted by then.
-/
namespace Rehearsal.Script
open Session (Actor Dateless History Identity Made Policy Sends Sent fire_made fire_sent run_eq_pure)
open Wire (Request)

def finish {m : Type → Type} [Monad m] (w : World m) : Play m Unit := do
  if (← get).actor.session.closed then pure () else fire w (.sessionEnded .userInitiated)

def sitting {m : Type → Type} [Monad m] (w : World m) (n : Node) : Play m Unit := do
  fire w .sessionStarted
  runNode w n
  finish w

variable {σ : Type}

def Stand.report (k : Stand σ) : Report :=
  { k.live.report with requests := k.live.report.requests + k.live.actor.fired }

def Stand.closing (k : Stand σ) : Except Failure Unit → Report
  | .ok () => { k.report with sessions := k.report.sessions + 1 }
  | .error _ => k.report

section
variable (w : World (StateM σ)) (identity : Identity) (policy : Policy) (n : Node) (report : Report) (log : History) (s : σ)

def enter : Stand σ :=
  let drawn := (w.draw Wire.Ids.uuidBound).run s
  ⟨⟨.create identity policy drawn.1, report⟩, log, drawn.2⟩

theorem outcome_finish (k : Stand σ) :
    Play.outcome (finish w.observed) k =
      if k.live.actor.session.closed then (.ok (), k)
      else Play.outcome (fire w.observed (.sessionEnded .userInitiated)) k := by
  simp only [finish, outcome_bind, outcome_get]
  cases k.live.actor.session.closed <;> rfl

/-- A probe counts where it was delivered, and moves nothing where it was not. -/
theorem fired_of_probe {a b : Actor} {r : Request} {sent : History} {x : Except Failure (Option Wire.Response)}
    (step : Sent a r sent x b) (probe : r.kind.expectsResponse = false) :
    (∃ y, x = .ok y ∧ b.fired = a.fired + 1) ∨ ∃ f, x = .error f ∧ b = a := by
  cases step with
  | refused => exact .inr ⟨_, rfl, rfl⟩
  | untimed => exact .inr ⟨_, rfl, rfl⟩
  | lost => exact .inr ⟨_, rfl, rfl⟩
  | arrived =>
    refine .inl ⟨none, ?_⟩
    cases kind : r.kind <;> simp_all [Actor.settle, Actor.noteStarted, Actor.noteEnded, Wire.Kind.expectsResponse]

theorem run_eq_outcome {α : Type} (x : Play (StateT History (StateM σ)) α) (k : Stand σ) :
    ((x.run.run k.live).run k.log).run k.world =
      pure ((((x.outcome k).1, (x.outcome k).2.live), (x.outcome k).2.log), (x.outcome k).2.world) := rfl

theorem runSession_eq_sitting :
    ((runSession w.observed identity policy n report).run log).run s =
      (let (x, k) := Play.outcome (sitting w.observed n) (enter w identity policy report log s)
       pure (((x, k.closing x), k.log), k.world)) := by
  obtain ⟨id, s₁, draw⟩ := run_eq_pure (w.draw Wire.Ids.uuidBound) s
  have drawn : ((w.observed.draw Wire.Ids.uuidBound).run log).run s = pure ((id, log), s₁) := by
    simp [World.observed, draw]
  have entered : enter w identity policy report log s = ⟨⟨.create identity policy id, report⟩, log, s₁⟩ := by
    rw [enter, draw]
    rfl
  obtain ⟨sent, x, a, s₂, start, begun⟩ := fire_sent w s₁ (.create identity policy id) .sessionStarted
  have started := outcome_fire_of_run w ⟨⟨.create identity policy id, report⟩, log, s₁⟩ start
  rw [entered, sitting, outcome_bind, started]
  simp only [runSession, StateT.run_bind, drawn, start, pure_bind]
  obtain ⟨y, rfl, -⟩ | ⟨f, rfl, rfl⟩ := fired_of_probe begun rfl
  · simp only [Except.map, outcome_bind]
    have middle := run_eq_outcome (runNode w.observed n) ⟨⟨a, report⟩, log ++ sent, s₂⟩
    obtain ⟨⟨z, k⟩, node⟩ : ∃ out, Play.outcome (runNode w.observed n) ⟨⟨a, report⟩, log ++ sent, s₂⟩ = out := ⟨_, rfl⟩
    rw [node] at middle ⊢
    simp only [StateT.run_bind, middle, pure_bind]
    cases z with
    | error f => rfl
    | ok u =>
      simp only [outcome_finish]
      cases closed : k.live.actor.session.closed with
      | true => rfl
      | false =>
        obtain ⟨last, z, b, s₃, stop, stopped⟩ := fire_sent w k.world k.live.actor (.sessionEnded .userInitiated)
        simp only [Bool.false_eq_true, if_false, outcome_fire_of_run w k stop, StateT.run_bind, stop, pure_bind]
        obtain ⟨y, rfl, fired⟩ | ⟨f, rfl, rfl⟩ := fired_of_probe stopped rfl
        · simp only [Except.map, Stand.closing, Stand.report, fired]
          rfl
        · rfl
  · rfl

/-- A session keeps what its requests keep, as long as that does not hang on the report. Nothing else in it can fail for the
configuration. -/
theorem keeps_sitting {I : Live → History → Prop} {C : Failure → Live → History → Prop}
    (same : ∀ live log report, I live log → I { live with report } log)
    (fails : ∀ f live log, (∀ fault, f ≠ .config fault) → I live log → C f live log)
    (fires : ∀ r, Keeps I C (fire w.observed r)) : Keeps I C (sitting w.observed n) := by
  refine .bind (fires _) fun _ => .bind (keeps_runNode w ?_ ?_ ?_) fun _ k kept => ?_
  · exact fun m _ => keeps_ask_of_fires w m fires fails
  · exact fun _ p _ _ => keeps_verify_of_actor p same fails
  · exact fun _ p _ _ _ => keeps_test_of_actor p same fails
  · rw [outcome_finish]
    cases closed : k.live.actor.session.closed with
    | true => exact kept
    | false => exact fires _ k kept

/-- Whatever a session does to its actor, it does by sending. -/
theorem keeps_sends (first : Actor) :
    Keeps (fun live log => Sends first log live.actor) (fun _ live log => Sends first log live.actor)
      (sitting w.observed n) := by
  refine keeps_sitting w n (fun _ _ _ => id) (fun _ _ _ _ => id) fun r k sends => ?_
  obtain ⟨sent, x, b, t, step, run⟩ := outcome_fire w k r
  rw [run]
  cases x <;> exact sends.more step

/- What has been handed over is made for one identity, which talks on. -/
structure Timed (live : Live) (log : History) : Prop where
  same : live.actor.identity = identity
  made : ∀ d ∈ log, Made w identity d.envelope

/- Where a session fails for the configuration, the clock is to blame, or whoever answered last. -/
structure Halted (f : Failure) (log : History) : Prop where
  made : ∀ d ∈ log, Made w identity d.envelope
  blame : ∀ fault, f = .config fault → Dateless w identity f ∨ ∃ d ∈ log, d.answer = .error f

theorem keeps_timed :
    Keeps (Timed w identity) (fun f _ log => Halted w identity f log) (sitting w.observed n) := by
  refine keeps_sitting w n (fun _ _ _ timed => ⟨timed.same, timed.made⟩)
    (fun f live log other timed => ⟨timed.made, fun fault same => absurd same (other fault)⟩) fun r k ⟨same, before⟩ => ?_
  obtain ⟨sent, x, b, t, run, step, made, clock⟩ := fire_made w k.world k.live.actor r
  have all : ∀ d ∈ k.log ++ sent, Made w identity d.envelope := List.forall_mem_append.mpr ⟨before, same ▸ made⟩
  rw [outcome_fire_of_run w k run]
  cases x with
  | ok y => exact ⟨step.identity.trans same, all⟩
  | error f =>
    refine ⟨all, ?_⟩
    rintro fault rfl
    rcases step.of_config rfl clock with dateless | ⟨d, last, answer⟩
    · exact .inl (same ▸ dateless)
    · exact .inr ⟨d, List.mem_append.mpr (.inr last), answer⟩

end
end Rehearsal.Script
