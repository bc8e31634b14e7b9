import Rehearsal.Proofs.Alike
import Rehearsal.Session.Call

/-! What one request can come to, whatever the world does: four ways, and no fifth. -/
namespace Rehearsal.Session
open Wire (Ids.request Ids.uuidBound Kind Envelope Request Response)

/- A refusal and a clock without a date hand nothing over. What is handed over is the envelope of the actor as it
   was; only an answer, be it an empty one, moves the actor. -/
inductive Sent (a : Actor) (r : Request) :
    List Delivery → Except Failure (Option Response) → Actor → Prop where
  | refused {f : StateFault} (refusal : a.refusal? r = some f) : Sent a r [] (.error (.state f)) a
  | untimed {now : Int} {f : Failure} (free : a.refusal? r = none)
      (clock : a.identity.timestamp now = .error f) : Sent a r [] (.error f) a
  | lost {now : Int} {time : String} {n : Nat} {f : Failure} (free : a.refusal? r = none)
      (clock : a.identity.timestamp now = .ok time) :
      Sent a r [⟨r.kind, a.wrap r (Ids.request n) time, .error f⟩] (.error f) a
  | arrived {now : Int} {time : String} {n : Nat} {answer : Option (List UInt8)} (free : a.refusal? r = none)
      (clock : a.identity.timestamp now = .ok time) :
      Sent a r [⟨r.kind, a.wrap r (Ids.request n) time, .ok answer⟩] (a.settle r answer).1 (a.settle r answer).2

/-- The probe goes out while the session has not started, anything else afterwards; once the session is closed, what
the policy lets through. -/
theorem refusal?_eq_none_iff (a : Actor) (r : Request) :
    a.refusal? r = none ↔
      (r.kind = .sessionStarted ↔ a.stage = .created) ∧ (a.session.closed = true → a.policy.allows r.kind = true) := by
  by_cases probe : r.kind = .sessionStarted <;> by_cases created : a.stage = .created <;>
    simp [Actor.refusal?, Actor.refusal?.closedRefusal?, probe, created]

theorem refusal?_eq_some {a : Actor} {r : Request} {f : StateFault} (h : a.refusal? r = some f) :
    (a.stage = .created ∧ r.kind ≠ .sessionStarted) ∨ (a.stage ≠ .created ∧ r.kind = .sessionStarted) ∨
      (a.session.closed = true ∧ a.policy.allows r.kind = false ∧ f = .closed r.label a.session.id a.policy) := by
  by_cases probe : r.kind = .sessionStarted <;> by_cases created : a.stage = .created <;>
    simp_all [Actor.refusal?, Actor.refusal?.closedRefusal?]

theorem timestamp_eq_error {identity : Identity} {now : Int} {f : Failure} (h : identity.timestamp now = .error f) :
    f = .config (.clock identity.offset) ∧
      ¬(Calendar.firstSecond ≤ now + identity.offset ∧ now + identity.offset ≤ Calendar.lastSecond) := by
  simp only [Identity.timestamp] at h
  split at h
  · cases h
  · rename_i range
    exact ⟨(Except.error.inj h).symm, range⟩

theorem Sent.of_refused {a b : Actor} {r : Request} {sent : List Delivery} {x : Except Failure (Option Response)}
    {fault : StateFault} (refusal : a.refusal? r = some fault) (step : Sent a r sent x b) :
    sent = [] ∧ x = .error (.state fault) := by
  cases step with
  | refused refusal' =>
    obtain rfl := Option.some.inj (refusal.symm.trans refusal')
    exact ⟨rfl, rfl⟩
  | untimed free => simp [free] at refusal
  | lost free => simp [free] at refusal
  | arrived free => simp [free] at refusal

/-- What is handed over belongs to a request that was let through. -/
theorem Sent.free {a b : Actor} {r : Request} {sent : List Delivery} {x : Except Failure (Option Response)}
    (step : Sent a r sent x b) : ∀ d ∈ sent, d.kind = r.kind ∧ a.refusal? r = none := by
  intro d handed
  cases step with
  | refused => cases handed
  | untimed => cases handed
  | lost free =>
    obtain rfl := List.mem_singleton.mp handed
    exact ⟨rfl, free⟩
  | arrived free =>
    obtain rfl := List.mem_singleton.mp handed
    exact ⟨rfl, free⟩

/-- No request changes who is talking. -/
theorem Sent.identity {a b : Actor} {r : Request} {sent : List Delivery} {x : Except Failure (Option Response)}
    (step : Sent a r sent x b) : b.identity = a.identity := by
  cases step with
  | refused | untimed | lost => rfl
  | @arrived _ _ _ answer =>
    simp only [Actor.settle]
    cases r.kind with
    | sessionStarted | sessionEnded => rfl
    | launch | intent | utterance => cases Actor.readAnswer r answer <;> rfl

section
variable {m : Type → Type} [Monad m] [LawfulMonad m] (w : World m) {a : Actor} {r : Request}

/-- A refused request leaves the world alone. -/
theorem fire_refused {f : StateFault} (refusal : a.refusal? r = some f) :
    a.fire w r = pure (.error (.state f), a) := by
  simp [Actor.fire, Actor.envelope, refusal]

theorem fire_free (free : a.refusal? r = none) :
    a.fire w r = (do
      let n ← w.draw Ids.uuidBound
      let now ← w.now
      match a.identity.timestamp now with
      | .error f => pure (.error f, a)
      | .ok time =>
        match ← w.deliver r.kind (a.wrap r (Ids.request n) time) with
        | .error f => pure (.error f, a)
        | .ok answer => pure (a.settle r answer)) := by
  simp only [Actor.fire, Actor.envelope, free, bind_assoc, pure_bind]
  congr; funext n; congr; funext now
  cases a.identity.timestamp now <;> rfl

/-- To watch a request is not to change it. -/
theorem fire_observed (a : Actor) (r : Request) (log : List Delivery) :
    Prod.fst <$> (a.fire w.observed r).run log = a.fire w r :=
  forgets_composes.fire (observed_alike w) a r log

end

section
variable {σ : Type} (w : World (StateM σ)) (s : σ)

/-- Whatever a world does, it does it to its state alone. -/
theorem run_eq_pure {α : Type} (x : StateM σ α) (s : σ) : ∃ v t, x.run s = pure (v, t) := ⟨_, _, rfl⟩

theorem envelope_built {a : Actor} {r : Request} {e : Envelope}
    (built : ((a.envelope w r).run s).1 = .ok e) :
    a.refusal? r = none ∧ ∃ n now time, a.identity.timestamp now = .ok time ∧ e = a.wrap r (Ids.request n) time := by
  cases free : a.refusal? r with
  | some f => simp [Actor.envelope, free] at built
  | none =>
    obtain ⟨n, s₁, draw⟩ := run_eq_pure (w.draw Ids.uuidBound) s
    obtain ⟨now, s₂, tick⟩ := run_eq_pure w.now s₁
    cases clock : a.identity.timestamp now with
    | error f => simp [Actor.envelope, free, draw, tick, clock, Except.map] at built
    | ok time =>
      refine ⟨rfl, n, now, time, clock, ?_⟩
      simp [Actor.envelope, free, draw, tick, clock, Except.map] at built
      exact (Except.ok.inj built).symm

def Made (identity : Identity) (e : Envelope) : Prop :=
  ∃ (a : Actor) (r : Request) (n : Nat) (s : σ) (time : String), a.identity = identity ∧
    identity.timestamp (w.now.run s).1 = .ok time ∧ e = a.wrap r (Ids.request n) time

/-- The clock shows a time that the calendar has no date for. -/
def Dateless (identity : Identity) (f : Failure) : Prop := ∃ s, identity.timestamp (w.now.run s).1 = .error f

/-- What a request comes to does not depend on what was handed over before it. -/
theorem fire_made (a : Actor) (r : Request) :
    ∃ sent x b t, (∀ log, ((a.fire w.observed r).run log).run s = pure (((x, b), log ++ sent), t)) ∧ Sent a r sent x b ∧
      (∀ d ∈ sent, Made w a.identity d.envelope) ∧
      ∀ f, x = .error f → a.refusal? r = none → sent = [] → Dateless w a.identity f := by
  cases free : a.refusal? r with
  | some f =>
    rw [fire_refused _ free]
    exact ⟨[], .error (.state f), a, s, fun log => by simp, .refused free, List.forall_mem_nil _, nofun⟩
  | none =>
    rw [fire_free _ free]
    obtain ⟨n, s₁, draw⟩ := run_eq_pure (w.draw Ids.uuidBound) s
    obtain ⟨now, s₂, tick⟩ := run_eq_pure w.now s₁
    have shown : (w.now.run s₁).1 = now := by rw [tick]; rfl
    cases clock : a.identity.timestamp now with
    | error f =>
      refine ⟨[], .error f, a, s₂, fun log => ?_, .untimed free clock, List.forall_mem_nil _, fun g failed _ _ => ?_⟩
      · simp [World.observed, draw, tick, clock]
      · exact ⟨s₁, by rw [shown, clock, Except.error.inj failed]⟩
    | ok time =>
      let e := a.wrap r (Ids.request n) time
      have made : Made w a.identity e := ⟨a, r, n, s₁, time, rfl, by rw [shown, clock], rfl⟩
      obtain ⟨answer, s₃, deliver⟩ := run_eq_pure (w.deliver r.kind e) s₂
      cases answer with
      | error f =>
        refine ⟨[⟨r.kind, e, .error f⟩], .error f, a, s₃, fun log => ?_, .lost free clock, by simpa using made,
          by simp⟩
        simp [World.observed, draw, tick, clock, e, deliver]
      | ok answer =>
        refine ⟨[⟨r.kind, e, .ok answer⟩], (a.settle r answer).1, (a.settle r answer).2, s₃, fun log => ?_,
          .arrived free clock, by simpa using made, by simp⟩
        simp [World.observed, draw, tick, clock, e, deliver]

theorem fire_sent (a : Actor) (r : Request) :
    ∃ sent x b t, (∀ log, ((a.fire w.observed r).run log).run s = pure (((x, b), log ++ sent), t)) ∧ Sent a r sent x b := by
  obtain ⟨sent, x, b, t, run, step, -, -⟩ := fire_made w s a r
  exact ⟨sent, x, b, t, run, step⟩

end
end Rehearsal.Session
