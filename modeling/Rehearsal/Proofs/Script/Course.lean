import Rehearsal.Proofs.Script.Sitting
import Rehearsal.Proofs.Script.Watching

/-! The course of a session: it does not begin, it breaks off, the skill has closed it, or its end is sent for. -/
namespace Rehearsal.Script
open Session (Actor History Identity Policy Sent)

variable {σ : Type}

section
variable (w : World (StateM σ)) (identity : Identity) (policy : Policy) (n : Node) (report : Report)

/- The middle is the node's own run, from behind the probe that the session has started. -/
inductive Course : Except Failure Unit → Report → History → Prop where
  | unbegun {id : Nat} {sent : History} {f : Failure} {a : Actor}
      (start : Sent (.create identity policy id) .sessionStarted sent (.error f) a) :
    Course (.error f) report sent
  | broken {id : Nat} {sent : History} {x : Option Wire.Response} {a : Actor} {s : σ} {f : Failure} {k : Stand σ}
      (start : Sent (.create identity policy id) .sessionStarted sent (.ok x) a)
      (middle : Play.outcome (runNode w.observed n) ⟨⟨a, report⟩, sent, s⟩ = (.error f, k)) :
    Course (.error f) k.report k.log
  | closed {id : Nat} {sent : History} {x : Option Wire.Response} {a : Actor} {s : σ} {k : Stand σ}
      (start : Sent (.create identity policy id) .sessionStarted sent (.ok x) a)
      (middle : Play.outcome (runNode w.observed n) ⟨⟨a, report⟩, sent, s⟩ = (.ok (), k))
      (closed : k.live.actor.session.closed = true) :
    Course (.ok ()) { k.report with sessions := k.report.sessions + 1 } k.log
  | unended {id : Nat} {sent last : History} {x : Option Wire.Response} {a b : Actor} {s : σ} {k : Stand σ} {f : Failure}
      (start : Sent (.create identity policy id) .sessionStarted sent (.ok x) a)
      (middle : Play.outcome (runNode w.observed n) ⟨⟨a, report⟩, sent, s⟩ = (.ok (), k))
      (opened : k.live.actor.session.closed = false)
      (stop : Sent k.live.actor (.sessionEnded .userInitiated) last (.error f) b) :
    Course (.error f) k.report (k.log ++ last)
  | ended {id : Nat} {sent last : History} {x y : Option Wire.Response} {a b : Actor} {s : σ} {k : Stand σ}
      (start : Sent (.create identity policy id) .sessionStarted sent (.ok x) a)
      (middle : Play.outcome (runNode w.observed n) ⟨⟨a, report⟩, sent, s⟩ = (.ok (), k))
      (opened : k.live.actor.session.closed = false)
      (stop : Sent k.live.actor (.sessionEnded .userInitiated) last (.ok y) b) :
    Course (.ok ())
      { k.report with requests := k.report.requests + 1, sessions := k.report.sessions + 1 } (k.log ++ last)

structure Passed (σ : Type) where
  result : Except Failure Unit
  report : Report
  log : History
  world : σ

def session (s : σ) : Passed σ :=
  let (((result, report), log), s) := ((runSession w.observed identity policy n report).run []).run s
  ⟨result, report, log, s⟩

/-- A session comes to what it comes to unwatched. -/
theorem session_unwatched (s : σ) :
    let passed := session w identity policy n report s
    (runSession w identity policy n report).run s = pure ((passed.result, passed.report), passed.world) := by
  rw [← runSession_observed w identity policy n report []]
  rfl

theorem session_eq_sitting (s : σ) :
    session w identity policy n report s =
      (let (x, k) := Play.outcome (sitting w.observed n) (enter w identity policy report [] s)
       ⟨x, k.closing x, k.log, k.world⟩) := by
  rw [session, runSession_eq_sitting]
  rfl

/-- A session is a conversation of the actor it begins with. -/
theorem session_sends (s : σ) :
    ∃ a, Session.Sends (.create identity policy ((w.draw Wire.Ids.uuidBound).run s).1)
      (session w identity policy n report s).log a := by
  have kept := keeps_sends w n _ (enter w identity policy report [] s) .nothing
  rw [session_eq_sitting]
  obtain ⟨⟨f | v, k⟩, run⟩ : ∃ out, Play.outcome (sitting w.observed n) (enter w identity policy report [] s) = out := ⟨_, rfl⟩
  all_goals
    rw [run] at kept ⊢
    exact ⟨_, kept⟩

theorem session_timed (s : σ) :
    let passed := session w identity policy n report s
    (∀ d ∈ passed.log, Session.Made w identity d.envelope) ∧
      ∀ fault, passed.result = .error (.config fault) →
        Session.Dateless w identity (.config fault) ∨ ∃ d ∈ passed.log, d.answer = .error (.config fault) := by
  have kept := keeps_timed w identity n (enter w identity policy report [] s) ⟨rfl, List.forall_mem_nil _⟩
  rw [session_eq_sitting]
  obtain ⟨⟨f | v, k⟩, run⟩ : ∃ out, Play.outcome (sitting w.observed n) (enter w identity policy report [] s) = out := ⟨_, rfl⟩
  all_goals rw [run] at kept ⊢
  · refine ⟨kept.made, fun fault failed => ?_⟩
    obtain rfl := Except.error.inj failed
    exact kept.blame fault rfl
  · exact ⟨kept.made, nofun⟩

theorem session_course (s : σ) :
    let passed := session w identity policy n report s
    Course w identity policy n report passed.result passed.report passed.log := by
  intro passed
  have same : passed = _ := session_eq_sitting w identity policy n report s
  rw [enter] at same
  generalize ((w.draw Wire.Ids.uuidBound).run s) = drawn at same
  obtain ⟨id, s₁⟩ := drawn
  obtain ⟨sent, x, a, t, start, begun⟩ := outcome_fire w ⟨⟨.create identity policy id, report⟩, [], s₁⟩ .sessionStarted
  simp only [sitting, outcome_bind, begun, List.nil_append] at same
  obtain ⟨y, rfl, -⟩ | ⟨f, rfl, rfl⟩ := fired_of_probe start rfl
  · obtain ⟨⟨z, k⟩, node⟩ : ∃ out, Play.outcome (runNode w.observed n) ⟨⟨a, report⟩, sent, t⟩ = out := ⟨_, rfl⟩
    simp only [Except.map, node] at same
    cases z with
    | error f =>
      rw [same]
      exact .broken start node
    | ok u =>
      simp only [outcome_finish] at same
      cases closed : k.live.actor.session.closed with
      | true =>
        simp only [closed, if_true] at same
        rw [same]
        exact .closed start node closed
      | false =>
        obtain ⟨last, z, b, t', stop, stopped⟩ := outcome_fire w k (.sessionEnded .userInitiated)
        simp only [closed, Bool.false_eq_true, if_false, stopped] at same
        obtain ⟨y, rfl, fired⟩ | ⟨f, rfl, rfl⟩ := fired_of_probe stop rfl
        · simp only [Except.map, Stand.closing, Stand.report, fired] at same
          rw [same]
          exact .ended start node closed stop
        · rw [same]
          exact .unended start node closed stop
  · rw [same]
    exact .unbegun start

end
end Rehearsal.Script
