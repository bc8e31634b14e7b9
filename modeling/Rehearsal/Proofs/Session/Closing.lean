import Rehearsal.Proofs.Session.Memory
import Rehearsal.Transport.Local

/-!
A closed session. Only what the policy lets through goes out, and a session that is closed stays closed, unless the
policy lets a launch through and the response to it keeps the session open.
-/
namespace Rehearsal.Session
open Wire (Kind Request Response)
variable {a b : Actor} {r : Request} {sent : List Delivery} {x : Except Failure (Option Response)}

theorem allowed_of_sent (step : Sent a r sent x b) (closed : a.session.closed = true) :
    ∀ d ∈ sent, a.policy.allows d.kind = true := by
  intro d handed
  obtain ⟨kind, free⟩ := step.free d handed
  rw [kind]
  exact ((refusal?_eq_none_iff a r).mp free).2 closed

theorem refused_of_closed (closed : a.session.closed = true) (barred : a.policy.allows r.kind = false) :
    ∃ f, a.refusal? r = some f := by
  cases free : a.refusal? r with
  | some f => exact ⟨f, rfl⟩
  | none =>
    have allowed := ((refusal?_eq_none_iff a r).mp free).2 closed
    rw [barred] at allowed
    cases allowed

/-- The one way to open a closed session: a response that does not end it, to a request the policy lets through. -/
theorem reopened_of_sent (step : Sent a r sent x b) (closed : a.session.closed = true)
    (opened : b.session.closed = false) :
    r.kind.expectsResponse = true ∧ a.policy.allows r.kind = true ∧
      ∃ e bytes response, sent = [⟨r.kind, e, .ok (some bytes)⟩] ∧ Response.read bytes = .response response ∧
        response.ends = false := by
  cases step with
  | refused => rw [closed] at opened; cases opened
  | untimed => rw [closed] at opened; cases opened
  | lost => rw [closed] at opened; cases opened
  | @arrived _ _ _ answer free =>
    have expects : r.kind.expectsResponse = true := by
      cases kind : r.kind <;> simp_all [Actor.settle, Actor.noteStarted, Actor.noteEnded, Kind.expectsResponse]
    refine ⟨expects, ((refusal?_eq_none_iff a r).mp free).2 closed, ?_⟩
    rw [settle_conversational a r answer expects] at opened
    cases read : Actor.readAnswer r answer with
    | error f =>
      rw [read] at opened
      exact absurd (closed.symm.trans opened) Bool.noConfusion
    | ok response =>
      obtain ⟨bytes, rfl, parsed⟩ := readAnswer_eq_ok read
      rw [read] at opened
      exact ⟨_, bytes, response, rfl, parsed, opened⟩

theorem policy_of_sent (step : Sent a r sent x b) : b.policy = a.policy := by
  cases step with
  | @arrived _ _ _ answer =>
    cases expects : r.kind.expectsResponse with
    | true =>
      rw [settle_conversational a r answer expects]
      cases Actor.readAnswer r answer <;> rfl
    | false =>
      cases kind : r.kind <;> simp_all [Actor.settle, Actor.noteStarted, Actor.noteEnded, Kind.expectsResponse]
  | _ => rfl

theorem kind_of_allowed {policy : Policy} {k : Kind} (allowed : policy.allows k = true)
    (expects : k.expectsResponse = true) : policy = .allowLaunchAndSessionEnded ∧ k = .launch := by
  cases policy <;> cases k <;> simp_all [Policy.allows, Kind.expectsResponse]

theorem closed_of_sends {log : List Delivery} (h : Sends a log b) (closed : a.session.closed = true)
    (strict : a.policy ≠ .allowLaunchAndSessionEnded) : b.session.closed = true ∧ b.policy = a.policy := by
  induction h with
  | nothing => exact ⟨closed, rfl⟩
  | @more _ _ b c _ _ _ last ih =>
    refine ⟨?_, (policy_of_sent last).trans ih.2⟩
    cases opened : c.session.closed with
    | true => rfl
    | false =>
      obtain ⟨expects, allowed, -⟩ := reopened_of_sent last ih.1 opened
      rw [ih.2] at allowed
      exact absurd (kind_of_allowed allowed expects).1 strict

theorem calls_follow_policy_when_closed {σ : Type} (w : World (StateM σ)) (identity : Identity) (policy : Policy) (n : Nat)
    (s : σ) (cs : List Call) :
    let k := (Conversation.start identity policy n s).calls w cs
    (k.actor.stage = .closed ↔ k.actor.session.closed = true) ∧
    (k.actor.session.closed = true →
      (∀ c : Call, policy.allows c.request.kind = false → ∃ f, k.call w c = (.error (.state f), k)) ∧
      (∀ c : Call, ∃ sent, (k.call w c).2.log = k.log ++ sent ∧ ∀ d ∈ sent, policy.allows d.kind = true) ∧
      (policy ≠ .allowLaunchAndSessionEnded → ∀ more, (k.calls w more).actor.session.closed = true) ∧
      (policy = .rejectAll → ∀ more, k.calls w more = k) ∧
      (policy = .allowLaunchAndSessionEnded → ∀ c : Call, (k.call w c).2.actor.session.closed = false →
        c.request = .launch ∧ ∃ e bytes response, (k.call w c).2.log = k.log ++ [⟨.launch, e, .ok (some bytes)⟩] ∧
          Response.read bytes = .response response ∧ response.shouldEnd ≠ some true)) := by
  intro k
  obtain ⟨new, sends, hlog⟩ := Conversation.calls_sends w (.start identity policy n s) cs
  obtain rfl : k.log = new := hlog
  have acc : Account identity policy n k.log k.actor := .of_sends sends
  refine ⟨acc.stage_closed_iff, fun closed => ?_⟩
  have refused : ∀ c : Call, policy.allows c.request.kind = false → ∃ f, k.call w c = (.error (.state f), k) := by
    intro c barred
    rw [← acc.policy] at barred
    obtain ⟨f, refusal⟩ := refused_of_closed closed barred
    exact ⟨f, Conversation.call_refused w k c refusal⟩
  refine ⟨refused, ?_, ?_, ?_, ?_⟩
  · intro c
    obtain ⟨sent, step, log⟩ := Conversation.call_sent w k c
    rw [← acc.policy]
    exact ⟨sent, log, allowed_of_sent step closed⟩
  · intro strict more
    obtain ⟨_, later, _⟩ := Conversation.calls_sends w k more
    rw [← acc.policy] at strict
    exact (closed_of_sends later closed strict).1
  · intro reject more
    induction more with
    | nil => rfl
    | cons c rest ih =>
      obtain ⟨f, same⟩ := refused c (by rw [reject]; rfl)
      rw [Conversation.calls, List.foldl_cons, same]
      exact ih
  · intro lax c opened
    obtain ⟨sent, step, log⟩ := Conversation.call_sent w k c
    obtain ⟨expects, allowed, e, bytes, response, rfl, parsed, open_⟩ := reopened_of_sent step closed opened
    have kind := (kind_of_allowed allowed expects).2
    have launch : c.request = .launch := by
      cases request : c.request <;> simp_all [Request.kind]
    refine ⟨launch, e, bytes, response, ?_, parsed, ?_⟩
    · rw [log, kind]
    · intro ends
      simp [Response.ends, ends] at open_

/-- A launch opens again what the skill closed; anything else that is said to it is refused. -/
theorem launch_opens_what_the_skill_closed :
    let told (ends : Bool) : Answer := .ok (some { body := { shouldEnd := some ends } : Response }.toBytes)
    let k := (Conversation.start ⟨"app", "user", none, "en-US", 0⟩ .allowLaunchAndSessionEnded 7
      [.ok none, told true, told false]).calls listed [.start, .launch]
    k.actor.session.closed = true ∧ (∃ f, k.call listed (.say "on") = (.error (.state f), k)) ∧
      (k.call listed .launch).2.actor.session.closed = false ∧ ∃ e bytes response,
        (k.call listed .launch).2.log = k.log ++ [⟨.launch, e, .ok (some bytes)⟩] ∧
          Response.read bytes = .response response ∧ response.shouldEnd ≠ some true := by
  intro told k
  have closed : k.actor.session.closed = true := by decide +kernel
  have opened : (k.call listed .launch).2.actor.session.closed = false := by decide +kernel
  have policy := (calls_follow_policy_when_closed listed ⟨"app", "user", none, "en-US", 0⟩ .allowLaunchAndSessionEnded 7
    [.ok none, told true, told false] [.start, .launch]).2 closed
  exact ⟨closed, policy.1 (.say "on") rfl, opened, (policy.2.2.2.2 rfl .launch opened).2⟩

end Rehearsal.Session
