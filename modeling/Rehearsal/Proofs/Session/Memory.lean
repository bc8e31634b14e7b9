import Rehearsal.Proofs.Session.History
import Rehearsal.Transport.Local

/-!
What an actor remembers is a function of its history: the response that counts last, the attributes it left, whether
the session is closed, and the stage. The answers to probes are not part of it.
-/
namespace Rehearsal.Session
open Wire (Request)
variable {identity : Identity} {policy : Policy} {n : Nat} {h : History} {a : Actor}

theorem Account.isStarted_of_isClosed (acc : Account identity policy n h a) (closed : h.isClosed = true) :
    h.isStarted = true := by
  cases started : h.isStarted with
  | true => rfl
  | false =>
    have opened := (History.quiet (acc.probes started)).2
    rw [closed] at opened
    cases opened

theorem Account.stage_closed_iff (acc : Account identity policy n h a) : a.stage = .closed ↔ a.session.closed = true := by
  rw [acc.stage, acc.closed, History.stage]
  cases closed : h.isClosed with
  | true => simp [acc.isStarted_of_isClosed closed]
  | false =>
    split
    · simp
    · cases h.last? <;> simp

theorem Account.stage_started_iff (acc : Account identity policy n h a) :
    a.stage = .started ↔ h.isStarted = true ∧ h.last? = none ∧ ∀ d ∈ h, d.ends = false := by
  rw [acc.stage, History.stage]
  cases started : h.isStarted with
  | false => simp
  | true =>
    cases bare : h.last? with
    | some r => cases h.isClosed <;> simp
    | none =>
      rw [History.isClosed_of_last?_none bare]
      cases ended : h.any Delivery.ends with
      | true =>
        obtain ⟨d, hd, ends⟩ := List.any_eq_true.mp ended
        simp only [Bool.true_eq_false, if_false, if_true, reduceCtorEq, false_iff, true_and]
        exact fun none_ends => by simp [none_ends d hd] at ends
      | false => simpa using ended

theorem Account.stage_opened_iff (acc : Account identity policy n h a) :
    a.stage = .opened ↔ h.isStarted = true ∧ a.session.closed = false ∧ h.last?.isSome = true := by
  rw [acc.stage, acc.closed, History.stage]
  cases h.isStarted <;> cases h.isClosed <;> cases h.last? <;> simp

/-- What an envelope carries over from the responses before it. -/
theorem attributes_of_sends {log before after : History} {d : Delivery} (h : Sends (.create identity policy n) log a)
    (hd : log = before ++ d :: after) : d.envelope.session.attributes = History.attributes before := by
  obtain ⟨c, r, k, now, time, sends, -, -, -, envelope⟩ := h.split hd
  rw [envelope]
  exact (Account.of_sends sends).attributes

/-- A probe leaves the responses out of it, whatever the answer to it says. -/
theorem settle_of_probe (a : Actor) {r : Request} (h : r.kind.expectsResponse = false) (x y : Option (List UInt8)) :
    a.settle r x = a.settle r y ∧ (a.settle r x).2.last = a.last ∧
      (a.settle r x).2.session.attributes = a.session.attributes := by
  cases kind : r.kind <;> simp_all [Actor.settle, Actor.noteStarted, Actor.noteEnded, Wire.Kind.expectsResponse]

theorem remembers_after_probe {r : Request} {sent : List Delivery} {x : Except Failure (Option Wire.Response)} {b : Actor}
    (step : Sent a r sent x b) (h : r.kind.expectsResponse = false) :
    b.last = a.last ∧ b.session.attributes = a.session.attributes := by
  cases step with
  | refused => exact ⟨rfl, rfl⟩
  | untimed => exact ⟨rfl, rfl⟩
  | lost => exact ⟨rfl, rfl⟩
  | arrived => exact (settle_of_probe a h _ none).2

/-- A request leaves the response that was last, or the one that it brought. -/
theorem Sent.last {r : Request} {sent : List Delivery} {x : Except Failure (Option Wire.Response)} {b : Actor}
    (step : Sent a r sent x b) : b.last = (History.last? sent).or a.last := by
  cases expects : r.kind.expectsResponse with
  | false =>
    have silent : ∀ d ∈ sent, d.accepted? = none := fun d hd => Delivery.accepted?_probe (by rw [(step.free d hd).1, expects])
    have nothing : History.last? sent = none := by simpa [History.last?] using silent
    rw [nothing, (remembers_after_probe step expects).1]
    rfl
  | true =>
    cases step with
    | refused | untimed => rfl
    | lost => simp [History.last?, Delivery.accepted?]
    | @arrived now time id answer =>
      have heard := Delivery.accepted?_conversational (d := ⟨r.kind, a.wrap r (Wire.Ids.request id) time, .ok answer⟩) rfl expects r
      rw [settle_conversational a r answer expects]
      cases read : Actor.readAnswer r answer <;> simp [History.last?, heard, read, Except.toOption]

/-- What was said and did not fail was answered with a response that counts. -/
theorem Sent.heard {r : Request} {sent : List Delivery} {x : Except Failure (Option Wire.Response)} {b : Actor}
    (step : Sent a r sent x b) (converses : r.kind.expectsResponse = true) {y : Option Wire.Response} (ok : x = .ok y) :
    (History.last? sent).isSome = true := by
  cases step with
  | refused | untimed | lost => cases ok
  | @arrived now time id answer =>
    have heard := Delivery.accepted?_conversational (d := ⟨r.kind, a.wrap r (Wire.Ids.request id) time, .ok answer⟩) rfl converses r
    rw [settle_conversational a r answer converses] at ok
    cases read : Actor.readAnswer r answer with
    | error f => simp [read] at ok
    | ok response => simp [History.last?, heard, read, Except.toOption]

theorem calls_remember_history {σ : Type} (w : World (StateM σ)) (identity : Identity) (policy : Policy) (n : Nat) (s : σ)
    (cs : List Call) :
    let k := (Conversation.start identity policy n s).calls w cs
    k.actor.last = k.log.last? ∧
    k.actor.session.attributes = k.log.attributes ∧
    (∀ r e, ((k.actor.envelope w r).run k.world).1 = .ok e → e.session.attributes = k.log.attributes) ∧
    (∀ before d after, k.log = before ++ d :: after → d.envelope.session.attributes = History.attributes before) ∧
    k.actor.session.closed = k.log.isClosed ∧
    (k.actor.stage = .created ↔ k.log.isStarted = false) ∧
    (k.actor.stage = .closed ↔ k.actor.session.closed = true) ∧
    (k.actor.stage = .started ↔ k.log.isStarted = true ∧ k.log.last? = none ∧ ∀ d ∈ k.log, d.ends = false) ∧
    (k.actor.stage = .opened ↔
      k.log.isStarted = true ∧ k.actor.session.closed = false ∧ k.log.last?.isSome = true) ∧
    (∀ c : Call, c.request.kind.expectsResponse = false →
      (k.call w c).2.actor.last = k.actor.last ∧
      (k.call w c).2.actor.session.attributes = k.actor.session.attributes ∧
      ∀ x y, k.actor.settle c.request x = k.actor.settle c.request y) := by
  intro k
  obtain ⟨new, sends, hlog⟩ := Conversation.calls_sends w (.start identity policy n s) cs
  obtain rfl : k.log = new := hlog
  have acc : Account identity policy n k.log k.actor := .of_sends sends
  refine ⟨acc.last, acc.attributes, ?_, ?_, acc.closed, acc.stage_created_iff, acc.stage_closed_iff, acc.stage_started_iff,
    acc.stage_opened_iff, ?_⟩
  · intro r e built
    obtain ⟨-, n, now, time, -, rfl⟩ := envelope_built w k.world built
    exact acc.attributes
  · intro before d after split
    exact attributes_of_sends sends split
  · intro c probe
    obtain ⟨sent, step, -⟩ := Conversation.call_sent w k c
    have remembers := remembers_after_probe step probe
    exact ⟨remembers.1, remembers.2, fun x y => (settle_of_probe k.actor probe x y).1⟩

theorem attributes_are_replaced_not_merged :
    let told (key : String) : Answer := .ok (some { attributes := some [(key, .null)] : Wire.Response }.toBytes)
    let k := (Conversation.start ⟨"app", "user", none, "en-US", 0⟩ .rejectAll 7 [.ok none, told "step", told "done"]).calls
      listed [.start, .launch, .say "on", .say "on"]
    k.log.map (·.envelope.session.attributes.map (·.1)) = [[], [], ["step"], ["done"]] ∧
      k.log.last?.isSome = true ∧ k.actor.session.attributes = k.log.attributes := by
  intro told k
  exact ⟨by decide +kernel, by decide +kernel, (calls_remember_history listed _ _ _ _ _).2.1⟩

end Rehearsal.Session
