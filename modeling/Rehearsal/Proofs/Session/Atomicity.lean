import Rehearsal.Proofs.Session.History

/-!
A request that fails. Whichever step it fails at, be it the guard, the clock, the transport or the answer, the
conversation is what it was; an answer that arrived is counted, and nothing else is.
-/
namespace Rehearsal
open Wire (Envelope Kind Request Response)

/-- An answer that arrived without a response in it. -/
inductive Delivery.Bare (d : Delivery) : Prop where
  | missing (nothing : d.answer = .ok none)
  | blank {bytes : List UInt8} (answered : d.answer = .ok (some bytes)) (blanks : bytes.all Text.isBlankByte = true)
  | malformed {bytes : List UInt8} (answered : d.answer = .ok (some bytes)) (read : Response.read bytes = .malformed)

/-- An answer that arrived with nothing in it: none at all, or blanks alone. -/
def Delivery.isVoid (d : Delivery) : Bool :=
  match d.answer with
  | .ok answer => answer.all (·.all Text.isBlankByte)
  | .error _ => false

namespace Session
variable {a : Actor} {r : Request} {answer : Option (List UInt8)} {f : Failure}

theorem readAnswer_of_blank (r : Request) (blanks : answer.all (·.all Text.isBlankByte) = true) :
    Actor.readAnswer r answer = .error (.protocol (.noResponse r.label)) := by
  cases answer with
  | none => rfl
  | some bytes =>
    have read : Response.read bytes = .blank := if_pos blanks
    simp [Actor.readAnswer, read]

theorem bare_of_readAnswer {d : Delivery} (arrived : d.answer = .ok answer) (failed : Actor.readAnswer r answer = .error f) :
    d.Bare := by
  cases answer with
  | none => exact .missing arrived
  | some bytes =>
    by_cases blanks : bytes.all Text.isBlankByte = true
    · exact .blank arrived blanks
    · refine .malformed arrived ?_
      have unread := (readAnswer_eq_error failed).2 bytes
      cases read : Response.read bytes with
      | blank => simp [Response.read, blanks] at read; split at read <;> cases read
      | malformed => rfl
      | response response => exact absurd read (unread response rfl)

theorem settle_eq_ok {y : Option Response} (settled : (a.settle r answer).1 = .ok y) :
    (y = none ↔ r.kind.expectsResponse = false) ∧ ∀ response, y = some response → (a.settle r answer).2.last = some response := by
  cases expects : r.kind.expectsResponse with
  | false =>
    obtain ⟨b, probe⟩ := settle_probe a r answer expects
    rw [probe] at settled
    obtain rfl := Except.ok.inj settled
    simp
  | true =>
    rw [settle_conversational a r answer expects] at settled ⊢
    cases read : Actor.readAnswer r answer with
    | error fault => simp [read] at settled
    | ok response =>
      rw [read] at settled
      obtain rfl := Except.ok.inj settled
      simp

theorem expectsResponse_eq_false_iff (k : Kind) : k.expectsResponse = false ↔ k = .sessionStarted ∨ k = .sessionEnded := by
  cases k <;> decide

/-- To watch the deliveries is not to watch how an envelope comes about. -/
theorem envelope_observed {m : Type → Type} [Monad m] [LawfulMonad m] (w : World m) (a : Actor) (r : Request) (log : History) :
    (a.envelope w.observed r).run log = (·, log) <$> a.envelope w r := by
  cases free : a.refusal? r <;> simp [Actor.envelope, free, World.observed]

section
variable {σ : Type} (w : World (StateM σ)) {s t u : σ} {e : Envelope} (log : History)

theorem fire_unbuilt (unbuilt : (a.envelope w r).run s = pure (.error f, t)) :
    ((a.fire w.observed r).run log).run s = pure (((.error f, a), log), t) := by
  rw [Actor.fire, StateT.run_bind, envelope_observed]
  simp [unbuilt]

theorem fire_built {answer : Answer} (built : (a.envelope w r).run s = pure (.ok e, t))
    (delivered : (w.deliver r.kind e).run t = pure (answer, u)) :
    ∃ y, ((a.fire w.observed r).run log).run s = pure ((y, log ++ [⟨r.kind, e, answer⟩]), u) ∧
      ∀ f, answer = .error f → y.1 = .error f := by
  rw [Actor.fire, StateT.run_bind, envelope_observed]
  cases answer with
  | error f => exact ⟨(.error f, a), by simp [built, World.observed, delivered], fun _ same => by cases same; rfl⟩
  | ok answer => exact ⟨a.settle r answer, by simp [built, World.observed, delivered], fun _ same => by cases same⟩

end

structure Atomic (a : Actor) (r : Request) (sent : List Delivery) (x : Except Failure (Option Response)) (b : Actor) : Prop where
  failed : ∀ f, x = .error f → b = { a with fired := a.fired + sent.countP Delivery.arrived }
  bare : ∀ f, x = .error f → ∀ d ∈ sent, d.arrived = true →
    r.kind.expectsResponse = true ∧ d.Bare ∧ ∃ fault, f = .protocol fault
  counted : ∀ y, x = .ok y → b.fired = a.fired + 1
  unanswered : ∀ y, x = .ok y → (y = none ↔ r.kind = .sessionStarted ∨ r.kind = .sessionEnded)
  kept : ∀ response, x = .ok (some response) → b.last = some response
  probe : ∀ d ∈ sent, d.arrived = true → r.kind = .sessionStarted ∨ r.kind = .sessionEnded → x = .ok none
  void : ∀ d ∈ sent, d.isVoid = true → r.kind.expectsResponse = true → x = .error (.protocol (.noResponse r.label))

/-- Nothing that arrived, and nothing that is different. -/
theorem Atomic.of_unanswered {sent : List Delivery} (lost : ∀ d ∈ sent, ∃ f, d.answer = .error f) :
    Atomic a r sent (.error f) a := by
  have silent : ∀ d ∈ sent, d.arrived = false ∧ d.isVoid = false := by
    intro d hd
    obtain ⟨f, error⟩ := lost d hd
    simp [Delivery.arrived, Delivery.isVoid, error, Except.isOk, Except.toBool]
  have none_arrived : sent.countP Delivery.arrived = 0 := by
    simpa using fun d hd => (silent d hd).1
  constructor
  case failed =>
    intro _ _
    rw [none_arrived]
    rfl
  case bare =>
    intro _ _ d hd arrived
    simp [(silent d hd).1] at arrived
  case probe =>
    intro d hd arrived
    simp [(silent d hd).1] at arrived
  case void =>
    intro d hd void
    simp [(silent d hd).2] at void
  -- the rest is about success
  all_goals intro _ ok; cases ok

theorem Atomic.of_answered {d : Delivery} (arrived : d.answer = .ok answer) :
    Atomic a r [d] (a.settle r answer).1 (a.settle r answer).2 := by
  have counts : d.arrived = true := Delivery.arrived_of_ok arrived
  constructor
  case failed =>
    intro f failed
    simp [(settle_eq_error failed).2.2, counts]
  case bare =>
    intro f failed d' hd' _
    obtain ⟨expects, read, -⟩ := settle_eq_error failed
    obtain rfl := List.mem_singleton.mp hd'
    exact ⟨expects, bare_of_readAnswer arrived read, (readAnswer_eq_error read).1⟩
  case counted => exact fun _ _ => settle_fired a r answer
  case unanswered =>
    intro y settled
    exact (settle_eq_ok settled).1.trans (expectsResponse_eq_false_iff r.kind)
  case kept =>
    intro response settled
    exact (settle_eq_ok settled).2 response rfl
  case probe =>
    intro _ _ _ probe
    obtain ⟨b, settled⟩ := settle_probe a r answer ((expectsResponse_eq_false_iff r.kind).mpr probe)
    rw [settled]
  case void =>
    intro d' hd' void expects
    obtain rfl := List.mem_singleton.mp hd'
    have blanks : answer.all (·.all Text.isBlankByte) = true := by simpa [Delivery.isVoid, arrived] using void
    rw [settle_conversational a r answer expects, readAnswer_of_blank r blanks]

theorem Sent.atomic {b : Actor} {sent : List Delivery} {x : Except Failure (Option Response)} (step : Sent a r sent x b) :
    Atomic a r sent x b := by
  cases step with
  | refused => exact .of_unanswered (by simp)
  | untimed => exact .of_unanswered (by simp)
  | lost => exact .of_unanswered (by simp)
  | arrived => exact .of_answered rfl

theorem failed_requests_leave_conversations {σ : Type} (w : World (StateM σ)) (a : Actor) (r : Request) (log : History) (s : σ) :
    ∃ sent x b t,
      ((a.fire w.observed r).run log).run s = pure (((x, b), log ++ sent), t) ∧ (a.fire w r).run s = pure ((x, b), t) ∧
      (∀ f, ((a.envelope w r).run s).1 = .error f → sent = [] ∧ x = .error f) ∧
      (∀ e, ((a.envelope w r).run s).1 = .ok e →
        ∃ answer, sent = [⟨r.kind, e, answer⟩] ∧ ∀ f, answer = .error f → x = .error f) ∧
      Atomic a r sent x b := by
  obtain ⟨sent, x, b, t, run, step⟩ := fire_sent w s a r
  have watched := run log
  have unwatched : (a.fire w r).run s = pure ((x, b), t) := by
    rw [← fire_observed w a r log, StateT.run_map, watched]
    rfl
  refine ⟨sent, x, b, t, watched, unwatched, ?_, ?_, step.atomic⟩
  · intro f unbuilt
    have built : (a.envelope w r).run s = pure (.error f, ((a.envelope w r).run s).2) := Prod.ext unbuilt rfl
    have same : (((x, b), log ++ sent), t) = (((.error f, a), log), _) := watched.symm.trans (fire_unbuilt w log built)
    have unsent : log ++ sent = log := congrArg (fun o => o.1.2) same
    exact ⟨List.append_cancel_left (unsent.trans (List.append_nil log).symm), congrArg (fun o => o.1.1.1) same⟩
  · intro e built
    have built : (a.envelope w r).run s = pure (.ok e, ((a.envelope w r).run s).2) := Prod.ext built rfl
    obtain ⟨answer, u, delivered⟩ := run_eq_pure (w.deliver r.kind e) ((a.envelope w r).run s).2
    obtain ⟨y, delivery, lost⟩ := fire_built w log built delivered
    have same : (((x, b), log ++ sent), t) = ((y, log ++ [⟨r.kind, e, answer⟩]), u) := watched.symm.trans delivery
    have one : log ++ sent = log ++ [⟨r.kind, e, answer⟩] := congrArg (fun o => o.1.2) same
    refine ⟨answer, List.append_cancel_left one, fun f failed => ?_⟩
    rw [show x = y.1 from congrArg (fun o => o.1.1.1) same, lost f failed]

end Session
end Rehearsal
