import Rehearsal.Proofs.Session.Sending

/-! Runs of calls, and of anything else that only sends: what an actor is after it, and what it handed over. -/
namespace Rehearsal.Session
open Wire (EndReason Ids.request Ids.uuidBound Kind Envelope Request Response)

section
variable {m : Type → Type} [Monad m] [LawfulMonad m] (w : World m)

/-- What follows a request may be left out, if it gives back all that a request can come to. -/
theorem fire_bind (a : Actor) (r : Request)
    (k : Except Failure (Option Response) × Actor → m (Except Failure (Option Response) × Actor))
    (failed : ∀ f, k (.error f, a) = pure (.error f, a))
    (settled : ∀ answer, k (a.settle r answer) = pure (a.settle r answer)) :
    a.fire w r >>= k = a.fire w r := by
  cases free : a.refusal? r with
  | some f => rw [fire_refused w free, pure_bind, failed]
  | none =>
    simp only [fire_free w free, bind_assoc]
    congr; funext n; congr; funext now
    cases a.identity.timestamp now with
    | error f => simp [failed]
    | ok time =>
      simp only [bind_assoc]
      congr; funext answer
      cases answer with
      | error f => simp [failed]
      | ok answer => simp [settled]

theorem readAnswer_eq_ok {answer : Option (List UInt8)} {response : Response}
    (h : Actor.readAnswer r answer = .ok response) :
    ∃ bytes, answer = some bytes ∧ Response.read bytes = .response response := by
  cases answer with
  | none => cases h
  | some bytes =>
    refine ⟨bytes, rfl, ?_⟩
    cases read : Response.read bytes <;> simp_all [Actor.readAnswer]

theorem readAnswer_eq_error {r : Request} {answer : Option (List UInt8)} {f : Failure}
    (h : Actor.readAnswer r answer = .error f) :
    (∃ fault, f = .protocol fault) ∧ ∀ bytes response, answer = some bytes → Response.read bytes ≠ .response response := by
  cases answer with
  | none => exact ⟨⟨_, (Except.error.inj h).symm⟩, by simp⟩
  | some bytes =>
    cases read : Response.read bytes with
    | response r => simp [Actor.readAnswer, read] at h
    | _ =>
      simp only [Actor.readAnswer, read] at h
      refine ⟨⟨_, (Except.error.inj h).symm⟩, fun b response hb => ?_⟩
      rw [← Option.some.inj hb, read]
      simp

theorem settle_conversational (a : Actor) (r : Request) (answer : Option (List UInt8))
    (h : r.kind.expectsResponse = true) :
    a.settle r answer =
      match Actor.readAnswer r answer with
      | .error f => (.error f, { a with fired := a.fired + 1 })
      | .ok response =>
        (.ok (some response), { ({ a with fired := a.fired + 1 } : Actor).apply response with last := some response }) := by
  cases read : Actor.readAnswer r answer <;> cases kind : r.kind <;> simp_all [Actor.settle, Kind.expectsResponse]

theorem settle_probe (a : Actor) (r : Request) (answer : Option (List UInt8))
    (h : r.kind.expectsResponse = false) : ∃ b, a.settle r answer = (.ok none, b) := by
  cases kind : r.kind <;> simp_all [Actor.settle, Kind.expectsResponse]

/-- An answer can fail a conversational request alone, and leaves its mark on the count alone. -/
theorem settle_eq_error {a : Actor} {r : Request} {answer : Option (List UInt8)} {f : Failure}
    (failed : (a.settle r answer).1 = .error f) :
    r.kind.expectsResponse = true ∧ Actor.readAnswer r answer = .error f ∧
      (a.settle r answer).2 = { a with fired := a.fired + 1 } := by
  have expects : r.kind.expectsResponse = true := by
    cases probe : r.kind.expectsResponse with
    | true => rfl
    | false =>
      obtain ⟨b, settled⟩ := settle_probe a r answer probe
      rw [settled] at failed
      cases failed
  rw [settle_conversational a r answer expects] at failed ⊢
  cases read : Actor.readAnswer r answer with
  | ok response => simp [read] at failed
  | error fault =>
    rw [read] at failed
    exact ⟨expects, congrArg Except.error (Except.error.inj failed), rfl⟩

theorem settle_fired (a : Actor) (r : Request) (answer : Option (List UInt8)) :
    (a.settle r answer).2.fired = a.fired + 1 := by
  simp only [Actor.settle]
  cases r.kind with
  | sessionStarted | sessionEnded => rfl
  | launch | intent | utterance => cases Actor.readAnswer r answer <;> rfl

/-- A request fails for the configuration only where the clock has no date, or where whoever answers says so. -/
theorem Sent.of_config {σ : Type} {w : World (StateM σ)} {a b : Actor} {r : Request} {sent : List Delivery}
    {x : Except Failure (Option Response)} {fault : ConfigFault} (step : Sent a r sent x b) (failed : x = .error (.config fault))
    (clock : ∀ f, x = .error f → a.refusal? r = none → sent = [] → Dateless w a.identity f) :
    Dateless w a.identity (.config fault) ∨ ∃ d ∈ sent, d.answer = .error (.config fault) := by
  cases step with
  | refused => cases failed
  | untimed free => exact .inl (clock _ failed free rfl)
  | lost =>
    obtain rfl := Except.error.inj failed
    exact .inr ⟨_, List.mem_singleton.mpr rfl, rfl⟩
  | arrived =>
    obtain ⟨-, read, -⟩ := settle_eq_error failed
    obtain ⟨⟨fault', same⟩, -⟩ := readAnswer_eq_error read
    cases same

theorem converse_eq_fire (a : Actor) (r : Request) (h : r.kind.expectsResponse = true) :
    (do let (x, a) ← a.converse w r; return (x.map some, a)) = a.fire w r := by
  simp only [Actor.converse, bind_assoc]
  refine fire_bind w a r _ (fun f => by simp [Except.map]) fun answer => ?_
  rw [settle_conversational a r answer h]
  cases Actor.readAnswer r answer <;> simp [Except.map]

theorem probe_eq_fire (a : Actor) (r : Request) (h : r.kind.expectsResponse = false) :
    (do let (x, a) ← a.fire w r; return ((x.map fun _ => ()).map fun _ => none, a)) = a.fire w r := by
  refine fire_bind w a r _ (fun f => by simp [Except.map]) fun answer => ?_
  obtain ⟨b, settled⟩ := settle_probe a r answer h
  simp [settled, Except.map]

/-- A call is its request, sent: what it adds changes nothing, and the complaint that none answered is never made. -/
theorem Call.perform_eq_fire (c : Call) (a : Actor) : c.perform w a = a.fire w c.request := by
  cases c with
  | start =>
    simp only [perform, Actor.start, bind_assoc, pure_bind]
    exact probe_eq_fire w a .sessionStarted rfl
  | endSession reason =>
    simp only [perform, Actor.endSession, bind_assoc, pure_bind]
    exact probe_eq_fire w a (.sessionEnded reason) rfl
  | launch => exact converse_eq_fire w a .launch rfl
  | intent name slots => exact converse_eq_fire w a (.intent name (.ofPairs slots)) rfl
  | say text => exact converse_eq_fire w a (.utterance text) rfl
  | fire r => rfl

end

/- What an actor may have become, and what it has handed over since: requests were sent, and that is all. -/
inductive Sends (a : Actor) : List Delivery → Actor → Prop where
  | nothing : Sends a [] a
  | more {log sent : List Delivery} {b c : Actor} {r : Request} {x : Except Failure (Option Response)}
      (before : Sends a log b) (last : Sent b r sent x c) : Sends a (log ++ sent) c

theorem Sends.trans {a b c : Actor} {log new : List Delivery} (h : Sends a log b) (h' : Sends b new c) :
    Sends a (log ++ new) c := by
  induction h' with
  | nothing => rwa [List.append_nil]
  | more _ last ih =>
    rw [← List.append_assoc]
    exact .more ih last

theorem concat_eq_append_cons {α : Type} {xs before after : List α} {x d : α} (h : xs ++ [x] = before ++ d :: after) :
    (xs = before ∧ x = d) ∨ ∃ rest, xs = before ++ d :: rest := by
  rcases List.eq_nil_or_concat after with rfl | ⟨rest, e, rfl⟩
  · have ends := List.append_inj' h rfl
    exact .inl ⟨ends.1, List.cons.inj ends.2 |>.1⟩
  · have split : xs ++ [x] = (before ++ d :: rest) ++ [e] := by simpa using h
    exact .inr ⟨rest, (List.append_inj' split rfl).1⟩

/-- Every delivery was made by the actor that there was when it was made. -/
theorem Sends.split {a b : Actor} {log before after : List Delivery} {d : Delivery} (h : Sends a log b)
    (hd : log = before ++ d :: after) :
    ∃ c r n now time, Sends a before c ∧ c.refusal? r = none ∧ c.identity.timestamp now = .ok time ∧
      d.kind = r.kind ∧ d.envelope = c.wrap r (Ids.request n) time := by
  induction h generalizing after with
  | nothing => simp at hd
  | more h last ih =>
    cases last with
    | refused => exact ih (by simpa using hd)
    | untimed => exact ih (by simpa using hd)
    | lost free clock =>
      obtain ⟨rfl, rfl⟩ | ⟨rest, earlier⟩ := concat_eq_append_cons hd
      · exact ⟨_, _, _, _, _, h, free, clock, rfl, rfl⟩
      · exact ih earlier
    | arrived free clock =>
      obtain ⟨rfl, rfl⟩ | ⟨rest, earlier⟩ := concat_eq_append_cons hd
      · exact ⟨_, _, _, _, _, h, free, clock, rfl, rfl⟩
      · exact ih earlier

abbrev History := List Delivery

structure Conversation (σ : Type) where
  actor : Actor
  log : History
  world : σ

namespace Conversation
variable {σ : Type} (w : World (StateM σ))

def start (identity : Identity) (policy : Policy) (n : Nat) (s : σ) : Conversation σ :=
  ⟨.create identity policy n, [], s⟩

def call (k : Conversation σ) (c : Call) : Except Failure (Option Response) × Conversation σ :=
  let (((x, a), log), s) := ((c.perform w.observed k.actor).run k.log).run k.world
  (x, ⟨a, log, s⟩)

/-- The conversation after calls one after the other; one that fails does not keep the next from being made. -/
def calls (k : Conversation σ) (cs : List Call) : Conversation σ :=
  cs.foldl (fun k c => (k.call w c).2) k

theorem call_sent (k : Conversation σ) (c : Call) :
    ∃ sent, Sent k.actor c.request sent (k.call w c).1 (k.call w c).2.actor ∧ (k.call w c).2.log = k.log ++ sent := by
  obtain ⟨sent, x, b, t, run, step⟩ := fire_sent w k.world k.actor c.request
  have after : k.call w c = (x, ⟨b, k.log ++ sent, t⟩) := by
    rw [call, Call.perform_eq_fire, run]
    rfl
  rw [after]
  exact ⟨sent, step, rfl⟩

/-- A call comes to what it comes to unwatched. -/
theorem call_unwatched (k : Conversation σ) (c : Call) :
    (c.perform w k.actor).run k.world = pure (((k.call w c).1, (k.call w c).2.actor), (k.call w c).2.world) := by
  rw [Call.perform_eq_fire, ← fire_observed w k.actor c.request k.log, ← Call.perform_eq_fire]
  rfl

/-- A refused call changes nothing at all. -/
theorem call_refused (k : Conversation σ) (c : Call) {f : StateFault} (refusal : k.actor.refusal? c.request = some f) :
    k.call w c = (.error (.state f), k) := by
  rw [call, Call.perform_eq_fire, fire_refused w.observed refusal]
  rfl

theorem calls_sends (k : Conversation σ) (cs : List Call) :
    ∃ new, Sends k.actor new (k.calls w cs).actor ∧ (k.calls w cs).log = k.log ++ new := by
  induction cs generalizing k with
  | nil => exact ⟨[], .nothing, (List.append_nil k.log).symm⟩
  | cons c rest ih =>
    obtain ⟨sent, step, log⟩ := call_sent w k c
    obtain ⟨new, later, log'⟩ := ih (k.call w c).2
    refine ⟨sent ++ new, ?_, ?_⟩
    · exact (Sends.more .nothing step).trans later
    · rw [← List.append_assoc, ← log]
      exact log'

end Conversation

end Rehearsal.Session
