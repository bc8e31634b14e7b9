import Rehearsal.Proofs.Script.Course
import Rehearsal.Proofs.Session.Closing
import Rehearsal.Transport.Local

/-!
Why sessions fail. A list that has been lowered is complete, so a session of it fails only for what the world does and
what the skill answers, or because the script asks of the session what it does not allow.
-/
namespace Rehearsal.Script
open Check (Predicate Asset)
open Session (Account Actor History Identity Policy Sends Sent)
open Wire (Kind Request Response)

variable {σ : Type} {identity : Identity} {policy : Policy} {n : Node} {log : History}

/- Behind each failure stands what was handed over last, or the response that counts by then. -/
inductive Cause (identity : Identity) (policy : Policy) (n : Node) (log : History) : Failure → Prop where
  | transport {before : History} {d : Delivery} {f : Failure} (last : log = before ++ [d]) (answer : d.answer = .error f) :
    Cause identity policy n log f
  | response {before : History} {d : Delivery} {fault : ProtocolFault} (last : log = before ++ [d])
      (kind : d.kind = .launch ∨ d.kind = .intent ∨ d.kind = .utterance) (arrived : d.arrived = true)
      (unread : ∀ bytes response, d.answer = .ok (some bytes) → Response.read bytes ≠ .response response) :
    Cause identity policy n log (.protocol fault)
  | check {m : Node} {p : Predicate} {r : Response} {check : String} {observed : Option String} (inner : Node.Within m n)
      (asked : .check p ∈ m) (current : log.last? = some r) (fails : p.holds r = false)
      (failed : p.require r = .error (.validation check observed)) :
    Cause identity policy n log (.validation check observed)
  | reference {m : Node} {name : String} {a : Asset} {why : Unresolved} (inner : Node.Within m n)
      (slot : .slot name (.reference a) ∈ m.params)
      (unresolved : SlotValue.resolve log.last? (.reference a) = .error (.unresolved a why)) :
    Cause identity policy n log (.unresolved a why)
  | clock {now : Int}
      (range : ¬(Calendar.firstSecond ≤ now + identity.offset ∧ now + identity.offset ≤ Calendar.lastSecond)) :
    Cause identity policy n log (.config (.clock identity.offset))
  | early {m : Node} {p : Predicate} (inner : Node.Within m n) (asked : .check p ∈ m ∨ ∃ body, .branch p body ∈ m)
      (bare : log.last? = none) :
    Cause identity policy n log (.state (.nothingToCheck p.render))
  | closed {m : Node} {k : Kind} {label session : String} (inner : Node.Within m n) (kind : m.kind? = some k)
      (closed : log.isClosed = true) (barred : policy.allows k = false) :
    Cause identity policy n log (.state (.closed label session policy))

/-- Scripting faults come from the transport alone. -/
theorem Cause.script {fault : ScriptFault} (cause : Cause identity policy n log (.script fault)) :
    ∃ before d, log = before ++ [d] ∧ d.answer = .error (.script fault) := by
  cases cause with
  | transport last answer => exact ⟨_, _, last, answer⟩

/-- What a script itself is blamed for when it is read. A run does not add to it. -/
theorem Cause.of_scripting {f : Failure} (cause : Cause identity policy n log f)
    (scripting : f.code = "script_error" ∨ f.code = "yaml_error") :
    ∃ before d, log = before ++ [d] ∧ d.answer = .error f := by
  cases cause with
  | transport last answer => exact ⟨_, _, last, answer⟩
  | _ => simp [Failure.code] at scripting

theorem findSome?_params {α : Type} {m : Node} {p : Param} (f : Param → Option α) (h : p ∈ m.params)
    (found : (f p).isSome = true) : ∃ v, m.params.findSome? f = some v := by
  rw [← Option.isSome_iff_exists, List.findSome?_isSome_iff]
  exact ⟨p, h, found⟩

/-- The request of a complete list lacks nothing; at most a reference in it finds nothing. -/
theorem Node.Sendable.request {m : Node} (sendable : m.Sendable) {k : Kind} (kind : m.kind? = some k)
    (previous : Option Response) :
    (∃ r, m.request k previous = .ok r ∧ r.kind = k) ∨
      ∃ name a why, .slot name (.reference a) ∈ m.params ∧ m.request k previous = .error (.unresolved a why) ∧
        SlotValue.resolve previous (.reference a) = .error (.unresolved a why) := by
  rcases sendable.kind k kind with rfl | rfl | rfl
  · exact .inl ⟨.launch, rfl, rfl⟩
  · obtain ⟨name, named⟩ := sendable.intent kind
    obtain ⟨name', first⟩ := findSome?_params Param.intent? named rfl
    cases slots : resolveSlots previous (m.params.filterMap Param.slot?) with
    | ok texts => exact .inl ⟨.intent name' (.ofPairs texts), by simp [Node.request, first, slots, Except.map], rfl⟩
    | error f =>
      obtain ⟨⟨key, v⟩, hs, failed⟩ := resolveSlots_eq_error slots
      obtain ⟨a, why, rfl, rfl⟩ := resolve_eq_error failed
      obtain ⟨p, hp, asked⟩ := List.mem_filterMap.mp hs
      refine .inr ⟨key, a, why, ?_, by simp [Node.request, first, slots, Except.map], failed⟩
      cases p <;> simp_all [Param.slot?]
  · obtain ⟨text, worded⟩ := sendable.utterance kind
    obtain ⟨text', first⟩ := findSome?_params Param.utterance? worded rfl
    exact .inl ⟨.utterance text', by simp [Node.request, first], rfl⟩

variable {id : Nat} {a b : Actor} {r : Request} {sent : History} {x : Except Failure (Option Response)} {f : Failure}

/-- A request that may be sent fails only outside. -/
theorem cause_of_sent (same : a.identity = identity) (free : a.refusal? r = none) (step : Sent a r sent x b)
    (failed : x = .error f) : Cause identity policy n (log ++ sent) f := by
  cases step with
  | refused refusal => simp [free] at refusal
  | untimed _ clock =>
    obtain rfl := Except.error.inj failed
    obtain ⟨rfl, range⟩ := Session.timestamp_eq_error clock
    rw [same] at range ⊢
    exact .clock range
  | lost =>
    obtain rfl := Except.error.inj failed
    exact .transport rfl rfl
  | @arrived _ _ _ answer =>
    cases expects : r.kind.expectsResponse with
    | false =>
      obtain ⟨b, settled⟩ := Session.settle_probe a r answer expects
      rw [settled] at failed
      cases failed
    | true =>
      rw [Session.settle_conversational a r answer expects] at failed
      cases read : Actor.readAnswer r answer with
      | ok response => simp [read] at failed
      | error f' =>
        rw [read] at failed
        obtain rfl := Except.error.inj failed
        obtain ⟨⟨fault, rfl⟩, unread⟩ := Session.readAnswer_eq_error read
        refine .response rfl ?_ (Delivery.arrived_of_ok rfl) fun bytes response h => unread bytes response (Except.ok.inj h)
        cases kind : r.kind <;> simp_all [Kind.expectsResponse]

/- Between its two probes a session has started, and its actor is what its history says. -/
structure UnderWay (identity : Identity) (policy : Policy) (id : Nat) (live : Live) (log : History) : Prop where
  account : Account identity policy id log live.actor
  started : log.isStarted = true

abbrev Caused (identity : Identity) (policy : Policy) (n : Node) (f : Failure) (_ : Live) (log : History) : Prop :=
  Cause identity policy n log f

theorem UnderWay.step {live : Live} (under : UnderWay identity policy id live log) (step : Sent live.actor r sent x b) :
    UnderWay identity policy id { live with actor := b } (log ++ sent) where
  account := under.account.sent step
  started := by simpa [History.isStarted] using .inl (by simpa [History.isStarted] using under.started)

/-- Once the session has started, only its end refuses requests. -/
theorem UnderWay.refused {live : Live} (under : UnderWay identity policy id live log) {fault : StateFault}
    (refusal : live.actor.refusal? r = some fault) (converses : r.kind ≠ .sessionStarted) :
    log.isClosed = true ∧ policy.allows r.kind = false ∧ fault = .closed r.label live.actor.session.id policy := by
  have acc := under.account
  rcases Session.refusal?_eq_some refusal with ⟨created, -⟩ | ⟨-, probe⟩ | ⟨closed, barred, rfl⟩
  · rw [acc.stage_created_iff, under.started] at created
    cases created
  · exact absurd probe converses
  · rw [acc.policy] at barred ⊢
    exact ⟨acc.closed.symm.trans closed, barred, rfl⟩

theorem UnderWay.begun {s : Option Response} (step : Sent (.create identity policy id) .sessionStarted sent x a)
    (ok : x = .ok s) (report : Report) : UnderWay identity policy id ⟨a, report⟩ sent where
  account := (Account.create identity policy id).sent step
  started := by
    cases step with
    | arrived => rfl
    | _ => cases ok

variable (w : World (StateM σ)) {m : Node}

theorem keeps_ask (inner : Node.Within m n) (sendable : m.Sendable) :
    Keeps (UnderWay identity policy id) (Caused identity policy n) (ask w.observed m) := by
  intro k under
  have acc := under.account
  rw [outcome_ask]
  cases kind : m.kind? with
  | none => exact under
  | some asked =>
    rcases sendable.request kind k.live.actor.last with ⟨r, built, rk⟩ | ⟨name, a, why, slot, failed, unresolved⟩
    · obtain ⟨sent, x, b, t, step, run⟩ := outcome_fire w k r
      simp only [built, run]
      cases x with
      | ok => exact under.step step
      | error f =>
        cases free : k.live.actor.refusal? r with
        | none => exact cause_of_sent acc.identity free step rfl
        | some fault =>
          obtain ⟨rfl, failed⟩ := step.of_refused free
          obtain rfl := Except.error.inj failed
          have converses : r.kind ≠ .sessionStarted := by
            rw [rk]
            rcases sendable.kind asked kind with rfl | rfl | rfl <;> simp
          obtain ⟨closed, barred, rfl⟩ := under.refused free converses
          rw [List.append_nil]
          exact .closed inner kind closed (rk ▸ barred)
    · simp only [failed]
      rw [acc.last] at unresolved
      exact .reference inner slot unresolved

theorem keeps_verify {p : Predicate} (inner : Node.Within m n) (asked : .check p ∈ m) :
    Keeps (σ := σ) (UnderWay identity policy id) (Caused identity policy n) (verify p) := by
  intro k under
  rw [outcome_verify]
  have last := under.account.last
  cases current : k.live.actor.last with
  | none => exact .early inner (.inl asked) (last.symm.trans current)
  | some r =>
    cases required : p.require r with
    | ok =>
      simp only [required]
      exact ⟨under.account, under.started⟩
    | error f =>
      simp only [required]
      obtain ⟨fails, check, observed, rfl⟩ := require_eq_error required
      exact .check inner asked (last.symm.trans current) fails required

theorem keeps_test {p : Predicate} {body : Node} (inner : Node.Within m n) (asked : .branch p body ∈ m) :
    Keeps (σ := σ) (UnderWay identity policy id) (Caused identity policy n) (test p) := by
  intro k under
  rw [outcome_test]
  have last := under.account.last
  cases current : k.live.actor.last with
  | none => exact .early inner (.inr ⟨body, asked⟩) (last.symm.trans current)
  | some r => cases holds : p.holds r <;> simpa [holds] using ⟨under.account, under.started⟩

/-- A run of a list that is complete stays under way, or has a cause to fail. -/
theorem keeps_underWay (complete : ∀ m, Node.Within m n → m.Sendable) :
    Keeps (UnderWay identity policy id) (Caused identity policy n) (runNode w.observed n) :=
  keeps_runNode w (fun m inner => keeps_ask w inner (complete m inner)) (fun _ _ inner asked => keeps_verify inner asked)
    fun _ _ _ inner asked => keeps_test inner asked

theorem session_has_cause (complete : ∀ m, Node.Within m n → m.Sendable) (report : Report) (s : σ)
    (failed : (session w identity policy n report s).result = .error f) :
    Cause identity policy n (session w identity policy n report s).log f := by
  have course := session_course w identity policy n report s
  generalize session w identity policy n report s = passed at course failed ⊢
  obtain ⟨result, report', log, t⟩ := passed
  cases course with
  | unbegun start =>
    obtain rfl := Except.error.inj failed
    have cause : Cause identity policy n ([] ++ log) _ := cause_of_sent rfl rfl start rfl
    exact cause
  | @broken _ sent _ a before _ _ start middle =>
    obtain rfl := Except.error.inj failed
    have kept := keeps_underWay w complete ⟨⟨a, report⟩, sent, before⟩ (UnderWay.begun start rfl report)
    rwa [middle] at kept
  | closed => cases failed
  | @unended _ sent _ _ a _ before _ _ start middle opened stop =>
    obtain rfl := Except.error.inj failed
    have under := keeps_underWay w complete ⟨⟨a, report⟩, sent, before⟩ (UnderWay.begun start rfl report)
    rw [middle] at under
    refine cause_of_sent under.account.identity ?_ stop rfl
    rw [Session.refusal?_eq_none_iff, under.account.stage_created_iff, under.started, opened]
    exact ⟨by simp [Request.kind], fun h => by cases h⟩
  | ended => cases failed

theorem lowered_fails_for_a_cause [Regex.Room] {marker : Char} {t : Tree} (lowered : Node.ofTree marker t = .ok n) :
    (∀ m, Node.Within m n → m.Sendable) ∧
    ∀ {σ : Type} (w : World (StateM σ)) (identity : Identity) (policy : Policy) (report : Report) (s : σ) (f : Failure),
      ((runSession w identity policy n report).run s).1.1 = .error f →
      let log := (session w identity policy n report s).log
      Cause identity policy n log f ∧
      ∀ fault, f = .script fault → ∃ before d, log = before ++ [d] ∧ d.answer = .error f := by
  have complete : ∀ m, Node.Within m n → m.Sendable := fun m inner => sendable_of_ofTree lowered inner
  refine ⟨complete, fun w identity policy report s f failed => ?_⟩
  rw [session_unwatched] at failed
  have cause := session_has_cause w complete report s failed
  refine ⟨cause, ?_⟩
  rintro fault rfl
  exact cause.script

/-- A scripting fault in the middle of a session: the transport's own. -/
theorem script_fault_of_the_transport :
    let t : Tree := .list [.map [("intent", .text "Order"), ("size", .text "large")], .list [.map [("utterance", .text "on")]]]
    let n : Node := [.param (.intent "Order"), .param (.slot "size" (.literal "large")), .follow [.param (.utterance "on")]]
    let identity : Identity := ⟨"app", "user", none, "en-US", 0⟩
    let passed := session Session.listed identity .rejectAll n {} [.ok none, .error (.script .emptyMap)]
    Node.ofTree '$' t = .ok n ∧ Node.Sendable [.param (.utterance "on")] ∧
      passed.result = .error (.script .emptyMap) ∧ Cause identity .rejectAll n passed.log (.script .emptyMap) ∧
      ∃ before d, passed.log = before ++ [d] ∧ d.answer = .error (.script .emptyMap) := by
  intro t n identity passed
  have lowered : Node.ofTree '$' t = .ok n := by rfl
  have failed : ((runSession Session.listed identity .rejectAll n {}).run
      [.ok none, .error (.script .emptyMap)]).1.1 = .error (.script .emptyMap) := by rfl
  have inner : Node.Within [.param (.utterance "on")] n := .follow (by simp [n]) (.self _)
  obtain ⟨complete, causes⟩ := lowered_fails_for_a_cause lowered
  obtain ⟨cause, last⟩ := causes Session.listed identity .rejectAll {} [.ok none, .error (.script .emptyMap)] _ failed
  exact ⟨lowered, complete _ inner, rfl, cause, last _ rfl⟩

end Rehearsal.Script
