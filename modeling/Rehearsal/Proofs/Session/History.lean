import Mathlib.Data.List.TakeWhile
import Rehearsal.Proofs.Session.Conversation

/-!
What a conversation is, told from its deliveries alone: the last response that counts, the attributes it left, and
whether the session is closed. An actor is at every moment what its history says.
-/
namespace Rehearsal
open Json (Members)
open Wire (Kind Response)

namespace Delivery

def arrived (d : Delivery) : Bool := d.answer.isOk

def starts (d : Delivery) : Bool := d.kind = .sessionStarted ∧ d.arrived
def ends (d : Delivery) : Bool := d.kind = .sessionEnded ∧ d.arrived

/-- The response that counts: to a conversational kind, and readable. -/
def accepted? (d : Delivery) : Option Response :=
  match d.answer with
  | .ok (some bytes) =>
    match Response.read bytes with
    | .response r => if d.kind.expectsResponse then some r else none
    | _ => none
  | _ => none

theorem arrived_of_ok {d : Delivery} {answer : Option (List UInt8)} (h : d.answer = .ok answer) : d.arrived = true := by
  simp [arrived, h, Except.isOk, Except.toBool]

theorem accepted?_probe {d : Delivery} (h : d.kind.expectsResponse = false) : d.accepted? = none := by
  unfold accepted?
  split
  · split <;> simp [h]
  · rfl

theorem accepted?_conversational {d : Delivery} {answer : Option (List UInt8)} (ok : d.answer = .ok answer)
    (h : d.kind.expectsResponse = true) (r : Wire.Request) :
    d.accepted? = (Session.Actor.readAnswer r answer).toOption := by
  cases answer with
  | none => simp [accepted?, ok, Session.Actor.readAnswer, Except.toOption]
  | some bytes =>
    simp only [accepted?, ok, Session.Actor.readAnswer, h]
    cases Response.read bytes <;> rfl

end Delivery

namespace Session

namespace History

def isStarted (h : History) : Bool := h.any Delivery.starts

def last? (h : History) : Option Response := (h.filterMap Delivery.accepted?).getLast?

/-- The deliveries behind that response, the last one first; all of them, where none counts. -/
def sinceLast (h : History) : List Delivery := h.reverse.takeWhile (·.accepted?.isNone)

def isClosed (h : History) : Bool :=
  h.sinceLast.any Delivery.ends || h.last?.any (·.shouldEnd = some true)

def attributes (h : History) : Members := (h.last?.bind (·.attributes)).getD []

def stage (h : History) : Stage :=
  if h.isStarted = false then .created
  else if h.isClosed then .closed
  else if h.last?.isNone then .started
  else .opened

variable (h : History) {d : Delivery}

theorem isStarted_concat : isStarted (h ++ [d]) = (isStarted h || d.starts) := by
  simp [isStarted]

theorem last?_concat : last? (h ++ [d]) = d.accepted?.or (last? h) := by
  cases accepted : d.accepted? <;> simp [last?, accepted]

theorem last?_append (h more : History) : last? (h ++ more) = (last? more).or (last? h) := by
  rw [last?, List.filterMap_append, List.getLast?_append]
  rfl

theorem isClosed_concat_of_none (none : d.accepted? = none) : isClosed (h ++ [d]) = (d.ends || isClosed h) := by
  simp [isClosed, sinceLast, last?_concat, none, Bool.or_assoc]

theorem isClosed_concat_of_some {r : Response} (some : d.accepted? = some r) : isClosed (h ++ [d]) = r.ends := by
  simp [isClosed, sinceLast, last?_concat, some, Response.ends]
  cases r.shouldEnd with
  | none => rfl
  | some b => cases b <;> rfl

/-- Probes that the session has started bring nothing and close nothing. -/
theorem quiet {h : History} (probes : ∀ d ∈ h, d.kind = .sessionStarted) : h.last? = none ∧ h.isClosed = false := by
  have bare : h.last? = none := by
    have none_accepted : ∀ d ∈ h, d.accepted? = none := fun d hd =>
      Delivery.accepted?_probe (by rw [probes d hd]; rfl)
    simpa [last?] using none_accepted
  have unended : ∀ d ∈ h.sinceLast, d.ends = false := by
    intro d hd
    have hk := probes d (List.mem_reverse.mp ((List.takeWhile_sublist _).subset hd))
    simp [Delivery.ends, hk]
  exact ⟨bare, by simpa [isClosed, bare] using unended⟩

/-- Where nothing counts yet, only the probe that the session has ended has closed it. -/
theorem isClosed_of_last?_none {h : History} (bare : h.last? = none) : h.isClosed = h.any Delivery.ends := by
  have none_accepted : ∀ d ∈ h, d.accepted? = none := by simpa [last?] using bare
  have all : h.sinceLast = h.reverse :=
    List.takeWhile_eq_self_iff.mpr fun d hd => by simp [none_accepted d (List.mem_reverse.mp hd)]
  simp [isClosed, bare, all]

end History

/- The invariant of a conversation. Before the session has started nothing but that probe was handed over: without
   this the stage would not follow from the rest. -/
structure Account (identity : Identity) (policy : Policy) (n : Nat) (h : History) (a : Actor) : Prop where
  identity : a.identity = identity
  policy : a.policy = policy
  id : a.session.id = Wire.Ids.session n
  fresh : a.session.fresh = !h.isStarted
  last : a.last = h.last?
  attributes : a.session.attributes = h.attributes
  closed : a.session.closed = h.isClosed
  stage : a.stage = h.stage
  fired : a.fired = h.countP Delivery.arrived
  probes : h.isStarted = false → ∀ d ∈ h, d.kind = .sessionStarted

variable {identity : Identity} {policy : Policy} {n : Nat} {h : History} {a b : Actor} {r : Wire.Request}

theorem Account.create (identity : Identity) (policy : Policy) (n : Nat) :
    Account identity policy n [] (.create identity policy n) := by
  constructor <;> first | rfl | simp

theorem Account.stage_created_iff (acc : Account identity policy n h a) : a.stage = .created ↔ h.isStarted = false := by
  rw [acc.stage, History.stage]
  by_cases started : h.isStarted = false
  · simp [started]
  · rw [if_neg started, iff_false_right started]
    split
    · simp
    · split <;> simp

/-- The probe goes out only before the session has started, anything else only after that. -/
theorem Account.started_of_free (acc : Account identity policy n h a) (free : a.refusal? r = none) :
    r.kind = .sessionStarted ↔ h.isStarted = false :=
  ((refusal?_eq_none_iff a r).mp free).1.trans acc.stage_created_iff

variable {d : Delivery}

/-- A delivery that is lost is as good as none. -/
theorem Account.lost (acc : Account identity policy n h a) {f : Failure} (lost : d.answer = .error f)
    (kind : h.isStarted = false → d.kind = .sessionStarted) : Account identity policy n (h ++ [d]) a := by
  have arrived : d.arrived = false := by simp [Delivery.arrived, lost, Except.isOk, Except.toBool]
  have accepted : d.accepted? = none := by simp [Delivery.accepted?, lost]
  have started : History.isStarted (h ++ [d]) = h.isStarted := by
    simp [History.isStarted_concat, Delivery.starts, arrived]
  have closed : History.isClosed (h ++ [d]) = h.isClosed := by
    simp [History.isClosed_concat_of_none h accepted, Delivery.ends, arrived]
  have last : History.last? (h ++ [d]) = h.last? := by simp [History.last?_concat, accepted]
  exact {
    acc with
    fresh := by rw [started, acc.fresh]
    last := by rw [last, acc.last]
    attributes := by rw [History.attributes, last, acc.attributes]; rfl
    closed := by rw [closed, acc.closed]
    stage := by rw [History.stage, started, closed, last, acc.stage]; rfl
    fired := by simp [acc.fired, arrived]
    probes := by
      intro before e he
      rw [started] at before
      rcases List.mem_append.mp he with he | he
      · exact acc.probes before e he
      · rw [List.mem_singleton.mp he]
        exact kind before }

variable {answer : Option (List UInt8)}

theorem Account.begun (acc : Account identity policy n h a) (before : h.isStarted = false)
    (rk : r.kind = .sessionStarted) (dk : d.kind = r.kind) (ok : d.answer = .ok answer) :
    Account identity policy n (h ++ [d]) (a.settle r answer).2 := by
  rw [rk] at dk
  have arrived := Delivery.arrived_of_ok ok
  have accepted : d.accepted? = none := Delivery.accepted?_probe (by rw [dk]; rfl)
  obtain ⟨bare, opened⟩ := History.quiet (acc.probes before)
  have started : History.isStarted (h ++ [d]) = true := by
    simp [History.isStarted_concat, Delivery.starts, arrived, dk]
  have last : History.last? (h ++ [d]) = none := by simp [History.last?_concat, accepted, bare]
  have closed : History.isClosed (h ++ [d]) = false := by
    simp [History.isClosed_concat_of_none h accepted, Delivery.ends, dk, opened]
  have settled : (a.settle r answer).2 = Actor.noteStarted { a with fired := a.fired + 1 } := by
    simp [Actor.settle, rk]
  rw [settled]
  exact {
    identity := acc.identity
    policy := acc.policy
    id := acc.id
    fresh := by rw [started]; rfl
    last := by rw [last, ← bare, ← acc.last]; rfl
    attributes := by rw [History.attributes, last, ← bare]; exact acc.attributes
    closed := by rw [closed, ← opened, ← acc.closed]; rfl
    stage := by simp [History.stage, started, closed, last, Actor.noteStarted]
    fired := by simp [Actor.noteStarted, acc.fired, arrived]
    probes := by simp [started] }

theorem Account.ended (acc : Account identity policy n h a) (before : h.isStarted = true)
    (rk : r.kind = .sessionEnded) (dk : d.kind = r.kind) (ok : d.answer = .ok answer) :
    Account identity policy n (h ++ [d]) (a.settle r answer).2 := by
  rw [rk] at dk
  have arrived := Delivery.arrived_of_ok ok
  have accepted : d.accepted? = none := Delivery.accepted?_probe (by rw [dk]; rfl)
  have started : History.isStarted (h ++ [d]) = true := by simp [History.isStarted_concat, before]
  have last : History.last? (h ++ [d]) = h.last? := by simp [History.last?_concat, accepted]
  have closed : History.isClosed (h ++ [d]) = true := by
    simp [History.isClosed_concat_of_none h accepted, Delivery.ends, arrived, dk]
  have settled : (a.settle r answer).2 = Actor.noteEnded { a with fired := a.fired + 1 } := by
    simp [Actor.settle, rk]
  rw [settled]
  exact {
    identity := acc.identity
    policy := acc.policy
    id := acc.id
    fresh := by rw [started, ← before, ← acc.fresh]; rfl
    last := by rw [last, ← acc.last]; rfl
    attributes := by rw [History.attributes, last]; exact acc.attributes
    closed := by rw [closed]; rfl
    stage := by simp [History.stage, started, closed, Actor.noteEnded]
    fired := by simp [Actor.noteEnded, acc.fired, arrived]
    probes := by simp [started] }

/-- An answer that is no response counts as delivered and changes nothing else. -/
theorem Account.unanswered (acc : Account identity policy n h a) (before : h.isStarted = true)
    (rk : r.kind.expectsResponse = true) (dk : d.kind = r.kind) (ok : d.answer = .ok answer) {f : Failure}
    (unread : Actor.readAnswer r answer = .error f) :
    Account identity policy n (h ++ [d]) { a with fired := a.fired + 1 } := by
  have arrived := Delivery.arrived_of_ok ok
  have accepted : d.accepted? = none := by
    rw [Delivery.accepted?_conversational ok (dk ▸ rk) r, unread]; rfl
  have started : History.isStarted (h ++ [d]) = true := by simp [History.isStarted_concat, before]
  have last : History.last? (h ++ [d]) = h.last? := by simp [History.last?_concat, accepted]
  have closed : History.isClosed (h ++ [d]) = h.isClosed := by
    have unended : d.ends = false := by
      cases kind : r.kind <;> simp_all [Delivery.ends, Kind.expectsResponse]
    simp [History.isClosed_concat_of_none h accepted, unended]
  exact {
    acc with
    fresh := by rw [started, ← before]; exact acc.fresh
    last := by rw [last]; exact acc.last
    attributes := by rw [History.attributes, last]; exact acc.attributes
    closed := by rw [closed]; exact acc.closed
    stage := acc.stage.trans (by simp [History.stage, before, started, closed, last])
    fired := by simp [acc.fired, arrived]
    probes := by simp [started] }

theorem Account.answered (acc : Account identity policy n h a) (before : h.isStarted = true)
    (rk : r.kind.expectsResponse = true) (dk : d.kind = r.kind) (ok : d.answer = .ok answer) {response : Wire.Response}
    (read : Actor.readAnswer r answer = .ok response) :
    Account identity policy n (h ++ [d])
      { ({ a with fired := a.fired + 1 } : Actor).apply response with last := some response } := by
  have arrived := Delivery.arrived_of_ok ok
  have accepted : d.accepted? = some response := by
    rw [Delivery.accepted?_conversational ok (dk ▸ rk) r, read]; rfl
  have started : History.isStarted (h ++ [d]) = true := by simp [History.isStarted_concat, before]
  have last : History.last? (h ++ [d]) = some response := by simp [History.last?_concat, accepted]
  have closed := History.isClosed_concat_of_some h accepted
  exact {
    identity := acc.identity
    policy := acc.policy
    id := acc.id
    fresh := by rw [started, ← before, ← acc.fresh]; rfl
    last := by rw [last]
    attributes := by rw [History.attributes, last]; rfl
    closed := by rw [closed]; rfl
    stage := by cases ends : response.ends <;> simp [History.stage, started, closed, last, Actor.apply, ends]
    fired := by simp [Actor.apply, acc.fired, arrived]
    probes := by simp [started] }

theorem Account.sent (acc : Account identity policy n h a) {sent : List Delivery}
    {x : Except Failure (Option Wire.Response)} (step : Sent a r sent x b) : Account identity policy n (h ++ sent) b := by
  cases step with
  | refused => rwa [List.append_nil]
  | untimed => rwa [List.append_nil]
  | lost free => exact acc.lost rfl (acc.started_of_free free).mpr
  | @arrived _ _ _ answer free =>
    have order := acc.started_of_free free
    cases expects : r.kind.expectsResponse with
    | false =>
      cases kind : r.kind with
      | sessionStarted => exact acc.begun (order.mp kind) kind kind.symm rfl
      | sessionEnded => exact acc.ended (by simpa [kind] using order) kind kind.symm rfl
      | _ => simp [kind, Kind.expectsResponse] at expects
    | true =>
      have before : h.isStarted = true := by
        cases kind : r.kind <;> simp_all [Kind.expectsResponse]
      rw [settle_conversational a r answer expects]
      cases read : Actor.readAnswer r answer with
      | error f => exact acc.unanswered before expects rfl rfl read
      | ok response => exact acc.answered before expects rfl rfl read

/-- An actor is what its history says. -/
theorem Account.of_sends {log : List Delivery} (h : Sends (.create identity policy n) log a) :
    Account identity policy n log a := by
  induction h with
  | nothing => exact .create identity policy n
  | more _ last ih => exact ih.sent last

end Session
end Rehearsal
