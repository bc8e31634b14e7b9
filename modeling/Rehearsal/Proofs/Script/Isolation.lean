import Rehearsal.Proofs.Script.Causes
import Rehearsal.Proofs.Script.Series
import Rehearsal.Proofs.Session.Handshake
import Rehearsal.Transport.Local

/-!
Sessions keep apart. What they come to is put together from what each comes to alone; a session knows nothing of the ones
before it, neither their id nor their attributes, and no response that a slot could refer to.
-/
namespace Rehearsal.Script
open Check (Asset)
open Session (Account Actor History Identity Policy Sends)
open Wire (Response)

theorem resolveSlots_of_nothing {slots : List (String × SlotValue)} {key : String} {a : Asset}
    (h : (key, .reference a) ∈ slots) :
    ∃ key' b, (key', .reference b) ∈ slots ∧ resolveSlots none slots = .error (.unresolved b .noResponse) := by
  induction slots with
  | nil => cases h
  | cons slot rest ih =>
    obtain ⟨first, v⟩ := slot
    cases v with
    | reference b => exact ⟨first, b, List.mem_cons_self, rfl⟩
    | literal text =>
      obtain ⟨key', b, hb, failed⟩ := ih (by simpa using h)
      refine ⟨key', b, List.mem_cons_of_mem _ hb, ?_⟩
      simp only [resolveSlots, SlotValue.resolve, failed]
      rfl

variable {σ : Type} (w : World (StateM σ))

/-- Where there is no response yet, a slot that refers to one keeps its request from being sent. -/
theorem outcome_ask_of_nothing {m : Node} {k : Stand σ} {name key : String} {a : Asset} (bare : k.live.actor.last = none)
    (kind : m.kind? = some .intent) (named : .intent name ∈ m.params) (slot : .slot key (.reference a) ∈ m.params) :
    ∃ key' b, .slot key' (.reference b) ∈ m.params ∧
      Play.outcome (ask w.observed m) k = (.error (.unresolved b .noResponse), k) := by
  obtain ⟨name', first⟩ := findSome?_params Param.intent? named rfl
  have mem : (key, SlotValue.reference a) ∈ m.params.filterMap Param.slot? := List.mem_filterMap.mpr ⟨_, slot, rfl⟩
  obtain ⟨key', b, hb, failed⟩ := resolveSlots_of_nothing mem
  obtain ⟨p, hp, asked⟩ := List.mem_filterMap.mp hb
  refine ⟨key', b, ?_, ?_⟩
  · cases p <;> simp_all [Param.slot?]
  · have request : m.request .intent none = .error (.unresolved b .noResponse) := by
      simp [Node.request, first, failed, Except.map]
    rw [outcome_ask, kind, bare]
    simp only [request]

variable (identity : Identity) (policy : Policy)

/-- What a session hands over first is marked as new, and brings nothing along. -/
theorem session_begins_anew (n : Node) (report : Report) (s : σ) {before after : History} {d : Delivery}
    (split : (session w identity policy n report s).log = before ++ d :: after) :
    d.envelope.session.id = Wire.Ids.session ((w.draw Wire.Ids.uuidBound).run s).1 ∧
    d.envelope.session.attributes = History.attributes before ∧
    (before = [] → d.kind = .sessionStarted ∧ d.envelope.session.fresh = true ∧ d.envelope.session.attributes = []) := by
  obtain ⟨a, sends⟩ := session_sends w identity policy n report s
  obtain ⟨id, -, fresh, order⟩ := Session.delivery_of_sends sends split
  have attributes := Session.attributes_of_sends sends split
  refine ⟨id, attributes, ?_⟩
  rintro rfl
  exact ⟨order.mpr rfl, fresh, attributes⟩

theorem sessions_come_together :
    (∀ (xs ys : List Node) (report : Report) (s : σ),
      series w identity policy (xs ++ ys) report s =
        (series w identity policy xs report s).andThen (series w identity policy ys {})) ∧
    (∀ (script : Script) (xs ys : List Node) (s : σ),
      played w identity policy { script with sessions := xs ++ ys } s =
        (played w identity policy { script with sessions := xs } s).andThen
          (played w identity policy { script with sessions := ys })) ∧
    (∀ (n : Node) (report : Report) (s : σ),
      let p := session w identity policy n {} s
      series w identity policy [n] report s = session w identity policy n report s ∧
      session w identity policy n report s = { p with report := report + p.report }) ∧
    (∀ (n : Node) (report : Report) (s : σ) (before : History) (d : Delivery) (after : History),
      (session w identity policy n report s).log = before ++ d :: after →
      d.envelope.session.id = Wire.Ids.session ((w.draw Wire.Ids.uuidBound).run s).1 ∧
      d.envelope.session.attributes = History.attributes before ∧
      (before = [] → d.kind = .sessionStarted ∧ d.envelope.session.fresh = true ∧ d.envelope.session.attributes = [])) ∧
    (∀ (id : Nat) (k : Stand σ) (m : Node) (name key : String) (a : Asset),
      Sends (.create identity policy id) k.log k.live.actor → History.last? k.log = none →
      m.kind? = some .intent → .intent name ∈ m.params → .slot key (.reference a) ∈ m.params →
      ∃ key' b, .slot key' (.reference b) ∈ m.params ∧
        Play.outcome (ask w.observed m) k = (.error (.unresolved b .noResponse), k)) := by
  refine ⟨series_append w identity policy, played_append w identity policy, ?_, ?_, ?_⟩
  · intro n report s p
    refine ⟨?_, session_counts w identity policy n report s⟩
    rw [series_cons]
    obtain ⟨f | u, report', log, t⟩ := session w identity policy n report s
    · rfl
    · have silent : series w identity policy [] {} t = ⟨.ok (), {}, [], t⟩ := rfl
      simp only [Passed.andThen, silent, Report.add_zero, List.append_nil]
  · intro n report s before d after split
    exact session_begins_anew w identity policy n report s split
  · intro id k m name key a sends bare kind named slot
    exact outcome_ask_of_nothing w ((Account.of_sends sends).last.trans bare) kind named slot

/-- The first session leaves attributes and a response; the second starts without either, so its slot finds nothing. -/
theorem second_session_finds_nothing :
    let identity : Identity := ⟨"app", "user", none, "en-US", 0⟩
    let told : Answer := .ok (some { attributes := some [("step", .null)] : Response }.toBytes)
    let first : Node := [.param .launch]
    let second : Node := [.param (.intent "Order"), .param (.slot "size" (.reference .card))]
    let answers : List Answer := [.ok none, told, .ok none, .ok none]
    let p := series Session.listed identity .rejectAll [first] {} answers
    let q := session Session.listed identity .rejectAll second {} [.ok none]
    let k := (Play.outcome (fire Session.listed.observed .sessionStarted)
      (enter Session.listed identity .rejectAll {} [] [.ok none])).2
    (History.attributes p.log).map (·.1) = ["step"] ∧
      series Session.listed identity .rejectAll [first, second] {} answers =
        ⟨.error (.unresolved .card .noResponse), { sessions := 1, requests := 4 }, p.log ++ q.log, []⟩ ∧
      (∃ d, q.log = [d] ∧ d.envelope.session.fresh = true ∧ d.envelope.session.attributes = []) ∧
      (k.log.map (·.kind) = [.sessionStarted] ∧ History.last? k.log = none) ∧
      Play.outcome (ask Session.listed.observed second) k = (.error (.unresolved .card .noResponse), k) := by
  intro identity told first second answers p q k
  obtain ⟨come, -, single, anew, unresolved⟩ := sessions_come_together Session.listed identity .rejectAll
  have passed : p = ⟨.ok (), { sessions := 1, requests := 3 }, p.log, [.ok none]⟩ := by rfl
  have failed : q = ⟨.error (.unresolved .card .noResponse), { requests := 1 }, q.log, []⟩ := by rfl
  have alone : q.log = [] ++ q.log.get ⟨0, by decide +kernel⟩ :: [] := by rfl
  have bare : History.last? k.log = none := by rfl
  refine ⟨by decide +kernel, ?_, ⟨_, alone, ((anew second {} _ _ _ _ alone).2.2 rfl).2⟩, ⟨by rfl, bare⟩, ?_⟩
  · have later : series Session.listed identity .rejectAll [second] {} [.ok none] = q := (single second {} [.ok none]).1
    have together := come [first] [second] {} answers
    rw [show series _ _ _ [first] _ _ = p from rfl, passed] at together
    simp only [Passed.andThen, later] at together
    rw [failed] at together
    exact together
  · have sends : Sends (.create identity .rejectAll 0) k.log k.live.actor := by
      obtain ⟨sent, x, b, t, step, run⟩ :=
        outcome_fire Session.listed (enter Session.listed identity .rejectAll {} [] [.ok none]) .sessionStarted
      rw [show k = _ from congrArg Prod.snd run]
      exact .more .nothing step
    have named : Param.intent "Order" ∈ Node.params second := .head _
    have slot : Param.slot "size" (.reference .card) ∈ Node.params second := .tail _ (.head _)
    obtain ⟨key, b, only, stopped⟩ := unresolved 0 k second "Order" "size" .card sends bare rfl named slot
    have only : Param.slot key (.reference b) ∈ [.intent "Order", .slot "size" (.reference .card)] := only
    obtain ⟨-, rfl⟩ : key = "size" ∧ b = .card := by simpa using only
    exact stopped

end Rehearsal.Script
