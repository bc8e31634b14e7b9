import Rehearsal.Proofs.Script.Series

/-!
Sessions told as a list of things still to be done. What is done first may put others before the rest; a failure leaves the
rest undone. A chronicle says what happened on the way, whatever is counted.
-/
namespace Rehearsal.Script
open Check (Predicate)
open Session (Actor History Identity Policy Sent)
open Wire (Request Response)

inductive Task where
  | send (r : Request)
  | wait (s : Span)
  /-- The request of a node. -/
  | ask (n : Node)
  | check (p : Predicate)
  | branch (p : Predicate) (body : Node)
  | follow (body : Node)
  /-- Ends the session if it is open. -/
  | leave

namespace Action

def check? : Action → Option Task
  | .check p => some (.check p)
  | _ => none

def branch? : Action → Option Task
  | .branch p body => some (.branch p body)
  | _ => none

def follow? : Action → Option Task
  | .follow body => some (.follow body)
  | _ => none

end Action

def Node.tasks (n : Node) : List Task :=
  (n.params.filterMap Param.span?).map .wait ++ .ask n :: n.filterMap Action.check? ++ n.filterMap Action.branch? ++
    n.filterMap Action.follow?

inductive Event where
  | sent (d : Delivery)
  | checked (p : Predicate) (r : Response)
  | decided (p : Predicate) (r : Response)

namespace Event

def delivery? : Event → Option Delivery
  | .sent d => some d
  | _ => none

def held : Event → Bool
  | .checked p r => p.holds r
  | _ => false

def taken : Event → Bool
  | .decided p r => p.holds r
  | _ => false

def skipped : Event → Bool
  | .decided p r => !p.holds r
  | _ => false

end Event

structure Scene (σ : Type) where
  actor : Actor
  world : σ

variable {σ : Type}

/-- What happens in one step, and what has to be done next, before all else. -/
def Task.step (w : World (StateM σ)) (k : Scene σ) : Task → List Event × Except Failure (List Task) × Scene σ
  | .send r =>
    let (((x, actor), log), world) := ((k.actor.fire w.observed r).run []).run k.world
    (log.map .sent, x.map fun _ => [], { actor, world })
  | .wait s => ([], .ok [], { k with world := ((w.wait s).run k.world).2 })
  | .ask n =>
    match n.kind? with
    | none => ([], .ok [], k)
    | some kind => ([], (n.request kind k.actor.last).map fun r => [.send r], k)
  | .check p =>
    match k.actor.last with
    | none => ([], .error (.state (.nothingToCheck p.render)), k)
    | some r => ([.checked p r], (p.require r).map fun _ => [], k)
  | .branch p body =>
    match k.actor.last with
    | none => ([], .error (.state (.nothingToCheck p.render)), k)
    | some r => ([.decided p r], .ok (if p.holds r then body.tasks else []), k)
  | .follow body => ([], .ok body.tasks, k)
  | .leave => ([], .ok (if k.actor.session.closed then [] else [.send (.sessionEnded .userInitiated)]), k)

/-- What comes of a list of tasks, and what happens meanwhile. -/
inductive Chronicle (w : World (StateM σ)) : List Task → Scene σ → List Event → Except Failure Unit → Scene σ → Prop where
  | done {k : Scene σ} : Chronicle w [] k [] (.ok ()) k
  | stop {t : Task} {rest : List Task} {k k' : Scene σ} {events : List Event} {f : Failure}
      (step : t.step w k = (events, .error f, k')) : Chronicle w (t :: rest) k events (.error f) k'
  | go {t : Task} {more rest : List Task} {k k₁ k' : Scene σ} {events later : List Event} {x : Except Failure Unit}
      (step : t.step w k = (events, .ok more, k₁)) (next : Chronicle w (more ++ rest) k₁ later x k') :
      Chronicle w (t :: rest) k (events ++ later) x k'

namespace Chronicle
variable {w : World (StateM σ)} {tasks rest : List Task} {k k₁ k' : Scene σ} {events later : List Event}

/-- There is one chronicle and no other. -/
theorem unique {x x' : Except Failure Unit} (h : Chronicle w tasks k events x k₁) (h' : Chronicle w tasks k later x' k') :
    events = later ∧ x = x' ∧ k₁ = k' := by
  induction h generalizing later x' k' with
  | done =>
    cases h'
    exact ⟨rfl, rfl, rfl⟩
  | stop step =>
    cases h' with
    | stop step' => cases step.symm.trans step'; exact ⟨rfl, rfl, rfl⟩
    | go step' => cases step.symm.trans step'
  | go step _ ih =>
    cases h' with
    | stop step' => cases step.symm.trans step'
    | go step' next' =>
      cases step.symm.trans step'
      obtain ⟨rfl, rfl, rfl⟩ := ih next'
      exact ⟨rfl, rfl, rfl⟩

theorem append {x : Except Failure Unit} (h : Chronicle w tasks k events (.ok ()) k₁)
    (h' : Chronicle w rest k₁ later x k') : Chronicle w (tasks ++ rest) k (events ++ later) x k' := by
  generalize ok : (Except.ok () : Except Failure Unit) = y at h
  induction h with
  | done => exact h'
  | stop => cases ok
  | go step _ ih =>
    have next := ih h' ok
    rw [List.append_assoc] at next ⊢
    exact .go step next

theorem append_of_error {f : Failure} (h : Chronicle w tasks k events (.error f) k') (rest : List Task) :
    Chronicle w (tasks ++ rest) k events (.error f) k' := by
  generalize failed : (Except.error f : Except Failure Unit) = y at h
  induction h with
  | done => cases failed
  | stop step => exact .stop step
  | go step _ ih =>
    have next := ih failed
    rw [List.append_assoc] at next
    exact .go step next

end Chronicle

def Stand.scene (k : Stand σ) : Scene σ := ⟨k.live.actor, k.world⟩

structure Accounts (k : Stand σ) (events : List Event) (k' : Stand σ) : Prop where
  log : k'.log = k.log ++ events.filterMap Event.delivery?
  fired : k'.live.actor.fired = k.live.actor.fired + (events.filterMap Event.delivery?).countP Delivery.arrived
  report : k'.live.report = { k.live.report with
    checks := k.live.report.checks + events.countP Event.held
    taken := k.live.report.taken + events.countP Event.taken
    skipped := k.live.report.skipped + events.countP Event.skipped }

theorem Accounts.silent {k k' : Stand σ} (log : k'.log = k.log) (live : k'.live = k.live) : Accounts k [] k' where
  log := by simp [log]
  fired := by simp [live]
  report := by simp [live]

theorem Accounts.trans {k k₁ k' : Stand σ} {events later : List Event} (h : Accounts k events k₁) (h' : Accounts k₁ later k') :
    Accounts k (events ++ later) k' where
  log := by rw [h'.log, h.log, List.filterMap_append, List.append_assoc]
  fired := by rw [h'.fired, h.fired, List.filterMap_append, List.countP_append, Nat.add_assoc]
  report := by simp only [h'.report, h.report, List.countP_append, Nat.add_assoc]

theorem holds_eq_isOk (p : Predicate) (r : Response) : p.holds r = (p.require r).isOk := by
  obtain ⟨check, same⟩ := Predicate.require_eq r p
  rw [same, Check.require]
  cases p.holds r <;> rfl

def Does (w : World (StateM σ)) (x : Play (StateT History (StateM σ)) Unit) (tasks : List Task) : Prop :=
  ∀ k, ∃ events, Accounts k events (x.outcome k).2 ∧
    Chronicle w tasks k.scene events (x.outcome k).1 (x.outcome k).2.scene

section
variable {w : World (StateM σ)} {x y : Play (StateT History (StateM σ)) Unit} {first then_ : List Task}

theorem Does.nothing : Does w (pure ()) [] := fun _ => ⟨[], .silent rfl rfl, .done⟩

theorem Does.bind (hx : Does w x first) (hy : Does w y then_) : Does w (x >>= fun _ => y) (first ++ then_) := by
  intro k
  obtain ⟨events, accounts, told⟩ := hx k
  rw [outcome_bind]
  obtain ⟨⟨f | u, k₁⟩, run⟩ : ∃ out, x.outcome k = out := ⟨_, rfl⟩
  all_goals rw [run] at accounts told ⊢
  · exact ⟨events, accounts, told.append_of_error then_⟩
  · obtain ⟨later, accounts', told'⟩ := hy k₁
    exact ⟨events ++ later, accounts.trans accounts', told.append told'⟩

/-- A task that hands on its place to others. -/
theorem Chronicle.of_expands {t : Task} {more : List Task} {k k' : Scene σ} {events : List Event} {v : Except Failure Unit}
    (step : t.step w k = ([], .ok more, k)) (told : Chronicle w more k events v k') : Chronicle w [t] k events v k' := by
  rw [← List.append_nil more] at told
  exact .go step told

theorem Chronicle.of_ends {t : Task} {k k' : Scene σ} {events : List Event} (step : t.step w k = (events, .ok [], k')) :
    Chronicle w [t] k events (.ok ()) k' := by
  rw [← List.append_nil events]
  exact .go step .done

theorem step_send (w : World (StateM σ)) (k : Scene σ) (r : Request) :
    ∃ sent x b t, (∀ log, ((k.actor.fire w.observed r).run log).run k.world = pure (((x, b), log ++ sent), t)) ∧
      Sent k.actor r sent x b ∧ Task.step w k (.send r) = (sent.map .sent, x.map fun _ => [], ⟨b, t⟩) := by
  obtain ⟨sent, x, b, t, run, step⟩ := Session.fire_sent w k.world k.actor r
  refine ⟨sent, x, b, t, run, step, ?_⟩
  have alone := run []
  rw [List.nil_append] at alone
  simp only [Task.step, alone]
  rfl

theorem does_fire (r : Request) : Does w (fire w.observed r) [.send r] := by
  intro k
  obtain ⟨sent, v, b, t, run, step, stepped⟩ := step_send w k.scene r
  have delivered : (sent.map Event.sent).filterMap Event.delivery? = sent := by
    simp [List.filterMap_map, Function.comp_def, Event.delivery?]
  have uncounted (q : Event → Bool) (h : ∀ d, q (.sent d) = false) : (sent.map Event.sent).countP q = 0 := by
    simp [List.countP_map, Function.comp_def, h]
  refine ⟨sent.map .sent, ?_, ?_⟩
  · rw [outcome_fire_of_run w k run]
    refine ⟨by rw [delivered], ?_, ?_⟩
    · cases step with
      | refused => rfl
      | untimed => rfl
      | lost => rfl
      | arrived => exact Session.settle_fired ..
    · simp only [uncounted Event.held fun _ => rfl, uncounted Event.taken fun _ => rfl, uncounted Event.skipped fun _ => rfl,
        Nat.add_zero]
  · rw [outcome_fire_of_run w k run]
    cases v with
    | error f => exact .stop stepped
    | ok y => exact .of_ends stepped

theorem does_ask (n : Node) : Does w (ask w.observed n) [.ask n] := by
  intro k
  rw [outcome_ask]
  cases kind : n.kind? with
  | none => exact ⟨[], .silent rfl rfl, .of_ends (by simp only [Task.step, kind])⟩
  | some asked =>
    have step : Task.step w k.scene (.ask n) = ([], (n.request asked k.live.actor.last).map fun r => [.send r], k.scene) := by
      simp only [Task.step, kind, Stand.scene]
    cases built : n.request asked k.live.actor.last with
    | error f =>
      rw [built] at step
      simp only [built]
      exact ⟨[], .silent rfl rfl, .stop step⟩
    | ok r =>
      rw [built] at step
      simp only [built]
      obtain ⟨events, accounts, told⟩ := does_fire (w := w) r k
      exact ⟨events, accounts, told.of_expands step⟩

theorem does_wait (s : Span) : Does w (w.observed.wait s : Play (StateT History (StateM σ)) Unit) [.wait s] := by
  intro k
  rw [outcome_wait]
  exact ⟨[], .silent rfl rfl, .of_ends rfl⟩

theorem does_waitAll (spans : List Span) : Does w (waitAll w.observed spans) (spans.map .wait) := by
  induction spans with
  | nil => exact .nothing
  | cons s rest ih => exact (does_wait s).bind ih

theorem does_verify (p : Predicate) : Does w (verify p) [.check p] := by
  intro k
  rw [outcome_verify]
  cases last : k.live.actor.last with
  | none => exact ⟨[], .silent rfl rfl, .stop (by simp only [Task.step, Stand.scene, last])⟩
  | some r =>
    have step : Task.step w k.scene (.check p) = ([.checked p r], (p.require r).map fun _ => [], k.scene) := by
      simp only [Task.step, Stand.scene, last]
    have holds := holds_eq_isOk p r
    cases required : p.require r with
    | error f =>
      rw [required] at step holds
      simp only [required]
      refine ⟨[.checked p r], ?_, .stop step⟩
      exact ⟨by simp [Event.delivery?], by simp [Event.delivery?], by
        simp [Event.held, holds, Event.taken, Event.skipped, Except.isOk, Except.toBool]⟩
    | ok u =>
      rw [required] at step holds
      simp only [required]
      refine ⟨[.checked p r], ?_, .of_ends step⟩
      exact ⟨by simp [Event.delivery?], by simp [Event.delivery?], by
        simp [Event.held, holds, Event.taken, Event.skipped, Except.isOk, Except.toBool]⟩

theorem does_checkAll (actions : List Action) : Does w (checkAll actions) (actions.filterMap Action.check?) := by
  induction actions with
  | nil => exact .nothing
  | cons a rest ih =>
    cases a with
    | check p => exact (does_verify p).bind ih
    | param | branch | follow => exact ih

theorem does_runHead (n : Node) : Does w (runHead w.observed n)
    ((n.params.filterMap Param.span?).map .wait ++ ([.ask n] ++ n.filterMap Action.check?)) :=
  (does_waitAll _).bind ((does_ask n).bind (does_checkAll n))

/-- A condition is decided, and its body done where it holds. -/
theorem does_runBranch {p : Predicate} {body : Node} (whole : Does w (runNode w.observed body) body.tasks) :
    Does w (runBranch w.observed (.branch p body)) [.branch p body] := by
  intro k
  rw [runBranch_eq, outcome_bind, outcome_test]
  cases last : k.live.actor.last with
  | none => exact ⟨[], .silent rfl rfl, .stop (by simp only [Task.step, Stand.scene, last])⟩
  | some r =>
    have step : Task.step w k.scene (.branch p body) =
        ([.decided p r], .ok (if p.holds r then body.tasks else []), k.scene) := by
      simp only [Task.step, Stand.scene, last]
    cases holds : p.holds r with
    | false =>
      rw [holds] at step
      simp only [holds]
      refine ⟨[.decided p r], ?_, .of_ends step⟩
      exact ⟨by simp [Event.delivery?], by simp [Event.delivery?], by simp [Event.held, holds, Event.taken, Event.skipped]⟩
    | true =>
      rw [holds] at step
      simp only [holds]
      let k₁ : Stand σ := { k with live.report.taken := k.live.report.taken + 1 }
      have decided : Accounts k [.decided p r] k₁ :=
        ⟨by simp [k₁, Event.delivery?], by simp [k₁, Event.delivery?],
          by simp [k₁, Event.held, holds, Event.taken, Event.skipped]⟩
      obtain ⟨events, accounts, told⟩ := whole k₁
      rw [← List.append_nil body.tasks] at told
      exact ⟨.decided p r :: events, decided.trans accounts, .go step told⟩

theorem does_parts {n : Node} (branches : Does w (runBranches w.observed n) (n.filterMap Action.branch?))
    (follows : Does w (runFollows w.observed n) (n.filterMap Action.follow?)) : Does w (runNode w.observed n) n.tasks := by
  have parts := (does_runHead n).bind (branches.bind follows)
  rw [runNode]
  simpa only [Node.tasks, List.append_assoc, List.cons_append, List.nil_append] using parts

mutual
theorem does_runBranches : ∀ actions : List Action,
    Does w (runBranches w.observed actions) (actions.filterMap Action.branch?)
  | [] => .nothing
  | a :: rest => by
    have later := does_runBranches rest
    cases a with
    | branch p body =>
      have whole := does_parts (does_runBranches body) (does_runFollows body)
      exact (does_runBranch whole).bind later
    | check | param | follow => exact Does.nothing.bind later

theorem does_runFollows : ∀ actions : List Action,
    Does w (runFollows w.observed actions) (actions.filterMap Action.follow?)
  | [] => .nothing
  | a :: rest => by
    have later := does_runFollows rest
    cases a with
    | follow body =>
      have whole := does_parts (does_runBranches body) (does_runFollows body)
      have placed : Does w (runFollow w.observed (.follow body)) [.follow body] := fun k => by
        obtain ⟨events, accounts, told⟩ := whole k
        exact ⟨events, accounts, told.of_expands rfl⟩
      exact placed.bind later
    | check | param | branch => exact Does.nothing.bind later
end

theorem does_finish : Does w (finish w.observed) [.leave] := by
  intro k
  rw [outcome_finish]
  have step : Task.step w k.scene .leave =
      ([], .ok (if k.live.actor.session.closed then [] else [.send (.sessionEnded .userInitiated)]), k.scene) := rfl
  cases closed : k.live.actor.session.closed with
  | true =>
    rw [closed] at step
    exact ⟨[], .silent rfl rfl, .of_ends step⟩
  | false =>
    rw [closed] at step
    obtain ⟨events, accounts, told⟩ := does_fire (w := w) (.sessionEnded .userInitiated) k
    exact ⟨events, accounts, told.of_expands step⟩

def Node.course (n : Node) : List Task := .send .sessionStarted :: (n.tasks ++ [.leave])

theorem does_sitting (n : Node) : Does w (sitting w.observed n) n.course :=
  (does_fire .sessionStarted).bind ((does_parts (does_runBranches n) (does_runFollows n)).bind does_finish)

end

theorem Task.step_arrived {w : World (StateM σ)} {k k' : Scene σ} {task : Task} {events : List Event} {more : List Task}
    (step : task.step w k = (events, .ok more, k')) : ∀ d, Event.sent d ∈ events → d.arrived = true := by
  intro d happened
  cases task with
  | send r =>
    obtain ⟨sent, x, b, t, -, fired, stepped⟩ := step_send w k r
    obtain ⟨rfl, rest⟩ := Prod.mk.inj (stepped.symm.trans step)
    have ok := (Prod.mk.inj rest).1
    cases fired with
    | refused => cases ok
    | untimed => cases ok
    | lost => cases ok
    | arrived =>
      obtain rfl : d = _ := by simpa using happened
      exact Delivery.arrived_of_ok rfl
  | wait | follow | leave =>
    obtain ⟨rfl, -⟩ := Prod.mk.inj step
    cases happened
  | ask n =>
    simp only [Task.step] at step
    split at step <;> (obtain ⟨rfl, -⟩ := Prod.mk.inj step; cases happened)
  | check p | branch p body =>
    simp only [Task.step] at step
    split at step
    all_goals
      obtain ⟨rfl, -⟩ := Prod.mk.inj step
      simp at happened

/-- Where all goes well every envelope arrives. -/
theorem Chronicle.arrived {w : World (StateM σ)} {tasks : List Task} {k k' : Scene σ} {events : List Event}
    (told : Chronicle w tasks k events (.ok ()) k') : ∀ d, Event.sent d ∈ events → d.arrived = true := by
  generalize ok : (Except.ok () : Except Failure Unit) = x at told
  induction told with
  | done =>
    intro d happened
    cases happened
  | stop => cases ok
  | go step _ ih =>
    intro d happened
    rcases List.mem_append.mp happened with now | later
    · exact Task.step_arrived step d now
    · exact ih ok d later

/-- A session has one chronicle, and its report counts what happened in it. -/
theorem session_chronicle (w : World (StateM σ)) (identity : Identity) (policy : Policy) (n : Node) (report : Report) (s : σ) :
    let passed := session w identity policy n report s
    ∃ events k, Chronicle w n.course (enter w identity policy report [] s).scene events passed.result k ∧
      k.world = passed.world ∧ passed.log = events.filterMap Event.delivery? ∧
      passed.report = { report with
        sessions := report.sessions + if passed.result.isOk then 1 else 0
        requests := report.requests + passed.log.countP Delivery.arrived
        checks := report.checks + events.countP Event.held
        taken := report.taken + events.countP Event.taken
        skipped := report.skipped + events.countP Event.skipped } := by
  intro passed
  have same : passed = _ := session_eq_sitting w identity policy n report s
  obtain ⟨events, accounts, told⟩ := does_sitting (w := w) n (enter w identity policy report [] s)
  obtain ⟨⟨x, k⟩, run⟩ : ∃ out, Play.outcome (sitting w.observed n) (enter w identity policy report [] s) = out := ⟨_, rfl⟩
  rw [run] at same accounts told
  rw [same]
  have log : k.log = events.filterMap Event.delivery? := accounts.log
  refine ⟨events, k.scene, told, rfl, log, ?_⟩
  have fired : k.live.actor.fired = k.log.countP Delivery.arrived := by
    rw [log]
    exact accounts.fired.trans (Nat.zero_add _)
  have counted : k.live.report = { report with
      checks := report.checks + events.countP Event.held
      taken := report.taken + events.countP Event.taken
      skipped := report.skipped + events.countP Event.skipped } := accounts.report
  cases x with
  | error f =>
    simp only [Stand.closing, Stand.report, counted, fired]
    rfl
  | ok u =>
    simp only [Stand.closing, Stand.report, counted, fired]
    rfl

end Rehearsal.Script
