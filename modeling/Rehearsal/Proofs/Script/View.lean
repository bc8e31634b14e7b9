import Rehearsal.Proofs.Script.Sitting
import Rehearsal.Proofs.Session.Leave

/-!
One run seen in another. As long as the first goes well the second does the same, up to how a stand is seen; once the
first has failed, something is known of what the second comes to.
-/
namespace Rehearsal.Script
open Check (Predicate)
open Session (History Policy fire_sent under_self)
open Wire (Request)

instance : Add Report where
  add r s := {
    script := r.script
    sessions := r.sessions + s.sessions
    requests := r.requests + s.requests
    checks := r.checks + s.checks
    taken := r.taken + s.taken
    skipped := r.skipped + s.skipped }

theorem Report.add_def (r s : Report) : r + s = ⟨r.script, r.sessions + s.sessions, r.requests + s.requests,
    r.checks + s.checks, r.taken + s.taken, r.skipped + s.skipped⟩ := rfl

theorem Report.add_assoc (r s t : Report) : r + s + t = r + (s + t) := by
  simp only [Report.add_def, Nat.add_assoc]

theorem Report.add_zero (r : Report) : r + {} = r := rfl

/- Under another policy, perhaps, and not from every one. The report that is seen counts on as the report does, checks
   apart. What is known of a failed run has to last: the second run may go on, and hand over more. -/
structure View (σ : Type) where
  fits : Policy → Prop
  policy : Policy → Policy
  report : Report → Report
  log : History → History
  broken : Failure → Stand σ → Except Failure Unit → Stand σ → Prop
  counts : ∀ r more, more.checks = 0 → report (r + more) = report r + more
  both : ∀ f k, broken f k (.error f)
    ⟨⟨k.live.actor.under (policy k.live.actor.policy), report k.live.report⟩, log k.log, k.world⟩
  lasts : ∀ {f k x k' k''}, broken f k (.ok ()) k' → k'.log <+: k''.log → broken f k x k''

variable {σ α β : Type} {v : View σ}

def View.see (v : View σ) (k : Stand σ) : Stand σ :=
  ⟨⟨k.live.actor.under (v.policy k.live.actor.policy), v.report k.live.report⟩, v.log k.log, k.world⟩

/-- Neither the response that counts last nor the end of the session is seen in another way. -/
theorem last_see (k : Stand σ) : (v.see k).live.actor.last = k.live.actor.last := rfl

theorem closed_see (k : Stand σ) : (v.see k).live.actor.session.closed = k.live.actor.session.closed := rfl

theorem View.see_count (v : View σ) (k : Stand σ) (more : Report) (h : more.checks = 0) :
    v.see { k with live.report := k.live.report + more } = { v.see k with live.report := (v.see k).live.report + more } := by
  simp only [View.see, v.counts k.live.report more h]

theorem Stand.closing_eq (k : Stand σ) (x : Except Failure Unit) :
    k.closing x = k.live.report + { requests := k.live.actor.fired, sessions := if x.isOk then 1 else 0 } := by
  cases x <;> rfl

theorem View.see_closing (v : View σ) (k : Stand σ) (x : Except Failure Unit) :
    (v.see k).closing x = v.report (k.closing x) := by
  rw [Stand.closing_eq, Stand.closing_eq, v.counts k.live.report _ rfl]
  rfl

def View.Follows (v : View σ) : Except Failure α × Stand σ → Except Failure α × Stand σ → Prop
  | (.ok u, k), out => v.fits k.live.actor.policy ∧ out = (.ok u, v.see k)
  | (.error f, k), (x, k') => v.broken f k (x.map fun _ => ()) k'

structure Tracks (v : View σ) (x y : Play (StateT History (StateM σ)) α) : Prop where
  grows : ∀ k, k.log <+: (y.outcome k).2.log
  follows : ∀ k, v.fits k.live.actor.policy → v.Follows (x.outcome k) (y.outcome (v.see k))

theorem Tracks.pure (u : α) : Tracks v (Pure.pure u) (Pure.pure u) where
  grows k := List.prefix_refl k.log
  follows _ fits := ⟨fits, rfl⟩

theorem Tracks.bind {x₁ y₁ : Play (StateT History (StateM σ)) α} {x₂ y₂ : α → Play (StateT History (StateM σ)) β}
    (first : Tracks v x₁ y₁) (second : ∀ u, Tracks v (x₂ u) (y₂ u)) : Tracks v (x₁ >>= x₂) (y₁ >>= y₂) where
  grows k := by
    have start := first.grows k
    rw [outcome_bind]
    obtain ⟨⟨f | u, k'⟩, run⟩ : ∃ out, Play.outcome y₁ k = out := ⟨_, rfl⟩
    all_goals rw [run] at start ⊢
    · exact start
    · exact start.trans ((second u).grows k')
  follows k fits := by
    have start := first.follows k fits
    rw [outcome_bind, outcome_bind]
    obtain ⟨⟨f | u, k'⟩, run⟩ : ∃ out, Play.outcome x₁ k = out := ⟨_, rfl⟩
    all_goals rw [run] at start ⊢
    · obtain ⟨⟨g | u, k''⟩, run'⟩ : ∃ out, Play.outcome y₁ (v.see k) = out := ⟨_, rfl⟩
      all_goals rw [run'] at start ⊢
      · exact start
      · exact v.lasts start ((second u).grows k'')
    · rw [start.2]
      exact (second u).follows k' start.1

theorem tracks_composes :
    Composes fun {α} (x : Play (StateT History (StateM σ)) α) (y : Play (StateT History (StateM σ)) α) => Tracks v x y where
  pure := .pure
  bind := .bind

section
variable (w : World (StateM σ)) (n : Node)

theorem tracks_wait (s : Span) :
    Tracks v (w.observed.wait s : Play (StateT History (StateM σ)) Unit) (w.observed.wait s) where
  grows k := List.prefix_refl k.log
  follows _ fits := ⟨fits, rfl⟩

theorem tracks_test (p : Predicate) : Tracks v (test p) (test p) where
  grows k := by
    rw [outcome_test]
    cases k.live.actor.last with
    | none => exact List.prefix_refl k.log
    | some r => cases holds : p.holds r <;> simp [holds]
  follows k fits := by
    rw [outcome_test, outcome_test, last_see]
    cases k.live.actor.last with
    | none => exact v.both _ k
    | some r =>
      cases holds : p.holds r with
      | true =>
        have counted := v.see_count k { taken := 1 } rfl
        simp only [holds, if_true]
        exact ⟨fits, congrArg (Prod.mk _) counted.symm⟩
      | false =>
        have counted := v.see_count k { skipped := 1 } rfl
        simp only [holds, Bool.false_eq_true, if_false]
        exact ⟨fits, congrArg (Prod.mk _) counted.symm⟩

theorem tracks_verify (counts : ∀ r more, v.report (r + more) = v.report r + more) (p : Predicate) :
    Tracks v (verify p) (verify p) where
  grows k := by
    rw [outcome_verify]
    cases k.live.actor.last with
    | none => exact List.prefix_refl k.log
    | some r => cases required : p.require r <;> simp [required]
  follows k fits := by
    rw [outcome_verify, outcome_verify, last_see]
    cases k.live.actor.last with
    | none => exact v.both _ k
    | some r =>
      cases required : p.require r with
      | error f =>
        simp only [required]
        exact v.both f k
      | ok =>
        have counted := counts k.live.report { checks := 1 }
        simp only [required]
        exact ⟨fits, congrArg (fun report => (Except.ok (), (⟨⟨_, report⟩, _, _⟩ : Stand σ))) counted.symm⟩

theorem fire_grows (r : Request) (k : Stand σ) : k.log <+: (Play.outcome (fire w.observed r) k).2.log := by
  obtain ⟨sent, x, b, t, -, run⟩ := outcome_fire w k r
  rw [run]
  exact List.prefix_append k.log sent

/-- Requests go the same way where the same actor sends them. -/
theorem tracks_fire (fits : ∀ p, v.fits p) (policy : ∀ p, v.policy p = p) (log : ∀ h sent, v.log (h ++ sent) = v.log h ++ sent)
    (r : Request) : Tracks v (fire w.observed r) (fire w.observed r) where
  grows := fire_grows w r
  follows k _ := by
    obtain ⟨sent, x, b, t, run, -⟩ := fire_sent w k.world k.live.actor r
    have seen : v.see k = ⟨⟨k.live.actor, v.report k.live.report⟩, v.log k.log, k.world⟩ := by
      rw [View.see, policy, under_self]
    rw [outcome_fire_of_run w k run, seen,
      outcome_fire_of_run w ⟨⟨k.live.actor, v.report k.live.report⟩, v.log k.log, k.world⟩ run]
    have after : v.see ⟨⟨b, k.live.report⟩, k.log ++ sent, t⟩ = ⟨⟨b, v.report k.live.report⟩, v.log k.log ++ sent, t⟩ := by
      rw [View.see, policy, log, under_self]
    cases x with
    | ok => exact ⟨fits b.policy, congrArg (Prod.mk _) after.symm⟩
    | error f =>
      rw [← after]
      exact v.both f _

/-- What is sent hangs on the response that counts, which the view leaves alone. -/
theorem tracks_ask (fires : ∀ r, r.kind.expectsResponse = true → Tracks v (fire w.observed r) (fire w.observed r)) :
    Tracks v (ask w.observed n) (ask w.observed n) where
  grows k := by
    rw [outcome_ask]
    cases n.kind? with
    | none => exact List.prefix_refl k.log
    | some asked =>
      cases built : n.request asked k.live.actor.last with
      | error f => simp [built]
      | ok r =>
        simp only [built]
        exact (fires r (Node.request_converses built)).grows k
  follows k fits := by
    rw [outcome_ask, outcome_ask, last_see]
    cases n.kind? with
    | none => exact ⟨fits, rfl⟩
    | some asked =>
      cases built : n.request asked k.live.actor.last with
      | error f =>
        simp only [built]
        exact v.both f k
      | ok r =>
        simp only [built]
        exact (fires r (Node.request_converses built)).follows k fits

theorem tracks_finish (stops : ∀ k : Stand σ, v.fits k.live.actor.policy → k.live.actor.session.closed = false →
      v.Follows (Play.outcome (fire w.observed (.sessionEnded .userInitiated)) k)
        (Play.outcome (fire w.observed (.sessionEnded .userInitiated)) (v.see k))) :
    Tracks v (finish w.observed) (finish w.observed) where
  grows k := by
    rw [outcome_finish]
    cases k.live.actor.session.closed with
    | true => exact List.prefix_refl k.log
    | false => exact fire_grows w _ k
  follows k fits := by
    rw [outcome_finish, outcome_finish, closed_see]
    cases closed : k.live.actor.session.closed with
    | true => exact ⟨fits, rfl⟩
    | false => exact stops k fits closed

variable {g : List Action → List Action} {n}

/-- A session follows another where its requests do, and the checks of its lists. -/
theorem tracks_sitting (told : Retelling g) (starts : Tracks v (fire w.observed .sessionStarted) (fire w.observed .sessionStarted))
    (fires : ∀ r, r.kind.expectsResponse = true → Tracks v (fire w.observed r) (fire w.observed r))
    (checks : ∀ m, Node.Within m n → Tracks (σ := σ) v (checkAll m) (checkAll (g m)))
    (stops : ∀ k : Stand σ, v.fits k.live.actor.policy → k.live.actor.session.closed = false →
      v.Follows (Play.outcome (fire w.observed (.sessionEnded .userInitiated)) k)
        (Play.outcome (fire w.observed (.sessionEnded .userInitiated)) (v.see k))) :
    Tracks v (sitting w.observed n) (sitting w.observed (g n)) := by
  have node : Tracks v (runNode w.observed n) (runNode w.observed (g n)) :=
    tracks_composes.runNode told w.observed w.observed fun m inner => {
      wait := fun s _ => tracks_wait w s
      ask := tracks_ask w m fires
      checks := checks m inner
      test := fun p _ _ => tracks_test p }
  exact starts.bind fun _ => node.bind fun _ => tracks_finish w stops

theorem tracks_sitting_same (n : Node)
    (starts : Tracks v (fire w.observed .sessionStarted) (fire w.observed .sessionStarted))
    (fires : ∀ r, r.kind.expectsResponse = true → Tracks v (fire w.observed r) (fire w.observed r))
    (counts : ∀ r more, v.report (r + more) = v.report r + more)
    (stops : ∀ k : Stand σ, v.fits k.live.actor.policy → k.live.actor.session.closed = false →
      v.Follows (Play.outcome (fire w.observed (.sessionEnded .userInitiated)) k)
        (Play.outcome (fire w.observed (.sessionEnded .userInitiated)) (v.see k))) :
    Tracks v (sitting w.observed n) (sitting w.observed n) := by
  have checks (m : Node) : Tracks (σ := σ) v (checkAll m) (checkAll m) :=
    tracks_composes.checkAll fun p _ => tracks_verify counts p
  have whole := tracks_sitting (n := n) w Retelling.same starts fires (fun m _ => checks m) stops
  exact whole

end
end Rehearsal.Script
