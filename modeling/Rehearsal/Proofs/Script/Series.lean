import Rehearsal.Proofs.Script.Course
import Rehearsal.Proofs.Script.View

/-!
Sessions one after the other. Each begins anew, and nothing passes on to it but the world that the ones before it left; what
they hand over and what they count comes together.
-/
namespace Rehearsal.Script
open Session (Actor History Identity Policy)

variable {σ : Type}

def View.after (before : History) (base : Report) : View σ where
  fits _ := True
  policy p := p
  report r := base + r
  log h := before ++ h
  broken f k x k' := x = .error f ∧ k' = ⟨⟨k.live.actor, base + k.live.report⟩, before ++ k.log, k.world⟩
  counts r more _ := (Report.add_assoc base r more).symm
  both _ _ := ⟨rfl, rfl⟩
  lasts h _ := nomatch h.1

section
variable (w : World (StateM σ)) (identity : Identity) (policy : Policy) (before : History) (base : Report)

theorem fire_after (r : Wire.Request) : Tracks (View.after before base) (fire w.observed r) (fire w.observed r) :=
  tracks_fire w (fun _ => trivial) (fun _ => rfl) (fun h sent => (List.append_assoc before h sent).symm) r

theorem tracks_after (n : Node) :
    Tracks (View.after before base) (sitting w.observed n) (sitting w.observed n) :=
  tracks_sitting_same w n (fire_after w before base _) (fun r _ => fire_after w before base r)
    (fun r more => (Report.add_assoc base r more).symm) fun k _ _ => (fire_after w before base _).follows k trivial

variable {before base} in
/-- A failure, too, is seen as it is. -/
theorem outcome_after {α : Type} {x : Play (StateT History (StateM σ)) α} (tracks : Tracks (View.after before base) x x)
    (k : Stand σ) :
    Play.outcome x ((View.after before base).see k) =
      (let (u, k) := Play.outcome x k
       (u, (View.after before base).see k)) := by
  have follows := tracks.follows k trivial
  obtain ⟨⟨f | u, k₁⟩, run⟩ : ∃ out, Play.outcome x k = out := ⟨_, rfl⟩
  · obtain ⟨⟨y, k₂⟩, run'⟩ : ∃ out, Play.outcome x ((View.after before base).see k) = out := ⟨_, rfl⟩
    rw [run, run'] at follows
    rw [run, run']
    obtain ⟨failed, after⟩ := follows
    cases y with
    | ok => cases failed
    | error g =>
      obtain rfl := Except.error.inj failed
      exact congrArg (Prod.mk _) after
  · rw [run] at follows ⊢
    exact follows.2

theorem sitting_after (n : Node) (k : Stand σ) :
    Play.outcome (sitting w.observed n) ((View.after before base).see k) =
      (let (x, k) := Play.outcome (sitting w.observed n) k
       (x, (View.after before base).see k)) :=
  outcome_after (tracks_after w before base n) k

/-- What was handed over and counted before a session is no part of it. -/
theorem runSession_after (n : Node) (s : σ) :
    ((runSession w.observed identity policy n base).run before).run s =
      (let p := session w identity policy n {} s
       pure (((p.result, base + p.report), before ++ p.log), p.world)) := by
  have begun : enter w identity policy base before s =
      (View.after before base).see (enter w identity policy {} [] s) := by
    simp only [enter, View.see, View.after, Session.under_self, List.append_nil, Report.add_zero]
  rw [runSession_eq_sitting, session_eq_sitting, begun, sitting_after]
  simp only [View.see_closing]
  rfl

theorem session_counts (n : Node) (report : Report) (s : σ) :
    session w identity policy n report s =
      (let p := session w identity policy n {} s
       { p with report := report + p.report }) := by
  rw [session, runSession_after]
  rfl

/-- Two sessions, where the second follows the first. -/
theorem session_follows {v : View σ} {q : Policy} {n n' : Node} {s : σ}
    (tracks : Tracks v (sitting w.observed n) (sitting w.observed n')) (fits : v.fits policy)
    (begun : v.see (enter w identity policy {} [] s) = enter w identity q {} [] s) :
    let x := session w identity policy n {} s
    let y := session w identity q n' {} s
    (x.result = .ok () → y = { x with report := v.report x.report, log := v.log x.log }) ∧
    (∀ f, x.result = .error f → ∃ k k', x = ⟨.error f, k.report, k.log, k.world⟩ ∧
      y = ⟨y.result, k'.closing y.result, k'.log, k'.world⟩ ∧ v.broken f k y.result k') := by
  have follows := tracks.follows (enter w identity policy {} [] s) fits
  rw [begun] at follows
  rw [session_eq_sitting, session_eq_sitting]
  obtain ⟨⟨f | u, k⟩, run⟩ : ∃ out, Play.outcome (sitting w.observed n) (enter w identity policy {} [] s) = out := ⟨_, rfl⟩
  all_goals rw [run] at follows ⊢
  · obtain ⟨⟨x, k'⟩, run'⟩ : ∃ out, Play.outcome (sitting w.observed n') (enter w identity q {} [] s) = out := ⟨_, rfl⟩
    rw [run'] at follows ⊢
    refine ⟨nofun, fun g failed => ⟨k, k', ?_⟩⟩
    obtain rfl := Except.error.inj failed
    have result : x.map (fun _ => ()) = x := by cases x <;> rfl
    exact ⟨rfl, rfl, result ▸ follows⟩
  · rw [follows.2]
    refine ⟨fun _ => ?_, nofun⟩
    simp only [View.see_closing]
    rfl

def series (ns : List Node) (report : Report) (s : σ) : Passed σ :=
  let (((result, report), log), s) := ((runSessions w.observed identity policy ns report).run []).run s
  ⟨result, report, log, s⟩

def Passed.andThen (p : Passed σ) (next : σ → Passed σ) : Passed σ :=
  match p.result with
  | .error _ => p
  | .ok () =>
    let q := next p.world
    ⟨q.result, p.report + q.report, p.log ++ q.log, q.world⟩

theorem Passed.andThen_assoc (p : Passed σ) (f g : σ → Passed σ) :
    (p.andThen f).andThen g = p.andThen fun s => (f s).andThen g := by
  obtain ⟨e | u, report, log, s⟩ := p
  · rfl
  · obtain ⟨q, second⟩ : ∃ q, f s = q := ⟨_, rfl⟩
    obtain ⟨e | u, report', log', s'⟩ := q
    · simp only [andThen, second]
    · simp only [andThen, second, Report.add_assoc, List.append_assoc]

theorem runSessions_after (ns : List Node) (s : σ) :
    ((runSessions w.observed identity policy ns base).run before).run s =
      (let p := series w identity policy ns {} s
       pure (((p.result, base + p.report), before ++ p.log), p.world)) := by
  induction ns generalizing base before s with
  | nil =>
    have silent : series w identity policy [] {} s = ⟨.ok (), {}, [], s⟩ := rfl
    simp only [silent, List.append_nil]
    rfl
  | cons n rest ih =>
    have first := runSession_after w identity policy before base n s
    have alone : ((runSession w.observed identity policy n {}).run []).run s =
        (let p := session w identity policy n {} s
         pure (((p.result, p.report), p.log), p.world)) := rfl
    simp only [series, runSessions, StateT.run_bind, first, alone, pure_bind]
    obtain ⟨e | u, report, log, t⟩ := session w identity policy n {} s
    · rfl
    · simp only [ih]
      rw [Report.add_assoc, List.append_assoc]
      rfl

theorem series_counts (ns : List Node) (report : Report) (s : σ) :
    series w identity policy ns report s =
      (let p := series w identity policy ns {} s
       { p with report := report + p.report }) := by
  rw [series, runSessions_after]
  rfl

theorem series_cons (n : Node) (rest : List Node) (report : Report) (s : σ) :
    series w identity policy (n :: rest) report s =
      (session w identity policy n report s).andThen (series w identity policy rest {}) := by
  have alone : ((runSession w.observed identity policy n report).run []).run s =
      (let p := session w identity policy n report s
       pure (((p.result, p.report), p.log), p.world)) := rfl
  simp only [series, runSessions, StateT.run_bind, alone, pure_bind]
  obtain ⟨e | u, report, log, t⟩ := session w identity policy n report s
  · rfl
  · simp only [runSessions_after]
    rfl

/-- Two runs of sessions are related where their sessions are, one by one, and where that lasts from one to the next. -/
theorem series_related {R : Passed σ → Passed σ → Prop} (policy' : Policy) (g : Node → Node)
    (nothing : ∀ s, R ⟨.ok (), {}, [], s⟩ ⟨.ok (), {}, [], s⟩)
    (more : ∀ (p q : Passed σ) (next next' : σ → Passed σ), R p q → (∀ s, R (next s) (next' s)) →
      R (p.andThen next) (q.andThen next'))
    (each : ∀ n s, R (session w identity policy n {} s) (session w identity policy' (g n) {} s)) (ns : List Node) (s : σ) :
    R (series w identity policy ns {} s) (series w identity policy' (ns.map g) {} s) := by
  induction ns generalizing s with
  | nil => exact nothing s
  | cons n rest ih =>
    rw [List.map_cons, series_cons, series_cons]
    exact more _ _ _ _ (each n s) ih

theorem series_append (xs ys : List Node) (report : Report) (s : σ) :
    series w identity policy (xs ++ ys) report s =
      (series w identity policy xs report s).andThen (series w identity policy ys {}) := by
  induction xs generalizing report s with
  | nil => exact series_counts w identity policy ys report s
  | cons n rest ih =>
    have later : series w identity policy (rest ++ ys) {} =
        fun t => (series w identity policy rest {} t).andThen (series w identity policy ys {}) := funext (ih {})
    rw [List.cons_append, series_cons, series_cons, later, Passed.andThen_assoc]

/-- Sessions in a row fail as one of them fails. -/
theorem series_eq_error {ns : List Node} {report : Report} {s : σ} {f : Failure}
    (failed : (series w identity policy ns report s).result = .error f) :
    ∃ n ∈ ns, ∃ s', (session w identity policy n {} s').result = .error f := by
  induction ns generalizing report s with
  | nil => cases failed
  | cons n rest ih =>
    rw [series_counts, series_cons] at failed
    cases first : (session w identity policy n {} s).result with
    | error f' =>
      simp only [Passed.andThen, first] at failed
      exact ⟨n, List.mem_cons_self, s, first.trans failed⟩
    | ok u =>
      simp only [Passed.andThen, first] at failed
      obtain ⟨n', hn', s', failed⟩ := ih failed
      exact ⟨n', List.mem_cons_of_mem n hn', s', failed⟩

/-- What sessions in a row hand over is made for the identity they share. -/
theorem series_made (ns : List Node) (report : Report) (s : σ) :
    ∀ d ∈ (series w identity policy ns report s).log, Session.Made w identity d.envelope := by
  induction ns generalizing report s with
  | nil => exact List.forall_mem_nil _
  | cons n rest ih =>
    have first := (session_timed w identity policy n report s).1
    rw [series_cons, Passed.andThen]
    cases (session w identity policy n report s).result with
    | error f => exact first
    | ok u => exact List.forall_mem_append.mpr ⟨first, ih {} _⟩

structure Played (σ : Type) where
  result : Except Failure Report
  log : History
  world : σ

def played (script : Script) (s : σ) : Played σ :=
  let ((result, log), s) := ((run w.observed identity policy script).run []).run s
  ⟨result, log, s⟩

/-- A script comes to what it comes to unwatched. -/
theorem played_unwatched (script : Script) (s : σ) :
    let p := played w identity policy script s
    (run w identity policy script).run s = pure (p.result, p.world) := by
  rw [← run_observed w identity policy script []]
  rfl

theorem played_eq_series (script : Script) (s : σ) :
    played w identity policy script s =
      (let p := series w identity policy script.sessions { script := script.name } s
       ⟨p.result.map fun _ => p.report, p.log, p.world⟩) := rfl

theorem played_eq_error {script : Script} {s : σ} {f : Failure} (failed : (played w identity policy script s).result = .error f) :
    ∃ n ∈ script.sessions, ∃ s', (session w identity policy n {} s').result = .error f := by
  rw [played_eq_series] at failed
  cases result : (series w identity policy script.sessions { script := script.name } s).result with
  | error f' =>
    simp only [result, Except.map] at failed
    exact series_eq_error w identity policy (result.trans (congrArg _ (Except.error.inj failed)))
  | ok u => simp [result, Except.map] at failed

theorem played_made (script : Script) (s : σ) :
    ∀ d ∈ (played w identity policy script s).log, Session.Made w identity d.envelope :=
  series_made w identity policy script.sessions { script := script.name } s

def Played.andThen (p : Played σ) (next : σ → Played σ) : Played σ :=
  match p.result with
  | .error _ => p
  | .ok report =>
    let q := next p.world
    ⟨q.result.map (report + ·), p.log ++ q.log, q.world⟩

theorem played_append (script : Script) (xs ys : List Node) (s : σ) :
    played w identity policy { script with sessions := xs ++ ys } s =
      (played w identity policy { script with sessions := xs } s).andThen
        (played w identity policy { script with sessions := ys }) := by
  rw [played_eq_series, played_eq_series]
  simp only [series_append]
  obtain ⟨e | u, report, log, t⟩ := series w identity policy xs { script := script.name } s
  · rfl
  · have uncounted (more : Report) : report + ({ script := script.name } + more) = report + more :=
      (Report.add_assoc report _ more).symm
    rw [Passed.andThen, Played.andThen]
    simp only [Except.map, played_eq_series, series_counts w identity policy ys { script := script.name } t]
    cases (series w identity policy ys {} t).result with
    | error e => rfl
    | ok u => simp only [uncounted]

end
end Rehearsal.Script
