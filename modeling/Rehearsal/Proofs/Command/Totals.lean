import Mathlib.Algebra.GroupWithZero.Nat
import Rehearsal.Command.Ending
import Rehearsal.Proofs.Command.Course
import Rehearsal.Proofs.Script.Chronicle
import Rehearsal.Proofs.Settings.Defaults
import Rehearsal.Proofs.Transport.Correspondence

/-!
Totals. A run that goes through counts as requests the envelopes that brought an answer; what else was posted were envelopes
posted again with new tokens.
-/
namespace Rehearsal.Script
open Session (History Identity Policy)

variable {τ : Type}

structure Tallies (w : World (StateM τ)) (T : τ → Nat → τ → Prop) : Prop where
  nothing : ∀ s, T s 0 s
  more : ∀ {s s' s'' : τ} {a b : Nat}, T s a s' → T s' b s'' → T s (a + b) s''
  now : ∀ s, T s 0 (w.now.run s).2
  draw : ∀ bound s, T s 0 ((w.draw bound).run s).2
  wait : ∀ d s, T s 0 ((w.wait d).run s).2
  deliver : ∀ kind e s, ((w.deliver kind e).run s).1.isOk = true → T s 1 ((w.deliver kind e).run s).2

def Tallied (T : τ → Nat → τ → Prop) {α : Type} (x : StateT History (StateM τ) α) : Prop :=
  ∀ log s, ∃ new, ((x.run log).run s).1.2 = log ++ new ∧
    ((∀ d ∈ new, d.arrived = true) → T s new.length ((x.run log).run s).2)

variable {w : World (StateM τ)} {T : τ → Nat → τ → Prop} (t : Tallies w T)
include t

theorem Tallies.traces : Traces w fun s new s' => (∀ d ∈ new, d.arrived = true) → T s new.length s' where
  nothing s _ := t.nothing s
  more {s s' s'' a b} first second arrived := by
    rw [List.length_append]
    exact t.more (first fun d hd => arrived d (List.mem_append_left b hd))
      (second fun d hd => arrived d (List.mem_append_right a hd))
  now s _ := t.now s
  draw bound s _ := t.draw bound s
  wait d s _ := t.wait d s
  deliver kind e s arrived := t.deliver kind e s (arrived _ List.mem_cons_self)

theorem run_tallied (identity : Identity) (policy : Policy) (script : Script) :
    Tallied T (run w.observed identity policy script) :=
  (traced_composes t.traces).run (traced_observed t.traces) identity policy script

theorem played_tallied (identity : Identity) (policy : Policy) (script : Script) (s : τ)
    (arrived : ∀ d ∈ (played w identity policy script s).log, d.arrived = true) :
    T s (played w identity policy script s).log.length (played w identity policy script s).world := by
  obtain ⟨new, log, counted⟩ := run_tallied t identity policy script [] s
  have log : (played w identity policy script s).log = new := log
  rw [log] at arrived ⊢
  exact counted arrived

end Rehearsal.Script

namespace Rehearsal.Script
open Session (Identity Policy)

variable {τ : Type} (w : World (StateM τ)) (identity : Identity) (policy : Policy)

structure Passed.Complete (p : Passed τ) (sessions : Nat) : Prop where
  requests : p.report.requests = p.log.length
  sessions : p.report.sessions = sessions
  script : p.report.script = ""
  arrived : ∀ d ∈ p.log, d.arrived = true

theorem Passed.Complete.andThen {p : Passed τ} {next : τ → Passed τ} {a b : Nat} (first : p.Complete a)
    (ok : p.result = .ok ()) (later : (next p.world).Complete b) : (p.andThen next).Complete (a + b) := by
  obtain ⟨result, report, log, s⟩ := p
  obtain rfl : result = .ok () := ok
  refine ⟨?_, ?_, first.script, ?_⟩
  · exact (congrArg₂ (· + ·) first.requests later.requests).trans List.length_append.symm
  · exact congrArg₂ (· + ·) first.sessions later.sessions
  · exact List.forall_mem_append.mpr ⟨first.arrived, later.arrived⟩

theorem session_complete {n : Node} {s : τ} (ok : (session w identity policy n {} s).result = .ok ()) :
    (session w identity policy n {} s).Complete 1 := by
  obtain ⟨events, k, told, -, log, report⟩ := session_chronicle w identity policy n {} s
  rw [ok] at told report
  have arrived : ∀ d ∈ (session w identity policy n {} s).log, d.arrived = true := by
    rw [log]
    intro d hd
    obtain ⟨e, happened, sent⟩ := List.mem_filterMap.mp hd
    cases e with
    | sent d' =>
      obtain rfl := Option.some.inj sent
      exact told.arrived _ happened
    | checked | decided => cases sent
  refine ⟨?_, ?_, ?_, arrived⟩
  · rw [report, List.countP_eq_length.mpr arrived]
    exact Nat.zero_add _
  · rw [report]
    rfl
  · rw [report]

theorem series_complete {ns : List Node} {s : τ} (ok : (series w identity policy ns {} s).result = .ok ()) :
    (series w identity policy ns {} s).Complete ns.length := by
  induction ns generalizing s with
  | nil => exact ⟨rfl, rfl, rfl, List.forall_mem_nil _⟩
  | cons n rest ih =>
    rw [series_cons] at ok ⊢
    have passed : (session w identity policy n {} s).result = .ok () := by
      cases first : (session w identity policy n {} s).result with
      | error f => simp [Passed.andThen, first] at ok
      | ok u => rfl
    have later : (series w identity policy rest {} (session w identity policy n {} s).world).result = .ok () := by
      simpa only [Passed.andThen, passed] using ok
    rw [List.length_cons, Nat.add_comm]
    exact (session_complete w identity policy passed).andThen passed (ih later)

/-- A script that goes through counts what it hands over. -/
theorem played_complete {script : Script} {s : τ} {report : Report}
    (ok : (played w identity policy script s).result = .ok report) :
    report.requests = (played w identity policy script s).log.length ∧ report.sessions = script.sessions.length ∧
      report.script = script.name ∧ ∀ d ∈ (played w identity policy script s).log, d.arrived = true := by
  rw [played_eq_series, series_counts] at ok ⊢
  cases result : (series w identity policy script.sessions {} s).result with
  | error f => simp [result, Except.map] at ok
  | ok u =>
    obtain ⟨requests, sessions, -, arrived⟩ := series_complete w identity policy result
    obtain rfl : _ = report := by simpa [result, Except.map] using ok
    exact ⟨(Nat.zero_add _).trans requests, (Nat.zero_add _).trans sessions, rfl, arrived⟩

end Rehearsal.Script

namespace Rehearsal.Command
open Script (Report Tallies played played_complete played_tallied)
open Session (Identity Policy)
open Transport (Client Errand Link Trail)

variable {τ : Type}

theorem Plays.counts {w : World (StateM τ)} {T : τ → Nat → τ → Prop} (t : Tallies w T) {identity : Identity} {policy : Policy}
    {scripts out : List Script} {x : Except Failure (List Report)} {reports : List Report} {s s' : τ}
    (plays : Plays w identity policy scripts out s x s') (ok : x = .ok reports) :
    T s (reports.map (·.requests)).sum s' ∧ reports.map (·.script) = scripts.map (·.name) ∧
      reports.map (·.sessions) = scripts.map (·.sessions.length) := by
  induction plays generalizing reports with
  | done s =>
    obtain rfl := Except.ok.inj ok
    exact ⟨t.nothing s, rfl, rfl⟩
  | failed => cases ok
  | @passed script rest out s s' report x result later ih =>
    obtain ⟨reports, rfl, rfl⟩ := map_eq_ok.mp ok
    obtain ⟨counted, names, lengths⟩ := ih rfl
    obtain ⟨requests, sessions, name, arrived⟩ := played_complete w identity policy result
    refine ⟨?_, ?_, ?_⟩
    · rw [List.map_cons, List.sum_cons, requests]
      exact t.more (played_tallied t identity policy script s arrived) counted
    · rw [List.map_cons, List.map_cons, name, names]
    · rw [List.map_cons, List.map_cons, sessions, lengths]

end Rehearsal.Command

namespace Rehearsal.Transport
open Wire (Kind)

namespace Trail

/-- The envelopes that were posted. -/
def posts (t : Trail) : Nat := t.countP fun e => !e.isExchange

/-- The envelopes that were posted and brought an answer, be it an empty one. -/
def answered (t : Trail) : Nat := t.countP fun e => !e.isExchange && e.brought?.isSome

variable (t u : Trail)

theorem posts_append : posts (t ++ u) = t.posts + u.posts := List.countP_append

theorem answered_append : answered (t ++ u) = t.answered + u.answered := List.countP_append

end Trail

theorem Link.brought_of_received {l : Link} {kind : Kind} {outcome : Except String Reply}
    (ok : (l.received kind outcome).isOk = true) (d : Dispatch) : (Errand.brought? ⟨d, outcome⟩).isSome = true := by
  rw [← l.received_toOption kind d outcome]
  cases received : l.received kind outcome with
  | error f => rw [received] at ok; cases ok
  | ok y => rfl

/-- An answer is brought once. Each further post follows new tokens. -/
theorem Link.Fired.counts {l : Link} {kind : Kind} {body : List UInt8} {sent : Trail} {x : Answer} {l' : Link}
    (fired : Fired l kind body sent x l') (ok : x.isOk = true) : sent.answered = 1 ∧ sent.posts = 1 + sent.grants.length := by
  cases fired with
  | @settled outcome =>
    have brought := brought_of_received ok (l.dispatch body)
    simp [Trail.answered, Trail.posts, Trail.grants, isExchange_dispatch, brought, grant?_dispatch]
  | denied => cases ok
  | @retried r o outcome second g rejected oauth granted =>
    have brought := brought_of_received ok ((l.renewed o g).dispatch body)
    have turned_down := brought?_of_rejected (rejected_iff (d := l.dispatch body).mpr rejected)
    simp [Trail.answered, Trail.posts, Trail.grants, isExchange_dispatch, isExchange_refreshDispatch, brought, turned_down,
      grant?_dispatch, grant?_of_granted granted]

variable {σ : Type}

def Moves (k : Link × Trail × σ) (n : Nat) (k' : Link × Trail × σ) : Prop :=
  ∃ sent : Trail, k'.2.1 = k.2.1 ++ sent ∧ sent.answered = n ∧ sent.posts = n + sent.grants.length

theorem moves_still (k k' : Link × Trail × σ) (same : k'.2.1 = k.2.1) : Moves k 0 k' :=
  ⟨[], by rw [same, List.append_nil], rfl, rfl⟩

theorem moves_more {k k₁ k' : Link × Trail × σ} {a b : Nat} (h : Moves k a k₁) (h' : Moves k₁ b k') : Moves k (a + b) k' := by
  obtain ⟨sent, trail, answered, posts⟩ := h
  obtain ⟨later, trail', answered', posts'⟩ := h'
  refine ⟨sent ++ later, by rw [trail', trail, List.append_assoc], ?_, ?_⟩
  · rw [Trail.answered_append, answered, answered']
  · rw [Trail.posts_append, posts, posts', Trail.grants_append, List.length_append]
    omega

end Rehearsal.Transport

namespace Rehearsal.Command
open Script (Report Tallies)
open Session (Identity Policy)
open Transport

variable {σ : Type} (h : Host (StateM σ))

theorem link_tallies (limit : Span) :
    Tallies (linkWorld h limit) Moves where
  nothing k := moves_still k k rfl
  more := moves_more
  now k := moves_still _ _ rfl
  draw bound k := moves_still _ _ rfl
  wait d k := moves_still _ _ rfl
  deliver kind e := fun (l, trail, s) ok => by
    obtain ⟨sent, x, l', s', ran, fired⟩ := linkWorld_deliver h limit kind e l trail s
    rw [ran] at ok ⊢
    obtain ⟨answered, posts⟩ := fired.counts ok
    exact ⟨sent, rfl, answered, posts⟩

theorem run_counts [Regex.Room] {settings : Settings} {paths : List String} {tag : Option String} {r : Record} {trail : Trail}
    {s s' : σ}
    (ran : ((run h.observed settings paths tag).run []).run s = pure ((.ok (.ran r), trail), s')) :
    (r.reports.map (·.requests)).sum = trail.answered ∧ trail.posts = trail.answered + trail.grants.length := by
  obtain ⟨x, trail', s'', run, course⟩ := run_takes_course h settings paths tag s
  have same : ((x, trail'), s'') = ((.ok (.ran r), trail), s') := run.symm.trans ran
  obtain ⟨⟨ok, rfl⟩, rfl⟩ : (x = .ok (.ran r) ∧ trail' = trail) ∧ s'' = s' := by simpa using same
  cases course with
  | unread => cases ok
  | anonymous => cases ok
  | unlinked => cases ok
  | played read drawn linked plays =>
    obtain ⟨reports, rfl, made⟩ := map_eq_ok.mp ok
    obtain ⟨⟨sent, posted, answered, posts⟩, -⟩ := plays.counts (link_tallies h settings.timeout) rfl
    obtain rfl : trail' = sent := posted
    obtain rfl := Outcome.ran.inj made
    exact ⟨answered.symm, by rw [posts, answered]⟩

theorem observed_of_forgets {α : Type} {x : StateT Trail (StateM σ) α} {y : StateM σ α} {v : α} {s s' : σ}
    (same : Prod.fst <$> x.run [] = y) (ran : y.run s = pure (v, s')) : ∃ trail, (x.run []).run s = pure ((v, trail), s') := by
  obtain ⟨⟨⟨v', trail⟩, s''⟩, watched⟩ : ∃ out, (x.run []).run s = pure out := ⟨_, rfl⟩
  have same : (pure (v', s'') : Id (α × σ)) = pure (v, s') := by
    rw [← ran, ← same, StateT.run_map, watched]
    rfl
  obtain ⟨rfl, rfl⟩ : v' = v ∧ s'' = s' := Prod.mk.inj same
  exact ⟨trail, watched⟩

/-- What programs are told of scripts that were run, if so many requests are counted: the sums over all scripts stand last. -/
def Record.summary (r : Record) (timestamp : String) (requests : Nat) : Json.Outline :=
  .record [("status", .text "ok"), ("timestamp", .text timestamp), ("version", .text programVersion),
    ("data", .record [
      ("scripts", .list (r.reports.map fun q => .record [("script", .text q.script), ("sessions", .number q.sessions),
        ("requests", .number q.requests), ("checks", .number q.checks), ("conditions_taken", .number q.taken),
        ("conditions_skipped", .number q.skipped)])),
      ("sessions", .number (r.reports.map (·.sessions)).sum), ("requests", .number requests),
      ("checks", .number (r.reports.map (·.checks)).sum)])]

theorem ofResult_ran {i : Invocation} (robot : i.robot = true) (timestamp : String) (r : Record) :
    Ending.ofResult timestamp i (.ok (.ran r)) =
      { output := (r.summary timestamp (r.reports.map (·.requests)).sum).render ++ "\n" } := by
  simp only [Ending.ofResult, robot, if_true]
  rfl

/- A session counts what it does, however it ends: the one chronicle of its tasks says what that is. A run that goes through
   counts the envelopes that were answered; what was posted again, with new tokens, is not counted twice. So a command that
   ends well tells of as many requests as it got answers. -/
theorem reports_count_what_happened [Regex.Room] :
    (∀ {σ : Type} (w : World (StateM σ)) (identity : Identity) (policy : Policy) (n : Script.Node) (report : Report) (s : σ),
      let passed := Script.session w identity policy n report s
      let drawn := (w.draw Wire.Ids.uuidBound).run s
      let first : Script.Scene σ := ⟨.create identity policy drawn.1, drawn.2⟩
      (Script.runSession w identity policy n report).run s = pure ((passed.result, passed.report), passed.world) ∧
      ∃ events k, Script.Chronicle w n.course first events passed.result k ∧
        (∀ events' x k', Script.Chronicle w n.course first events' x k' → events' = events) ∧
        passed.log = events.filterMap Script.Event.delivery? ∧
        passed.report = { report with
          sessions := report.sessions + if passed.result.isOk then 1 else 0
          requests := report.requests + passed.log.countP Delivery.arrived
          checks := report.checks + events.countP Script.Event.held
          taken := report.taken + events.countP Script.Event.taken
          skipped := report.skipped + events.countP Script.Event.skipped }) ∧
    (∀ {τ : Type} (h : Host (StateM τ)) (settings : Settings) (paths : List String) (tag : Option String) (s s' : τ)
      (r : Record), (run h settings paths tag).run s = pure (.ok (.ran r), s') →
      ∃ trail, ((run h.observed settings paths tag).run []).run s = pure ((.ok (.ran r), trail), s') ∧
        (Outcome.ran r).outline = .record [("scripts", .list (r.reports.map reportOutline)),
          ("sessions", .number (r.reports.map (·.sessions)).sum), ("requests", .number (r.reports.map (·.requests)).sum),
          ("checks", .number (r.reports.map (·.checks)).sum)] ∧
        (r.reports.map (·.requests)).sum = trail.answered ∧ trail.posts = trail.answered + trail.grants.length) ∧
    ∀ {τ : Type} (h : Host (StateM τ)) (i : Invocation) (s s' : τ) (r : Record),
      (perform h i).run s = pure (.ok (.ran r), s') →
      ∃ trail, ((perform h.observed i).run []).run s = pure ((.ok (.ran r), trail), s') ∧
        (r.reports.map (·.requests)).sum = trail.answered ∧ trail.posts = trail.answered + trail.grants.length ∧
        (i.robot = true → ∀ timestamp,
          Ending.ofResult timestamp i (.ok (.ran r)) = { output := (r.summary timestamp trail.answered).render ++ "\n" }) := by
  refine ⟨fun w identity policy n report s => ?_, fun h settings paths tag s s' r ok => ?_, fun h i s s' r ok => ?_⟩
  · obtain ⟨events, k, told, -, log, counted⟩ := Script.session_chronicle w identity policy n report s
    exact ⟨Script.session_unwatched w identity policy n report s, events, k, told,
      fun events' x k' told' => (told'.unique told).1, log, counted⟩
  · obtain ⟨trail, ran⟩ := observed_of_forgets (forgets_composes.runCommand (host_observed_alike h) settings paths tag []) ok
    exact ⟨trail, ran, rfl, run_counts h ran⟩
  · obtain ⟨paths, layer, tag, _, settings, _, job, loaded, valid, ok⟩ := perform_eq_ran h ok
    obtain ⟨trail, ran⟩ := observed_of_forgets (forgets_composes.runCommand (host_observed_alike h) settings paths tag []) ok
    obtain ⟨requests, posts⟩ := run_counts h ran
    exact ⟨trail, (perform_runs_watched h job loaded valid).trans ran, requests, posts,
      fun robot timestamp => requests ▸ ofResult_ran robot timestamp r⟩

def still (files : List (String × String)) : Host (StateM (List Reply)) where
  now := return 1700000000
  draw _ := return 0
  wait _ := return ()
  sources := {
    find := fun path => return (files.lookup path).elim .missing fun text => .bytes (Text.Utf8.encode text.toList)
    environment := fun _ => none
    globalPath := none
    projectPath := "skillcheck.toml" }
  net _ := inTurn

def Outcome.reports : Outcome → List Report
  | .checked _ => []
  | .ran r => r.reports

theorem ran_of_reports {x : StateM σ (Except Failure Outcome)} {s : σ} {report : Report} {rest : List Report}
    (told : (x.run s).1.toOption.map Outcome.reports = some (report :: rest)) :
    ∃ r s', x.run s = pure (.ok (.ran r), s') ∧ r.reports = report :: rest := by
  obtain ⟨⟨y, s'⟩, ran⟩ : ∃ out, x.run s = pure out := ⟨_, rfl⟩
  rw [ran] at told
  cases y with
  | error f => cases told
  | ok o =>
    cases o with
    | checked scripts => cases told
    | ran r => exact ⟨r, s', ran, Option.some.inj told⟩

/-- The first probe is turned down and goes out again, with a new token. Where all goes well at once, the command as a whole
tells of the same three requests. -/
theorem reposted_envelope_is_counted_once :
    let page (status : Nat) (text : String) : Reply := ⟨status, some (Text.Utf8.encode text.toList)⟩
    let h := still [("greeting.yaml", "name: greeting\nsessions: [[launch: true, SessionStillOpen, HasCard: []]]")]
    let settings : Settings := { endpoint := some "https://skill.example", oauth := some { tokenUrl := "https://id.example" } }
    let first : List Reply := [page 401 "", page 200 "\x7b\"access_token\": \"fresh\"\x7d"]
    let replies : List Reply := [page 204 "", page 200 "\x7b\"response\": \x7b\"shouldEndSession\": false\x7d\x7d", page 200 " "]
    let i : Invocation :=
      { job := .run ["greeting.yaml"] { endpoint := some "https://skill.example" } none, robot := true }
    (∃ r s', (run h settings ["greeting.yaml"] none).run (first ++ replies) = pure (.ok (.ran r), s') ∧
      r.reports = [⟨"greeting", 1, 3, 1, 0, 1⟩] ∧
      ∃ trail, trail.answered = 3 ∧ trail.posts = 3 + trail.grants.length ∧
        ((run h.observed settings ["greeting.yaml"] none).run []).run (first ++ replies) = pure ((.ok (.ran r), trail), s')) ∧
    ∃ r s', (perform h i).run replies = pure (.ok (.ran r), s') ∧ r.reports = [⟨"greeting", 1, 3, 1, 0, 1⟩] ∧
      ∃ trail : Trail, trail.posts = 3 + trail.grants.length ∧
        ∀ timestamp, Ending.ofResult timestamp i (.ok (.ran r)) = { output := (r.summary timestamp 3).render ++ "\n" } := by
  intro page h settings first replies i
  constructor
  · obtain ⟨r, s', ran, counted⟩ : ∃ r s', (run h settings ["greeting.yaml"] none).run (first ++ replies) =
        pure (.ok (.ran r), s') ∧ r.reports = [⟨"greeting", 1, 3, 1, 0, 1⟩] := ran_of_reports (by decide +kernel)
    obtain ⟨trail, watched, -, answered, posts⟩ :=
      reports_count_what_happened.2.1 h settings ["greeting.yaml"] none (first ++ replies) s' r ran
    rw [counted] at answered
    refine ⟨r, s', ran, counted, trail, answered.symm, ?_, watched⟩
    rw [posts, ← answered]
    rfl
  · obtain ⟨r, s', ran, counted⟩ : ∃ r s', (run h { endpoint := some "https://skill.example" } ["greeting.yaml"] none).run
        replies = pure (.ok (.ran r), s') ∧ r.reports = [⟨"greeting", 1, 3, 1, 0, 1⟩] := ran_of_reports (by decide +kernel)
    have loaded : (Settings.load h.sources i.config).run replies = pure (.ok {}, replies) :=
      Settings.load_of_nothing (fun _ => rfl) rfl rfl
    have performed := (perform_runs h (i := i) rfl loaded (Settings.defaults_accepted _)).trans ran
    obtain ⟨trail, -, answered, posts, told⟩ := reports_count_what_happened.2.2 h i replies s' r performed
    rw [counted] at answered
    have three : 3 = trail.answered := answered
    rw [← three] at posts told
    exact ⟨r, s', performed, counted, trail, posts, told rfl⟩

end Rehearsal.Command
