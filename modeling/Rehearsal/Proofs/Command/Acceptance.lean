import Rehearsal.Proofs.Command.Totals
import Rehearsal.Proofs.Script.Causes
import Rehearsal.Proofs.Settings.Defaults
import Rehearsal.Proofs.Settings.Sound

/-!
What `check` accepts `run` accepts: both read the same scripts and fail for the same first one, tagged or not; and what was
read once is complete, so that no run of it, whatever the skill answers, blames the script.
-/
namespace Rehearsal.Script
open Session (History Identity Policy)

def Lowered [Regex.Room] (marker : Char) (s : Script) : Prop := ∀ n ∈ s.sessions, ∃ t, Node.ofTree marker t = .ok n

variable {marker : Char} [Regex.Room]

theorem sessionOf_ofTree {number : Nat} {v : Yaml.Value} {n : Node} (h : sessionOf marker number v = .ok n) :
    ∃ t, Node.ofTree marker t = .ok n := by
  unfold sessionOf at h
  cases tree : Tree.ofValue v with
  | error f => simp [tree] at h
  | ok t =>
    refine ⟨t, ?_⟩
    cases lowered : Node.ofTree marker t with
    | ok n' => simpa [tree, lowered] using h
    | error f => cases f <;> simp [tree, lowered] at h

theorem sessionsFrom_ofTree {vs : List Yaml.Value} {number : Nat} {ns : List Node} (h : sessionsFrom marker number vs = .ok ns) :
    ∀ n ∈ ns, ∃ t, Node.ofTree marker t = .ok n := by
  induction vs generalizing number ns with
  | nil =>
    obtain rfl := Except.ok.inj h
    simp
  | cons v rest ih =>
    obtain ⟨n, first, h⟩ := bind_eq_ok.mp h
    obtain ⟨later, others, h⟩ := bind_eq_ok.mp h
    obtain rfl := Except.ok.inj h
    intro n' hn'
    rcases List.mem_cons.mp hn' with rfl | hn'
    · exact sessionOf_ofTree first
    · exact ih others n' hn'

theorem ofText_lowered {text : String} {s : Script} (h : Script.ofText marker text = .ok s) : s.Lowered marker := by
  unfold Script.ofText at h
  split at h
  · unfold ofDraft at h
    split_ifs at h
    obtain ⟨sessions, read, h⟩ := bind_eq_ok.mp h
    obtain rfl := Except.ok.inj h
    exact sessionsFrom_ofTree read
  · cases h

/-- In a world whose transport fails as a transport, no run of a script blames the script. -/
theorem played_never_blames {τ : Type} {w : World (StateM τ)} (honest : Honest w) {identity : Identity} {policy : Policy} {script : Script}
    (lowered : script.Lowered marker) {s : τ} {f : Failure}
    (failed : (played w identity policy script s).result = .error f) :
    f.code ≠ "script_error" ∧ f.code ≠ "yaml_error" := by
  obtain ⟨n, hn, s', failed⟩ := played_eq_error w identity policy failed
  obtain ⟨t, tree⟩ := lowered n hn
  have cause := session_has_cause w (fun m inner => sendable_of_ofTree tree inner) {} s' failed
  have answers := session_traced honest identity policy n {} s'
  by_contra blamed
  have scripting : f.code = "script_error" ∨ f.code = "yaml_error" := by
    by_contra other
    exact blamed (not_or.mp other)
  obtain ⟨before, d, log, answer⟩ := cause.of_scripting scripting
  obtain ⟨fault, rfl⟩ := answers d (by simp [log]) f answer
  simp [Failure.code] at scripting

end Rehearsal.Script

namespace Rehearsal.Command
open Script (Honest Report played played_never_blames)
open Session (Identity Policy)
open Transport

section
variable {σ : Type} (h : Host (StateM σ))

theorem scriptAt_lowered [Regex.Room] {marker : Char} {path : String} {script : Script} {s s' : σ}
    (read : (scriptAt h marker path).run s = pure (.ok script, s')) : script.Lowered marker := by
  obtain ⟨found, s₁, find⟩ := Session.run_eq_pure (h.sources.find path) s
  rw [scriptAt, StateT.run_bind, find, pure_bind] at read
  cases text : found.text? with
  | error detail => simp only [text] at read; cases read
  | ok text' =>
    simp only [text] at read
    have parsed : Script.ofText marker text' = .ok script := congrArg Prod.fst read
    exact Script.ofText_lowered parsed

theorem scriptsAt_lowered [Regex.Room] {marker : Char} {paths : List String} {scripts : List (String × Script)} {s s' : σ}
    (read : (scriptsAt h marker paths).run s = pure (.ok scripts, s')) :
    scripts.map (·.1) = paths ∧ ∀ script ∈ scripts, script.2.Lowered marker := by
  induction paths generalizing scripts s s' with
  | nil =>
    cases read
    simp
  | cons path rest ih =>
    obtain ⟨first, s₁, one⟩ := Session.run_eq_pure (scriptAt h marker path) s
    rw [scriptsAt, StateT.run_bind, one, pure_bind] at read
    cases first with
    | error f => cases read
    | ok script =>
      obtain ⟨later, s₂, others⟩ := Session.run_eq_pure (scriptsAt h marker rest) s₁
      simp only [StateT.run_bind, others, pure_bind] at read
      have all : later.map ((path, script) :: ·) = .ok scripts := congrArg Prod.fst read
      obtain ⟨later, rfl, rfl⟩ := map_eq_ok.mp all
      obtain ⟨names, lowered⟩ := ih others
      refine ⟨congrArg (path :: ·) names, ?_⟩
      intro script' member
      rcases List.mem_cons.mp member with rfl | member
      · exact scriptAt_lowered h one
      · exact lowered script' member

theorem link_honest (limit : Span) : Honest (linkWorld h limit) where
  nothing := by simp
  more first second := List.forall_mem_append.mpr ⟨first, second⟩
  now := by simp
  draw := by simp
  wait := by simp
  deliver kind e := fun (l, trail, s) d handed f failed => by
    obtain ⟨sent, x, l', s', ran, fired⟩ := linkWorld_deliver h limit kind e l trail s
    rw [ran] at handed
    obtain rfl := List.mem_singleton.mp handed
    exact fired.brings.2 f failed

end

section
variable {τ : Type} {w : World (StateM τ)} {identity : Identity} {policy : Policy} {scripts out : List Script} {s s' : τ}
  {x : Except Failure (List Report)}

theorem Plays.isPrefix (plays : Plays w identity policy scripts out s x s') : out <+: scripts := by
  induction plays with
  | done => exact List.prefix_rfl
  | failed => exact ⟨_, rfl⟩
  | passed _ _ ih => exact (List.prefix_cons_inj _).mpr ih

theorem Plays.all {reports : List Report} (plays : Plays w identity policy scripts out s x s') (ok : x = .ok reports) :
    out = scripts := by
  induction plays generalizing reports with
  | done => rfl
  | failed => cases ok
  | passed _ _ ih =>
    obtain ⟨later, rfl, -⟩ := map_eq_ok.mp ok
    rw [ih rfl]

/-- The script that fails is the last that is played. -/
theorem Plays.last {f : Failure} (plays : Plays w identity policy scripts out s x s') (failed : x = .error f) :
    ∃ before script s₁, out = before ++ [script] ∧ (played w identity policy script s₁).result = .error f := by
  induction plays with
  | done => cases failed
  | failed result => exact ⟨[], _, _, rfl, result.trans (congrArg _ (Except.error.inj failed))⟩
  | @passed script _ _ _ _ _ _ _ _ ih =>
    obtain ⟨before, script', s₁, rfl, result⟩ := ih (map_eq_error.mp failed)
    exact ⟨script :: before, script', s₁, rfl, result⟩

end

theorem perform_check [Regex.Room] {σ : Type} (h : Host (StateM σ)) {config : Option String} {settings : Settings} {s s' : σ}
    (loaded : (Settings.load h.sources config).run s = pure (.ok settings, s')) (paths : List String) :
    (perform h { job := .check paths, config }).run s = (check h settings paths).run s' := by
  rw [perform, StateT.run_bind, loaded, pure_bind]

theorem filter_carries_none (scripts : List Script) : scripts.filter (carries none) = scripts :=
  List.filter_eq_self.mpr fun _ _ => rfl

theorem mem_filter_carries {tag : String} {scripts : List Script} {script : Script} :
    script ∈ scripts.filter (carries (some tag)) ↔ script ∈ scripts ∧ tag ∈ script.tags := by
  simp [carries]

theorem check_reads [Regex.Room] {σ : Type} {h : Host (StateM σ)} {settings : Settings} {paths : List String}
    {x : Except Failure Outcome} {s s' : σ} (checked : (check h settings paths).run s = pure (x, s')) :
    ∃ y, (scriptsAt h settings.marker paths).run s = pure (y, s') ∧ x = y.map .checked := by
  obtain ⟨y, s'', read⟩ := Session.run_eq_pure (scriptsAt h settings.marker paths) s
  rw [check, StateT.run_bind, read, pure_bind] at checked
  obtain ⟨rfl, rfl⟩ : y.map .checked = x ∧ s'' = s' := Prod.mk.inj checked
  exact ⟨y, read, rfl⟩

theorem RunCourse.of_unread [Regex.Room] {σ : Type} {h : Host (StateM σ)} {settings : Settings} {paths : List String} {tag : Option String}
    {x : Except Failure Outcome} {trail : Trail} {f : Failure} {s s' s₁ : σ} (course : RunCourse h settings paths tag s x trail s')
    (unread : (scriptsAt h settings.marker paths).run s = pure (.error f, s₁)) : x = .error f ∧ trail = [] ∧ s' = s₁ := by
  cases course with
  | unread read =>
    obtain ⟨same, rfl⟩ := Prod.mk.inj (read.symm.trans unread)
    exact ⟨congrArg _ (Except.error.inj same), rfl, rfl⟩
  | anonymous read => cases (Prod.mk.inj (read.symm.trans unread)).1
  | unlinked read => cases (Prod.mk.inj (read.symm.trans unread)).1
  | played read => cases (Prod.mk.inj (read.symm.trans unread)).1

theorem ofSettings_eq_error {settings : Settings} {token : Option String} {f : Failure}
    (failed : Link.ofSettings settings token = .error f) :
    f = .config .noEndpoint ∧ Text.trimText (settings.endpoint.getD "") = "" := by
  unfold Link.ofSettings at failed
  dsimp only at failed
  split_ifs at failed with missing
  exact ⟨(Except.error.inj failed).symm, missing⟩

/- Both commands in the same surroundings. What is posted stands in the trail; the run is that of the host unwatched. -/
theorem check_and_run_accept_the_same [Regex.Room] {σ : Type} (h : Host (StateM σ)) (config : Option String) (paths : List String)
    (endpoint locale : Option String) (policy : Option Policy) (tag : Option String) (s₀ s₁ : σ) (settings settings' : Settings)
    (loaded : (Settings.load h.sources config).run s₀ = pure (.ok settings, s₁))
    (valid : (settings.overlaid { endpoint, locale, policy }).checked = .ok settings') :
    ∃ x trail s',
      ((perform h.observed { job := .run paths { endpoint, locale, policy } tag, config }).run []).run s₀ =
        pure ((x, trail), s') ∧
      (perform h { job := .run paths { endpoint, locale, policy } tag, config }).run s₀ = pure (x, s') ∧
      (∀ f s₂, (perform h { job := .check paths, config }).run s₀ = pure (.error f, s₂) → x = .error f ∧ trail = [] ∧ s' = s₂) ∧
      (∀ o s₂, (perform h { job := .check paths, config }).run s₀ = pure (.ok o, s₂) →
        ∃ scripts, o = .checked scripts ∧ scripts.map (·.1) = paths ∧
          (tag = none → (scripts.map (·.2)).filter (carries tag) = scripts.map (·.2)) ∧
          (∀ t, tag = some t → ∀ script, script ∈ (scripts.map (·.2)).filter (carries tag) ↔
            script ∈ scripts.map (·.2) ∧ t ∈ script.tags) ∧
          (∀ f, x = .error f → f.code ≠ "script_error" ∧ f.code ≠ "yaml_error") ∧
          ((x = .error (.config .noEndpoint) ∧ trail = [] ∧ Text.trimText (settings'.endpoint.getD "") = "") ∨
            ∃ identity link link' out y s₃,
              Plays (linkWorld h settings'.timeout) identity settings'.policy ((scripts.map (·.2)).filter (carries tag)) out
                (link, [], s₃) y (link', trail, s') ∧
              out <+: (scripts.map (·.2)).filter (carries tag) ∧
              (∀ reports, y = .ok reports → out = (scripts.map (·.2)).filter (carries tag) ∧
                reports.map (·.script) = out.map (·.name) ∧
                x = .ok (.ran { endpoint := link.endpoint, policy := settings'.policy, identity, reports })) ∧
              ∀ f, y = .error f → x = .error f)) := by
  obtain ⟨x, trail, s', ran, course⟩ := run_takes_course h settings' paths tag s₁
  let running : Invocation := { job := .run paths { endpoint, locale, policy } tag, config }
  have watched := (perform_runs_watched h (i := running) rfl loaded valid).trans ran
  have marker : settings'.marker = settings.marker := by
    rw [(Settings.checked_eq_ok valid).1]
    rfl
  refine ⟨x, trail, s', watched, ?_, ?_, ?_⟩
  · rw [← perform_observed h running [], StateT.run_map, watched]
    rfl
  · intro f s₂ failed
    rw [perform_check h loaded] at failed
    obtain ⟨y, read, made⟩ := check_reads failed
    obtain rfl := map_eq_error.mp made.symm
    rw [← marker] at read
    exact course.of_unread read
  · intro o s₂ checked
    rw [perform_check h loaded] at checked
    obtain ⟨y, read, made⟩ := check_reads checked
    obtain ⟨scripts, rfl, rfl⟩ := map_eq_ok.mp made.symm
    obtain ⟨names, lowered⟩ := scriptsAt_lowered h read
    rw [← marker] at read
    refine ⟨scripts, rfl, names, fun untagged => untagged ▸ filter_carries_none _,
      fun t tagged script => tagged ▸ mem_filter_carries, ?_⟩
    cases course with
    | unread unread => cases (Prod.mk.inj (unread.symm.trans read)).1
    | anonymous _ drawn =>
      obtain ⟨application, user, made⟩ := Session.drawIdentity_eq drawn
      cases made.trans ((Settings.sound_of_checked valid).identity application user)
    | unlinked _ _ unlinked =>
      obtain ⟨rfl, missing⟩ := ofSettings_eq_error unlinked
      exact ⟨fun f same => by cases same; simp [Failure.code], .inl ⟨rfl, rfl, missing⟩⟩
    | @played scripts' identity link link' out y trail s₂ s₃ s' read' drawn linked plays =>
      obtain rfl : scripts' = scripts := Except.ok.inj (Prod.mk.inj (read'.symm.trans read)).1
      refine ⟨fun f failed => ?_, .inr ⟨identity, link, link', out, y, s₃, plays, plays.isPrefix, ?_, ?_⟩⟩
      · obtain ⟨before, script, s₄, rfl, failed⟩ := plays.last (map_eq_error.mp failed)
        have chosen : script ∈ (scripts'.map (·.2)).filter (carries tag) := plays.isPrefix.subset (by simp)
        obtain ⟨entry, member, rfl⟩ := List.mem_map.mp (List.mem_filter.mp chosen).1
        exact played_never_blames (link_honest h settings'.timeout) (lowered entry member) failed
      · rintro reports rfl
        obtain ⟨-, told, -⟩ := plays.counts (link_tallies h settings'.timeout) rfl
        have all := plays.all rfl
        exact ⟨all, by rw [told, all], rfl⟩
      · rintro f rfl
        rfl

/-- A script without the tag is faulty: neither command goes on, and the run posts nothing. Where that script is sound both go
on, and the run leaves it out. -/
theorem faulty_script_fails_both :
    let smoke := ("smoke.yaml", "name: smoke\ntags: [smoke]\nsessions: [[launch: true]]")
    let faulty := ("night.yaml", "name: night\ntags: [night]\nsessions: [[NoSuchCheck]]")
    let sound := ("night.yaml", "name: night\ntags: [night]\nsessions: [[launch: true, HasCard]]")
    let page (status : Nat) (text : String) : Reply := ⟨status, some (Text.Utf8.encode text.toList)⟩
    let replies : List Reply := [page 204 "", page 200 "\x7b\"response\": \x7b\"shouldEndSession\": true\x7d\x7d"]
    let checking : Invocation := { job := .check ["smoke.yaml", "night.yaml"] }
    let running : Invocation :=
      { job := .run ["smoke.yaml", "night.yaml"] { endpoint := some "https://skill.example" } (some "smoke") }
    (∃ f s', f.code = "script_error" ∧ (perform (still [smoke, faulty]) checking).run replies = pure (.error f, s') ∧
      ((perform (still [smoke, faulty]).observed running).run []).run replies = pure ((.error f, []), s')) ∧
    ∃ scripts r trail s s', (perform (still [smoke, sound]) checking).run replies = pure (.ok (.checked scripts), s) ∧
      ((perform (still [smoke, sound]).observed running).run []).run replies = pure ((.ok (.ran r), trail), s') ∧
      r.reports.map (·.script) = ((scripts.map (·.2)).filter (carries (some "smoke"))).map (·.name) ∧
      r.reports.map (·.script) = ["smoke"] := by
  intro smoke faulty sound page replies checking running
  have loaded (files : List (String × String)) (missing : files.lookup "skillcheck.toml" = none) :
      (Settings.load (still files).sources none).run replies = pure (.ok {}, replies) :=
    Settings.load_of_nothing (fun _ => rfl) rfl (by simp [still, missing])
  have valid : (({} : Settings).overlaid { endpoint := some "https://skill.example" }).checked =
      .ok { endpoint := some "https://skill.example" } := Settings.defaults_accepted _
  have agree (files : List (String × String)) (missing : files.lookup "skillcheck.toml" = none) :=
    check_and_run_accept_the_same (still files) none ["smoke.yaml", "night.yaml"] (some "https://skill.example") none none
      (some "smoke") replies replies {} _ (loaded files missing) valid
  constructor
  · have code : (match ((check (still [smoke, faulty]) {} ["smoke.yaml", "night.yaml"]).run replies).1 with
        | .error f => some f.code
        | .ok _ => none) = some "script_error" := by
      decide +kernel
    obtain ⟨x, s₂, checked⟩ := Session.run_eq_pure (check (still [smoke, faulty]) {} ["smoke.yaml", "night.yaml"]) replies
    rw [checked] at code
    rw [← perform_check (still [smoke, faulty]) (loaded _ rfl)] at checked
    cases x with
    | ok o => cases code
    | error f =>
      obtain ⟨x, trail, s', ran, -, same, -⟩ := agree [smoke, faulty] rfl
      obtain ⟨rfl, rfl, rfl⟩ := same f s₂ checked
      exact ⟨f, s', Option.some.inj code, checked, ran⟩
  · obtain ⟨r, s₁, ran, told⟩ : ∃ r s', (run (still [smoke, sound]) { endpoint := some "https://skill.example" }
        ["smoke.yaml", "night.yaml"] (some "smoke")).run replies = pure (.ok (.ran r), s') ∧
        r.reports = [⟨"smoke", 1, 2, 0, 0, 0⟩] := ran_of_reports (by decide +kernel)
    obtain ⟨x, trail, s', watched, unwatched, fails, passes⟩ := agree [smoke, sound] rfl
    rw [perform_runs _ rfl (loaded _ rfl) valid] at unwatched
    obtain ⟨rfl, rfl⟩ : .ok (.ran r) = x ∧ s₁ = s' := Prod.mk.inj (ran.symm.trans unwatched)
    obtain ⟨y, s₂, checked⟩ := Session.run_eq_pure (perform (still [smoke, sound]) checking) replies
    cases y with
    | error f => cases (fails f s₂ checked).1
    | ok o =>
      obtain ⟨scripts, rfl, -, -, -, -, ⟨unlinked, -⟩ | ⟨identity, link, link', out, y, s₃, -, -, went, failed⟩⟩ :=
        passes o s₂ checked
      · cases unlinked
      · cases y with
        | error f => cases failed f rfl
        | ok reports =>
          obtain ⟨all, names, made⟩ := went reports rfl
          obtain rfl := Outcome.ran.inj (Except.ok.inj made)
          exact ⟨scripts, _, trail, s₂, s₁, checked, watched, names.trans (by rw [all]), by rw [told]; rfl⟩

end Rehearsal.Command
