import Rehearsal.Proofs.Command.Watching
import Rehearsal.Proofs.Script.Trace

/-!
How a `run` goes: it reads its scripts, without posting anything; then, over one link, it plays those that carry the tag,
one after the other, up to the first that fails.
-/
namespace Rehearsal.Transport

variable {σ : Type}

def Flat {α : Type} (x : StateT Link (StateT Trail (StateM σ)) α) (y : StateM (Link × Trail × σ) α) : Prop :=
  ∀ l t s, ((x.run l).run t).run s = (let (v, l, t, s) := y.run (l, t, s); pure (((v, l), t), s))

def flat {α : Type} (x : StateT Link (StateT Trail (StateM σ)) α) : StateM (Link × Trail × σ) α := fun (l, t, s) =>
  let (((v, l), t), s) := ((x.run l).run t).run s
  pure (v, l, t, s)

theorem flat_run {α : Type} {x : StateT Link (StateT Trail (StateM σ)) α} {l l' : Link} {t t' : Trail} {s s' : σ} {v : α}
    (ran : ((x.run l).run t).run s = pure (((v, l'), t'), s')) : (flat x).run (l, t, s) = pure (v, l', t', s') := by
  have flattened : (flat x).run (l, t, s) =
      (let out := ((x.run l).run t).run s
       pure (out.1.1.1, out.1.1.2, out.1.2, out.2)) := rfl
  rw [flattened, ran]
  rfl

theorem Flat.run {α : Type} {x : StateT Link (StateT Trail (StateM σ)) α} {y : StateM (Link × Trail × σ) α} (same : Flat x y)
    {l l' : Link} {t t' : Trail} {s s' : σ} {v : α} (ran : y.run (l, t, s) = pure (v, l', t', s')) :
    ((x.run l).run t).run s = pure (((v, l'), t'), s') := by
  rw [same, ran]
  rfl

theorem flat_composes : Composes fun {α} (x : StateT Link (StateT Trail (StateM σ)) α) (y : StateM (Link × Trail × σ) α) =>
    Flat x y where
  pure v := fun l t s => rfl
  bind {α β x₁ x₂ y₁ y₂} hx hy := fun l t s => by
    obtain ⟨⟨v, l₁, t₁, s₁⟩, run⟩ : ∃ out, x₂.run (l, t, s) = out := ⟨_, rfl⟩
    have first := hx l t s
    have both : (x₂ >>= y₂).run (l, t, s) = (y₂ v).run (l₁, t₁, s₁) := by
      rw [StateT.run_bind, run]
      rfl
    rw [run] at first
    rw [both, StateT.run_bind, StateT.run_bind, StateT.run_bind, first]
    exact hy v l₁ t₁ s₁

def flatWorld (w : World (StateT Link (StateT Trail (StateM σ)))) : World (StateM (Link × Trail × σ)) where
  deliver kind e := flat (w.deliver kind e)
  now := flat w.now
  draw bound := flat (w.draw bound)
  wait d := flat (w.wait d)

theorem flatWorld_alike (w : World (StateT Link (StateT Trail (StateM σ)))) :
    World.Alike (fun {α} (x : StateT Link (StateT Trail (StateM σ)) α) (y : StateM (Link × Trail × σ) α) => Flat x y)
      w (flatWorld w) where
  deliver _ _ := fun _ _ _ => rfl
  now := fun _ _ _ => rfl
  draw _ := fun _ _ _ => rfl
  wait _ := fun _ _ _ => rfl

end Rehearsal.Transport

namespace Rehearsal.Command
open Script (Report Played Traces played played_unwatched)
open Session (History Identity Policy)
open Transport

section
variable {σ : Type} (h : Host (StateM σ))

def Silent {α : Type} (x : StateT Trail (StateM σ) α) : Prop := ∀ t s, ((x.run t).run s).1.2 = t

theorem silent_composes : Composes fun {α} (x : StateT Trail (StateM σ) α) (_ : StateT Trail (StateM σ) α) => Silent x where
  pure _ := fun _ _ => rfl
  bind {α β x₁ x₂ y₁ y₂} hx hy := fun t s => by
    obtain ⟨⟨⟨v, t₁⟩, s₁⟩, run⟩ : ∃ out, (x₁.run t).run s = out := ⟨_, rfl⟩
    have first := hx t s
    have both : ((x₁ >>= y₁).run t).run s = ((y₁ v).run t₁).run s₁ := by
      rw [StateT.run_bind, StateT.run_bind, run]
      rfl
    rw [run] at first
    rw [both, hy v t₁ s₁]
    exact first

theorem sources_silent : Settings.Sources.Alike
    (fun {α} (x : StateT Trail (StateM σ) α) (_ : StateT Trail (StateM σ) α) => Silent x) h.observed.sources h.observed.sources where
  find _ := fun _ _ => rfl
  environment := rfl
  globalPath := rfl
  projectPath := rfl

theorem surroundings_silent : Surroundings.Alike
    (fun {α} (x : StateT Trail (StateM σ) α) (_ : StateT Trail (StateM σ) α) => Silent x)
    h.observed.toSurroundings h.observed.toSurroundings where
  now := fun _ _ => rfl
  draw _ := fun _ _ => rfl
  wait _ := fun _ _ => rfl

theorem Silent.run {α : Type} {x : StateT Trail (StateM σ) α} (silent : Silent x) (t : Trail) (s : σ) :
    ∃ v s', (x.run t).run s = pure ((v, t), s') := by
  obtain ⟨⟨⟨v, t'⟩, s'⟩, run⟩ : ∃ out, (x.run t).run s = pure out := ⟨_, rfl⟩
  have same := silent t s
  rw [run] at same
  obtain rfl : t' = t := same
  exact ⟨v, s', run⟩

/-- Watched, it comes to what it comes to unwatched. -/
theorem Silent.run_of_forgets {α : Type} {x : StateT Trail (StateM σ) α} {y : StateM σ α} (silent : Silent x)
    (forgets : Forgets x y) (t : Trail) {v : α} {s s' : σ} (ran : y.run s = pure (v, s')) :
    (x.run t).run s = pure ((v, t), s') := by
  obtain ⟨v', s'', run⟩ := silent.run t s
  have same : (pure (v', s'') : Id (α × σ)) = pure (v, s') := by
    rw [← ran, ← forgets t, StateT.run_map, run]
    rfl
  obtain ⟨rfl, rfl⟩ : v' = v ∧ s'' = s' := Prod.mk.inj same
  exact run

theorem scriptsAt_watched [Regex.Room] (marker : Char) (paths : List String) {x : Except Failure (List (String × Script))} {s s' : σ}
    (read : (scriptsAt h marker paths).run s = pure (x, s')) :
    ((scriptsAt h.observed marker paths).run []).run s = pure ((x, []), s') :=
  (silent_composes.scriptsAt (sources_silent h) marker paths).run_of_forgets
    (forgets_composes.scriptsAt (host_observed_alike h).sources marker paths) [] read

theorem drawIdentity_watched (p : Session.Profile) {x : Except Failure Identity} {s s' : σ}
    (drawn : (Session.drawIdentity h.toSurroundings p).run s = pure (x, s')) :
    ((Session.drawIdentity h.observed.toSurroundings p).run []).run s = pure ((x, []), s') :=
  (silent_composes.drawIdentity (surroundings_silent h) p).run_of_forgets
    (forgets_composes.drawIdentity (host_observed_alike h).toAlike p) [] drawn

theorem load_watched (config : Option String) {x : Except Failure Settings} {s s' : σ}
    (loaded : (Settings.load h.sources config).run s = pure (x, s')) :
    ((Settings.load h.observed.sources config).run []).run s = pure ((x, []), s') :=
  (silent_composes.load (sources_silent h) config).run_of_forgets
    (forgets_composes.load (host_observed_alike h).sources config) [] loaded

end

section
variable {τ : Type} (w : World (StateM τ)) (identity : Identity) (policy : Policy)

/-- Scripts, those of them that were played, and what that came to. -/
inductive Plays : List Script → List Script → τ → Except Failure (List Report) → τ → Prop where
  | done (s : τ) : Plays [] [] s (.ok []) s
  | failed {script : Script} {rest : List Script} {s : τ} {f : Failure}
      (result : (played w identity policy script s).result = .error f) :
    Plays (script :: rest) [script] s (.error f) (played w identity policy script s).world
  | passed {script : Script} {rest out : List Script} {s s' : τ} {report : Report} {x : Except Failure (List Report)}
      (result : (played w identity policy script s).result = .ok report)
      (later : Plays rest out (played w identity policy script s).world x s') :
    Plays (script :: rest) (script :: out) s (x.map (report :: ·)) s'

theorem runAll_plays (scripts : List Script) (s : τ) :
    ∃ out x s', (runAll w identity policy scripts).run s = pure (x, s') ∧ Plays w identity policy scripts out s x s' := by
  induction scripts generalizing s with
  | nil => exact ⟨[], .ok [], s, rfl, .done s⟩
  | cons script rest ih =>
    rw [runAll, StateT.run_bind, played_unwatched, pure_bind]
    cases result : (played w identity policy script s).result with
    | error f => exact ⟨[script], .error f, _, rfl, .failed result⟩
    | ok report =>
      obtain ⟨out, x, s', run, plays⟩ := ih (played w identity policy script s).world
      exact ⟨script :: out, x.map (report :: ·), s', by simp [run], .passed result plays⟩

end

section
variable {σ : Type} (h : Host (StateM σ)) (settings : Settings) (paths : List String) (tag : Option String)

def linkWorld (limit : Span) : World (StateM (Link × Trail × σ)) :=
  flatWorld (Link.world h.observed.toSurroundings (h.observed.net limit))

theorem linkWorld_deliver (limit : Span) (kind : Wire.Kind) (e : Wire.Envelope) (l : Link) (trail : Trail) (s : σ) :
    ∃ sent x l' s', ((linkWorld h limit).deliver kind e).run (l, trail, s) = pure (x, l', trail ++ sent, s') ∧
      Link.Fired l kind e.toBytes sent x l' := by
  obtain ⟨sent, x, l', s', run, fired⟩ := Link.fire_fired (h.net limit) l kind e.toBytes s
  exact ⟨sent, x, l', s', flat_run (run trail), fired⟩

/-- What relates each envelope to what the link posts for it relates all that is handed over to all that is posted. -/
theorem link_traces (limit : Span) {P : History → Trail → Prop} (nothing : P [] [])
    (more : ∀ {a b : History} {sent later : Trail}, P a sent → P b later → P (a ++ b) (sent ++ later))
    (deliver : ∀ {l l' : Link} {kind : Wire.Kind} {e : Wire.Envelope} {sent : Trail} {x : Answer},
      Link.Fired l kind e.toBytes sent x l' → P [⟨kind, e, x⟩] sent) :
    Traces (linkWorld h limit) fun k new k' => ∃ sent, k'.2.1 = k.2.1 ++ sent ∧ P new sent where
  nothing k := ⟨[], (List.append_nil _).symm, nothing⟩
  more := by
    rintro k k₁ k' a b ⟨sent, trail, first⟩ ⟨later, trail', second⟩
    exact ⟨sent ++ later, by rw [trail', trail, List.append_assoc], more first second⟩
  now k := ⟨[], (List.append_nil _).symm, nothing⟩
  draw bound k := ⟨[], (List.append_nil _).symm, nothing⟩
  wait d k := ⟨[], (List.append_nil _).symm, nothing⟩
  deliver kind e := fun (l, trail, s) => by
    obtain ⟨sent, x, l', s', ran, fired⟩ := linkWorld_deliver h limit kind e l trail s
    rw [ran]
    exact ⟨sent, rfl, deliver fired⟩

/- A run that stops before its scripts are played has posted nothing. -/
inductive RunCourse [Regex.Room] (s : σ) : Except Failure Outcome → Trail → σ → Prop where
  | unread {f : Failure} {s₁ : σ} (read : (scriptsAt h settings.marker paths).run s = pure (.error f, s₁)) :
    RunCourse s (.error f) [] s₁
  | anonymous {scripts : List (String × Script)} {f : Failure} {s₁ s₂ : σ}
      (read : (scriptsAt h settings.marker paths).run s = pure (.ok scripts, s₁))
      (drawn : (Session.drawIdentity h.toSurroundings settings.profile).run s₁ = pure (.error f, s₂)) :
    RunCourse s (.error f) [] s₂
  | unlinked {scripts : List (String × Script)} {identity : Identity} {f : Failure} {s₁ s₂ : σ}
      (read : (scriptsAt h settings.marker paths).run s = pure (.ok scripts, s₁))
      (drawn : (Session.drawIdentity h.toSurroundings settings.profile).run s₁ = pure (.ok identity, s₂))
      (unlinked : Link.ofSettings settings identity.accessToken = .error f) :
    RunCourse s (.error f) [] s₂
  | played {scripts : List (String × Script)} {identity : Identity} {link link' : Link} {out : List Script}
      {x : Except Failure (List Report)} {trail : Trail} {s₁ s₂ s' : σ}
      (read : (scriptsAt h settings.marker paths).run s = pure (.ok scripts, s₁))
      (drawn : (Session.drawIdentity h.toSurroundings settings.profile).run s₁ = pure (.ok identity, s₂))
      (linked : Link.ofSettings settings identity.accessToken = .ok link)
      (plays : Plays (linkWorld h settings.timeout) identity settings.policy ((scripts.map (·.2)).filter (carries tag)) out
        (link, [], s₂) x (link', trail, s')) :
    RunCourse s (x.map fun reports => .ran { endpoint := link.endpoint, policy := settings.policy, identity, reports }) trail s'

theorem run_takes_course [Regex.Room] (s : σ) :
    ∃ x trail s', ((run h.observed settings paths tag).run []).run s = pure ((x, trail), s') ∧
      RunCourse h settings paths tag s x trail s' := by
  obtain ⟨scripts, s₁, read⟩ : ∃ x s₁, (scriptsAt h settings.marker paths).run s = pure (x, s₁) := ⟨_, _, rfl⟩
  rw [run, StateT.run_bind, StateT.run_bind, scriptsAt_watched h settings.marker paths read, pure_bind]
  cases scripts with
  | error f => exact ⟨_, _, _, rfl, .unread read⟩
  | ok scripts =>
    obtain ⟨identity, s₂, drawn⟩ : ∃ x s₂, (Session.drawIdentity h.toSurroundings settings.profile).run s₁ = pure (x, s₂) :=
      ⟨_, _, rfl⟩
    simp only [StateT.run_bind, drawIdentity_watched h settings.profile drawn, pure_bind]
    cases identity with
    | error f => exact ⟨_, _, _, rfl, .anonymous read drawn⟩
    | ok identity =>
      cases linked : Link.ofSettings settings identity.accessToken with
      | error f => exact ⟨_, _, _, by simp only [linked]; rfl, .unlinked read drawn linked⟩
      | ok link =>
        let chosen := (scripts.map (·.2)).filter (carries tag)
        let w := Link.world h.observed.toSurroundings (h.observed.net settings.timeout)
        obtain ⟨out, x, ⟨link', trail, s₃⟩, all, plays⟩ :=
          runAll_plays (linkWorld h settings.timeout) identity settings.policy chosen (link, [], s₂)
        have flattened := (flat_composes.runAll (flatWorld_alike w) identity settings.policy chosen).run all
        simp only [linked, StateT.run_bind]
        rw [flattened, pure_bind]
        exact ⟨_, _, _, rfl, .played read drawn linked plays⟩

end

section
variable {σ : Type} [Regex.Room] (h : Host (StateM σ)) {i : Invocation} {s s' : σ}

section
variable {paths : List String} {layer : Settings.Layer} {tag : Option String} {settings settings' : Settings}
  (job : i.job = .run paths layer tag) (loaded : (Settings.load h.sources i.config).run s = pure (.ok settings, s'))
  (valid : (settings.overlaid layer).checked = .ok settings')
include job loaded valid

theorem perform_runs : (perform h i).run s = (run h settings' paths tag).run s' := by
  rw [perform, StateT.run_bind, loaded, pure_bind]
  simp only [job, valid]

theorem perform_runs_watched :
    ((perform h.observed i).run []).run s = ((run h.observed settings' paths tag).run []).run s' := by
  rw [perform, StateT.run_bind, StateT.run_bind, load_watched h i.config loaded, pure_bind]
  simp only [job, valid]

end

/-- A command that has run scripts was to run them, with settings that were accepted. -/
theorem perform_eq_ran {r : Record} (performed : (perform h i).run s = pure (.ok (.ran r), s')) :
    ∃ paths layer tag settings settings' s₁, i.job = .run paths layer tag ∧
      (Settings.load h.sources i.config).run s = pure (.ok settings, s₁) ∧
      (settings.overlaid layer).checked = .ok settings' ∧
      (run h settings' paths tag).run s₁ = pure (.ok (.ran r), s') := by
  obtain ⟨x, s₁, loaded⟩ := Session.run_eq_pure (Settings.load h.sources i.config) s
  cases x with
  | error f =>
    rw [perform, StateT.run_bind, loaded, pure_bind] at performed
    cases performed
  | ok settings =>
    cases job : i.job with
    | check paths =>
      obtain ⟨scripts, s₂, read⟩ := Session.run_eq_pure (scriptsAt h settings.marker paths) s₁
      rw [perform, StateT.run_bind, loaded, pure_bind] at performed
      simp only [job, check, StateT.run_bind, read, pure_bind] at performed
      cases scripts <;> cases performed
    | run paths layer tag =>
      cases valid : (settings.overlaid layer).checked with
      | error f =>
        rw [perform, StateT.run_bind, loaded, pure_bind] at performed
        simp only [job, valid] at performed
        cases performed
      | ok settings' =>
        rw [perform_runs h job loaded valid] at performed
        exact ⟨paths, layer, tag, settings, settings', s₁, rfl, loaded, valid, performed⟩

end

end Rehearsal.Command
