import Rehearsal.Proofs.Script.Series
import Rehearsal.Transport.Local

/-!
What policies do to a script. The two strict ones, which let no launch into a closed session, differ in a word of a message
alone; and a script that goes well under either goes the same way under the third.
-/
namespace Rehearsal.Script
open Session (Actor History Identity Policy barred_of_strict fire_sent fire_under free_under policy_of_sent refused_under)
open Wire (Request Response)

/-- The same failure, but for the policy that a refusal names. -/
def SameBut (p q : Policy) (f g : Failure) : Prop :=
  g = f ∨ ∃ label id, f = .state (.closed label id p) ∧ g = .state (.closed label id q)

variable {σ : Type}

/- From a strict policy to any other. What the third does where a strict one refuses is not told. -/
def View.under (p q : Policy) : View σ where
  fits := (· = p)
  policy _ := q
  report r := r
  log h := h
  broken f k x k' := q ≠ .allowLaunchAndSessionEnded →
    ∃ g, x = .error g ∧ SameBut p q f g ∧ k' = ⟨⟨k.live.actor.under q, k.live.report⟩, k.log, k.world⟩
  counts _ _ _ := rfl
  both f _ _ := ⟨f, rfl, .inl rfl, rfl⟩
  lasts h _ strict := by
    obtain ⟨g, failed, -⟩ := h strict
    cases failed

section
variable (w : World (StateM σ)) {p q : Policy}

theorem follows_fire (r : Request) (k : Stand σ) (fits : k.live.actor.policy = p)
    (barred : k.live.actor.session.closed = true → p.allows r.kind = false)
    (barred' : q ≠ .allowLaunchAndSessionEnded → k.live.actor.session.closed = true → q.allows r.kind = false) :
    (View.under p q).Follows (Play.outcome (fire w.observed r) k)
      (Play.outcome (fire w.observed r) ((View.under p q).see k)) := by
  obtain ⟨⟨a, report⟩, log, s⟩ := k
  have seen : (View.under p q).see ⟨⟨a, report⟩, log, s⟩ = ⟨⟨a.under q, report⟩, log, s⟩ := rfl
  rw [seen]
  simp only at fits barred barred'
  rw [← fits] at barred
  cases refusal : a.refusal? r with
  | none =>
    have free := free_under (p := q) barred refusal
    obtain ⟨sent, x, b, t, run, step⟩ := fire_sent w s a r
    have run' : ∀ log, (((a.under q).fire w.observed r).run log).run s = pure (((x, b.under q), log ++ sent), t) := by
      intro log
      rw [fire_under w.observed refusal free]
      simp [run]
    rw [outcome_fire_of_run w ⟨⟨a, report⟩, log, s⟩ run, outcome_fire_of_run w ⟨⟨a.under q, report⟩, log, s⟩ run']
    cases x with
    | ok => exact ⟨(policy_of_sent step).trans fits, rfl⟩
    | error f => exact (View.under p q).both f ⟨⟨b, report⟩, log ++ sent, t⟩
  | some f =>
    rw [outcome_fire_of_refused w _ refusal]
    obtain ⟨⟨x, k'⟩, run⟩ : ∃ out, Play.outcome (fire w.observed r) ⟨⟨a.under q, report⟩, log, s⟩ = out := ⟨_, rfl⟩
    rw [run]
    intro strict
    obtain same | ⟨label, id, rfl, other⟩ := refused_under (barred' strict) refusal
    · rw [outcome_fire_of_refused w _ same] at run
      obtain ⟨rfl, rfl⟩ := Prod.mk.inj run
      exact ⟨_, rfl, .inl rfl, rfl⟩
    · rw [outcome_fire_of_refused w _ other] at run
      obtain ⟨rfl, rfl⟩ := Prod.mk.inj run
      exact ⟨_, rfl, .inr ⟨label, id, by rw [fits], rfl⟩, rfl⟩

theorem tracks_fire_under (strict : p ≠ .allowLaunchAndSessionEnded) {r : Request} (h : r.kind ≠ .sessionEnded) :
    Tracks (View.under p q) (fire w.observed r) (fire w.observed r) where
  grows := fire_grows w r
  follows k fits := follows_fire w r k fits (fun _ => barred_of_strict strict h)
    fun strict' _ => barred_of_strict strict' h

theorem tracks_under (strict : p ≠ .allowLaunchAndSessionEnded) (n : Node) :
    Tracks (View.under p q) (sitting w.observed n) (sitting w.observed n) := by
  refine tracks_sitting_same w n (tracks_fire_under w strict (by simp [Request.kind])) (fun r converses => ?_)
    (fun _ _ => rfl) fun k fits opened => ?_
  · refine tracks_fire_under w strict fun ended => ?_
    rw [ended] at converses
    cases converses
  · -- A session that is closed is not ended again, so no policy is asked.
    refine follows_fire w _ k fits (fun closed => ?_) fun _ closed => ?_
    all_goals
      rw [opened] at closed
      cases closed

end

structure Passed.Under (p q : Policy) (x y : Passed σ) : Prop where
  passed : x.result = .ok () → y = x
  failed : ∀ f, x.result = .error f → q ≠ .allowLaunchAndSessionEnded → ∃ g, SameBut p q f g ∧ y = { x with result := .error g }

theorem Passed.Under.andThen {p q : Policy} {x y : Passed σ} {next next' : σ → Passed σ} (first : x.Under p q y)
    (later : ∀ s, (next s).Under p q (next' s)) : (x.andThen next).Under p q (y.andThen next') := by
  obtain ⟨f | u, report, log, t⟩ := x
  · refine ⟨nofun, fun g failed strict => ?_⟩
    obtain ⟨h, same, rfl⟩ := first.failed g failed strict
    exact ⟨h, same, rfl⟩
  · obtain rfl := first.passed rfl
    have after := later t
    refine ⟨fun ok => ?_, fun f failed strict => ?_⟩
    · simp only [Passed.andThen, after.passed ok]
    · obtain ⟨g, same, again⟩ := after.failed f failed strict
      exact ⟨g, same, by simp only [Passed.andThen, again]⟩

section
variable (w : World (StateM σ)) (identity : Identity) {p q : Policy}

theorem session_under (strict : p ≠ .allowLaunchAndSessionEnded) (n : Node) (s : σ) :
    (session w identity p n {} s).Under p q (session w identity q n {} s) := by
  obtain ⟨passed, failed⟩ := session_follows w identity p (q := q) (s := s) (tracks_under w strict n) rfl rfl
  refine ⟨passed, fun f result strict' => ?_⟩
  obtain ⟨k, k', first, second, broken⟩ := failed f result
  obtain ⟨g, failed', same, rfl⟩ := broken strict'
  rw [failed'] at second
  rw [first, second]
  exact ⟨g, same, rfl⟩

theorem series_under (strict : p ≠ .allowLaunchAndSessionEnded) (ns : List Node) (s : σ) :
    (series w identity p ns {} s).Under p q (series w identity q ns {} s) := by
  have related := series_related (R := Passed.Under p q) w identity p q (fun n => n) (fun _ => ⟨fun _ => rfl, nofun⟩)
    (fun _ _ _ _ => .andThen) (session_under w identity strict) ns s
  rwa [List.map_id'] at related

theorem played_under (strict : p ≠ .allowLaunchAndSessionEnded) (script : Script) (s : σ) :
    let x := played w identity p script s
    let y := played w identity q script s
    (∀ report, x.result = .ok report → y = x) ∧
    (∀ f, x.result = .error f → q ≠ .allowLaunchAndSessionEnded → ∃ g, SameBut p q f g ∧ y = { x with result := .error g }) := by
  intro x y
  have under := series_under w identity (q := q) strict script.sessions s
  simp only [x, y, played_eq_series, series_counts w identity _ _ { script := script.name }]
  refine ⟨fun report passed => ?_, fun f failed strict' => ?_⟩
  · obtain ⟨u, ok, -⟩ := map_eq_ok.mp passed
    rw [under.passed ok]
  · obtain ⟨g, same, again⟩ := under.failed f (map_eq_error.mp failed) strict'
    rw [again]
    exact ⟨g, same, rfl⟩

theorem strict_policies_agree (script : Script) (s : σ) :
    let strict := played w identity .rejectAll script s
    let usual := played w identity .allowSessionEnded script s
    let lax := played w identity .allowLaunchAndSessionEnded script s
    usual.log = strict.log ∧ usual.world = strict.world ∧
    (∀ report, usual.result = .ok report ↔ strict.result = .ok report) ∧
    (∀ f, strict.result = .error f → ∃ g, usual.result = .error g ∧ SameBut .rejectAll .allowSessionEnded f g) ∧
    (∀ report, strict.result = .ok report ∨ usual.result = .ok report → lax = ⟨.ok report, strict.log, strict.world⟩) := by
  intro strict usual lax
  obtain ⟨passed, failed⟩ := played_under w identity (p := .rejectAll) (q := .allowSessionEnded) (by decide) script s
  have alike := (played_under w identity (p := .rejectAll) (q := .allowLaunchAndSessionEnded) (by decide) script s).1
  cases result : strict.result with
  | ok report =>
    have same : usual = strict := passed report result
    have lenient : lax = strict := alike report result
    rw [same, lenient, result]
    refine ⟨rfl, rfl, fun _ => Iff.rfl, nofun, fun report' h => ?_⟩
    obtain rfl : report = report' := by simpa using h
    rw [← result]
  | error f =>
    obtain ⟨g, but, same⟩ := failed f result (by decide)
    have same : usual = { strict with result := .error g } := same
    rw [same]
    refine ⟨rfl, rfl, by simp, fun f' h => ⟨g, rfl, ?_⟩, by simp⟩
    rwa [← Except.error.inj h]

end

/-- What is said to a closed session is refused in the name of the policy. A launch is refused by the strict policies alone;
where the skill closes nothing, all three come to the same. -/
theorem refusals_name_their_policy :
    let identity : Identity := ⟨"app", "user", none, "en-US", 0⟩
    let told (ends : Bool) : Answer := .ok (some { body := { shouldEnd := some ends } : Response }.toBytes)
    let again : Script := ⟨"s", none, [], [[.param .launch, .follow [.param .launch]]]⟩
    let held (policy : Policy) (ends : Bool) := played Session.listed identity policy again [.ok none, told ends, told true]
    let refused (policy : Policy) : Failure := .state (.closed Request.launch.label (Wire.Ids.session 0) policy)
    let report : Report := { script := "s", sessions := 1, requests := 3 }
    (held .rejectAll true).result = .error (refused .rejectAll) ∧
      (∃ g, (held .allowSessionEnded true).result = .error g ∧ SameBut .rejectAll .allowSessionEnded (refused .rejectAll) g) ∧
      (held .allowLaunchAndSessionEnded true).result = .ok report ∧
      (held .rejectAll false).result = .ok report ∧ (held .allowSessionEnded false).result = .ok report ∧
      held .allowLaunchAndSessionEnded false = ⟨.ok report, (held .rejectAll false).log, (held .rejectAll false).world⟩ := by
  intro identity told again held refused report
  have policies (ends : Bool) := strict_policies_agree Session.listed identity again [.ok none, told ends, told true]
  have failed : (held .rejectAll true).result = .error (refused .rejectAll) := by rfl
  have passed : (held .rejectAll false).result = .ok report := by rfl
  obtain ⟨-, -, alike, -, lenient⟩ := policies false
  exact ⟨failed, (policies true).2.2.2.1 _ failed, by rfl, passed, (alike report).mpr passed, lenient report (.inl passed)⟩

end Rehearsal.Script
