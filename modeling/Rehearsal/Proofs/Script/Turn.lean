import Rehearsal.Proofs.Script.Course
import Rehearsal.Proofs.Script.Grouping
import Rehearsal.Proofs.Session.Memory
import Rehearsal.Transport.Local

/-!
The turn of a list. Its checks look at the answer to its own request; each of its conditions looks at the response that is
last when the condition comes up, which is that answer as long as no body of a condition before it was answered.
-/
namespace Rehearsal.Script
open Check (Predicate)
open Session (History Identity Sent)
open Wire (Response)

section
variable {m : Type → Type} [Monad m] (w : World m)

def judged (holds : Bool) (body : Node) : Play m Unit :=
  if holds then do
    count fun report => { report with taken := report.taken + 1 }
    runNode w body
  else count fun report => { report with skipped := report.skipped + 1 }

variable [LawfulMonad m]

theorem runBranch_judged (p : Predicate) (body : Node) :
    runBranch w (.branch p body) = current p >>= fun r => judged w (p.holds r) body := by
  rw [runBranch_eq, test, bind_assoc]
  congr; funext r
  cases p.holds r <;> simp [judged]

theorem runBranches_append (before after : List Action) :
    runBranches w (before ++ after) = runBranches w before >>= fun _ => runBranches w after := by
  induction before with
  | nil => simp [runBranches]
  | cons a rest ih => simp only [List.cons_append, runBranches, ih, bind_assoc]

/-- A list as what it does up to one of its conditions, and what it does from there. -/
theorem runNode_split (before after body : Node) (p : Predicate) :
    runNode w (before ++ .branch p body :: after) = (do
      runHead w (before ++ .branch p body :: after)
      runBranches w before
      let r ← current p
      judged w (p.holds r) body
      runBranches w after
      runFollows w (before ++ .branch p body :: after)) := by
  simp only [runNode, runBranches_append, runBranches, runBranch_judged, bind_assoc]

end

variable {σ : Type} (w : World (StateM σ)) {k k₀ k₁ : Stand σ}

theorem outcome_bind_eq_ok {α β : Type} {x : Play (StateT History (StateM σ)) α}
    {y : α → Play (StateT History (StateM σ)) β} {v : β} {k k' : Stand σ} :
    Play.outcome (x >>= y) k = (.ok v, k') ↔ ∃ u k₁, Play.outcome x k = (.ok u, k₁) ∧ Play.outcome (y u) k₁ = (.ok v, k') := by
  rw [outcome_bind]
  obtain ⟨⟨f | u, k₁⟩, run⟩ : ∃ out, Play.outcome x k = out := ⟨_, rfl⟩
  · simp [run]
  · simp only [run, Prod.mk.injEq, Except.ok.injEq]
    constructor
    · exact fun later => ⟨u, k₁, ⟨rfl, rfl⟩, later⟩
    · rintro ⟨_, _, ⟨rfl, rfl⟩, later⟩
      exact later

/-- What was handed over since is known, and of the responses that count in it the last one is the actor's. -/
def Heard (k : Stand σ) (live : Live) (log : History) : Prop :=
  ∃ since : History, log = k.log ++ since ∧ live.actor.last = since.last?.or k.live.actor.last

def Still (k : Stand σ) (live : Live) (log : History) : Prop := live.actor = k.live.actor ∧ log = k.log

theorem still_checkAll {n : Node} (run : Play.outcome (checkAll n) k = (.ok (), k₁)) : Still k k₁.live k₁.log := by
  have kept : Keeps (σ := σ) (Still k) (fun _ _ _ => True) (checkAll n) :=
    keeps_composes.checkAll fun p _ => keeps_verify_of_actor p (fun _ _ _ h => h) fun _ _ _ _ _ => trivial
  have after := kept k ⟨rfl, rfl⟩
  rwa [run] at after

theorem keeps_heard (k : Stand σ) (r : Wire.Request) : Keeps (Heard k) (fun _ _ _ => True) (fire w.observed r) := by
  intro k' ⟨since, log, last⟩
  obtain ⟨sent, x, b, t, step, run⟩ := outcome_fire w k' r
  rw [run]
  cases x with
  | error f => trivial
  | ok y =>
    refine ⟨since ++ sent, ?_, ?_⟩
    · rw [log, List.append_assoc]
    · change b.last = _
      rw [step.last, last, History.last?_append, Option.or_assoc]

/-- The conditions of a list keep what the requests in them keep, as long as that does not hang on the report. -/
theorem keeps_runBranches {I : Live → History → Prop} {n : Node} (same : ∀ live log report, I live log → I { live with report } log)
    (asks : ∀ m, Node.Within m n → Keeps I (fun _ _ _ => True) (ask w.observed m)) :
    Keeps I (fun _ _ _ => True) (runBranches w.observed n) :=
  @Composes.runBranches _ _ _ _ _ w.observed w.observed id n _ keeps_composes .same (fun m inner => {
    wait := fun s _ k kept => by
      rw [outcome_wait]
      exact kept
    ask := asks m inner
    checks := keeps_composes.checkAll fun p _ => keeps_verify_of_actor p same fun _ _ _ _ _ => trivial
    test := fun p _ _ => keeps_test_of_actor p same fun _ _ _ _ _ => trivial }) n n (.self n) fun _ => id

/-- Of what conditions hand over, the last response that counts is the one that they leave. -/
theorem heard_runBranches {before : Node} (run : Play.outcome (runBranches w.observed before) k₀ = (.ok (), k₁)) :
    Heard k₀ k₁.live k₁.log := by
  have kept : Keeps (Heard k₀) (fun _ _ _ => True) (runBranches w.observed before) :=
    keeps_runBranches w (fun _ _ _ heard => heard) fun m _ =>
      keeps_ask_of_fires w m (keeps_heard w k₀) fun _ _ _ _ _ => trivial
  have after := kept k₀ ⟨[], by simp, by simp [History.last?]⟩
  rwa [run] at after

/-- The bodies of a list's conditions send nothing, nor do the lists in them. -/
def Node.Quiet (n : Node) : Prop := ∀ p body, .branch p body ∈ n → ∀ m, Node.Within m body → m.kind? = none

theorem kind?_ofRank (n : Node) : Node.kind? (Node.ofRank 2 n) = none := by
  have bare : Node.params (Node.ofRank 2 n) = [] := by
    rw [Node.params, List.filterMap_eq_nil_iff]
    intro a ha
    have rank := rank_of_mem n ha
    cases a <;> simp_all [Action.rank, Action.param?]
  simp [Node.kind?, bare]

theorem Node.Quiet.within {n m : Node} (quiet : n.Quiet) (inner : Node.Within m (Node.ofRank 2 n)) : m.kind? = none := by
  cases inner with
  | self => exact kind?_ofRank n
  | branch h inner => exact quiet _ _ (List.mem_filter.mp h).1 m inner
  | follow h => cases rank_of_mem n h

theorem still_runBranches {before : Node} (quiet : before.Quiet)
    (run : Play.outcome (runBranches w.observed before) k₀ = (.ok (), k₁)) : k₁.log = k₀.log := by
  -- The parameters of the list itself are not sent again, so it is its conditions alone that have to be quiet.
  rw [← runBranches_ofRank] at run
  have kept : Keeps (Still k₀) (fun _ _ _ => True) (runBranches w.observed (Node.ofRank 2 before)) := by
    refine keeps_runBranches w (fun _ _ _ still => still) fun m inner k still => ?_
    rw [outcome_ask, quiet.within inner]
    exact still
  have after := kept k₀ ⟨rfl, rfl⟩
  rw [run] at after
  exact after.2

/-- The request of a list is answered with a response that counts, or the list does not go on. -/
theorem heard_ask {n : Node} (run : Play.outcome (ask w.observed n) k = (.ok (), k₁)) :
    ∃ own : History, k₁.log = k.log ++ own ∧ k₁.live.actor.last = own.last?.or k.live.actor.last ∧
      (n.kind? = none → own = []) ∧ (n.kind? ≠ none → own.last?.isSome = true) := by
  rw [outcome_ask] at run
  cases kind : n.kind? with
  | none =>
    rw [kind] at run
    obtain ⟨-, rfl⟩ := Prod.mk.inj run
    exact ⟨[], by simp, by simp [History.last?], fun _ => rfl, fun h => absurd rfl h⟩
  | some asked =>
    rw [kind] at run
    cases built : n.request asked k.live.actor.last with
    | error f => simp [built] at run
    | ok r =>
      obtain ⟨sent, x, b, t, step, fired⟩ := outcome_fire w k r
      simp only [built, fired] at run
      obtain ⟨ok, rfl⟩ := Prod.mk.inj run
      cases x with
      | error f => cases ok
      | ok y =>
        have asks : some asked = none → sent = [] := fun nothing => by cases nothing
        exact ⟨sent, rfl, step.last, asks, fun _ => step.heard (Node.request_converses built) rfl⟩

theorem heard_runHead {n : Node} (run : Play.outcome (runHead w.observed n) k = (.ok (), k₀)) :
    ∃ own : History, k₀.log = k.log ++ own ∧ k₀.live.actor.last = own.last?.or k.live.actor.last ∧
      (n.kind? = none → own = []) ∧ (n.kind? ≠ none → own.last?.isSome = true) := by
  obtain ⟨⟨⟩, k₁, waited, run⟩ := outcome_bind_eq_ok.mp run
  obtain ⟨⟨⟩, k₂, asked, checked⟩ := outcome_bind_eq_ok.mp run
  have before : Still k k₁.live k₁.log := by
    have kept : Keeps (Still k) (fun _ _ _ => True) (waitAll w.observed (n.params.filterMap Param.span?)) :=
      @Composes.waitAll _ _ _ _ _ w.observed w.observed keeps_composes _ fun s _ k h => by
        rw [outcome_wait]
        exact h
    have after := kept k ⟨rfl, rfl⟩
    rwa [waited] at after
  have behind : Still k₂ k₀.live k₀.log := still_checkAll checked
  obtain ⟨own, log, last, mute, heard⟩ := heard_ask w asked
  exact ⟨own, by rw [behind.2, log, before.2], by rw [behind.1, last, before.1], mute, heard⟩

/- What the list handed over itself is `own`, and what the bodies of the conditions up to this one handed over is `since`. -/
theorem condition_is_judged_by_the_last_response {before after body : Node} {p : Predicate}
    (turn : Play.outcome (runHead w.observed (before ++ .branch p body :: after)) k = (.ok (), k₀))
    (reached : Play.outcome (runBranches w.observed before) k₀ = (.ok (), k₁)) :
    let n := before ++ .branch p body :: after
    ∃ own since : History,
      (k₀.log = k.log ++ own ∧ k₀.live.actor.last = own.last?.or k.live.actor.last ∧
        (Node.kind? n = none → own = []) ∧ (Node.kind? n ≠ none → own.last?.isSome = true)) ∧
      k₁.log = k₀.log ++ since ∧
      (∀ r, since.last?.or k₀.live.actor.last = some r →
        Play.outcome (runNode w.observed n) k = Play.outcome (do
          judged w.observed (p.holds r) body
          runBranches w.observed after
          runFollows w.observed n) k₁) ∧
      (since.last?.or k₀.live.actor.last = none →
        Play.outcome (runNode w.observed n) k = (.error (.state (.nothingToCheck p.render)), k₁)) ∧
      (before.Quiet → since = []) := by
  intro n
  obtain ⟨own, turned⟩ := heard_runHead w turn
  obtain ⟨since, log, last⟩ := heard_runBranches w reached
  refine ⟨own, since, turned, log, ?_, ?_, ?_⟩
  · intro r judge
    rw [← last] at judge
    simp only [n, runNode_split, outcome_bind, turn, reached, outcome_current, judge]
  · intro mute
    rw [← last] at mute
    simp only [n, runNode_split, outcome_bind, turn, reached, outcome_current, mute]
  · intro quiet
    rw [still_runBranches w quiet reached] at log
    exact List.self_eq_append_right.mp log

/-- Behind a body that sends nothing the next condition is judged by the answer to the launch, and its body is run. -/
theorem silent_body_keeps_the_answer :
    let identity : Identity := ⟨"app", "user", none, "en-US", 0⟩
    let carded : Response := { body := { card := some .unsupported } }
    let w := Session.listed
    let before : Node := [.param .launch, .branch (.assertion .hasCard) [.check (.assertion .hasCard)]]
    let body : Node := [.param (.intent "Second")]
    let n : Node := before ++ [.branch (.present .card) body]
    let k := (Play.outcome (fire w.observed .sessionStarted)
      (enter w identity .rejectAll {} [] [.ok none, .ok (some carded.toBytes)])).2
    let k₀ := (Play.outcome (runHead w.observed n) k).2
    let k₁ := (Play.outcome (runBranches w.observed before) k₀).2
    Play.outcome (runHead w.observed n) k = (.ok (), k₀) ∧ Play.outcome (runBranches w.observed before) k₀ = (.ok (), k₁) ∧
      k₀.log.map (·.kind) = [.sessionStarted, .launch] ∧ k₁.log = k₀.log ∧
      Play.outcome (runNode w.observed n) k =
        Play.outcome (do judged w.observed true body; runBranches w.observed []; runFollows w.observed n) k₁ := by
  intro identity carded w before body n k k₀ k₁
  have passes {x : Play (StateT History (StateM (List Answer))) Unit} {k : Stand (List Answer)}
      (ok : (x.outcome k).1.isOk = true) : x.outcome k = (.ok (), (x.outcome k).2) := by
    obtain ⟨⟨f | u, k'⟩, run⟩ : ∃ out, x.outcome k = out := ⟨_, rfl⟩
    all_goals rw [run] at ok ⊢
    cases ok
  have turn : Play.outcome (runHead w.observed n) k = (.ok (), k₀) := passes (by decide +kernel)
  have reached : Play.outcome (runBranches w.observed before) k₀ = (.ok (), k₁) := passes (by decide +kernel)
  have quiet : before.Quiet := by
    intro p inner h m within
    have here : inner = [.check (.assertion .hasCard)] := by simp_all [before]
    subst here
    cases within with
    | self => rfl
    | branch h => simp at h
    | follow h => simp at h
  have judge : (k₀.live.actor.last.map fun r => Check.Predicate.holds r (.present .card)) = some true := by decide +kernel
  obtain ⟨r, last, holds⟩ := Option.map_eq_some_iff.mp judge
  obtain ⟨own, since, -, log, judges, -, still⟩ :=
    @condition_is_judged_by_the_last_response _ w k k₀ k₁ before [] body _ turn reached
  have same := judges r (by rw [still quiet]; exact last)
  rw [holds] at same
  exact ⟨turn, reached, by decide +kernel, by rw [log, still quiet, List.append_nil], same⟩

/-- The first body is answered without a card: the second condition, which the answer to the launch meets, is skipped. -/
theorem second_condition_sees_another_answer :
    let identity : Identity := ⟨"app", "user", none, "en-US", 0⟩
    let carded : Response := { body := { card := some .unsupported } }
    let bare : Response := {}
    let n : Node := [.param .launch, .branch (.assertion .hasCard) [.param (.intent "First")],
      .branch (.assertion .hasCard) [.param (.intent "Second")]]
    let passed := session Session.listed identity .allowSessionEnded n {}
      [.ok none, .ok (some carded.toBytes), .ok (some bare.toBytes), .ok none]
    Check.Predicate.holds carded (.assertion .hasCard) = true ∧ passed.result.isOk = true ∧
      passed.log.map (·.kind) = [.sessionStarted, .launch, .intent, .sessionEnded] ∧
      (passed.log.map Delivery.accepted?).map (·.map (Check.Predicate.holds · (.assertion .hasCard))) =
        [none, some true, some false, none] ∧
      passed.report.taken = 1 ∧ passed.report.skipped = 1 := by
  intro identity carded bare n passed
  exact ⟨by decide +kernel, by decide +kernel, by decide +kernel, by decide +kernel, by decide +kernel, by decide +kernel⟩

end Rehearsal.Script
