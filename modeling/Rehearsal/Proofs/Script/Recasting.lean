import Rehearsal.Proofs.Check.Twins
import Rehearsal.Proofs.Script.Series
import Rehearsal.Proofs.Script.Turn
import Rehearsal.Transport.Local

/-!
A check that holds, told as a condition with nothing in it. It is decided on the same response, so what the run does does not
change; it is counted as a condition taken, and no longer as a check.
-/
namespace Rehearsal.Script
open Check (Predicate)
open Session (History Identity Policy)
open Wire (Response)

inductive Way where
  | here
  | branch (before : List Action) (q : Predicate) (way : Way) (after : List Action)
  | follow (before : List Action) (way : Way) (after : List Action)

def Way.fill (n : Node) : Way → Node
  | .here => n
  | .branch before q way after => before ++ .branch q (way.fill n) :: after
  | .follow before way after => before ++ .follow (way.fill n) :: after

section
variable {m : Type → Type} [Monad m]

end

section
variable {m : Type → Type} [Monad m] (w : World m) {before after : List Action} {a b : Action}

variable [LawfulMonad m]

end

/-! What was counted before is no matter to a part of a run. -/

section
variable {σ α β : Type}

def Stand.counting (k : Stand σ) (report : Report) : Stand σ := { k with live.report := report }

def CountsOn (x : Play (StateT History (StateM σ)) α) : Prop := ∀ base, Tracks (View.after [] base) x x

theorem CountsOn.outcome {x : Play (StateT History (StateM σ)) α} (on : CountsOn x) (k : Stand σ) :
    ∃ (u : Except Failure α) (k' : Stand σ), ∀ report,
      Play.outcome x (k.counting report) = (u, k'.counting (report + k'.live.report)) := by
  obtain ⟨⟨u, k'⟩, run⟩ : ∃ out, Play.outcome x (k.counting {}) = out := ⟨_, rfl⟩
  refine ⟨u, k', fun report => ?_⟩
  have seen := outcome_after (on report) (k.counting {})
  rw [run] at seen
  simpa only [View.see, View.after, Stand.counting, Session.under_self, List.nil_append, Report.add_zero] using seen

/-- One outcome, up to what is counted; where all has gone well, a check there is a condition here. -/
def Recast (x y : Except Failure α × Stand σ) : Prop :=
  ∃ report, y = (x.1, x.2.counting report) ∧
    (x.1.isOk = true → x.2.live.report + { taken := 1 } = report + { checks := 1 })

theorem Report.add_right_comm (r s t : Report) : r + s + t = r + t + s := by
  simp only [Report.add_def, Nat.add_right_comm]

theorem CountsOn.recast {x : Play (StateT History (StateM σ)) α} (on : CountsOn x) {k : Stand σ} {report : Report}
    (counted : k.live.report + { taken := 1 } = report + { checks := 1 }) :
    Recast (Play.outcome x k) (Play.outcome x (k.counting report)) := by
  obtain ⟨u, k', later⟩ := on.outcome k
  have here : Play.outcome x k = (u, k'.counting (k.live.report + k'.live.report)) := later k.live.report
  refine ⟨report + k'.live.report, by rw [later, here]; rfl, fun _ => ?_⟩
  rw [here, Report.add_right_comm report, ← counted, Report.add_right_comm]
  rfl

theorem Recast.bind {x x' : Play (StateT History (StateM σ)) α} {y : α → Play (StateT History (StateM σ)) β} {k k' : Stand σ}
    (first : Recast (Play.outcome x k) (Play.outcome x' k')) (on : ∀ u, CountsOn (y u)) :
    Recast (Play.outcome (x >>= y) k) (Play.outcome (x' >>= y) k') := by
  obtain ⟨report, same, counted⟩ := first
  rw [outcome_bind, outcome_bind, same]
  obtain ⟨⟨f | u, k₁⟩, run⟩ : ∃ out, Play.outcome x k = out := ⟨_, rfl⟩
  all_goals rw [run] at counted ⊢
  · exact ⟨report, rfl, nofun⟩
  · exact (on u).recast (counted rfl)

variable (w : World (StateM σ)) {p : Predicate} {front back left right : List Action} {k k₁ : Stand σ} {r : Response}

end

structure Passed.Recast {σ : Type} (x y : Passed σ) : Prop where
  result : y.result = x.result
  log : y.log = x.log
  world : y.world = x.world
  counted : x.result = .ok () → x.report + { taken := 1 } = y.report + { checks := 1 }

section
variable {σ : Type}

theorem Recast.passed {x y : Except Failure Unit × Stand σ} (recast : Recast x y) :
    Passed.Recast ⟨x.1, x.2.closing x.1, x.2.log, x.2.world⟩ ⟨y.1, y.2.closing y.1, y.2.log, y.2.world⟩ := by
  obtain ⟨report, rfl, counted⟩ := recast
  refine ⟨rfl, rfl, rfl, fun ok => ?_⟩
  have well : x.1.isOk = true := by
    rw [show x.1 = .ok () from ok]
    rfl
  rw [Stand.closing_eq, Stand.closing_eq, Report.add_right_comm, counted well, Report.add_right_comm]
  rfl

theorem Passed.Recast.andThen {x y : Passed σ} (recast : x.Recast y) (next : σ → Passed σ) :
    (x.andThen next).Recast (y.andThen next) := by
  obtain ⟨result, report, log, world⟩ := x
  obtain ⟨result', report', log', world'⟩ := y
  obtain ⟨rfl, rfl, rfl, counted⟩ := recast
  cases result' with
  | error f => exact ⟨rfl, rfl, rfl, nofun⟩
  | ok u =>
    refine ⟨rfl, rfl, rfl, fun _ => ?_⟩
    exact (Report.add_right_comm ..).trans (congrArg (· + _) (counted rfl) |>.trans (Report.add_right_comm ..))

theorem Passed.Recast.behind {before : Passed σ} {next next' : σ → Passed σ}
    (recast : (next before.world).Recast (next' before.world)) : (before.andThen next).Recast (before.andThen next') := by
  obtain ⟨f | u, report, log, world⟩ := before
  · exact ⟨rfl, rfl, rfl, nofun⟩
  · refine ⟨recast.result, congrArg (log ++ ·) recast.log, recast.world, fun ok => ?_⟩
    have sum := recast.counted ok
    calc report + (next world).report + { taken := 1 }
        = report + ((next world).report + { taken := 1 }) := Report.add_assoc ..
      _ = report + ((next' world).report + { checks := 1 }) := by rw [sum]
      _ = report + (next' world).report + { checks := 1 } := (Report.add_assoc ..).symm

/-- What is told of sessions in the end. -/
theorem Passed.Recast.told {x y : Passed σ} (recast : x.Recast y) :
    (∀ f, (y.result.map fun _ => y.report) = .error f ↔ (x.result.map fun _ => x.report) = .error f) ∧
      ∀ report, (x.result.map fun _ => x.report) = .ok report →
        0 < report.checks ∧
          (y.result.map fun _ => y.report) = .ok { report with checks := report.checks - 1, taken := report.taken + 1 } := by
  obtain ⟨result, ⟨script, sessions, requests, checks, taken, skipped⟩, log, world⟩ := x
  obtain ⟨result', ⟨script', sessions', requests', checks', taken', skipped'⟩, log', world'⟩ := y
  obtain ⟨rfl, -, -, counted⟩ := recast
  cases result' with
  | error f => exact ⟨fun _ => Iff.rfl, nofun⟩
  | ok u =>
    have sum := counted rfl
    simp only [Report.add_def, Report.mk.injEq, Nat.add_zero] at sum
    obtain ⟨rfl, rfl, rfl, rfl, rfl, rfl⟩ := sum
    refine ⟨fun f => ⟨nofun, nofun⟩, fun report told => ?_⟩
    obtain rfl := Except.ok.inj told
    exact ⟨Nat.succ_pos _, rfl⟩

end

section
variable {σ : Type} (w : World (StateM σ)) (identity : Identity) (policy : Policy)

variable {w identity policy} {p : Predicate} {front back left right : List Action} {xs : List Node} {way : Way} {s : σ}
  {r : Response}

end

end Rehearsal.Script
