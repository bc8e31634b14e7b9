import Rehearsal.Proofs.Script.Series
import Rehearsal.Transport.Local

/-!
Checks send nothing. Without its checks a script hands over what it handed over with them, and perhaps more, for no check
stops it; where none did, it comes to the same.
-/
namespace Rehearsal.Script
open Check (Predicate)
open Session (History Identity Policy)

mutual
def Action.unchecked : Action → List Action
  | .check _ => []
  | .param p => [.param p]
  | .branch p body => [.branch p (Node.unchecked body)]
  | .follow body => [.follow (Node.unchecked body)]

def Node.unchecked : List Action → List Action
  | [] => []
  | a :: rest => a.unchecked ++ Node.unchecked rest
end

def unchecked (script : Script) : Script := { script with sessions := script.sessions.map Node.unchecked }

theorem retelling_unchecked : Retelling Node.unchecked where
  nil := rfl
  check _ _ := .inr rfl
  param _ _ := rfl
  branch _ _ _ := rfl
  follow _ _ := rfl

theorem mem_unchecked {n : Node} {a : Action} : a ∈ Node.unchecked n ↔ ∃ b ∈ n, a ∈ b.unchecked := by
  induction n with
  | nil => simp [Node.unchecked]
  | cons b rest ih => simp [Node.unchecked, ih]

/-- No list is left with a check, however deep it lies. -/
theorem Node.Within.unchecked {m n : Node} (inner : Node.Within m (Node.unchecked n)) (p : Predicate) : .check p ∉ m := by
  generalize whole : Node.unchecked n = bare at inner
  induction inner generalizing n with
  | self =>
    rw [← whole, mem_unchecked]
    rintro ⟨b, -, hb⟩
    cases b <;> simp [Action.unchecked] at hb
  | branch h _ ih =>
    rw [← whole, mem_unchecked] at h
    obtain ⟨b, -, hb⟩ := h
    cases b <;> simp [Action.unchecked] at hb
    exact ih hb.2.symm
  | follow h _ ih =>
    rw [← whole, mem_unchecked] at h
    obtain ⟨b, -, hb⟩ := h
    cases b <;> simp [Action.unchecked] at hb
    exact ih hb.symm

variable {σ : Type}

def Report.unchecked (r : Report) : Report := { r with checks := 0 }

theorem Report.unchecked_add (r more : Report) (h : more.checks = 0) : (r + more).unchecked = r.unchecked + more := by
  simp [Report.unchecked, Report.add_def, h]

/-- Where a check has failed, all that is known is what was handed over until then. -/
def View.unchecked (σ : Type) : View σ where
  fits _ := True
  policy p := p
  report := Report.unchecked
  log h := h
  broken _ k _ k' := k.log <+: k'.log
  counts := Report.unchecked_add
  both _ k := List.prefix_refl k.log
  lasts h later := h.trans later

theorem tracks_verify_unchecked (p : Predicate) : Tracks (View.unchecked σ) (verify p) (pure ()) where
  grows k := List.prefix_refl k.log
  follows k _ := by
    rw [outcome_verify]
    cases k.live.actor.last with
    | none => exact List.prefix_refl k.log
    | some r =>
      cases required : p.require r with
      | error f =>
        simp only [required]
        exact List.prefix_refl k.log
      | ok =>
        simp only [required]
        exact ⟨trivial, rfl⟩

theorem checkAll_unchecked {m : Type → Type} [Monad m] (n : Node) :
    (checkAll (Node.unchecked n) : Play m Unit) = pure () := by
  induction n with
  | nil => rfl
  | cons a rest ih => cases a <;> simpa [Node.unchecked, Action.unchecked, checkAll] using ih

theorem tracks_checkAll_unchecked (n : Node) : Tracks (View.unchecked σ) (checkAll n) (checkAll (Node.unchecked n)) := by
  rw [checkAll_unchecked]
  induction n with
  | nil => exact .pure ()
  | cons a rest ih =>
    cases a with
    | check p =>
      have both := (tracks_verify_unchecked (σ := σ) p).bind fun _ => ih
      rwa [pure_bind] at both
    | _ => exact ih

structure Passed.Checked (p q : Passed σ) : Prop where
  handed : p.log <+: q.log
  passed : p.result = .ok () → q = { p with report := p.report.unchecked }

theorem Passed.Checked.andThen {p q : Passed σ} {next next' : σ → Passed σ} (first : p.Checked q)
    (later : ∀ s, (next s).Checked (next' s)) : (p.andThen next).Checked (q.andThen next') := by
  obtain ⟨f | u, report, log, t⟩ := p
  · refine ⟨?_, nofun⟩
    obtain ⟨f' | u, report', log', t'⟩ := q
    · exact first.handed
    · exact first.handed.trans (List.prefix_append log' _)
  · obtain rfl := first.passed rfl
    have after := later t
    refine ⟨List.prefix_append_right_inj log |>.mpr after.handed, fun ok => ?_⟩
    have same := after.passed ok
    simp only [Passed.andThen, same]
    rfl

section
variable (w : World (StateM σ)) (identity : Identity) (policy : Policy)

theorem session_checked (n : Node) (s : σ) :
    (session w identity policy n {} s).Checked (session w identity policy (Node.unchecked n) {} s) := by
  have fires (r : Wire.Request) : Tracks (View.unchecked σ) (fire w.observed r) (fire w.observed r) :=
    tracks_fire w (fun _ => trivial) (fun _ => rfl) (fun _ _ => rfl) r
  have tracks := tracks_sitting w retelling_unchecked (fires _) (fun r _ => fires r) (fun m _ => tracks_checkAll_unchecked m)
    (n := n) fun k _ _ => (fires _).follows k trivial
  obtain ⟨passed, failed⟩ := session_follows w identity policy (q := policy) (s := s) tracks trivial rfl
  refine ⟨?_, passed⟩
  cases result : (session w identity policy n {} s).result with
  | ok u =>
    rw [passed result]
    exact List.prefix_refl _
  | error f =>
    obtain ⟨k, k', first, second, handed⟩ := failed f result
    rw [first, second]
    exact handed

theorem series_checked (ns : List Node) (s : σ) :
    (series w identity policy ns {} s).Checked (series w identity policy (ns.map Node.unchecked) {} s) :=
  series_related w identity policy policy Node.unchecked (fun _ => ⟨List.prefix_refl _, fun _ => rfl⟩)
    (fun _ _ _ _ => .andThen) (session_checked w identity policy) ns s

end

theorem checks_send_nothing (w : World (StateM σ)) (identity : Identity) (policy : Policy) (script : Script) (s : σ) :
    let run := played w identity policy script s
    let bare := played w identity policy script.unchecked s
    run.log <+: bare.log ∧
      ∀ report, run.result = .ok report → bare = ⟨.ok { report with checks := 0 }, run.log, run.world⟩ := by
  intro run bare
  have checked := series_checked w identity policy script.sessions s
  simp only [run, bare, played_eq_series, unchecked, series_counts w identity policy _ { script := script.name }]
  refine ⟨checked.handed, fun report passed => ?_⟩
  obtain ⟨u, ok, rfl⟩ := map_eq_ok.mp passed
  rw [checked.passed ok, ok]
  rfl

/-- With its checks the script stops behind the first launch, or, where they hold, comes to what it comes to without. -/
theorem check_that_fails_cuts_a_script_short :
    let identity : Identity := ⟨"app", "user", none, "en-US", 0⟩
    let told : Answer := .ok (some { body := { shouldEnd := some false } : Wire.Response }.toBytes)
    let script (a : Check.Assertion) : Script :=
      ⟨"s", none, [], [[.param .launch, .check (.assertion a), .follow [.param .launch]]]⟩
    let held (script : Script) := played Session.listed identity .rejectAll script [.ok none, told, told]
    let bare := held (unchecked (script .sessionEnded))
    (held (script .sessionEnded)).log.map (·.kind) = [.sessionStarted, .launch] ∧
      bare.log.map (·.kind) = [.sessionStarted, .launch, .launch, .sessionEnded] ∧
      (held (script .sessionEnded)).log <+: bare.log ∧
      (held (script .sessionStillOpen)).result = .ok { script := "s", sessions := 1, requests := 4, checks := 1 } ∧
      bare = ⟨.ok { script := "s", sessions := 1, requests := 4 }, (held (script .sessionStillOpen)).log,
        (held (script .sessionStillOpen)).world⟩ := by
  intro identity told script held bare
  have sent (a : Check.Assertion) := checks_send_nothing Session.listed identity .rejectAll (script a) [.ok none, told, told]
  have passed : (held (script .sessionStillOpen)).result =
      .ok { script := "s", sessions := 1, requests := 4, checks := 1 } := by rfl
  exact ⟨by rfl, by rfl, (sent .sessionEnded).1, passed, (sent .sessionStillOpen).2 _ passed⟩

end Rehearsal.Script
