import Rehearsal.Proofs.Check.Twins
import Rehearsal.Proofs.Script.Parts
import Rehearsal.Proofs.Session.History

/-!
Invariants of runs. What holds before a part of a run holds after it, or the part fails for a cause; a node keeps what
its head and its conditions keep.
-/
namespace Rehearsal.Script
open Check (Predicate)
open Session (Actor History Sent fire_refused fire_sent run_eq_pure)
open Wire (Kind Request Response)

variable {σ α β : Type}

structure Stand (σ : Type) where
  live : Live
  log : History
  world : σ

def Play.outcome (x : Play (StateT History (StateM σ)) α) (k : Stand σ) : Except Failure α × Stand σ :=
  let (((v, live), log), s) := ((x.run.run k.live).run k.log).run k.world
  (v, ⟨live, log, s⟩)

section
variable (x : Play (StateT History (StateM σ)) α) (y : α → Play (StateT History (StateM σ)) β) (k : Stand σ)

@[simp] theorem outcome_pure (v : α) : Play.outcome (pure v) k = (.ok v, k) := rfl

@[simp] theorem outcome_throw (f : Failure) :
    Play.outcome (throw f : Play (StateT History (StateM σ)) α) k = (.error f, k) := rfl

@[simp] theorem outcome_get : Play.outcome (get : Play (StateT History (StateM σ)) Live) k = (.ok k.live, k) := rfl

@[simp] theorem outcome_count (f : Report → Report) :
    Play.outcome (count f) k = (.ok (), { k with live := { k.live with report := f k.live.report } }) := rfl

theorem outcome_bind :
    Play.outcome (x >>= y) k =
      match Play.outcome x k with
      | (.ok v, k) => (y v).outcome k
      | (.error f, k) => (.error f, k) := by
  obtain ⟨⟨⟨⟨v | v, live⟩, log⟩, s⟩, run⟩ : ∃ out, ((x.run.run k.live).run k.log).run k.world = out := ⟨_, rfl⟩
  all_goals
    simp only [Play.outcome, ExceptT.run_bind, StateT.run_bind, run]
    rfl

end

section
variable (w : World (StateM σ)) (k : Stand σ)

theorem outcome_fire_of_run {r : Request} {sent : History} {x : Except Failure (Option Response)} {b : Actor} {t : σ}
    (run : ∀ log, ((k.live.actor.fire w.observed r).run log).run k.world = pure (((x, b), log ++ sent), t)) :
    Play.outcome (fire w.observed r) k = (x.map fun _ => (), ⟨{ k.live with actor := b }, k.log ++ sent, t⟩) := by
  have same : Play.outcome (fire w.observed r) k =
      (let out := ((k.live.actor.fire w.observed r).run k.log).run k.world
       (out.1.1.1.map fun _ => (), ⟨{ k.live with actor := out.1.1.2 }, out.1.2, out.2⟩)) := rfl
  rw [same, run]
  rfl

theorem outcome_fire_of_refused {r : Request} {f : StateFault} (refusal : k.live.actor.refusal? r = some f) :
    Play.outcome (fire w.observed r) k = (.error (.state f), k) := by
  have run : ∀ log, ((k.live.actor.fire w.observed r).run log).run k.world =
      pure (((.error (.state f), k.live.actor), log ++ []), k.world) := by
    intro log
    rw [fire_refused _ refusal, List.append_nil]
    rfl
  rw [outcome_fire_of_run w k run, List.append_nil]
  rfl

theorem outcome_fire (r : Request) :
    ∃ sent x b t, Sent k.live.actor r sent x b ∧ Play.outcome (fire w.observed r) k =
      (x.map fun _ => (), ⟨{ k.live with actor := b }, k.log ++ sent, t⟩) := by
  obtain ⟨sent, x, b, t, run, step⟩ := fire_sent w k.world k.live.actor r
  exact ⟨sent, x, b, t, step, outcome_fire_of_run w k run⟩

theorem outcome_current (p : Predicate) :
    Play.outcome (current p) k =
      match k.live.actor.last with
      | none => (.error (.state (.nothingToCheck p.render)), k)
      | some r => (.ok r, k) := by
  simp only [current, outcome_bind, outcome_get]
  cases k.live.actor.last <;> rfl

theorem outcome_verify (p : Predicate) :
    Play.outcome (verify p) k =
      match k.live.actor.last with
      | none => (.error (.state (.nothingToCheck p.render)), k)
      | some r =>
        match p.require r with
        | .error f => (.error f, k)
        | .ok () => (.ok (), { k with live.report.checks := k.live.report.checks + 1 }) := by
  simp only [verify, outcome_bind, outcome_current]
  cases k.live.actor.last with
  | none => rfl
  | some r =>
    dsimp only
    cases p.require r <;> simp

theorem outcome_test (p : Predicate) :
    Play.outcome (test p) k =
      match k.live.actor.last with
      | none => (.error (.state (.nothingToCheck p.render)), k)
      | some r =>
        if p.holds r then (.ok true, { k with live.report.taken := k.live.report.taken + 1 })
        else (.ok false, { k with live.report.skipped := k.live.report.skipped + 1 }) := by
  simp only [test, outcome_bind, outcome_current]
  cases k.live.actor.last with
  | none => rfl
  | some r =>
    dsimp only
    cases p.holds r <;> rfl

theorem outcome_ask (n : Node) :
    Play.outcome (ask w.observed n) k =
      match n.kind? with
      | none => (.ok (), k)
      | some kind =>
        match n.request kind k.live.actor.last with
        | .error f => (.error f, k)
        | .ok r => Play.outcome (fire w.observed r) k := by
  unfold ask
  cases n.kind? with
  | none => rfl
  | some kind =>
    simp only [outcome_bind, outcome_get]
    cases n.request kind k.live.actor.last <;> rfl

theorem Node.request_converses {n : Node} {k : Kind} {previous : Option Response} {r : Request}
    (h : n.request k previous = .ok r) : r.kind.expectsResponse = true := by
  cases k with
  | launch => rw [← Except.ok.inj h]; rfl
  | utterance =>
    simp only [Node.request] at h
    split at h
    · rw [← Except.ok.inj h]; rfl
    · cases h
  | intent =>
    simp only [Node.request] at h
    split at h
    · obtain ⟨slots, -, rfl⟩ := map_eq_ok.mp h
      rfl
    · cases h
  | sessionStarted => cases h
  | sessionEnded => cases h

theorem outcome_wait (s : Span) :
    Play.outcome (w.observed.wait s : Play (StateT History (StateM σ)) Unit) k =
      (.ok (), { k with world := ((w.wait s).run k.world).2 }) := rfl

end

theorem require_eq_error {p : Predicate} {r : Response} {f : Failure} (h : p.require r = .error f) :
    p.holds r = false ∧ ∃ check observed, f = .validation check observed := by
  cases holds : p.holds r with
  | true => cases h.symm.trans (Predicate.require_eq_ok.mpr holds)
  | false =>
    obtain ⟨check, failed⟩ := Predicate.require_of_not_holds holds
    exact ⟨rfl, check, _, Except.error.inj (h.symm.trans failed)⟩

theorem resolve_eq_error {previous : Option Response} {v : SlotValue} {f : Failure} (h : v.resolve previous = .error f) :
    ∃ a why, v = .reference a ∧ f = .unresolved a why := by
  cases v with
  | literal text => cases h
  | reference a =>
    simp only [SlotValue.resolve] at h
    split at h
    · exact ⟨a, .noResponse, rfl, (Except.error.inj h).symm⟩
    · split at h
      · exact ⟨a, .absent, rfl, (Except.error.inj h).symm⟩
      · cases h

theorem resolveSlots_eq_error {previous : Option Response} {slots : List (String × SlotValue)} {f : Failure}
    (h : resolveSlots previous slots = .error f) : ∃ slot ∈ slots, slot.2.resolve previous = .error f := by
  induction slots with
  | nil => cases h
  | cons slot rest ih =>
    rcases bind_eq_error.mp h with here | ⟨text, -, h⟩
    · exact ⟨slot, List.mem_cons_self, here⟩
    · rcases bind_eq_error.mp h with later | ⟨texts, -, h⟩
      · obtain ⟨slot', hs, failed⟩ := ih later
        exact ⟨slot', List.mem_cons_of_mem slot hs, failed⟩
      · cases h

/-- A request that cannot be built is the fault of the script or of a reference. -/
theorem Node.request_eq_error {n : Node} {k : Kind} {previous : Option Response} {f : Failure}
    (h : n.request k previous = .error f) : ∀ fault, f ≠ .config fault := by
  rintro fault rfl
  cases k with
  | launch => cases h
  | utterance =>
    simp only [Node.request] at h
    split at h <;> cases h
  | intent =>
    simp only [Node.request] at h
    split at h
    · obtain ⟨slot, -, failed⟩ := resolveSlots_eq_error (map_eq_error.mp h)
      obtain ⟨a, why, -, same⟩ := resolve_eq_error failed
      cases same
    · cases h
  | sessionStarted => cases h
  | sessionEnded => cases h

/- What holds where a part begins holds where it ends well; where it fails, there is a cause. -/
def Keeps (I : Live → History → Prop) (C : Failure → Live → History → Prop) (x : Play (StateT History (StateM σ)) α) : Prop :=
  ∀ k, I k.live k.log →
    match Play.outcome x k with
    | (.ok _, k) => I k.live k.log
    | (.error f, k) => C f k.live k.log

section
variable {I : Live → History → Prop} {C : Failure → Live → History → Prop}

theorem Keeps.pure (v : α) : Keeps (σ := σ) I C (Pure.pure v) := fun _ h => h

theorem Keeps.bind {x : Play (StateT History (StateM σ)) α} {y : α → Play (StateT History (StateM σ)) β}
    (hx : Keeps I C x) (hy : ∀ v, Keeps I C (y v)) : Keeps I C (x >>= y) := by
  intro k h
  have first := hx k h
  rw [outcome_bind]
  obtain ⟨⟨v | v, k'⟩, run⟩ : ∃ out, Play.outcome x k = out := ⟨_, rfl⟩
  all_goals rw [run] at first ⊢
  · exact first
  · exact hy v k' first

theorem keeps_composes :
    Composes fun {α} (x : Play (StateT History (StateM σ)) α) (_ : Play (StateT History (StateM σ)) α) => Keeps I C x where
  pure := .pure
  bind := .bind

/-- What does not hang on the report is kept by checks and by decisions. -/
theorem keeps_verify_of_actor (p : Predicate) (same : ∀ live log report, I live log → I { live with report } log)
    (fails : ∀ f live log, (∀ fault, f ≠ .config fault) → I live log → C f live log) : Keeps (σ := σ) I C (verify p) := by
  intro k h
  rw [outcome_verify]
  cases k.live.actor.last with
  | none => exact fails _ _ _ nofun h
  | some r =>
    cases required : p.require r with
    | error f =>
      obtain ⟨-, check, observed, rfl⟩ := require_eq_error required
      simp only [required]
      exact fails _ _ _ nofun h
    | ok =>
      simp only [required]
      exact same _ _ _ h

theorem keeps_test_of_actor (p : Predicate) (same : ∀ live log report, I live log → I { live with report } log)
    (fails : ∀ f live log, (∀ fault, f ≠ .config fault) → I live log → C f live log) : Keeps (σ := σ) I C (test p) := by
  intro k h
  rw [outcome_test]
  cases k.live.actor.last with
  | none => exact fails _ _ _ nofun h
  | some r => cases holds : p.holds r <;> simpa [holds] using same _ _ _ h

/-- A node's request is kept as requests are; that it cannot be built is not the configuration's fault. -/
theorem keeps_ask_of_fires (w : World (StateM σ)) (m : Node) (fires : ∀ r, Keeps I C (fire w.observed r))
    (fails : ∀ f live log, (∀ fault, f ≠ .config fault) → I live log → C f live log) : Keeps I C (ask w.observed m) := by
  intro k kept
  rw [outcome_ask]
  cases m.kind? with
  | none => exact kept
  | some asked =>
    cases built : m.request asked k.live.actor.last with
    | error f =>
      simp only [built]
      exact fails _ _ _ (Node.request_eq_error built) kept
    | ok r => simpa only [built] using fires r k kept

/-- A run keeps what its requests, its checks and its decisions keep; to wait changes nothing. -/
theorem keeps_runNode (w : World (StateM σ)) {n : Node} (asks : ∀ m, Node.Within m n → Keeps I C (ask w.observed m))
    (verifies : ∀ m p, Node.Within m n → .check p ∈ m → Keeps (σ := σ) I C (verify p))
    (tests : ∀ m p body, Node.Within m n → .branch p body ∈ m → Keeps (σ := σ) I C (test p)) :
    Keeps I C (runNode w.observed n) :=
  keeps_composes.runNode .same w.observed w.observed fun m inner => {
    wait := fun s _ k h => by
      rw [outcome_wait]
      exact h
    ask := asks m inner
    checks := keeps_composes.checkAll fun p hp => verifies m p inner hp
    test := fun p body hp => tests m p body inner hp }

end
end Rehearsal.Script
