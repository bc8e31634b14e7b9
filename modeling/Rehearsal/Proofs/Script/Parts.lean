import Rehearsal.Proofs.Alike
import Rehearsal.Proofs.Script.Lowering
import Rehearsal.Script.Run

/-!
Two runs side by side, of one list or of a list and what is left of it. What goes through waits, requests, checks and
decisions, and through doing one thing after the other, goes through whole runs.
-/
namespace Rehearsal.Script
open Check (Predicate)

/- A list told again, by the same at every depth; checks may be left out. -/
structure Retelling (g : List Action → List Action) : Prop where
  nil : g [] = []
  check : ∀ p rest, g (.check p :: rest) = .check p :: g rest ∨ g (.check p :: rest) = g rest
  param : ∀ p rest, g (.param p :: rest) = .param p :: g rest
  branch : ∀ p body rest, g (.branch p body :: rest) = .branch p (g body) :: g rest
  follow : ∀ body rest, g (.follow body :: rest) = .follow (g body) :: g rest

theorem Retelling.same : Retelling fun n => n where
  nil := rfl
  check _ _ := .inl rfl
  param _ _ := rfl
  branch _ _ _ := rfl
  follow _ _ := rfl

section
variable {g : List Action → List Action} {m : Type → Type} [Monad m] (w : World m) (n : Node)

theorem Retelling.params (told : Retelling g) : Node.params (g n) = Node.params n := by
  induction n with
  | nil => rw [told.nil]
  | cons a rest ih =>
    simp only [Node.params] at ih ⊢
    cases a with
    | check p => rcases told.check p rest with kept | dropped <;> simp [*, List.filterMap_cons, Action.param?]
    | param p => simp [told.param, ih, Action.param?]
    | branch p body => simp [told.branch, ih, List.filterMap_cons, Action.param?]
    | follow body => simp [told.follow, ih, List.filterMap_cons, Action.param?]

/-- What a list sends is told by its parameters. -/
theorem ask_of_params {n n' : Node} (same : n.params = n'.params) : ask w n = ask w n' := by
  have kind : n.kind? = n'.kind? := by simp only [Node.kind?, same]
  have request : n.request = n'.request := by
    funext k previous
    simp only [Node.request, same]
  simp only [ask, kind, request]

theorem Retelling.ask (told : Retelling g) : Script.ask w (g n) = Script.ask w n :=
  ask_of_params w (told.params n)

theorem runBranch_eq (p : Predicate) (body : Node) :
    runBranch w (.branch p body) = test p >>= fun taken => if taken then runNode w body else pure () := by
  simp only [runBranch, runNode]

theorem runFollow_eq (body : Node) : runFollow w (.follow body) = runNode w body := by
  simp only [runFollow, runNode]

end

variable {m₁ m₂ : Type → Type} [Monad m₁] [Monad m₂] {R : ∀ {α : Type}, Play m₁ α → Play m₂ α → Prop}
  {w₁ : World m₁} {w₂ : World m₂} {g : List Action → List Action} {n : Node}

/- What a list does itself, and what is left of it; its conditions and what follows it are lists of their own. -/
structure Node.Parallel (R : ∀ {α : Type}, Play m₁ α → Play m₂ α → Prop) (w₁ : World m₁) (w₂ : World m₂)
    (g : List Action → List Action) (n : Node) : Prop where
  wait : ∀ s ∈ n.params.filterMap Param.span?, R (w₁.wait s : Play m₁ Unit) (w₂.wait s : Play m₂ Unit)
  ask : R (ask w₁ n) (ask w₂ n)
  checks : R (checkAll n) (checkAll (g n))
  test : ∀ p body, .branch p body ∈ n → R (test p) (test p)

omit [Monad m₂] in
/-- What is left out did nothing. -/
theorem related_past_nothing [LawfulMonad m₁] {x₁ : Play m₁ Unit} {x₂ : Play m₂ Unit} (h : R x₁ x₂) :
    R ((pure () : Play m₁ Unit) >>= fun _ => x₁) x₂ := by
  rwa [pure_bind]

end Rehearsal.Script

namespace Rehearsal.Composes
open Check (Predicate)
open Script

variable {m₁ m₂ : Type → Type} [Monad m₁] [Monad m₂] {R : ∀ {α : Type}, Play m₁ α → Play m₂ α → Prop}
  {w₁ : World m₁} {w₂ : World m₂} {g : List Action → List Action} {n : Node}

theorem waitAll (c : Composes @R) {spans : List Span}
    (waits : ∀ s ∈ spans, R (w₁.wait s : Play m₁ Unit) (w₂.wait s : Play m₂ Unit)) :
    R (Script.waitAll w₁ spans) (Script.waitAll w₂ spans) := by
  induction spans with
  | nil => exact c.pure ()
  | cons s rest ih =>
    have later := ih fun t ht => waits t (List.mem_cons_of_mem s ht)
    exact c.bind (waits s List.mem_cons_self) fun _ => later

theorem checkAll (c : Composes @R) {actions : List Action} (checks : ∀ p, .check p ∈ actions → R (verify p) (verify p)) :
    R (Script.checkAll actions) (Script.checkAll actions) := by
  induction actions with
  | nil => exact c.pure ()
  | cons a rest ih =>
    have later := ih fun p hp => checks p (List.mem_cons_of_mem a hp)
    cases a with
    | check p => exact c.bind (checks p List.mem_cons_self) fun _ => later
    | _ => exact later

theorem runHead (c : Composes @R) (told : Retelling g) (parallel : n.Parallel R w₁ w₂ g) :
    R (Script.runHead w₁ n) (Script.runHead w₂ (g n)) := by
  have waits := c.waitAll parallel.wait
  rw [Script.runHead, Script.runHead, told.params, told.ask]
  exact c.bind waits fun _ => c.bind parallel.ask fun _ => parallel.checks

mutual
theorem runBranches [LawfulMonad m₁] (c : Composes @R) (told : Retelling g)
    (parallel : ∀ m, Node.Within m n → m.Parallel R w₁ w₂ g) :
    ∀ (actions : List Action) {m : Node}, Node.Within m n → (∀ a ∈ actions, a ∈ m) →
      R (Script.runBranches w₁ actions) (Script.runBranches w₂ (g actions))
  | [], _, _, _ => by
    rw [told.nil]
    exact c.pure ()
  | a :: rest, m, inner, h => by
    have later := c.runBranches told parallel rest inner fun b hb => h b (List.mem_cons_of_mem a hb)
    have ha := h a List.mem_cons_self
    cases a with
    | check p =>
      rcases told.check p rest with kept | dropped
      · rw [kept]
        exact c.bind (c.pure ()) fun _ => later
      · rw [dropped]
        exact related_past_nothing later
    | param p =>
      rw [told.param]
      exact c.bind (c.pure ()) fun _ => later
    | branch p body =>
      have whole := c.runWhole told parallel body (inner.branch_mem ha)
      rw [told.branch]
      refine c.bind (c.bind ((parallel m inner).test p body ha) fun taken => ?_) fun _ => later
      cases taken with
      | false => exact c.pure ()
      | true => exact whole
    | follow body =>
      rw [told.follow]
      exact c.bind (c.pure ()) fun _ => later

theorem runFollows [LawfulMonad m₁] (c : Composes @R) (told : Retelling g)
    (parallel : ∀ m, Node.Within m n → m.Parallel R w₁ w₂ g) :
    ∀ (actions : List Action) {m : Node}, Node.Within m n → (∀ a ∈ actions, a ∈ m) →
      R (Script.runFollows w₁ actions) (Script.runFollows w₂ (g actions))
  | [], _, _, _ => by
    rw [told.nil]
    exact c.pure ()
  | a :: rest, _, inner, h => by
    have later := c.runFollows told parallel rest inner fun b hb => h b (List.mem_cons_of_mem a hb)
    cases a with
    | check p =>
      rcases told.check p rest with kept | dropped
      · rw [kept]
        exact c.bind (c.pure ()) fun _ => later
      · rw [dropped]
        exact related_past_nothing later
    | param p =>
      rw [told.param]
      exact c.bind (c.pure ()) fun _ => later
    | branch p body =>
      rw [told.branch]
      exact c.bind (c.pure ()) fun _ => later
    | follow body =>
      have whole := c.runWhole told parallel body (inner.follow_mem (h _ List.mem_cons_self))
      rw [told.follow]
      exact c.bind whole fun _ => later

theorem runWhole [LawfulMonad m₁] (c : Composes @R) (told : Retelling g)
    (parallel : ∀ m, Node.Within m n → m.Parallel R w₁ w₂ g) :
    ∀ (m : List Action), Node.Within m n → R (Script.runNode w₁ m) (Script.runNode w₂ (g m))
  | m, inner =>
    c.bind (c.runHead told (parallel m inner)) fun _ =>
      c.bind (c.runBranches told parallel m inner fun _ => id) fun _ => c.runFollows told parallel m inner fun _ => id
end

/-- The runs of a list and of what is left of it are related where the lists in it are, in what each does itself. -/
theorem runNode [LawfulMonad m₁] (c : Composes @R) (told : Retelling g) (w₁ : World m₁) (w₂ : World m₂)
    (parallel : ∀ m, Node.Within m n → m.Parallel R w₁ w₂ g) : R (Script.runNode w₁ n) (Script.runNode w₂ (g n)) :=
  c.runWhole told parallel n (.self n)

end Rehearsal.Composes
