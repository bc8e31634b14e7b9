import Mathlib.Data.List.Forall2

/-!
Steps one after the other: all of them pass, or the first that does not is the failure of all. So it is with the entries of a
list that is gone through in order.
-/
namespace Rehearsal
variable {ε α β : Type}

theorem bind_eq_ok {x : Except ε α} {f : α → Except ε β} {b : β} :
    x >>= f = .ok b ↔ ∃ a, x = .ok a ∧ f a = .ok b := by
  cases x with
  | error e => simp [bind, Except.bind]
  | ok a => simp [bind, Except.bind]

theorem bind_eq_error {x : Except ε α} {f : α → Except ε β} {e : ε} :
    x >>= f = .error e ↔ x = .error e ∨ ∃ a, x = .ok a ∧ f a = .error e := by
  cases x with
  | error e' => simp [bind, Except.bind]
  | ok a => simp [bind, Except.bind]

theorem map_eq_ok {x : Except ε α} {f : α → β} {b : β} : x.map f = .ok b ↔ ∃ a, x = .ok a ∧ f a = b := by
  cases x <;> simp [Except.map]

theorem map_eq_error {x : Except ε α} {f : α → β} {e : ε} : x.map f = .error e ↔ x = .error e := by
  cases x <;> simp [Except.map]

/-- Steps that fail get to the step that does. -/
theorem foldlM_eq_error {f : β → α → Except ε β} {l : List α} {b : β} {e : ε} (failed : l.foldlM f b = .error e) :
    ∃ before x after b', l = before ++ x :: after ∧ before.foldlM f b = .ok b' ∧ f b' x = .error e := by
  induction l generalizing b with
  | nil => cases failed
  | cons x rest ih =>
    obtain here | ⟨b', first, later⟩ := bind_eq_error.mp failed
    · exact ⟨[], x, rest, b, rfl, rfl, here⟩
    · obtain ⟨before, y, after, last, rfl, run, fault⟩ := ih later
      exact ⟨x :: before, y, after, last, rfl, bind_eq_ok.mpr ⟨b', first, run⟩, fault⟩

theorem pure_eq_ok {a b : α} : (pure a : Except ε α) = .ok b ↔ a = b := by
  simp [pure, Except.pure]

section
variable {f : α → Except ε β}

theorem mapM_eq_ok {l : List α} {out : List β} : l.mapM f = .ok out ↔ List.Forall₂ (fun x y => f x = .ok y) l out := by
  induction l generalizing out with
  | nil => simp [pure, Except.pure, eq_comm]
  | cons x rest ih =>
    rw [List.mapM_cons, List.forall₂_cons_left_iff]
    cases first : f x with
    | error e => simp [bind, Except.bind]
    | ok y =>
      cases others : rest.mapM f with
      | error e => simp [bind, Except.bind, ← ih, others]
      | ok later => simp [bind, Except.bind, pure, Except.pure, ← ih, others, eq_comm]

/-- What stands behind the first failure does not matter. -/
theorem mapM_eq_error {l : List α} {e : ε} :
    l.mapM f = .error e ↔ ∃ before x after, l = before ++ x :: after ∧ (∀ b ∈ before, ∃ y, f b = .ok y) ∧ f x = .error e := by
  induction l with
  | nil => simp [pure, Except.pure]
  | cons x rest ih =>
    rw [List.mapM_cons]
    cases first : f x with
    | error e' =>
      change Except.error e' = Except.error e ↔ _
      constructor
      · intro failed
        exact ⟨[], x, rest, rfl, List.forall_mem_nil _, first.trans (congrArg _ (Except.error.inj failed))⟩
      · rintro ⟨before, x', after, split, passed, failed⟩
        cases before with
        | nil =>
          obtain ⟨rfl, rfl⟩ := List.cons.inj split
          rw [Except.error.inj (first.symm.trans failed)]
        | cons b before =>
          obtain ⟨rfl, -⟩ := List.cons.inj split
          obtain ⟨y, ok⟩ := passed x List.mem_cons_self
          cases first.symm.trans ok
    | ok y =>
      have later : (do let y' ← rest.mapM f; pure (y :: y')) = Except.error e ↔ rest.mapM f = .error e := by
        cases rest.mapM f <;> simp [bind, Except.bind, pure, Except.pure]
      refine later.trans (ih.trans ?_)
      constructor
      · rintro ⟨before, x', after, rfl, passed, failed⟩
        exact ⟨x :: before, x', after, rfl, List.forall_mem_cons.mpr ⟨⟨y, first⟩, passed⟩, failed⟩
      · rintro ⟨before, x', after, split, passed, failed⟩
        cases before with
        | nil =>
          obtain ⟨rfl, rfl⟩ := List.cons.inj split
          cases first.symm.trans failed
        | cons b before =>
          obtain ⟨rfl, rfl⟩ := List.cons.inj split
          exact ⟨before, x', after, rfl, (List.forall_mem_cons.mp passed).2, failed⟩

end
end Rehearsal
