import Rehearsal.Proofs.Regex.Levels
import Rehearsal.Proofs.Regex.Nesting

/-!
A pattern in a group between the ends of a text. If it does not close the group, its expression stands alone between them.
-/
namespace Rehearsal.Regex

def front : Level := { parts := [⟨.anchor .textStart, 0, false⟩] }

def Expr.between (r : Expr) : Expr := .seq (.anchor .textStart) (.seq r (.seq (.anchor .textEnd) .empty))

theorem run_front (n : Nat) (t : List Char) :
    Parse.run? (n + 2) {} ("^(?:".toList ++ t) = Parse.run? n (({} : Parse).inside front) t := rfl

section
variable {s e : Parse} {r : Expr} {t : List Char} {n : Nat}

theorem skip_ending (f : Flags) : skip f ending = ending := by
  rw [skip]
  split <;> rfl

/-- The ending closes the group of the pattern and stands for the end of the text. -/
theorem run_ending (sound : s.Sound) (h : Parse.run? n (s.inside front) ending = some e) (outermost : e.above = []) :
    s.above = [] ∧ e.level.close = ⟨s.level.close.expr.between, 1 + (s.level.close.depth + 1), false⟩ := by
  have token : skip (s.inside front).flags ending = ')' :: ['$'] := skip_ending _
  cases n with
  | zero =>
    rw [Parse.run?, token] at h
    cases h
  | succ n =>
    rw [run_of_token (by simp [token]), token] at h
    obtain ⟨⟨closed, rest⟩, step, h⟩ := Option.bind_eq_some_iff.mp h
    obtain ⟨level, above, flags, names⟩ := s
    cases above with
    | cons b above =>
      cases step
      have still : e.above = above ++ [front] := run_short List.suffix_rfl h
      simp [outermost] at still
    | nil =>
      cases step
      have plain : level.outer = {} := Option.some.inj sound.outermost
      let behind (flags : Flags) : Parse := { level := front, flags, names }
      have h : Parse.run? n ((behind level.outer).push ⟨level.close.expr, level.close.depth + 1, false⟩) ['$'] = some e := h
      rw [plain] at h
      cases n with
      | zero => cases h
      | succ n =>
        have last : Parse.run? n (((behind {}).push ⟨level.close.expr, level.close.depth + 1, false⟩).lineAnchor
          .textEnd .lineEnd .crlfEnd) [] = some e := h
        rw [run_of_nothing rfl] at last
        cases last
        exact ⟨rfl, rfl⟩

theorem finish_between (h : e.finish? = some r) (empty : s.above = [])
    (whole : e.level.close = ⟨s.level.close.expr.between, 1 + (s.level.close.depth + 1), false⟩) :
    s.finish? = some s.level.close.expr ∧ r = s.level.close.expr.between := by
  rw [Parse.finish?, whole] at h
  dsimp only at h
  split at h
  · next fits =>
    obtain ⟨-, shallow⟩ := fits
    cases h
    refine ⟨?_, rfl⟩
    rw [Parse.finish?]
    exact if_pos ⟨by rw [empty]; rfl, by omega⟩
  · cases h

end

theorem ofPattern_between {t : List Char} {r : Expr} (h : Expr.ofPattern? ("^(?:".toList ++ t ++ ending) = some r) :
    (leavesGroup t = true → Expr.ofPattern? t = none) ∧
      (leavesGroup t = false → ∃ e, Expr.ofPattern? t = some e ∧ e.Bounded ∧ r = e.between) := by
  obtain ⟨e, read, finished⟩ := Option.bind_eq_some_iff.mp h
  have outermost : e.above = [] := by
    rw [Parse.finish?] at finished
    split at finished
    · next fits => exact List.isEmpty_iff.mp fits.1
    · cases finished
  constructor
  · intro leaves
    rw [Expr.ofPattern?, run_of_leaves leaves, Option.bind_none]
  · intro stays
    have length : ("^(?:".toList ++ t ++ ending).length = t.length + 4 + 2 := by
      simp [ending]
    rw [length, List.append_assoc, run_front] at read
    obtain ⟨s, alone, m, last⟩ := run_inside read outermost stays (Nat.le_refl _) (Nat.lt_succ_self _)
    have sound := Parse.Sound.start.run alone
    obtain ⟨empty, whole⟩ := run_ending sound last outermost
    obtain ⟨fits, between⟩ := finish_between finished empty whole
    refine ⟨s.level.close.expr, ?_, sound.level.close, between⟩
    rw [Expr.ofPattern?, alone, Option.bind_some, fits]

end Rehearsal.Regex
