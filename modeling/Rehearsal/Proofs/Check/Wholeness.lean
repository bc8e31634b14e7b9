import Rehearsal.Proofs.Check.Quoting
import Rehearsal.Proofs.Regex.Ends

/-!
Patterns and whole texts. The source of a pattern is put into a group between the ends of the text and read only there: a
source that closes the group first is no expression of its own, and is accepted nevertheless.
-/
namespace Rehearsal.Check.Pattern
open Regex (Expr leavesGroup)

theorem wrap_eq (source : String) : wrap source = "^(?:".toList ++ source.toList ++ Regex.ending := rfl

theorem accepted_source_is_matched_whole_unless_it_leaves_its_group [Regex.Room] {source : String} {p : Pattern}
    (accepted : ofSource source = .ok p) :
    ((Expr.ofPattern? source.toList).isSome = true ↔ leavesGroup source.toList = false) ∧
      ∀ e, Expr.ofPattern? source.toList = some e →
        ∀ text, p.accepts text = true ↔ e.Matches none text.toList none := by
  have same := (ofSource?_eq_some.mp (ofSource_eq_ok.mp accepted)).1
  have read := p.expr_eq
  rw [same, wrap_eq] at read
  obtain ⟨left, alone⟩ := Regex.ofPattern_between read
  have stays {e : Expr} (found : Expr.ofPattern? source.toList = some e) : leavesGroup source.toList = false := by
    cases leaves : leavesGroup source.toList with
    | false => rfl
    | true => cases (left leaves).symm.trans found
  constructor
  · constructor
    · intro isSome
      obtain ⟨e, found⟩ := Option.isSome_iff_exists.mp isSome
      exact stays found
    · intro kept
      obtain ⟨e, found, -, -⟩ := alone kept
      rw [found, Option.isSome_some]
  · intro e found text
    obtain ⟨e', found', bounded, between⟩ := alone (stays found)
    cases found.symm.trans found'
    rw [accepts, between]
    exact Regex.occursIn_between_ends bounded text.toList

/-- An alternative does not reach beyond the source: each of the two is matched whole. -/
theorem alternatives_are_matched_whole :
    ∃ p e, ofSource "a|bc" = .ok p ∧ Expr.ofPattern? "a|bc".toList = some e ∧
      (∀ text, p.accepts text = true ↔ e.Matches none text.toList none) ∧
      p.accepts "bc" = true ∧ p.accepts "ac" = false := by
  obtain ⟨p, found⟩ := Option.isSome_iff_exists.mp (show (ofSource? "a|bc").isSome = true by decide +kernel)
  have texts : (ofSource? "a|bc").any (fun p => p.accepts "bc" && !p.accepts "ac") = true := by decide +kernel
  rw [found, Option.any_some] at texts
  obtain ⟨accepts, refuses⟩ := Bool.and_eq_true_iff.mp texts
  have accepted := ofSource_eq_ok.mpr found
  obtain ⟨kept, whole⟩ := accepted_source_is_matched_whole_unless_it_leaves_its_group accepted
  obtain ⟨e, alone⟩ := Option.isSome_iff_exists.mp (kept.mpr (by decide +kernel))
  exact ⟨p, e, accepted, alone, whole e alone, accepts, by simpa using refuses⟩

/-- Read alone, the source has a parenthesis that closes nothing; its first alternative loses the end of the text. -/
theorem source_leaves_its_group :
    ∃ p, ofSource "a)|(?:b" = .ok p ∧ p.accepts "ax" = true ∧ Expr.ofPattern? "a)|(?:b".toList = none := by
  obtain ⟨p, found⟩ := Option.isSome_iff_exists.mp (show (ofSource? "a)|(?:b").isSome = true by decide +kernel)
  have accepts : (ofSource? "a)|(?:b").any (·.accepts "ax") = true := by decide +kernel
  rw [found, Option.any_some] at accepts
  have alone : Expr.ofPattern? "a)|(?:b".toList = none := by decide +kernel
  exact ⟨p, ofSource_eq_ok.mpr found, accepts, alone⟩

end Rehearsal.Check.Pattern
