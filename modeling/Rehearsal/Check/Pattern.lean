import Rehearsal.Failure
import Rehearsal.Regex.Room
import Rehearsal.Regex.Syntax

/-! Patterns: regular expressions that have to match a whole text. -/
namespace Rehearsal.Check

/-- The expression of a source between the ends of the text. -/
def wrap (source : String) : List Char :=
  "^(?:".toList ++ source.toList ++ ")$".toList

structure Pattern where
  source : String
  expr : Regex.Expr
  expr_eq : Regex.Expr.ofPattern? (wrap source) = some expr

namespace Pattern

/-- Patterns of one source are one pattern. -/
theorem ext {p q : Pattern} (h : p.source = q.source) : p = q := by
  obtain ⟨s, e, he⟩ := p
  obtain ⟨t, f, hf⟩ := q
  cases h
  have : e = f := Option.some.inj (he.symm.trans hf)
  subst this
  rfl

instance : DecidableEq Pattern := fun p q =>
  if h : p.source = q.source then isTrue (ext h) else isFalse fun hp => h (hp ▸ rfl)

def malformed : String := "not a regular expression"

def ofSource? [Regex.Room] (source : String) : Option Pattern :=
  match h : Regex.Expr.ofPattern? (wrap source) with
  | some expr => if Regex.Room.holds expr then some ⟨source, expr, h⟩ else none
  | none => none

def ofSource [Regex.Room] (source : String) : Except Failure Pattern :=
  match ofSource? source with
  | some p => .ok p
  | none => .error (.config (.pattern source malformed))

def accepts (p : Pattern) (text : String) : Bool :=
  p.expr.occursIn text.toList

end Pattern
end Rehearsal.Check
