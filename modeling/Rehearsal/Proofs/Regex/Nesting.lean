import Rehearsal.Proofs.Regex.Groups
import Rehearsal.Proofs.Regex.Language

/-!
A pattern inside a group. As long as it does not close the group it stands in, it is read there as it is read alone, and so
it has to be a pattern itself.
-/
namespace Rehearsal.Regex

def Parse.inside (s : Parse) (l : Level) : Parse := { s with above := s.above ++ [l] }

def enclosed (l : Level) (p : Parse × List Char) : Parse × List Char := (p.1.inside l, p.2)

def Parse.leaves : Nat → Parse → List Char → Bool
  | 0, _, _ => false
  | n + 1, s, text =>
    let text := skip s.flags text
    (s.above.isEmpty && text.head? == some ')') ||
      match s.step? text with
      | some (s, rest) => leaves n s rest
      | none => false

/-- Read alone, the pattern closes a group that it has not opened. -/
def leavesGroup (pattern : List Char) : Bool := Parse.leaves (pattern.length + 1) {} pattern

section
variable {s s' : Parse} {l : Level} {t r : List Char}

theorem primitive_inside (p : Primitive) : (s.inside l).primitive? p = (s.primitive? p).map (·.inside l) := by
  unfold Parse.primitive?
  change (if !p.isSound s.flags then none else _) = _
  split
  · rfl
  · cases p <;> rfl

theorem dot_inside : (s.inside l).dot? = s.dot?.map (·.inside l) := by
  unfold Parse.dot?
  change (if !s.flags.unicode then none else _) = Option.map _ (if !s.flags.unicode then none else _)
  split <;> rfl

theorem repeat_inside (times : Expr → Expr) : (s.inside l).repeat? times = (s.repeat? times).map (·.inside l) := by
  obtain ⟨⟨branches, parts, outer⟩, above, flags, names⟩ := s
  rcases parts with _ | ⟨⟨e, depth, _ | _⟩, parts⟩
  · rfl
  · rfl
  · rfl

theorem openNamed_inside (t : List Char) : (s.inside l).openNamed? t = (s.openNamed? t).map (enclosed l) := by
  unfold Parse.openNamed?
  cases groupName? t with
  | none => rfl
  | some p =>
    change (if s.names.contains p.1 then none else _) = Option.map _ (if s.names.contains p.1 then none else _)
    split <;> rfl

theorem flagged_inside (t : List Char) : (s.inside l).flagged? t = (s.flagged? t).map (enclosed l) := by
  unfold Parse.flagged?
  change (flags? t [] false false s.flags).bind _ = Option.map _ ((flags? t [] false false s.flags).bind _)
  rcases flags? t [] false false s.flags with _ | ⟨f, any, last, rest⟩
  · rfl
  · simp only [Option.bind_some]
    split
    · split <;> rfl
    · rfl

theorem peeked_inside {d : Char} {x y x' y' : Reader Parse} (yes : ∀ t, x' t = (x t).map (enclosed l))
    (no : ∀ t, y' t = (y t).map (enclosed l)) (t : List Char) :
    peeked d x' y' t = (peeked d x y t).map (enclosed l) := by
  unfold peeked
  split
  · exact yes _
  · exact no _

theorem group_inside (t : List Char) : (s.inside l).group? t = (s.group? t).map (enclosed l) := by
  have nothing : ∀ t : List Char, (none : Option (Parse × List Char)) = none.map (enclosed l) := fun _ => rfl
  have asked : ∀ t, (s.inside l).asked? t = (s.asked? t).map (enclosed l) :=
    peeked_inside (peeked_inside openNamed_inside nothing) <| peeked_inside nothing <| peeked_inside nothing <|
      peeked_inside (peeked_inside nothing <| peeked_inside nothing openNamed_inside) flagged_inside
  rw [Parse.group?_eq, Parse.group?_eq]
  exact peeked_inside (y := fun rest => some (s.openGroup s.flags, rest)) asked (fun _ => rfl) (skip s.flags t)

theorem close_inside (some : s.above ≠ []) : (s.inside l).closeGroup? = s.closeGroup?.map (·.inside l) := by
  obtain ⟨b, above, shape⟩ := List.exists_cons_of_ne_nil some
  have whole : (s.inside l).above = b :: (above ++ [l]) := by
    rw [Parse.inside, shape]
    rfl
  rw [Parse.closeGroup?, Parse.closeGroup?, whole, shape]
  rfl

/-- A token that does not leave the groups of the text does the same inside a group. -/
theorem step_inside (within : ¬ (s.above = [] ∧ t.head? = some ')')) :
    (s.inside l).step? t = (s.step? t).map (enclosed l) := by
  rcases t with _ | ⟨c, t⟩
  · rfl
  have repeated (times : Expr → Expr) (r : List Char) : ((s.inside l).repeat? times).map (·, r) =
      ((s.repeat? times).map (·, r)).map (enclosed l) := by
    rw [repeat_inside]
    cases s.repeat? times <;> rfl
  unfold Parse.step?
  dsimp only
  split
  · exact group_inside t
  · rw [close_inside fun empty => within ⟨empty, rfl⟩]
    cases s.closeGroup? <;> rfl
  · rfl
  · change (bracket? s.flags t).bind _ = Option.map _ ((bracket? s.flags t).bind _)
    cases bracket? s.flags t <;> rfl
  · exact repeated _ _
  · exact repeated _ _
  · exact repeated _ _
  · change (bounds? s.flags t).bind _ = Option.map _ ((bounds? s.flags t).bind _)
    rcases bounds? s.flags t with _ | ⟨p, rest⟩
    · rfl
    · change ((s.inside l).repeat? _).bind _ = Option.map _ ((s.repeat? _).bind _)
      rw [repeat_inside]
      cases s.repeat? fun e => .times e p.1 p.2 <;> rfl
  · change (escape? s.flags t).bind _ = Option.map _ ((escape? s.flags t).bind _)
    rcases escape? s.flags t with _ | ⟨p, rest⟩
    · rfl
    · change ((s.inside l).primitive? p).bind _ = Option.map _ ((s.primitive? p).bind _)
      rw [primitive_inside]
      cases s.primitive? p <;> rfl
  · rw [dot_inside]
    cases s.dot? <;> rfl
  · rfl
  · rfl
  · rfl

end

section
variable {s s' e : Parse} {l : Level} {t r : List Char} {n m k : Nat}

theorem run_congr {t' : List Char} (same : skip s.flags t = skip s.flags t') : Parse.run? n s t = Parse.run? n s t' := by
  cases n <;> rw [Parse.run?, Parse.run?, same]

theorem run_of_nothing (nothing : skip s.flags t = []) : Parse.run? n s t = some s := by
  cases n <;> rw [Parse.run?, nothing]

theorem run_of_token (token : skip s.flags t ≠ []) :
    Parse.run? (n + 1) s t = (s.step? (skip s.flags t)).bind fun p => Parse.run? n p.1 p.2 := by
  obtain ⟨c, u, shape⟩ := List.exists_cons_of_ne_nil token
  rw [Parse.run?, shape]

theorem run_none (token : skip s.flags t ≠ []) (none : s.step? (skip s.flags t) = none) : Parse.run? n s t = .none := by
  cases n with
  | zero =>
    obtain ⟨c, u, shape⟩ := List.exists_cons_of_ne_nil token
    rw [Parse.run?, shape]
  | succ n => rw [run_of_token token, none, Option.bind_none]

/-- Nothing that closes a group stands in the ending behind its parenthesis. -/
theorem run_short (short : t <:+ ['$']) (h : Parse.run? n s t = some e) : e.above = s.above := by
  have nothing (s : Parse) : skip s.flags [] = [] := by
    rw [skip]
    split <;> rfl
  rcases List.suffix_cons_iff.mp short with rfl | empty
  · have token : skip s.flags ['$'] = ['$'] := by
      rw [skip]
      split <;> rfl
    cases n with
    | zero =>
      rw [Parse.run?, token] at h
      cases h
    | succ n =>
      rw [run_of_token (by simp [token]), token] at h
      have done := (run_of_nothing (nothing _)).symm.trans h
      cases done
      rfl
  · obtain rfl := List.suffix_nil.mp empty
    rw [run_of_nothing (nothing s)] at h
    cases h
    rfl

theorem run_of_leaves (leaves : Parse.leaves k s t = true) : Parse.run? n s t = none := by
  induction k generalizing s t n with
  | zero => cases leaves
  | succ k ih =>
    rw [Parse.leaves] at leaves
    rcases Bool.or_eq_true_iff.mp leaves with closing | later
    · obtain ⟨outermost, front⟩ := Bool.and_eq_true_iff.mp closing
      obtain ⟨u, shape⟩ := List.head?_eq_some_iff.mp (beq_iff_eq.mp front)
      refine run_none (by simp [shape]) ?_
      rw [shape, Parse.step?, Parse.closeGroup?, List.isEmpty_iff.mp outermost]
      rfl
    · split at later
      · next token =>
        have some : skip s.flags t ≠ [] := fun empty => by
          rw [empty] at token
          cases token
        cases n with
        | zero =>
          obtain ⟨c, u, shape⟩ := List.exists_cons_of_ne_nil some
          rw [Parse.run?, shape]
        | succ n =>
          rw [run_of_token some, token]
          exact ih later
      · cases later

/-- At the end of the text the ending is still to be read, unless a comment hides it and the group stays open. -/
theorem run_at_end (h : Parse.run? m (s.inside l) (t ++ ending) = some e) (outermost : e.above = [])
    (left : skip s.flags (t ++ ending) = ending ∨ skip s.flags (t ++ ending) = []) :
    Parse.run? m (s.inside l) ending = some e := by
  rcases left with left | hidden
  · have same : skip (s.inside l).flags (t ++ ending) = skip (s.inside l).flags ending := by
      have kept : skip s.flags ending = ending := by
        rw [skip]
        split <;> rfl
      exact left.trans kept.symm
    rwa [run_congr same] at h
  · have still := (run_of_nothing (s := s.inside l) hidden).symm.trans h
    cases still
    exact absurd outermost (by simp [Parse.inside])

/-- Inside a group that is closed by the ending alone, a text is read as it is read alone. -/
theorem run_inside (h : Parse.run? m (s.inside l) (t ++ ending) = some e) (outermost : e.above = [])
    (stays : Parse.leaves k s t = false) (enough : t.length ≤ n) (more : t.length < k) :
    ∃ s', Parse.run? n s t = some s' ∧ ∃ m, Parse.run? m (s'.inside l) ending = some e := by
  induction m generalizing s t n k with
  | zero =>
    rcases skip_cases s.flags t with ⟨some, kept⟩ | ⟨empty, left⟩
    · obtain ⟨c, u, shape⟩ := List.exists_cons_of_ne_nil some
      have token : skip (s.inside l).flags (t ++ ending) = c :: (u ++ ending) := by
        rw [← List.cons_append, ← shape]
        exact kept
      rw [Parse.run?, token] at h
      cases h
    · exact ⟨s, run_of_nothing empty, 0, run_at_end h outermost left⟩
  | succ m ih =>
    rcases skip_cases s.flags t with ⟨some, kept⟩ | ⟨empty, left⟩
    · obtain ⟨c, u, shape⟩ := List.exists_cons_of_ne_nil some
      have shorter := ((local_skip s.flags).suffix (t := t) rfl).length_le
      rw [shape, List.length_cons] at shorter
      obtain ⟨k, rfl⟩ : ∃ j, k = j + 1 := ⟨k - 1, by omega⟩
      obtain ⟨n, rfl⟩ : ∃ j, n = j + 1 := ⟨n - 1, by omega⟩
      have token : skip (s.inside l).flags (t ++ ending) = c :: u ++ ending := by
        rw [← shape]
        exact kept
      rw [Parse.leaves, Bool.or_eq_false_iff, shape] at stays
      have within : ¬ (s.above = [] ∧ (c :: u ++ ending).head? = .some ')') := by
        rintro ⟨empty, front⟩
        rw [List.cons_append, List.head?_cons, Option.some_inj] at front
        simp [empty, front] at stays
      rw [run_of_token (by simp [token]), token, step_inside within] at h
      obtain ⟨whole, read, h⟩ := Option.bind_eq_some_iff.mp h
      obtain ⟨⟨s₁, rest⟩, step, rfl⟩ := Option.map_eq_some_iff.mp read
      rw [run_of_token some, shape]
      have behind : rest <:+ u ++ ending := step_suffix step
      rcases suffix_cases behind with ⟨rest, rfl, -⟩ | short
      · rcases step_inner step with alone | ⟨flags, stuck⟩
        · rw [alone] at stays
          have fewer : rest.length ≤ u.length := (step_suffix alone).length_le
          have few : rest.length ≤ n := by omega
          have many : rest.length < k := by omega
          rw [alone]
          exact ih h stays.2 few many
        · have stuck : Stuck (s₁.inside l).flags (rest ++ ending) := by
            rwa [Parse.inside, flags]
          have none := (run_of_stuck stuck).symm.trans h
          cases none
      · have still : e.above = s₁.above ++ [l] := run_short short h
        simp [outermost] at still
    · exact ⟨s, run_of_nothing empty, m + 1, run_at_end h outermost left⟩

end
end Rehearsal.Regex
