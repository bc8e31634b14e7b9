import Rehearsal.Proofs.Regex.Classes

/-! The tokens of a pattern in front of an ending, groups and what is left to be read behind an escape among them. -/
namespace Rehearsal.Regex

variable {α : Type} {f : Flags} {s s' : Parse} {t r : List Char}

theorem flags_suffix {seen : List Flag} {negated last any : Bool} {f' : Flags} {c : Char}
    (h : flags? t seen negated last f = some (f', any, c, r)) : r <:+ t.tail := by
  induction t generalizing seen negated last f with
  | nil => cases h
  | cons d t ih =>
    have later {seen : List Flag} {negated last : Bool} {f : Flags} (h : flags? t seen negated last f = some (f', any, c, r)) :
        r <:+ t := (ih h).trans (List.tail_suffix t)
    rw [flags?] at h
    split at h
    · split at h
      · cases h
      · cases h
        exact List.suffix_rfl
    · split at h
      · split at h
        · cases h
        · exact later h
      · split at h
        · cases h
        · split at h
          · cases h
          · exact later h

theorem flags_inner {seen : List Flag} {negated last any : Bool} {f' : Flags} {c : Char}
    (h : flags? (t ++ ending) seen negated last f = some (f', any, c, r ++ ending)) :
    flags? t seen negated last f = some (f', any, c, r) := by
  induction t generalizing seen negated last f with
  | nil => exact absurd (flags_suffix h) (not_inner (by decide))
  | cons d t ih =>
    rw [List.cons_append, flags?] at h
    rw [flags?]
    by_cases stops : d = ':' ∨ d = ')'
    · rw [if_pos stops] at h ⊢
      split at h
      · cases h
      · next more =>
        simp only [Option.some.injEq, Prod.mk.injEq] at h
        obtain ⟨rfl, rfl, rfl, same⟩ := h
        rw [if_neg more, List.append_cancel_right same]
    · rw [if_neg stops] at h ⊢
      by_cases hyphen : d = '-'
      · rw [if_pos hyphen] at h ⊢
        split at h
        · cases h
        · next once =>
          rw [if_neg once]
          exact ih h
      · rw [if_neg hyphen] at h ⊢
        split at h
        · cases h
        · next flag =>
          split at h
          · cases h
          · next fresh =>
            rw [if_neg fresh]
            exact ih h

theorem local_groupName : Local groupName? where
  suffix := by
    intro t v r h
    have inside := List.dropWhile_suffix (l := t) (· ≠ '>')
    rw [groupName?] at h
    split at h
    · next behind =>
      rw [behind] at inside
      split at h
      · cases h
        exact (List.suffix_cons '>' r).trans inside
      · cases h
    · cases h
  inner := by
    intro t v r h
    rw [groupName?] at h ⊢
    rcases upTo_cases (d := '>') (by decide) t with ⟨-, still⟩ | ⟨rest, here, whole, name⟩
    · rw [still] at h
      split at h
      · next same => cases same
      · cases h
    · rw [whole, name] at h
      rw [here]
      generalize t.takeWhile (· ≠ '>') = taken at h ⊢
      rcases taken with _ | ⟨d, name⟩
      · cases h
      simp only at h ⊢
      split at h
      · next good =>
        obtain ⟨rfl, same⟩ := Prod.mk.inj (Option.some.inj h)
        rw [if_pos good, List.append_cancel_right same]
      · cases h

theorem local_openNamed (s : Parse) : Local s.openNamed? := by
  refine (local_groupName.filterMap fun name => if s.names.contains name then none
    else some ({ s with names := name :: s.names }.openGroup s.flags)).of_eq fun t => ?_
  rw [Parse.openNamed?]
  refine congrArg _ (funext fun ⟨name, rest⟩ => ?_)
  simp only
  split <;> rfl

def Parse.flagged? (s : Parse) : Reader Parse := fun text =>
  (flags? text [] false false s.flags).bind fun (f, any, last, rest) =>
    if last = ')' then if any then some ({ s with flags := f }.push ⟨.empty, 0, true⟩, rest) else none
    else some (s.openGroup f, rest)

def Parse.asked? (s : Parse) : Reader Parse :=
  let nothing : Reader Parse := fun _ => none
  peeked 'P' (peeked '<' s.openNamed? nothing) <| peeked '=' nothing <| peeked '!' nothing <|
    peeked '<' (peeked '=' nothing <| peeked '!' nothing s.openNamed?) s.flagged?

theorem Parse.group?_eq (s : Parse) (t : List Char) :
    s.group? t = peeked '?' s.asked? (fun rest => some (s.openGroup s.flags, rest)) (skip s.flags t) := by
  rw [group?]
  generalize skip s.flags t = u
  split
  · rfl
  · rfl
  · rfl
  · rfl
  · rfl
  · next rest look no =>
    change _ = peeked '=' (fun _ => none) (peeked '!' (fun _ => none) s.openNamed?) rest
    rw [peeked_other (head?_ne look), peeked_other (head?_ne no)]
  · next rest named look no _ _ angle =>
    change s.flagged? rest = s.asked? rest
    by_cases front : rest.head? = some 'P'
    · obtain ⟨rest, rfl⟩ := List.head?_eq_some_iff.mp front
      change none = peeked '<' s.openNamed? (fun _ => none) rest
      rw [peeked_other (head?_ne fun more same => named more (by rw [same]))]
    · rw [asked?, peeked_other front, peeked_other (head?_ne look), peeked_other (head?_ne no), peeked_other (head?_ne angle)]
  · next plain =>
    rw [peeked_other (head?_ne plain)]

theorem local_flagged (s : Parse) : Local s.flagged? := by
  have flags : Local fun t => (flags? t [] false false s.flags).map fun p => ((p.1, p.2.1, p.2.2.1), p.2.2.2) := by
    refine ⟨fun {t v r} h => ?_, fun {t v r} h => ?_⟩
    · obtain ⟨⟨f, any, last, rest⟩, read, same⟩ := Option.map_eq_some_iff.mp h
      obtain ⟨-, rfl⟩ := Prod.mk.inj same
      exact (flags_suffix read).trans (List.tail_suffix t)
    · obtain ⟨⟨f, any, last, rest⟩, read, same⟩ := Option.map_eq_some_iff.mp h
      obtain ⟨rfl, rfl⟩ := Prod.mk.inj same
      rw [flags_inner read]
      rfl
  refine (flags.filterMap fun p => if p.2.2 = ')' then if p.2.1 then some ({ s with flags := p.1 }.push ⟨.empty, 0, true⟩) else none
    else some (s.openGroup p.1)).of_eq fun t => ?_
  rw [Parse.flagged?, Option.bind_map]
  refine congrArg _ (funext fun ⟨f, any, last, rest⟩ => ?_)
  simp only [Function.comp_def]
  split
  · split <;> rfl
  · rfl

theorem local_group (s : Parse) : Local s.group? := by
  have nothing : Local (fun _ => none : Reader Parse) := .none
  have angled := Local.peeked (d := '=') (by decide) nothing (Local.peeked (d := '!') (by decide) nothing (local_openNamed s))
  have flagged := Local.peeked (d := '<') (by decide) angled (local_flagged s)
  have signs := Local.peeked (d := '=') (by decide) nothing (Local.peeked (d := '!') (by decide) nothing flagged)
  have asked : Local s.asked? :=
    .peeked (by decide) (Local.peeked (d := '<') (by decide) (local_openNamed s) nothing) signs
  exact ((Local.peeked (d := '?') (by decide) asked (.pure (s.openGroup s.flags))).skipped s.flags).of_eq s.group?_eq

theorem local_dropLazy : Local fun t => some ((), dropLazy t) := by
  refine .peek (d := '?') (by decide) (.pure ()) (.pure ()) (fun _ => rfl) fun t other => ?_
  rw [dropLazy]
  rintro rest rfl
  exact other rfl

/-- A token whose extent does not hang on what stands behind it. -/
theorem local_step {c : Char} (plain : c ≠ '\\') : Local fun t => s.step? (c :: t) := by
  unfold Parse.step?
  dsimp only
  split
  · exact local_group s
  · exact (Local.pure ()).filterMap (fun _ => s.closeGroup?)
  · exact .pure s.branch
  · exact (local_bracket s.flags).filterMap (fun o => some (s.push ⟨.set o.set, o.depth, false⟩))
  · exact local_dropLazy.filterMap fun _ => s.repeat? fun e => .alt e .empty
  · exact local_dropLazy.filterMap fun _ => s.repeat? .star
  · exact local_dropLazy.filterMap fun _ => s.repeat? fun e => .times e 1 none
  · refine ((local_bounds (f := s.flags)).bind fun p => local_dropLazy.filterMap fun _ =>
      s.repeat? fun e => .times e p.1 p.2).of_eq fun t => ?_
    refine congrArg _ (funext fun ⟨p, rest⟩ => ?_)
    simp only
    cases s.repeat? fun e => .times e p.1 p.2 <;> rfl
  · exact absurd rfl plain
  · exact (Local.pure ()).filterMap (fun _ => s.dot?)
  · exact .pure _
  · exact .pure _
  · exact .pure _

theorem step_escape (s : Parse) (t : List Char) :
    s.step? ('\\' :: t) = (escape? s.flags t).bind fun p => (s.primitive? p.1).map (·, p.2) := by
  rw [Parse.step?]
  refine congrArg _ (funext fun ⟨p, rest⟩ => ?_)
  simp only
  cases s.primitive? p <;> rfl

theorem step_suffix (h : s.step? t = some (s', r)) : r <:+ t.tail := by
  rcases t with _ | ⟨c, t⟩
  · cases h
  by_cases escaped : c = '\\'
  · subst escaped
    rw [step_escape] at h
    obtain ⟨⟨p, rest⟩, read, h⟩ := Option.bind_eq_some_iff.mp h
    obtain ⟨s'', -, same⟩ := Option.map_eq_some_iff.mp h
    cases same
    rcases t with _ | ⟨d, t⟩
    · cases read
    · exact (escape_suffix read).trans (List.suffix_cons d t)
  · exact (local_step escaped).suffix h

/-- A brace behind which nothing counts before the ending: no repetition, and no other token. -/
def Stuck (f : Flags) (t : List Char) : Prop := ∃ rest, t = '\x7b' :: rest ∧ skip f rest = ending

theorem step_inner (h : s.step? (t ++ ending) = some (s', r ++ ending)) :
    s.step? t = some (s', r) ∨ s'.flags = s.flags ∧ Stuck s.flags (r ++ ending) := by
  rcases t with _ | ⟨c, t⟩
  · exact absurd (step_suffix h) (not_inner (by decide))
  by_cases escaped : c = '\\'
  · subst escaped
    rw [List.cons_append, step_escape] at h
    obtain ⟨⟨p, rest⟩, read, h⟩ := Option.bind_eq_some_iff.mp h
    obtain ⟨s'', pushed, same⟩ := Option.map_eq_some_iff.mp h
    obtain ⟨rfl, rfl⟩ := Prod.mk.inj same
    rcases escape_inner read with inner | ⟨a, rest, rfl, rfl, nothing⟩
    · left
      rw [step_escape, inner, Option.bind_some, pushed]
      rfl
    · right
      cases pushed
      exact ⟨rfl, rest ++ ending, rfl, nothing⟩
  · exact .inl ((local_step escaped).inner h)

theorem run_of_stuck {n : Nat} (stuck : Stuck s.flags t) : Parse.run? n s t = none := by
  obtain ⟨rest, rfl, nothing⟩ := stuck
  have brace : skip s.flags ('\x7b' :: rest) = '\x7b' :: rest := by
    rw [skip]
    split <;> rfl
  have none : s.step? ('\x7b' :: rest) = none := by
    rw [Parse.step?, bounds_of_nothing nothing]
    rfl
  cases n with
  | zero =>
    rw [Parse.run?, brace]
  | succ n =>
    rw [Parse.run?, brace]
    simp only [none]
    rfl

end Rehearsal.Regex
