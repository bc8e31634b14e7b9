import Rehearsal.Proofs.Regex.Reading
import Rehearsal.Proofs.Regex.Language
import Rehearsal.Regex.Syntax

/-!
What a token does to the levels of a pattern. Whatever is read, no repetition asks for more than it allows, and behind
the whole pattern no flags are set.
-/
namespace Rehearsal.Regex

section
variable {α : Type} {f : Flags} {t r : List Char}

theorem closed?_eq_some {v : Option α} {x : α} (h : closed? f v t = some (x, r)) : v = some x := by
  rw [closed?.eq_def] at h
  split at h
  · obtain ⟨y, rfl, same⟩ := Option.map_eq_some_iff.mp h
    cases same
    rfl
  · cases h

theorem upTo?_le {found : Option Nat} {least : Nat} {most : Option Nat} (h : upTo? f found t = some ((least, most), r)) :
    ∀ m ∈ most, least ≤ m := by
  rw [upTo?.eq_def] at h
  split at h
  · obtain ⟨n, -, same⟩ := Option.map_eq_some_iff.mp (closed?_eq_some h)
    cases same
    exact nofun
  · obtain ⟨⟨n, rest⟩, -, h⟩ := Option.bind_eq_some_iff.mp h
    obtain ⟨least, -, h⟩ := Option.bind_eq_some_iff.mp (closed?_eq_some h)
    obtain ⟨most, -, h⟩ := Option.bind_eq_some_iff.mp h
    split at h
    · next le =>
      cases h
      rintro _ ⟨⟩
      exact le
    · cases h

theorem bounds_le {least : Nat} {most : Option Nat} (h : bounds? f t = some ((least, most), r)) : ∀ m ∈ most, least ≤ m := by
  rw [bounds?_eq] at h
  obtain ⟨⟨n, rest⟩, -, h⟩ := Option.bind_eq_some_iff.mp h
  rw [peeked] at h
  split at h
  · exact upTo?_le h
  · obtain ⟨n, -, same⟩ := Option.map_eq_some_iff.mp (closed?_eq_some h)
    cases same
    rintro _ ⟨⟩
    exact Nat.le_refl _

end

inductive Parse.Turn (s : Parse) : Parse → Prop
  | pushed (p : Part) (flags : Flags) (bounded : p.expr.Bounded) : Turn s ({ s with flags }.push p)
  | opened (flags : Flags) (names : List (List Char)) : Turn s ({ s with names }.openGroup flags)
  | closed {s' : Parse} (h : s.closeGroup? = some s') : Turn s s'
  | branched : Turn s s.branch
  | repeated {s' : Parse} {times : Expr → Expr} (h : s.repeat? times = some s')
    (bounded : ∀ e, e.Bounded → (times e).Bounded) : Turn s s'

section
variable {s s' : Parse} {t r : List Char}

theorem openNamed_turn (h : s.openNamed? t = some (s', r)) : s.Turn s' := by
  obtain ⟨⟨name, rest⟩, -, h⟩ := Option.bind_eq_some_iff.mp h
  dsimp only at h
  split at h
  · cases h
  · cases h
    exact .opened s.flags (name :: s.names)

theorem group_turn (h : s.group? t = some (s', r)) : s.Turn s' := by
  rw [Parse.group?] at h
  split at h
  · exact openNamed_turn h
  · cases h
  · cases h
  · cases h
  · cases h
  · exact openNamed_turn h
  · obtain ⟨⟨f, any, last, rest⟩, -, h⟩ := Option.bind_eq_some_iff.mp h
    dsimp only at h
    split at h
    · split at h
      · cases h
        exact .pushed ⟨.empty, 0, true⟩ f trivial
      · cases h
    · cases h
      exact .opened f s.names
  · cases h
    exact .opened s.flags s.names

theorem primitive_turn {p : Primitive} (h : s.primitive? p = some s') : s.Turn s' := by
  unfold Parse.primitive? at h
  split at h
  · cases h
  · split at h <;> cases h <;> exact .pushed _ s.flags trivial

theorem dot_turn (h : s.dot? = some s') : s.Turn s' := by
  rw [Parse.dot?] at h
  split at h
  · cases h
  · cases h
    exact .pushed _ s.flags trivial

theorem step_turn (h : s.step? t = some (s', r)) : s.Turn s' := by
  rcases t with _ | ⟨c, t⟩
  · cases h
  have repeated {times : Expr → Expr} (h : (s.repeat? times).map (·, dropLazy t) = some (s', r))
      (bounded : ∀ e, e.Bounded → (times e).Bounded) : s.Turn s' := by
    obtain ⟨s'', read, same⟩ := Option.map_eq_some_iff.mp h
    cases same
    exact .repeated read bounded
  unfold Parse.step? at h
  dsimp only at h
  split at h
  · exact group_turn h
  · obtain ⟨s'', read, same⟩ := Option.map_eq_some_iff.mp h
    cases same
    exact .closed read
  · cases h
    exact .branched
  · obtain ⟨⟨o, rest⟩, -, h⟩ := Option.bind_eq_some_iff.mp h
    cases h
    exact .pushed _ s.flags trivial
  · exact repeated h fun e bounded => ⟨bounded, trivial⟩
  · exact repeated h fun e bounded => bounded
  · exact repeated h fun e bounded => ⟨bounded, nofun⟩
  · obtain ⟨⟨⟨least, most⟩, rest⟩, found, h⟩ := Option.bind_eq_some_iff.mp h
    obtain ⟨s'', read, h⟩ := Option.bind_eq_some_iff.mp h
    cases h
    exact .repeated read fun e bounded => ⟨bounded, bounds_le found⟩
  · obtain ⟨⟨p, rest⟩, -, h⟩ := Option.bind_eq_some_iff.mp h
    obtain ⟨s'', read, h⟩ := Option.bind_eq_some_iff.mp h
    cases h
    exact primitive_turn read
  · obtain ⟨s'', read, same⟩ := Option.map_eq_some_iff.mp h
    cases same
    exact dot_turn read
  · cases h
    exact .pushed _ s.flags trivial
  · cases h
    exact .pushed _ s.flags trivial
  · cases h
    exact .pushed _ s.flags trivial

end

structure Level.Bounded (l : Level) : Prop where
  parts : ∀ p ∈ l.parts, p.expr.Bounded
  branches : ∀ p ∈ l.branches, p.expr.Bounded

theorem foldl_bounded (join : Expr → Expr → Expr) (joined : ∀ a b, a.Bounded → b.Bounded → (join a b).Bounded)
    {parts : List Part} (bounded : ∀ p ∈ parts, p.expr.Bounded) {e : Expr} (last : e.Bounded) :
    (parts.foldl (fun e p => join p.expr e) e).Bounded := by
  induction parts generalizing e with
  | nil => exact last
  | cons p parts ih =>
    obtain ⟨first, others⟩ := List.forall_mem_cons.mp bounded
    exact ih others (joined _ _ first last)

theorem sequence_bounded {parts : List Part} (bounded : ∀ p ∈ parts, p.expr.Bounded) : (sequence parts).expr.Bounded := by
  rw [sequence.eq_def]
  split
  · trivial
  · exact bounded _ List.mem_cons_self
  · exact foldl_bounded .seq (fun _ _ first last => ⟨first, last⟩) bounded trivial

theorem Level.Bounded.close {l : Level} (bounded : l.Bounded) : l.close.expr.Bounded := by
  have last := sequence_bounded bounded.parts
  rw [Level.close]
  split
  · exact last
  · exact foldl_bounded .alt (fun _ _ first last => ⟨first, last⟩) bounded.branches last

structure Parse.Sound (s : Parse) : Prop where
  level : s.level.Bounded
  above : ∀ l ∈ s.above, l.Bounded
  outermost : (s.level :: s.above).getLast?.map (·.outer) = some {}

theorem outermost_congr {l m : Level} {above : List Level} (outer : l.outer = m.outer) :
    (l :: above).getLast?.map (·.outer) = (m :: above).getLast?.map (·.outer) := by
  cases above with
  | nil => simp [outer]
  | cons a above => simp

namespace Parse.Sound
variable {s s' : Parse} {t : List Char}

theorem start : ({} : Parse).Sound where
  level := ⟨nofun, nofun⟩
  above := nofun
  outermost := rfl

theorem push (sound : s.Sound) {p : Part} (bounded : p.expr.Bounded) (flags : Flags) :
    ({ s with flags }.push p).Sound where
  level := ⟨List.forall_mem_cons.mpr ⟨bounded, sound.level.parts⟩, sound.level.branches⟩
  above := sound.above
  outermost := by
    rw [← sound.outermost]
    exact outermost_congr rfl

theorem turn (sound : s.Sound) (h : s.Turn s') : s'.Sound := by
  cases h with
  | pushed p flags bounded => exact sound.push bounded flags
  | opened flags names =>
    refine ⟨⟨nofun, nofun⟩, List.forall_mem_cons.mpr ⟨sound.level, sound.above⟩, ?_⟩
    rw [← sound.outermost]
    rfl
  | closed h =>
    rw [closeGroup?] at h
    split at h
    · cases h
    · next l above shape =>
      cases h
      have levels := sound.above
      rw [shape] at levels
      obtain ⟨first, others⟩ := List.forall_mem_cons.mp levels
      have below : ({ s with level := l, above } : Parse).Sound := by
        refine ⟨first, others, ?_⟩
        rw [← sound.outermost, shape]
        rfl
      exact below.push (p := ⟨s.level.close.expr, s.level.close.depth + 1, false⟩) sound.level.close s.level.outer
  | branched =>
    refine ⟨⟨nofun, List.forall_mem_cons.mpr ⟨sequence_bounded sound.level.parts, sound.level.branches⟩⟩, sound.above, ?_⟩
    rw [← sound.outermost]
    exact outermost_congr rfl
  | repeated h bounded =>
    rw [repeat?] at h
    split at h
    · next p parts shape =>
      split at h
      · cases h
      · cases h
        have inner := sound.level.parts
        rw [shape] at inner
        obtain ⟨first, others⟩ := List.forall_mem_cons.mp inner
        refine ⟨⟨List.forall_mem_cons.mpr ⟨bounded _ first, others⟩, sound.level.branches⟩, sound.above, ?_⟩
        rw [← sound.outermost]
        exact outermost_congr rfl
    · cases h

theorem run {n : Nat} (sound : s.Sound) (h : run? n s t = some s') : s'.Sound := by
  induction n generalizing s t with
  | zero =>
    rw [run?] at h
    split at h
    · cases h
      exact sound
    · cases h
  | succ n ih =>
    rw [run?] at h
    split at h
    · cases h
      exact sound
    · obtain ⟨⟨s₁, rest⟩, step, h⟩ := Option.bind_eq_some_iff.mp h
      exact ih (sound.turn (step_turn step)) h

end Parse.Sound
end Rehearsal.Regex
