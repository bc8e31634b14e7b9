import Rehearsal.Regex.Basic

/-!
What an expression matches, said by its parts alone: a stretch of a text between the characters on its two sides.
To read a text once and to keep what may follow finds the same stretches.
-/
namespace Rehearsal.Regex

/-- Stretches of texts, each between the character before it and the one behind it. -/
abbrev Stretch := Option Char → List Char → Option Char → Prop

namespace Stretch

def nothing : Stretch := fun _ t _ => t = []

def andThen (M N : Stretch) : Stretch := fun before t behind =>
  ∃ u v, t = u ++ v ∧ M before u (v.head?.or behind) ∧ N (u.getLast?.or before) v behind

def rest (M : Stretch) (before : Option Char) (c : Char) : Stretch := fun _ t behind => M before (c :: t) behind

def repeated (M : Stretch) : Nat → Stretch
  | 0 => nothing
  | n + 1 => M.andThen (M.repeated n)

end Stretch

def Expr.Matches : Expr → Stretch
  | .empty => .nothing
  | .set s => fun _ t _ => ∃ c, t = [c] ∧ s.mem c = true
  | .anchor p => fun before t behind => t = [] ∧ p.holds ⟨before, behind⟩ = true
  | .seq r s => r.Matches.andThen s.Matches
  | .alt r s => fun before t behind => r.Matches before t behind ∨ s.Matches before t behind
  | .star r => fun before t behind => ∃ n, r.Matches.repeated n before t behind
  | .times r least most => fun before t behind =>
    ∃ n, least ≤ n ∧ (∀ m ∈ most, n ≤ m) ∧ r.Matches.repeated n before t behind

def MatchesAll : List Expr → Stretch
  | [] => .nothing
  | r :: k => r.Matches.andThen (MatchesAll k)

def Expr.Bounded : Expr → Prop
  | .empty | .set _ | .anchor _ => True
  | .seq r s | .alt r s => r.Bounded ∧ s.Bounded
  | .star r => r.Bounded
  | .times r least most => r.Bounded ∧ ∀ m ∈ most, least ≤ m

section
variable {M N P : Stretch} {before behind : Option Char} {c : Char} {t : List Char} {n : Nat}

theorem last_cons : (c :: t).getLast?.or before = t.getLast?.or (some c) := by
  cases t <;> simp [List.getLast?_cons]

namespace Stretch

theorem nothing_andThen : nothing.andThen N = N := by
  funext before t behind
  apply propext
  constructor
  · rintro ⟨_, v, rfl, rfl, whole⟩
    exact whole
  · exact fun whole => ⟨[], t, rfl, rfl, whole⟩

theorem andThen_nothing : M.andThen nothing = M := by
  funext before t behind
  simp [andThen, nothing]

theorem andThen_assoc : (M.andThen N).andThen P = M.andThen (N.andThen P) := by
  funext before t behind
  apply propext
  constructor
  · rintro ⟨_, w, rfl, ⟨u, v, rfl, first, second⟩, third⟩
    refine ⟨u, v ++ w, List.append_assoc u v w, ?_, v, w, rfl, second, ?_⟩
    · rwa [List.head?_append, Option.or_assoc]
    · rwa [← Option.or_assoc, ← List.getLast?_append]
  · rintro ⟨u, _, rfl, first, v, w, rfl, second, third⟩
    refine ⟨u ++ v, w, (List.append_assoc u v w).symm, ⟨u, v, rfl, ?_, second⟩, ?_⟩
    · rwa [← Option.or_assoc, ← List.head?_append]
    · rwa [List.getLast?_append, Option.or_assoc]

theorem andThen_nil : M.andThen N before [] behind ↔ M before [] behind ∧ N before [] behind := by
  constructor
  · rintro ⟨u, v, empty, first, second⟩
    obtain ⟨rfl, rfl⟩ := List.append_eq_nil_iff.mp empty.symm
    exact ⟨first, second⟩
  · rintro ⟨first, second⟩
    exact ⟨[], [], rfl, first, second⟩

/-- The first character belongs to the second stretch or to the first one. -/
theorem andThen_cons : M.andThen N before (c :: t) behind ↔
    (M before [] (some c) ∧ N before (c :: t) behind) ∨
      (M.rest before c).andThen N (some c) t behind := by
  constructor
  · rintro ⟨u, v, parts, first, second⟩
    cases u with
    | nil =>
      obtain rfl : c :: t = v := parts
      exact .inl ⟨first, second⟩
    | cons d u =>
      obtain ⟨rfl, rfl⟩ := List.cons.inj parts
      exact .inr ⟨u, v, rfl, first, last_cons ▸ second⟩
  · rintro (⟨first, second⟩ | ⟨u, v, rfl, first, second⟩)
    · exact ⟨[], c :: t, rfl, first, second⟩
    · exact ⟨c :: u, v, rfl, first, last_cons.symm ▸ second⟩

theorem repeated_nil : M.repeated n before [] behind ↔ (0 < n → M before [] behind) := by
  induction n with
  | zero => simp [repeated, nothing]
  | succ n ih =>
    rw [repeated, andThen_nil, ih]
    constructor
    · exact fun both _ => both.1
    · exact fun one => ⟨one n.succ_pos, fun _ => one n.succ_pos⟩

/-- Repetitions that match nothing come first, then the one that takes the first character, then the others. -/
theorem repeated_cons : M.repeated n before (c :: t) behind ↔
    ∃ i m, n = i + (m + 1) ∧ (0 < i → M before [] (some c)) ∧
      (M.rest before c).andThen (M.repeated m) (some c) t behind := by
  induction n with
  | zero => simp [repeated, nothing]
  | succ n ih =>
    rw [repeated, andThen_cons, ih]
    constructor
    · rintro (⟨empty, i, m, rfl, -, later⟩ | later)
      · exact ⟨i + 1, m, by omega, fun _ => empty, later⟩
      · exact ⟨0, n, by omega, nofun, later⟩
    · rintro ⟨i, m, count, empty, later⟩
      cases i with
      | zero =>
        obtain rfl : n = m := by omega
        exact .inr later
      | succ i => exact .inl ⟨empty i.succ_pos, i, m, by omega, fun _ => empty i.succ_pos, later⟩

end Stretch

theorem matchesAll_append (k l : List Expr) : MatchesAll (k ++ l) = (MatchesAll k).andThen (MatchesAll l) := by
  induction k with
  | nil => exact Stretch.nothing_andThen.symm
  | cons r k ih => rw [List.cons_append, MatchesAll, MatchesAll, ih, Stretch.andThen_assoc]

theorem matchesAll_singleton (r : Expr) : MatchesAll [r] = r.Matches := Stretch.andThen_nothing

/-- An expression skips a place where it matches nothing. -/
theorem Expr.Bounded.skips_iff {r : Expr} (bounded : r.Bounded) :
    r.skips ⟨before, behind⟩ = true ↔ r.Matches before [] behind := by
  induction r with
  | empty => simp [skips, Matches, Stretch.nothing]
  | set s => simp [skips, Matches]
  | anchor a => simp [skips, Matches]
  | seq r s ihr ihs => simp [skips, Matches, Stretch.andThen_nil, ihr bounded.1, ihs bounded.2]
  | alt r s ihr ihs => simp [skips, Matches, ihr bounded.1, ihs bounded.2]
  | star r ih =>
    simp only [skips, Matches, true_iff]
    exact ⟨0, rfl⟩
  | times r least most ih =>
    simp only [skips, Matches, Bool.or_eq_true, beq_iff_eq, ih bounded.1, Stretch.repeated_nil]
    constructor
    · rintro (rfl | empty)
      · exact ⟨0, Nat.le_refl _, fun m _ => m.zero_le, nofun⟩
      · exact ⟨least, Nat.le_refl _, bounded.2, fun _ => empty⟩
    · rintro ⟨n, enough, -, empty⟩
      by_cases none : least = 0
      · exact .inl none
      · exact .inr (empty (by omega))

theorem Expr.Bounded.step {r : Expr} (bounded : r.Bounded) (p : Place) :
    ∀ k ∈ r.step p c, ∀ s ∈ k, s.Bounded := by
  induction r with
  | empty => simp [Expr.step]
  | set s => simp [Expr.step]
  | anchor a => simp [Expr.step]
  | seq r s ihr ihs =>
    simp only [Expr.step, List.mem_append, List.mem_map]
    rintro _ (⟨k, hk, rfl⟩ | hk) q hq
    · rcases List.mem_append.mp hq with inside | last
      · exact ihr bounded.1 k hk q inside
      · exact List.mem_singleton.mp last ▸ bounded.2
    · split at hk
      · exact ihs bounded.2 _ hk q hq
      · cases hk
  | alt r s ihr ihs =>
    simp only [Expr.step, List.mem_append]
    rintro k (hk | hk)
    · exact ihr bounded.1 k hk
    · exact ihs bounded.2 k hk
  | star r ih =>
    simp only [Expr.step, List.mem_map]
    rintro _ ⟨k, hk, rfl⟩ q hq
    rcases List.mem_append.mp hq with inside | last
    · exact ih bounded k hk q inside
    · exact List.mem_singleton.mp last ▸ bounded
  | times r least most ih =>
    simp only [Expr.step]
    split
    · nofun
    · simp only [List.mem_map]
      rintro _ ⟨k, hk, rfl⟩ q hq
      rcases List.mem_append.mp hq with inside | last
      · exact ih bounded.1 k hk q inside
      · obtain rfl := List.mem_singleton.mp last
        refine ⟨bounded.1, fun m hm => ?_⟩
        obtain ⟨m', hm', rfl⟩ := Option.map_eq_some_iff.mp hm
        have := bounded.2 m' hm'
        split <;> omega

def Stretch.GoesOn (M : Stretch) (before : Option Char) (c : Char) (choices : List (List Expr)) : Prop :=
  ∀ t behind, M before (c :: t) behind ↔ ∃ k ∈ choices, MatchesAll k (some c) t behind

theorem Stretch.GoesOn.followed {choices : List (List Expr)} (goes : M.GoesOn before c choices) (l : List Expr)
    (t : List Char) (behind : Option Char) :
    (M.rest before c).andThen (MatchesAll l) (some c) t behind ↔
      ∃ k ∈ choices.map (· ++ l), MatchesAll k (some c) t behind := by
  constructor
  · rintro ⟨u, v, rfl, first, second⟩
    obtain ⟨k, hk, first⟩ := (goes u _).mp first
    refine ⟨k ++ l, List.mem_map_of_mem hk, ?_⟩
    rw [matchesAll_append]
    exact ⟨u, v, rfl, first, second⟩
  · rintro ⟨_, longer, both⟩
    obtain ⟨k, hk, rfl⟩ := List.mem_map.mp longer
    rw [matchesAll_append] at both
    obtain ⟨u, v, rfl, first, second⟩ := both
    exact ⟨u, v, rfl, (goes u _).mpr ⟨k, hk, first⟩, second⟩

/- Repetitions that match nothing fill up what is missing of the least number. -/
theorem exists_count {least : Nat} {most : Option Nat} (bounded : ∀ x ∈ most, least ≤ x) (positive : most ≠ some 0)
    (empty : Prop) [Decidable empty] (X : Nat → Prop) :
    (∃ n, least ≤ n ∧ (∀ x ∈ most, n ≤ x) ∧ ∃ i m, n = i + (m + 1) ∧ (0 < i → empty) ∧ X m) ↔
      ∃ m, (if empty then 0 else least - 1) ≤ m ∧ (∀ x ∈ most.map (· - 1), m ≤ x) ∧ X m := by
  constructor
  · rintro ⟨n, enough, few, i, m, rfl, fill, h⟩
    refine ⟨m, ?_, ?_, h⟩
    · split
      · exact m.zero_le
      · next full =>
        have : i = 0 := Nat.eq_zero_of_not_pos fun some => full (fill some)
        omega
    · rintro x hx
      obtain ⟨y, hy, rfl⟩ := Option.map_eq_some_iff.mp hx
      have := few y hy
      omega
  · rintro ⟨m, enough, few, h⟩
    refine ⟨max least (m + 1), Nat.le_max_left .., fun x hx => ?_, max least (m + 1) - (m + 1), m, by omega, fun some => ?_, h⟩
    · have least_le := bounded x hx
      have m_le := few (x - 1) (Option.map_eq_some_iff.mpr ⟨x, hx, rfl⟩)
      have : x ≠ 0 := by
        rintro rfl
        exact positive hx
      omega
    · split at enough
      · assumption
      · omega

/-- What may follow once a character is read is what the rest of the text has to match. -/
theorem Expr.Bounded.goesOn {r : Expr} (bounded : r.Bounded) : r.Matches.GoesOn before c (r.step ⟨before, some c⟩ c) := by
  induction r with
  | empty => simp [Stretch.GoesOn, Matches, Stretch.nothing, Expr.step]
  | set s =>
    intro t behind
    simp only [Matches, Expr.step]
    by_cases mem : s.mem c
    · simp only [mem, if_true, List.mem_singleton, exists_eq_left, MatchesAll, Stretch.nothing]
      constructor
      · rintro ⟨d, same, -⟩
        exact (List.cons.inj same).2
      · rintro rfl
        exact ⟨c, rfl, mem⟩
    · simp [mem]
  | anchor a => simp [Stretch.GoesOn, Matches, Expr.step]
  | seq r s ihr ihs =>
    intro t behind
    have last := (ihr bounded.1).followed [s] t behind
    rw [matchesAll_singleton] at last
    rw [Matches, Stretch.andThen_cons, last, ← bounded.1.skips_iff, ihs bounded.2 t behind, Expr.step]
    simp only [List.mem_append, or_and_right, exists_or]
    rw [Or.comm]
    by_cases skips : r.skips ⟨before, some c⟩ <;> simp [skips]
  | alt r s ihr ihs =>
    intro t behind
    simp only [Matches, Expr.step, ihr bounded.1 t behind, ihs bounded.2 t behind, List.mem_append, or_and_right, exists_or]
  | star r ih =>
    intro t behind
    have later := (ih bounded).followed [.star r] t behind
    rw [matchesAll_singleton] at later
    rw [Expr.step, ← later]
    simp only [Matches, Stretch.repeated_cons]
    constructor
    · rintro ⟨-, -, m, -, -, u, v, rfl, first, others⟩
      exact ⟨u, v, rfl, first, m, others⟩
    · rintro ⟨u, v, rfl, first, m, others⟩
      exact ⟨m + 1, 0, m, by omega, nofun, u, v, rfl, first, others⟩
  | times r least most ih =>
    intro t behind
    by_cases none : most = some 0
    · subst none
      simp only [Expr.step, if_true, List.not_mem_nil, false_and, exists_false, iff_false]
      rintro ⟨n, -, few, whole⟩
      obtain rfl := Nat.le_zero.mp (few 0 rfl)
      cases whole
    · have later := (ih bounded.1).followed
        [.times r (if r.skips ⟨before, some c⟩ then 0 else least - 1) (most.map (· - 1))] t behind
      rw [matchesAll_singleton] at later
      simp only [Expr.step, if_neg none]
      rw [← later]
      simp only [Matches, Stretch.repeated_cons, ← bounded.1.skips_iff]
      rw [exists_count bounded.2 none]
      constructor
      · rintro ⟨m, enough, few, u, v, rfl, first, others⟩
        exact ⟨u, v, rfl, first, m, enough, few, others⟩
      · rintro ⟨u, v, rfl, first, m, enough, few, others⟩
        exact ⟨m, enough, few, u, v, rfl, first, others⟩

end

section
variable {before behind : Option Char} {c : Char} {t : List Char} {k : List Expr} {choices : List (List Expr)}

def BoundedAll (k : List Expr) : Prop := ∀ r ∈ k, r.Bounded

theorem BoundedAll.skips_iff (bounded : BoundedAll k) :
    skipsAll ⟨before, behind⟩ k = true ↔ MatchesAll k before [] behind := by
  induction k with
  | nil => simp [skipsAll, MatchesAll, Stretch.nothing]
  | cons r k ih =>
    have later := ih fun s hs => bounded s (List.mem_cons_of_mem r hs)
    have first : r.skips ⟨before, behind⟩ = true ↔ r.Matches before [] behind := (bounded r List.mem_cons_self).skips_iff
    rw [MatchesAll, Stretch.andThen_nil, ← first, ← later, skipsAll, List.all_cons, Bool.and_eq_true, skipsAll]

theorem BoundedAll.goesOn (bounded : BoundedAll k) :
    (MatchesAll k).GoesOn before c (stepAll ⟨before, some c⟩ c k) := by
  induction k with
  | nil => simp [Stretch.GoesOn, MatchesAll, Stretch.nothing, stepAll]
  | cons r k ih =>
    intro t behind
    have first := bounded r List.mem_cons_self
    have later := ih fun s hs => bounded s (List.mem_cons_of_mem r hs)
    rw [MatchesAll, Stretch.andThen_cons, first.goesOn.followed k, ← first.skips_iff, later t behind, stepAll]
    simp only [List.mem_append, or_and_right, exists_or]
    rw [Or.comm]
    by_cases skips : r.skips ⟨before, some c⟩ <;> simp [skips]

theorem BoundedAll.step (bounded : BoundedAll k) (p : Place) : ∀ l ∈ stepAll p c k, BoundedAll l := by
  induction k with
  | nil => simp [stepAll]
  | cons r k ih =>
    have inner : BoundedAll k := fun s hs => bounded s (List.mem_cons_of_mem r hs)
    simp only [stepAll, List.mem_append, List.mem_map]
    rintro _ (⟨l, hl, rfl⟩ | hl)
    · intro s hs
      rcases List.mem_append.mp hs with inside | last
      · exact (bounded r List.mem_cons_self).step p l hl s inside
      · exact inner s last
    · split at hl
      · exact ih inner _ hl
      · cases hl

def Begins (k : List Expr) (before : Option Char) (t : List Char) : Prop :=
  ∃ u v, t = u ++ v ∧ MatchesAll k before u v.head?

theorem begins_nil (bounded : BoundedAll k) : Begins k before [] ↔ skipsAll ⟨before, none⟩ k = true := by
  rw [bounded.skips_iff]
  constructor
  · rintro ⟨u, v, empty, whole⟩
    obtain ⟨rfl, rfl⟩ := List.append_eq_nil_iff.mp empty.symm
    exact whole
  · exact fun whole => ⟨[], [], rfl, whole⟩

theorem begins_cons (bounded : BoundedAll k) : Begins k before (c :: t) ↔
    skipsAll ⟨before, some c⟩ k = true ∨ ∃ l ∈ stepAll ⟨before, some c⟩ c k, Begins l (some c) t := by
  rw [bounded.skips_iff]
  constructor
  · rintro ⟨u, v, parts, whole⟩
    cases u with
    | nil =>
      obtain rfl : c :: t = v := parts
      exact .inl whole
    | cons d u =>
      obtain ⟨rfl, rfl⟩ := List.cons.inj parts
      obtain ⟨l, hl, later⟩ := (bounded.goesOn u v.head?).mp whole
      exact .inr ⟨l, hl, u, v, rfl, later⟩
  · rintro (whole | ⟨l, hl, u, v, rfl, later⟩)
    · exact ⟨[], c :: t, rfl, whole⟩
    · exact ⟨c :: u, v, rfl, (bounded.goesOn u v.head?).mpr ⟨l, hl, later⟩⟩

theorem exists_begins_iff (all : ∀ k ∈ choices, BoundedAll k) : (∃ k ∈ choices, Begins k before (c :: t)) ↔
    choices.any (skipsAll ⟨before, some c⟩) = true ∨
      ∃ l ∈ stepChoices ⟨before, some c⟩ c choices, Begins l (some c) t := by
  simp only [stepChoices, List.mem_eraseDups, List.mem_flatMap, List.any_eq_true]
  constructor
  · rintro ⟨k, hk, begins⟩
    rcases (begins_cons (all k hk)).mp begins with skips | ⟨l, hl, later⟩
    · exact .inl ⟨k, hk, skips⟩
    · exact .inr ⟨l, ⟨k, hk, hl⟩, later⟩
  · rintro (⟨k, hk, skips⟩ | ⟨l, ⟨k, hk, hl⟩, later⟩)
    · exact ⟨k, hk, (begins_cons (all k hk)).mpr (.inl skips)⟩
    · exact ⟨k, hk, (begins_cons (all k hk)).mpr (.inr ⟨l, hl, later⟩)⟩

/-- A search finds what begins in the choices, and what begins anywhere with the expression. -/
theorem searchFrom_iff {r : Expr} (bounded : r.Bounded) (all : ∀ k ∈ choices, BoundedAll k) :
    searchFrom r before choices t = true ↔
      (∃ k ∈ choices, Begins k before t) ∨ ∃ x y, t = x ++ y ∧ Begins [r] (x.getLast?.or before) y := by
  have front (before : Option Char) (choices : List (List Expr)) (t : List Char) :
      (∃ k ∈ [r] :: choices, Begins k before t) ↔ (∃ k ∈ choices, Begins k before t) ∨ Begins [r] before t := by
    simp [or_comm]
  induction t generalizing before choices with
  | nil =>
    have every : ∀ k ∈ [r] :: choices, BoundedAll k := List.forall_mem_cons.mpr ⟨List.forall_mem_singleton.mpr bounded, all⟩
    have here : searchFrom r before choices [] = true ↔ ∃ k ∈ [r] :: choices, Begins k before [] := by
      rw [searchFrom, List.any_eq_true]
      exact exists_congr fun k => and_congr_right fun hk => (begins_nil (every k hk)).symm
    rw [here, front]
    refine or_congr_right ⟨fun begins => ⟨[], [], rfl, begins⟩, ?_⟩
    rintro ⟨x, y, parts, begins⟩
    obtain ⟨rfl, rfl⟩ := List.append_eq_nil_iff.mp parts.symm
    exact begins
  | cons c t ih =>
    have every : ∀ k ∈ [r] :: choices, BoundedAll k := List.forall_mem_cons.mpr ⟨List.forall_mem_singleton.mpr bounded, all⟩
    have next : ∀ l ∈ stepChoices ⟨before, some c⟩ c ([r] :: choices), BoundedAll l := by
      intro l hl
      obtain ⟨k, hk, inside⟩ := List.mem_flatMap.mp (List.mem_eraseDups.mp hl)
      exact (every k hk).step _ l inside
    simp only [searchFrom, Bool.or_eq_true, ih next]
    rw [← or_assoc, ← exists_begins_iff every, front, or_assoc]
    refine or_congr_right ?_
    constructor
    · rintro (begins | ⟨x, y, rfl, begins⟩)
      · exact ⟨[], c :: t, rfl, begins⟩
      · exact ⟨c :: x, y, rfl, last_cons.symm ▸ begins⟩
    · rintro ⟨x, y, parts, begins⟩
      cases x with
      | nil =>
        obtain rfl : c :: t = y := parts
        exact .inl begins
      | cons d x =>
        obtain ⟨rfl, rfl⟩ := List.cons.inj parts
        exact .inr ⟨x, y, rfl, last_cons ▸ begins⟩

end

/-- An expression occurs in a text where it matches some part of it. -/
theorem Expr.Bounded.occursIn_iff {r : Expr} (bounded : r.Bounded) (text : List Char) :
    r.occursIn text = true ↔ ∃ x u v, text = x ++ (u ++ v) ∧ r.Matches x.getLast? u v.head? := by
  have found : searchFrom r none [] text = true ↔ _ := searchFrom_iff bounded nofun
  rw [Expr.occursIn, found]
  simp only [List.not_mem_nil, false_and, exists_false, false_or, Begins, matchesAll_singleton, Option.or_none]
  constructor
  · rintro ⟨x, _, rfl, u, v, rfl, whole⟩
    exact ⟨x, u, v, rfl, whole⟩
  · rintro ⟨x, u, v, rfl, whole⟩
    exact ⟨x, u ++ v, rfl, u, v, rfl, whole⟩

/-- Between the ends of the text there is the whole of it. -/
theorem occursIn_between_ends {r : Expr} (bounded : r.Bounded) (text : List Char) :
    (Expr.seq (.anchor .textStart) (.seq r (.seq (.anchor .textEnd) .empty))).occursIn text = true ↔
      r.Matches none text none := by
  have whole : (Expr.seq (.anchor .textStart) (.seq r (.seq (.anchor .textEnd) .empty))).Bounded :=
    ⟨trivial, bounded, trivial, trivial⟩
  rw [whole.occursIn_iff]
  simp only [Expr.Matches, Stretch.andThen_nothing]
  constructor
  · rintro ⟨x, _, z, rfl, _, _, rfl, ⟨rfl, first⟩, u, _, rfl, matched, rfl, last⟩
    obtain rfl : x = [] := by simpa [Anchor.holds] using first
    obtain rfl : z = [] := by simpa [Anchor.holds] using last
    simpa using matched
  · intro matched
    refine ⟨[], text, [], by simp, [], text, rfl, ⟨rfl, rfl⟩, text, [], by simp, by simpa using matched, rfl, rfl⟩

end Rehearsal.Regex
