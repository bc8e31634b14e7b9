import Rehearsal.Proofs.Regex.Reading

/-!
Bracketed classes in front of an ending. A class that is not closed before the ending is not closed at all, for the ending has
no bracket.
-/
namespace Rehearsal.Regex

variable {f : Flags}

theorem suffix_cases {r t : List Char} (h : r <:+ t ++ ending) : (∃ r', r = r' ++ ending ∧ r' <:+ t) ∨ r <:+ ['$'] := by
  obtain ⟨a, same⟩ := h
  rcases List.append_eq_append_iff.mp same with ⟨b, rfl, rfl⟩ | ⟨b, -, rest⟩
  · exact .inl ⟨b, rfl, List.suffix_append a b⟩
  · cases b with
    | nil => exact .inl ⟨[], rest.symm, List.nil_suffix⟩
    | cons d b => exact .inr ⟨b, (List.cons.inj rest).2.symm⟩

theorem inner_of_mem {r t : List Char} (h : r <:+ t ++ ending) (mem : ']' ∈ r) : ∃ r', r = r' ++ ending ∧ r' ≠ [] := by
  rcases suffix_cases h with ⟨r', rfl, -⟩ | short
  · refine ⟨r', rfl, ?_⟩
    rintro rfl
    exact absurd mem (by decide)
  · exact absurd (short.mem mem) (by decide)

theorem item_plain {c : Char} (plain : c ≠ '\\') (t : List Char) : item? f (c :: t) = some (.char c false, t) := by
  rw [item?]
  rintro rfl
  exact plain rfl

theorem item_suffix {t r : List Char} {v : Primitive} (h : item? f t = some (v, r)) : r <:+ t.tail := by
  rcases t with _ | ⟨c, t⟩
  · cases h
  · by_cases escaped : c = '\\'
    · subst escaped
      cases t with
      | nil => cases h
      | cons d t => exact (escape_suffix h).trans (List.suffix_cons d t)
    · rw [item_plain escaped] at h
      cases h
      exact List.suffix_rfl

theorem item_inner {t r : List Char} {v : Primitive} (h : item? f (t ++ ending) = some (v, r ++ ending)) :
    item? f t = some (v, r) ∨ ∃ a, v = .anchor a := by
  cases t with
  | nil => exact absurd (item_suffix h) (not_inner (by decide))
  | cons c t =>
    by_cases escaped : c = '\\'
    · subst escaped
      rcases escape_inner (t := t) h with inner | ⟨a, -, anchor, -⟩
      · exact .inl inner
      · exact .inr ⟨a, anchor⟩
    · rw [List.cons_append, item_plain escaped] at h
      obtain ⟨rfl, same⟩ := Prod.mk.inj (Option.some.inj h)
      rw [item_plain escaped, List.append_cancel_right same]
      exact .inl rfl

def behind? (f : Flags) (first : Primitive) : Reader Operand
  | [] => none
  | '-' :: after =>
    if (skip f after).head? = some ']' ∨ (skip f after).head? = some '-' then
      (first.memberSet? f).map fun s => (⟨s, 0⟩, '-' :: after)
    else (item? f (skip f after)).bind fun p => (first.member? f).bind fun a => (p.1.member? f).bind fun b =>
      if a ≤ b then some (⟨.ranges [(a, b)], 0⟩, p.2) else none
  | rest => (first.memberSet? f).map fun s => (⟨s, 0⟩, rest)

theorem behind?_plain {c : Char} (plain : c ≠ '-') (first : Primitive) (t : List Char) :
    behind? f first (c :: t) = (first.memberSet? f).map fun s => (⟨s, 0⟩, c :: t) := by
  rw [behind?]
  · exact nofun
  · rintro _ ⟨⟩
    exact plain rfl

theorem behind?_anchor (a : Anchor) (t : List Char) : behind? f (.anchor a) t = none := by
  rcases t with _ | ⟨c, t⟩
  · rfl
  · by_cases hyphen : c = '-'
    · subst hyphen
      rw [behind?]
      split
      · rfl
      · cases item? f (skip f t) <;> rfl
    · rw [behind?_plain hyphen]
      rfl

theorem behind?_suffix {first : Primitive} {t r : List Char} {o : Operand} (h : behind? f first t = some (o, r)) : r <:+ t := by
  rcases t with _ | ⟨c, t⟩
  · cases h
  · by_cases hyphen : c = '-'
    · subst hyphen
      rw [behind?] at h
      split at h
      · obtain ⟨s, -, same⟩ := Option.map_eq_some_iff.mp h
        cases same
        exact List.suffix_rfl
      · obtain ⟨⟨last, m⟩, read, h⟩ := Option.bind_eq_some_iff.mp h
        obtain ⟨a, -, h⟩ := Option.bind_eq_some_iff.mp h
        obtain ⟨b, -, h⟩ := Option.bind_eq_some_iff.mp h
        split at h
        · cases h
          exact (((item_suffix read).trans (List.tail_suffix _)).trans ((local_skip f).suffix rfl)).trans (List.suffix_cons _ t)
        · cases h
    · rw [behind?_plain hyphen] at h
      obtain ⟨s, -, same⟩ := Option.map_eq_some_iff.mp h
      cases same
      exact List.suffix_rfl

theorem behind?_ending {first : Primitive} {r : List Char} {o : Operand} (h : behind? f first ending = some (o, r ++ ending)) :
    r = [] := by
  have whole : behind? f first ending = (first.memberSet? f).map fun s => (⟨s, 0⟩, ending) := behind?_plain (by decide) first ['$']
  obtain ⟨s, -, same⟩ := Option.map_eq_some_iff.mp (whole.symm.trans h)
  exact List.self_eq_append_left.mp (Prod.mk.inj same).2

theorem behind?_inner {first : Primitive} {t r : List Char} {o : Operand}
    (h : behind? f first (t ++ ending) = some (o, r ++ ending)) (more : r ≠ []) : behind? f first t = some (o, r) := by
  rcases t with _ | ⟨c, t⟩
  · exact absurd (behind?_ending h) more
  by_cases hyphen : c = '-'
  · subst hyphen
    rw [List.cons_append, behind?] at h
    rcases skip_cases f t with ⟨some, kept⟩ | ⟨-, left | left⟩
    · have same : (skip f t ++ ending).head? = (skip f t).head? := by
        rw [List.head?_append, Option.or_of_isSome (List.isSome_head?.mpr some)]
      rw [kept, same] at h
      rw [behind?]
      split at h
      · next alone =>
        rw [if_pos alone]
        exact map_inner (m := '-' :: t) h
      · next range =>
        obtain ⟨⟨last, m⟩, read, h⟩ := Option.bind_eq_some_iff.mp h
        obtain ⟨a, low, h⟩ := Option.bind_eq_some_iff.mp h
        obtain ⟨b, high, h⟩ := Option.bind_eq_some_iff.mp h
        split at h
        · next le =>
          obtain ⟨rfl, rfl⟩ := Prod.mk.inj (Option.some.inj h)
          rcases item_inner read with inner | ⟨e, rfl⟩
          · rw [if_neg range, inner, Option.bind_some, low, Option.bind_some, high, Option.bind_some, if_pos le]
          · cases high
        · cases h
    · rw [left, if_neg (by decide)] at h
      obtain ⟨⟨last, m⟩, read, h⟩ := Option.bind_eq_some_iff.mp h
      obtain ⟨a, -, h⟩ := Option.bind_eq_some_iff.mp h
      obtain ⟨b, -, h⟩ := Option.bind_eq_some_iff.mp h
      split at h
      · obtain ⟨-, rfl⟩ := Prod.mk.inj (Option.some.inj h)
        exact absurd (item_suffix read) (not_inner (by decide))
      · cases h
    · rw [left, if_neg (by decide)] at h
      cases h
  · rw [List.cons_append, behind?_plain hyphen] at h
    rw [behind?_plain hyphen]
    exact map_inner (m := c :: t) h

theorem range?_eq (t : List Char) : range? f t = (item? f t).bind fun p => behind? f p.1 (skip f p.2) := by
  rw [range?]
  refine congrArg _ (funext fun ⟨first, rest⟩ => ?_)
  simp only
  rcases skip f rest with _ | ⟨c, after⟩
  · rfl
  · by_cases hyphen : c = '-'
    · subst hyphen
      simp only [behind?]
      split
      · cases first.memberSet? f <;> rfl
      · rfl
    · rw [behind?_plain hyphen]
      split
      · next same => cases same
      · next same => exact absurd (List.cons.inj same).1 hyphen
      · cases first.memberSet? f <;> rfl

theorem range_suffix {t r : List Char} {o : Operand} (h : range? f t = some (o, r)) : r <:+ t.tail := by
  rw [range?_eq] at h
  obtain ⟨⟨first, m⟩, read, h⟩ := Option.bind_eq_some_iff.mp h
  exact ((behind?_suffix h).trans ((local_skip f).suffix rfl)).trans (item_suffix read)

theorem range_inner {t r : List Char} {o : Operand} (h : range? f (t ++ ending) = some (o, r ++ ending)) (more : r ≠ []) :
    range? f t = some (o, r) := by
  rw [range?_eq] at h
  obtain ⟨⟨first, m⟩, read, h⟩ := Option.bind_eq_some_iff.mp h
  have front := (behind?_suffix h).trans ((local_skip f).suffix (t := m) rfl)
  obtain ⟨m, rfl⟩ := exists_inner front
  rcases item_inner read with inner | ⟨a, rfl⟩
  · rw [range?_eq, inner, Option.bind_some]
    rcases skip_cases f m with ⟨-, kept⟩ | ⟨-, left | left⟩
    · rw [kept] at h
      exact behind?_inner h more
    · rw [left] at h
      exact absurd (behind?_ending h) more
    · rw [left] at h
      cases h
  · rw [behind?_anchor] at h
    cases h

def className? (negated : Bool) (t : List Char) : Option (List (Char × Char) × Bool × List Char) :=
  match t.dropWhile (· ≠ ':') with
  | ':' :: ']' :: rest =>
    ((asciiClasses.find? (·.1 == String.ofList (t.takeWhile (· ≠ ':')))).map (·.2)).map (·, negated, rest)
  | _ => none

def negation : List Char → Bool × List Char
  | '^' :: rest => (true, rest)
  | text => (false, text)

theorem asciiClass?_eq (t : List Char) : asciiClass? ('[' :: ':' :: t) = className? (negation t).1 (negation t).2 := rfl

theorem asciiClass?_plain {t : List Char} (plain : t.head? ≠ some '^') : asciiClass? ('[' :: ':' :: t) = className? false t := by
  have front : negation t = (false, t) := by
    rw [negation]
    rintro rest rfl
    exact plain rfl
  rw [asciiClass?_eq, front]

theorem asciiClass?_other {t : List Char} (other : ¬ ['[', ':'] <+: t) : asciiClass? t = none := by
  unfold asciiClass?
  split
  · next rest => exact absurd ⟨rest, rfl⟩ other
  · rfl

theorem className_append (negated : Bool) (t : List Char) :
    className? negated (t ++ ending) = (className? negated t).map fun p => (p.1, p.2.1, p.2.2 ++ ending) := by
  rw [className?, className?]
  rcases upTo_cases (d := ':') (by decide) t with ⟨none, still⟩ | ⟨rest, here, whole, name⟩
  · rw [none, still]
    rfl
  · rw [here, whole, name]
    rcases rest with _ | ⟨d, rest⟩
    · rfl
    · by_cases closing : d = ']'
      · subst closing
        simp [Function.comp_def]
      · simp [closing]

theorem asciiClass_append (t : List Char) :
    asciiClass? (t ++ ending) = (asciiClass? t).map fun p => (p.1, p.2.1, p.2.2 ++ ending) := by
  by_cases opened : ['[', ':'] <+: t
  · obtain ⟨t, rfl⟩ := opened
    by_cases negated : t.head? = some '^'
    · obtain ⟨t, rfl⟩ := List.head?_eq_some_iff.mp negated
      exact className_append true t
    · have behind : (t ++ ending).head? ≠ some '^' := by
        rcases t with _ | ⟨c, t⟩
        · decide
        · exact negated
      have whole := className_append false t
      rwa [← asciiClass?_plain negated, ← asciiClass?_plain behind] at whole
  · have behind : ¬ ['[', ':'] <+: t ++ ending := by
      rcases t with _ | ⟨c, _ | ⟨d, t⟩⟩
      · decide
      · rintro ⟨rest, same⟩
        simp [ending] at same
      · rintro ⟨rest, same⟩
        simp only [List.cons_append, List.cons.injEq] at same
        exact opened ⟨t, by rw [← same.1, ← same.2.1]; rfl⟩
    rw [asciiClass?_other opened, asciiClass?_other behind]
    rfl

theorem className_suffix {negated n : Bool} {t r : List Char} {p : List (Char × Char)}
    (h : className? negated t = some (p, n, r)) : r <:+ t := by
  rw [className?] at h
  split at h
  · next rest same =>
    have inside := List.dropWhile_suffix (l := t) (· ≠ ':')
    rw [same] at inside
    obtain ⟨v, -, kept⟩ := Option.map_eq_some_iff.mp h
    cases kept
    exact ((List.suffix_cons ']' r).trans (List.suffix_cons ':' _)).trans inside
  · cases h

theorem asciiClass_suffix {t r : List Char} {p : List (Char × Char)} {n : Bool} (h : asciiClass? t = some (p, n, r)) :
    r <:+ t.tail := by
  by_cases opened : ['[', ':'] <+: t
  · obtain ⟨t, rfl⟩ := opened
    refine List.IsSuffix.trans ?_ (List.suffix_cons ':' t)
    by_cases negated : t.head? = some '^'
    · obtain ⟨t, rfl⟩ := List.head?_eq_some_iff.mp negated
      exact (className_suffix h).trans (List.suffix_cons '^' t)
    · exact className_suffix ((asciiClass?_plain negated).symm.trans h)
  · rw [asciiClass?_other opened] at h
    cases h

theorem hyphens_other {t : List Char} (other : t.head? ≠ some '-') (n : Nat) (items : List Operand) :
    hyphens f n t items = (t, items) := by
  cases n with
  | zero => rfl
  | succ n =>
    rw [hyphens]
    rintro k rest ⟨⟩ rfl
    exact other rfl

theorem hyphens_suffix (n : Nat) (t : List Char) (items : List Operand) : (hyphens f n t items).1 <:+ t := by
  induction n generalizing t items with
  | zero => exact List.suffix_rfl
  | succ n ih =>
    by_cases hyphen : t.head? = some '-'
    · obtain ⟨t, rfl⟩ := List.head?_eq_some_iff.mp hyphen
      exact ((ih (skip f t) _).trans ((local_skip f).suffix rfl)).trans (List.suffix_cons '-' t)
    · have kept : (hyphens f (n + 1) t items).1 = t := by rw [hyphens_other hyphen]
      exact kept.symm ▸ List.suffix_rfl

/- The fuel may be any as long as there is enough of it for each of the texts. -/
theorem hyphens_inner {n m : Nat} {t r : List Char} {items all : List Operand} (enough : t.length ≤ n)
    (more : (t ++ ending).length ≤ m) (h : hyphens f m (t ++ ending) items = (r ++ ending, all)) :
    hyphens f n t items = (r, all) := by
  induction n generalizing m t items with
  | zero =>
    obtain rfl := List.eq_nil_of_length_eq_zero (Nat.le_zero.mp enough)
    rw [List.nil_append, hyphens_other (by decide)] at h
    obtain ⟨same, rfl⟩ := Prod.mk.inj h
    rw [List.self_eq_append_left.mp same]
    rfl
  | succ n ih =>
    by_cases hyphen : t.head? = some '-'
    · obtain ⟨t, rfl⟩ := List.head?_eq_some_iff.mp hyphen
      obtain ⟨m, rfl⟩ : ∃ k, m = k + 1 := ⟨m - 1, by simp at more; omega⟩
      have shorter := ((local_skip f).suffix (t := t) rfl).length_le
      rw [List.cons_append, hyphens] at h
      rw [hyphens]
      rcases skip_cases f t with ⟨-, kept⟩ | ⟨empty, left | left⟩
      · rw [kept] at h
        simp only [List.length_cons, List.length_append] at enough more
        exact ih (by omega) (by rw [List.length_append]; omega) h
      · rw [left, hyphens_other (by decide)] at h
        obtain ⟨same, rfl⟩ := Prod.mk.inj h
        rw [empty, hyphens_other (by simp), List.self_eq_append_left.mp same]
      · rw [left, hyphens_other (by simp)] at h
        exact absurd (Prod.mk.inj h).1 (by simp [ending])
    · have behind : (t ++ ending).head? ≠ some '-' := by
        rcases t with _ | ⟨c, t⟩
        · decide
        · exact hyphen
      rw [hyphens_other behind] at h
      obtain ⟨same, rfl⟩ := Prod.mk.inj h
      rw [hyphens_other hyphen, List.append_cancel_right same]

def caret (f : Flags) : List Char → Bool × List Char
  | '^' :: rest => (true, skip f rest)
  | text => (false, text)

def opened? (f : Flags) (negated : Bool) : List Char → List Operand → Option (Bool × List Operand × List Char)
  | [], _ => none
  | ']' :: rest, [] => if (skip f rest).isEmpty then none else some (negated, [⟨.single ']', 0⟩], skip f rest)
  | text, items => some (negated, items, text)

theorem openBracket?_eq (t : List Char) : openBracket? f t =
    let front := caret f (skip f t)
    let inner := hyphens f front.2.length front.2 []
    opened? f front.1 inner.1 inner.2 := rfl

theorem local_caret (f : Flags) : Local fun t => some (caret f t) := by
  refine .peek (d := '^') (by decide) ((local_skip f).filterMap fun _ => some true) (.pure false) (fun _ => rfl) fun t other => ?_
  rw [caret]
  rintro rest rfl
  exact other rfl

theorem local_hyphens (f : Flags) : Local fun t => some ((hyphens f t.length t []).2, (hyphens f t.length t []).1) where
  suffix := by
    rintro t _ _ ⟨⟩
    exact hyphens_suffix _ t []
  inner := by
    intro t items r h
    obtain ⟨rfl, same⟩ := Prod.mk.inj (Option.some.inj h)
    rw [hyphens_inner (Nat.le_refl _) (Nat.le_refl _) (Prod.ext same rfl)]

theorem opened?_other {t : List Char} (some : t ≠ []) {items : List Operand} (other : ¬ (t.head? = .some ']' ∧ items = []))
    (negated : Bool) : opened? f negated t items = .some (negated, items, t) := by
  rw [opened?]
  · exact some
  · rintro rest rfl rfl
    exact other ⟨rfl, rfl⟩

theorem opened_inner {negated n : Bool} {items all : List Operand} {t r : List Char}
    (h : opened? f negated (t ++ ending) items = some (n, all, r ++ ending)) (more : r ≠ []) :
    opened? f negated t items = some (n, all, r) := by
  rcases t with _ | ⟨c, t⟩
  · rw [opened?_other (by simp [ending]) (by simp [ending])] at h
    simp only [List.nil_append, Option.some.injEq, Prod.mk.injEq] at h
    exact absurd (List.self_eq_append_left.mp h.2.2) more
  by_cases bracket : c = ']' ∧ items = []
  · obtain ⟨rfl, rfl⟩ := bracket
    rw [List.cons_append, opened?] at h
    split at h
    · cases h
    · simp only [Option.some.injEq, Prod.mk.injEq] at h
      obtain ⟨rfl, rfl, same⟩ := h
      have part := (local_skip f).inner (congrArg (fun r => some ((), r)) same)
      obtain rfl : skip f t = r := (Prod.mk.inj (Option.some.inj part)).2
      rw [opened?, if_neg (by simpa using more)]
  · rw [opened?_other (by simp) (by simpa using bracket)] at h
    simp only [Option.some.injEq, Prod.mk.injEq] at h
    obtain ⟨rfl, rfl, same⟩ := h
    rw [opened?_other (by simp) (by simpa using bracket), List.append_cancel_right same]

theorem opened_suffix {negated n : Bool} {items all : List Operand} {t r : List Char}
    (h : opened? f negated t items = some (n, all, r)) : r <:+ t := by
  rcases t with _ | ⟨c, t⟩
  · cases h
  by_cases bracket : c = ']' ∧ items = []
  · obtain ⟨rfl, rfl⟩ := bracket
    rw [opened?] at h
    split at h
    · cases h
    · cases h
      exact ((local_skip f).suffix rfl).trans (List.suffix_cons ']' t)
  · rw [opened?_other (by simp) (by simpa using bracket)] at h
    cases h
    exact List.suffix_rfl

theorem openBracket_suffix {n : Bool} {all : List Operand} {t r : List Char} (h : openBracket? f t = some (n, all, r)) : r <:+ t := by
  rw [openBracket?_eq] at h
  exact ((opened_suffix h).trans ((local_hyphens f).suffix rfl)).trans (((local_caret f).suffix rfl).trans ((local_skip f).suffix rfl))

theorem openBracket_inner {n : Bool} {all : List Operand} {t r : List Char}
    (h : openBracket? f (t ++ ending) = some (n, all, r ++ ending)) (more : r ≠ []) : openBracket? f t = some (n, all, r) := by
  rw [openBracket?_eq] at h ⊢
  rcases whole : caret f (skip f (t ++ ending)) with ⟨negated, m⟩
  rcases read : hyphens f m.length m [] with ⟨inner, items⟩
  simp only [whole, read] at h
  obtain ⟨inner, rfl⟩ := exists_inner (opened_suffix h)
  have hyphened : some ((hyphens f m.length m []).2, (hyphens f m.length m []).1) = some (items, inner ++ ending) := by rw [read]
  obtain ⟨m, rfl⟩ := exists_inner ((local_hyphens f).suffix hyphened)
  have front : some (caret f (skip f t)) = some (negated, m) := ((local_caret f).skipped f).inner (congrArg some whole)
  have part := (local_hyphens f).inner hyphened
  obtain ⟨behind, within⟩ := Prod.mk.inj (Option.some.inj part)
  rw [Option.some.inj front]
  simp only [behind, within]
  exact opened_inner h more

def setOp? : List Char → Option (SetOp × List Char)
  | '&' :: '&' :: rest => some (.inter, rest)
  | '-' :: '-' :: rest => some (.diff, rest)
  | '~' :: '~' :: rest => some (.symmDiff, rest)
  | _ => none

def turn? (f : Flags) (stack : List Open) (items : List Operand) : Reader (Operand ⊕ List Open × List Operand)
  | [] => none
  | '[' :: rest =>
    match asciiClass? ('[' :: rest) with
    | some (pairs, negated, rest) => (foldAndNegate f negated (.ranges pairs)).map fun s => (.inr (stack, ⟨s, 0⟩ :: items), rest)
    | none => (openBracket? f rest).map fun (negated, inner, rest) => (.inr (.bracket items negated :: stack, inner), rest)
  | ']' :: rest =>
    match closeOp f (joinOperands items) stack with
    | (content, .bracket outer negated :: stack) => (foldAndNegate f negated content.set).map fun s =>
      let done : Operand := ⟨s, content.depth + 1⟩
      (if stack.isEmpty then .inl done else .inr (stack, done :: outer), rest)
    | _ => none
  | text =>
    match setOp? text with
    | some (op, rest) =>
      let (left, stack) := closeOp f (joinOperands items) stack
      some (.inr (.op op left :: stack, []), rest)
    | none => (range? f text).map fun (item, rest) => (.inr (stack, item :: items), rest)

theorem setOp_append (t : List Char) : setOp? (t ++ ending) = (setOp? t).map fun p => (p.1, p.2 ++ ending) := by
  rcases t with _ | ⟨c, _ | ⟨d, t⟩⟩
  · rfl
  · have alone : setOp? [c] = none := by
      rw [setOp?]
      all_goals simp
    rw [alone, setOp?]
    · rfl
    all_goals simp [ending]
  · by_cases inter : c = '&' ∧ d = '&'
    · obtain ⟨rfl, rfl⟩ := inter
      rfl
    by_cases diff : c = '-' ∧ d = '-'
    · obtain ⟨rfl, rfl⟩ := diff
      rfl
    by_cases symm : c = '~' ∧ d = '~'
    · obtain ⟨rfl, rfl⟩ := symm
      rfl
    have none (t : List Char) : setOp? (c :: d :: t) = none := by
      rw [setOp?]
      all_goals
        rintro rest same
        simp_all
    exact (none (t ++ ending)).trans (by rw [none]; rfl)

theorem setOp_suffix {t r : List Char} {op : SetOp} (h : setOp? t = some (op, r)) : r <:+ t.tail := by
  rw [setOp?.eq_def] at h
  split at h
  all_goals first
    | cases h
      exact List.suffix_cons _ _
    | cases h

theorem bracketLoop?_succ (n : Nat) (stack : List Open) (items : List Operand) (t : List Char) :
    bracketLoop? f (n + 1) stack items t = (turn? f stack items (skip f t)).bind fun p => match p.1 with
      | .inl done => some (done, p.2)
      | .inr (stack, items) => bracketLoop? f n stack items p.2 := by
  rw [bracketLoop?]
  generalize skip f t = u
  simp only
  split
  · rfl
  · next rest =>
    rcases named : asciiClass? ('[' :: rest) with _ | ⟨pairs, negated, more⟩
    · simp only [turn?, named]
      cases openBracket? f rest <;> rfl
    · simp only [turn?, named]
      cases foldAndNegate f negated (.ranges pairs) <;> rfl
  · next rest =>
    rcases closed : closeOp f (joinOperands items) stack with ⟨content, _ | ⟨_ | _, below⟩⟩
    · simp only [turn?, closed]
      rfl
    · next outer negated =>
      simp only [turn?, closed]
      rcases foldAndNegate f negated content.set with _ | s
      · rfl
      · cases below <;> rfl
    · simp only [turn?, closed]
      rfl
  · rfl
  · rfl
  · rfl
  · next empty opening closing inter diff symm =>
    have none : setOp? u = none := by
      rw [setOp?]
      · exact inter
      · exact diff
      · exact symm
    rw [turn?]
    · rw [none]
      cases range? f u <;> rfl
    · exact empty
    · exact opening
    · exact closing

theorem turn?_other {stack : List Open} {items : List Operand} {t : List Char} (some : t ≠ [])
    (opening : t.head? ≠ .some '[') (closing : t.head? ≠ .some ']') : turn? f stack items t = match setOp? t with
      | .some (op, rest) =>
        let (left, stack) := closeOp f (joinOperands items) stack
        .some (.inr (.op op left :: stack, []), rest)
      | none => (range? f t).map fun (item, rest) => (.inr (stack, item :: items), rest) := by
  rw [turn?]
  · exact some
  · rintro rest rfl
    exact opening rfl
  · rintro rest rfl
    exact closing rfl

variable {stack : List Open} {items : List Operand} {t r : List Char} {v : Operand ⊕ List Open × List Operand}

theorem turn_suffix (h : turn? f stack items t = some (v, r)) : r <:+ t.tail := by
  rcases t with _ | ⟨c, t⟩
  · cases h
  by_cases opening : c = '['
  · subst opening
    rw [turn?] at h
    split at h
    · next read =>
      obtain ⟨s, -, same⟩ := Option.map_eq_some_iff.mp h
      cases same
      exact asciiClass_suffix read
    · obtain ⟨⟨negated, inner, rest⟩, read, same⟩ := Option.map_eq_some_iff.mp h
      cases same
      exact openBracket_suffix read
  by_cases closing : c = ']'
  · subst closing
    rw [turn?] at h
    split at h
    · obtain ⟨s, -, same⟩ := Option.map_eq_some_iff.mp h
      cases same
      exact List.suffix_rfl
    · cases h
  rw [turn?_other (by simp) (by simpa using opening) (by simpa using closing)] at h
  split at h
  · next read =>
    cases h
    exact setOp_suffix read
  · obtain ⟨⟨item, rest⟩, read, same⟩ := Option.map_eq_some_iff.mp h
    cases same
    exact range_suffix read

theorem turn_inner (h : turn? f stack items (t ++ ending) = some (v, r ++ ending)) (more : r ≠ [] ∨ v.isLeft) :
    turn? f stack items t = some (v, r) := by
  rcases t with _ | ⟨c, t⟩
  · exact absurd (turn_suffix h) (not_inner (by decide))
  by_cases opening : c = '['
  · subst opening
    have natural := asciiClass_append ('[' :: t)
    rw [List.cons_append] at natural
    rw [List.cons_append, turn?] at h
    rw [turn?]
    rcases named : asciiClass? ('[' :: t) with _ | ⟨pairs, negated, rest⟩
    all_goals
      rw [named] at natural
      simp only [Option.map_none, Option.map_some] at natural
      simp only [natural] at h
    · obtain ⟨⟨negated, inner, rest⟩, read, same⟩ := Option.map_eq_some_iff.mp h
      obtain ⟨rfl, rfl⟩ := Prod.mk.inj same
      simp only [openBracket_inner read (by simpa using more)]
      rfl
    · exact map_inner h
  by_cases closing : c = ']'
  · subst closing
    rw [List.cons_append, turn?] at h
    rw [turn?]
    split at h
    · exact map_inner h
    · cases h
  have natural := setOp_append (c :: t)
  rw [List.cons_append] at natural
  rw [List.cons_append, turn?_other (by simp) (by simpa using opening) (by simpa using closing)] at h
  rw [turn?_other (by simp) (by simpa using opening) (by simpa using closing)]
  rcases sign : setOp? (c :: t) with _ | ⟨op, rest⟩
  all_goals
    rw [sign] at natural
    simp only [Option.map_none, Option.map_some] at natural
    simp only [natural] at h
  · obtain ⟨⟨item, rest⟩, read, same⟩ := Option.map_eq_some_iff.mp h
    obtain ⟨rfl, rfl⟩ := Prod.mk.inj same
    simp only [range_inner (t := c :: t) read (by simpa using more)]
    rfl
  · obtain ⟨rfl, rest⟩ := Prod.mk.inj (Option.some.inj h)
    simp only [List.append_cancel_right rest]

theorem turn_done {o : Operand} (h : turn? f stack items t = some (.inl o, r)) : t = ']' :: r := by
  rcases t with _ | ⟨c, t⟩
  · cases h
  by_cases opening : c = '['
  · subst opening
    rw [turn?] at h
    split at h
    · obtain ⟨s, -, same⟩ := Option.map_eq_some_iff.mp h
      cases same
    · obtain ⟨p, -, same⟩ := Option.map_eq_some_iff.mp h
      cases same
  by_cases closing : c = ']'
  · subst closing
    rw [turn?] at h
    split at h
    · obtain ⟨s, -, same⟩ := Option.map_eq_some_iff.mp h
      rw [(Prod.mk.inj same).2]
    · cases h
  rw [turn?_other (by simp) (by simpa using opening) (by simpa using closing)] at h
  split at h
  · cases h
  · obtain ⟨p, -, same⟩ := Option.map_eq_some_iff.mp h
    cases same

variable {n m : Nat} {o : Operand}

theorem bracketLoop_suffix (h : bracketLoop? f n stack items t = some (o, r)) : r <:+ t := by
  induction n generalizing stack items t with
  | zero => cases h
  | succ n ih =>
    rw [bracketLoop?_succ] at h
    obtain ⟨⟨v, rest⟩, turn, h⟩ := Option.bind_eq_some_iff.mp h
    have behind : rest <:+ t := ((turn_suffix turn).trans (List.tail_suffix _)).trans ((local_skip f).suffix rfl)
    cases v with
    | inl done =>
      cases h
      exact behind
    | inr _ => exact (ih h).trans behind

/-- A class ends with a bracket, which the ending does not have. -/
theorem mem_of_bracketLoop (h : bracketLoop? f n stack items t = some (o, r)) : ']' ∈ t := by
  induction n generalizing stack items t with
  | zero => cases h
  | succ n ih =>
    rw [bracketLoop?_succ] at h
    obtain ⟨⟨v, rest⟩, turn, h⟩ := Option.bind_eq_some_iff.mp h
    have skipped : skip f t <:+ t := (local_skip f).suffix rfl
    cases v with
    | inl done => exact skipped.mem (by rw [turn_done turn]; exact List.mem_cons_self)
    | inr _ => exact skipped.mem (((turn_suffix turn).trans (List.tail_suffix _)).mem (ih h))

theorem bracketLoop_inner (enough : t.length < n) (h : bracketLoop? f m stack items (t ++ ending) = some (o, r)) :
    ∃ r', r = r' ++ ending ∧ bracketLoop? f n stack items t = some (o, r') := by
  induction m generalizing n stack items t with
  | zero => cases h
  | succ m ih =>
    obtain ⟨n, rfl⟩ : ∃ k, n = k + 1 := ⟨n - 1, by omega⟩
    have shorter := ((local_skip f).suffix (t := t) rfl).length_le
    rw [bracketLoop?_succ] at h ⊢
    obtain ⟨⟨v, rest⟩, turn, h⟩ := Option.bind_eq_some_iff.mp h
    have behind := (turn_suffix turn).trans (List.tail_suffix _)
    rcases skip_cases f t with ⟨some, kept⟩ | ⟨-, left | left⟩
    · obtain ⟨c, u, shape⟩ := List.exists_cons_of_ne_nil some
      rw [kept] at turn behind
      cases v with
      | inl done =>
        cases h
        have closing := turn_done turn
        rw [shape, List.cons_append] at closing
        obtain ⟨rfl, rfl⟩ := List.cons.inj closing
        rw [turn_inner turn (.inr rfl)]
        exact ⟨u, rfl, rfl⟩
      | inr next =>
        obtain ⟨rest, rfl, more⟩ := inner_of_mem behind (mem_of_bracketLoop h)
        have part := turn_inner turn (.inl more)
        have less := (turn_suffix part).length_le
        rw [part]
        rw [shape] at less shorter
        simp only [List.tail_cons, List.length_cons] at less shorter
        have fewer : rest.length < n := by omega
        exact ih fewer h
    · rw [left] at turn behind
      cases v with
      | inl done => exact absurd (turn_done turn) (by simp [ending])
      | inr next => exact absurd (behind.mem (mem_of_bracketLoop h)) (by decide)
    · rw [left] at turn
      cases turn

theorem local_bracket (f : Flags) : Local (bracket? f) where
  suffix := by
    intro t o r h
    obtain ⟨⟨negated, items, m⟩, opened, h⟩ := Option.bind_eq_some_iff.mp h
    exact (bracketLoop_suffix h).trans (openBracket_suffix opened)
  inner := by
    intro t o r h
    obtain ⟨⟨negated, items, m⟩, opened, h⟩ := Option.bind_eq_some_iff.mp h
    obtain ⟨m, rfl, more⟩ := inner_of_mem (openBracket_suffix opened) (mem_of_bracketLoop h)
    have part := openBracket_inner opened more
    have less := (openBracket_suffix part).length_le
    obtain ⟨r', same, h⟩ := bracketLoop_inner (n := t.length + 1) (by omega) h
    rw [List.append_cancel_right same]
    exact Option.bind_eq_some_iff.mpr ⟨_, part, h⟩

end Rehearsal.Regex
