import Rehearsal.Regex.Syntax

/-!
Readers look no further than what they take. What a reader takes in front of an ending that it leaves alone, it takes as
well where the text stops instead.
-/
namespace Rehearsal.Regex

variable {α β : Type} {f : Flags}

def ending : List Char := ")$".toList

abbrev Reader (α : Type) := List Char → Option (α × List Char)

/-- The reader leaves the end of the text, and takes the same in front of the ending as at the end. -/
structure Local (read : Reader α) : Prop where
  suffix : ∀ {t v r}, read t = some (v, r) → r <:+ t
  inner : ∀ {t v r}, read (t ++ ending) = some (v, r ++ ending) → read t = some (v, r)

/-- A suffix that holds the ending goes on before it. -/
theorem exists_inner {r m : List Char} (inside : r ++ ending <:+ m) :
    ∃ r', m = r' ++ ending := by
  obtain ⟨a, rfl⟩ := inside
  exact ⟨a ++ r, (List.append_assoc a r ending).symm⟩

theorem not_inner {r t : List Char} (short : t.length < 2) : ¬ r ++ ending <:+ t := by
  intro inside
  have length := inside.length_le
  simp [ending] at length
  omega

theorem map_inner {x : Option α} {g : α → β} {m r : List Char} {v : β}
    (h : x.map (fun s => (g s, m ++ ending)) = some (v, r ++ ending)) : x.map (fun s => (g s, m)) = some (v, r) := by
  obtain ⟨s, rfl, same⟩ := Option.map_eq_some_iff.mp h
  obtain ⟨rfl, rest⟩ := Prod.mk.inj same
  rw [List.append_cancel_right rest]
  rfl

/-- What stands up to a sign that the ending does not have. -/
theorem upTo_cases {d : Char} (other : d ∉ ending) (t : List Char) :
    (t.dropWhile (· ≠ d) = [] ∧ (t ++ ending).dropWhile (· ≠ d) = []) ∨
      ∃ rest, t.dropWhile (· ≠ d) = d :: rest ∧ (t ++ ending).dropWhile (· ≠ d) = d :: (rest ++ ending) ∧
        (t ++ ending).takeWhile (· ≠ d) = t.takeWhile (· ≠ d) := by
  induction t with
  | nil =>
    have apart : ')' ≠ d ∧ '$' ≠ d := by simpa [ending, eq_comm] using other
    exact .inl ⟨rfl, by simp [ending, apart]⟩
  | cons c t ih =>
    by_cases here : c = d
    · subst here
      exact .inr ⟨t, by simp, by simp, by simp⟩
    · simpa [here] using ih

namespace Local

theorem of_eq {x y : Reader α} (h : Local x) (same : ∀ t, y t = x t) : Local y := (funext same : y = x) ▸ h

theorem none : Local (fun _ => none : Reader α) where
  suffix := nofun
  inner := nofun

theorem pure (v : α) : Local fun t => some (v, t) where
  suffix := by
    rintro t _ _ ⟨⟩
    exact List.suffix_rfl
  inner := by
    intro t w r h
    obtain ⟨rfl, same⟩ := Prod.mk.inj (Option.some.inj h)
    rw [List.append_cancel_right same]

theorem bind {x : Reader α} {y : α → Reader β} (first : Local x) (second : ∀ v, Local (y v)) :
    Local fun t => (x t).bind fun p => y p.1 p.2 where
  suffix := by
    intro t v r h
    obtain ⟨⟨w, m⟩, hx, hy⟩ := Option.bind_eq_some_iff.mp h
    exact ((second w).suffix hy).trans (first.suffix hx)
  inner := by
    intro t v r h
    obtain ⟨⟨w, m⟩, hx, hy⟩ := Option.bind_eq_some_iff.mp h
    obtain ⟨m, rfl⟩ := exists_inner ((second w).suffix hy)
    exact Option.bind_eq_some_iff.mpr ⟨(w, m), first.inner hx, (second w).inner hy⟩

/-- What a reader gives back may be turned into something else or refused. -/
theorem filterMap {x : Reader α} (first : Local x) (g : α → Option β) :
    Local fun t => (x t).bind fun p => (g p.1).map (·, p.2) := by
  refine first.bind (y := fun v t => (g v).map (·, t)) fun v => ?_
  cases g v with
  | none => exact none
  | some w => exact pure w

theorem ite {p : Prop} [Decidable p] {x y : Reader α} (yes : Local x) (no : Local y) :
    Local fun t => if p then x t else y t := by
  by_cases h : p <;> simpa [h]

/-- A reader that takes the first character, whichever it is. -/
theorem first {x : Reader α} (nil : ∀ v r, x [] = some (v, r) → r = []) (cons : ∀ c, Local fun t => x (c :: t)) : Local x where
  suffix := by
    intro t v r h
    cases t with
    | nil => exact nil v r h ▸ List.suffix_rfl
    | cons c t => exact ((cons c).suffix h).trans (List.suffix_cons c t)
  inner := by
    intro t v r h
    cases t with
    | nil => exact absurd ((cons ')').suffix h) (not_inner (by decide))
    | cons c t => exact (cons c).inner h

/-- A reader that takes a character if it stands at the front. -/
theorem peek {x y : Reader α} {d : Char} (other : d ≠ ')') (yes : Local x) (no : Local y) {z : Reader α}
    (taken : ∀ t, z (d :: t) = x t) (left : ∀ t, t.head? ≠ some d → z t = y t) : Local z where
  suffix := by
    intro t v r h
    by_cases front : t.head? = some d
    · obtain ⟨t, rfl⟩ := List.head?_eq_some_iff.mp front
      exact (yes.suffix (taken t ▸ h)).trans (List.suffix_cons d t)
    · exact no.suffix (left t front ▸ h)
  inner := by
    intro t v r h
    by_cases front : t.head? = some d
    · obtain ⟨t, rfl⟩ := List.head?_eq_some_iff.mp front
      rw [List.cons_append, taken] at h
      rw [taken]
      exact yes.inner h
    · have behind : (t ++ ending).head? ≠ some d := by
        cases t with
        | nil => simpa [ending] using Ne.symm other
        | cons c t => exact front
      rw [left _ behind] at h
      rw [left t front]
      exact no.inner h

end Local

def peeked (d : Char) (x y : Reader α) : Reader α := fun t =>
  if t.head? = some d then x t.tail else y t

theorem peeked_other {d : Char} {x y : Reader α} {t : List Char} (other : t.head? ≠ some d) : peeked d x y t = y t :=
  if_neg other

theorem head?_ne {d : Char} {t : List Char} (other : ∀ rest, t = d :: rest → False) : t.head? ≠ some d := fun front =>
  (List.head?_eq_some_iff.mp front).elim other

theorem Local.peeked {d : Char} {x y : Reader α} (other : d ≠ ')') (yes : Local x) (no : Local y) : Local (peeked d x y) :=
  .peek other yes no (fun _ => if_pos rfl) fun _ left => if_neg left

theorem dropIgnored_suffix (comment : Bool) (t : List Char) : dropIgnored comment t <:+ t := by
  induction t generalizing comment with
  | nil => exact List.suffix_rfl
  | cons c t ih =>
    have later (comment : Bool) : dropIgnored comment t <:+ c :: t := (ih comment).trans (List.suffix_cons c t)
    cases comment with
    | true => exact later _
    | false =>
      rw [dropIgnored]
      split
      · exact later _
      · split
        · exact later _
        · exact List.suffix_rfl

/-- What is passed over at the end of a text leaves a comment open or none. -/
theorem dropIgnored_append (comment : Bool) (t u : List Char) :
    (dropIgnored comment t ≠ [] ∧ dropIgnored comment (t ++ u) = dropIgnored comment t ++ u) ∨
      (dropIgnored comment t = [] ∧ ∃ still, dropIgnored comment (t ++ u) = dropIgnored still u) := by
  induction t generalizing comment with
  | nil => exact .inr ⟨by rw [dropIgnored], comment, rfl⟩
  | cons c t ih =>
    cases comment with
    | true => exact ih _
    | false =>
      rw [List.cons_append, dropIgnored, dropIgnored]
      split
      · exact ih _
      · split
        · exact ih _
        · exact .inl ⟨List.cons_ne_nil c t, rfl⟩

theorem skip_cases (f : Flags) (t : List Char) :
    (skip f t ≠ [] ∧ skip f (t ++ ending) = skip f t ++ ending) ∨
      (skip f t = [] ∧ (skip f (t ++ ending) = ending ∨ skip f (t ++ ending) = [])) := by
  rw [skip, skip]
  by_cases extended : f.extended
  · rw [if_pos extended, if_pos extended]
    rcases dropIgnored_append false t ending with kept | ⟨empty, still, left⟩
    · exact .inl kept
    · refine .inr ⟨empty, ?_⟩
      rw [left]
      cases still
      · exact .inl rfl
      · exact .inr rfl
  · rw [if_neg extended, if_neg extended]
    cases t with
    | nil => exact .inr ⟨rfl, .inl rfl⟩
    | cons c t => exact .inl ⟨List.cons_ne_nil c t, rfl⟩

theorem local_skip (f : Flags) : Local fun t => some ((), skip f t) where
  suffix := by
    rintro t _ _ ⟨⟩
    rw [skip]
    split
    · exact dropIgnored_suffix false t
    · exact List.suffix_rfl
  inner := by
    intro t _ r h
    have same : skip f (t ++ ending) = r ++ ending := (Prod.mk.inj (Option.some.inj h)).2
    have part : skip f t = r := by
      rcases skip_cases f t with ⟨-, kept⟩ | ⟨empty, none | none⟩
      · exact List.append_cancel_right (kept.symm.trans same)
      · rw [empty, List.self_eq_append_left.mp (none.symm.trans same)]
      · exact absurd (none.symm.trans same).symm (by simp [ending])
    rw [part]

theorem Local.skipped {x : Reader α} (h : Local x) (f : Flags) : Local fun t => x (skip f t) := (local_skip f).bind fun _ => h

theorem gather_suffix (stop : Char → Bool) (comment : Bool) (t : List Char) : (gather f stop comment t).2 <:+ t := by
  induction t generalizing comment with
  | nil => cases comment <;> exact List.suffix_rfl
  | cons c t ih =>
    have later (comment : Bool) : (gather f stop comment t).2 <:+ c :: t := (ih comment).trans (List.suffix_cons c t)
    cases comment with
    | true => exact later _
    | false =>
      rw [gather]
      split
      · exact later _
      · split
        · exact later _
        · split
          · exact List.suffix_rfl
          · exact later _

theorem gather_inner {stop : Char → Bool} {comment : Bool} {t taken r : List Char}
    (h : gather f stop comment (t ++ ending) = (taken, r ++ ending)) : gather f stop comment t = (taken, r) := by
  induction t generalizing comment taken with
  | nil =>
    rw [List.nil_append] at h
    have result : r ++ ending = (gather f stop comment (')' :: ['$'])).2 := (congrArg Prod.snd h).symm
    have short (comment : Bool) : r ++ ending ≠ (gather f stop comment ['$']).2 := fun same =>
      not_inner (by decide) (same ▸ gather_suffix stop comment ['$'])
    cases comment with
    | true => exact absurd result (short true)
    | false =>
      have plain : Text.isBlank ')' = false := by decide
      have counts : ¬ ')' = '#' := by decide
      by_cases stops : stop ')'
      · have whole : gather f stop false ending = ([], ending) := by simp [ending, gather, plain, counts, stops]
        rw [whole] at h
        obtain ⟨rfl, same⟩ := Prod.mk.inj h
        rw [List.self_eq_append_left.mp same]
        rfl
      · rw [gather] at result
        simp only [plain, counts, stops, Bool.and_false, decide_false] at result
        exact absurd result (short false)
  | cons c t ih =>
    cases comment with
    | true => exact ih h
    | false =>
      rw [List.cons_append, gather] at h
      rw [gather]
      by_cases blank : (f.extended && Text.isBlank c) = true
      · rw [if_pos blank] at h ⊢
        exact ih h
      · rw [if_neg blank] at h ⊢
        by_cases comment : (f.extended && c = '#') = true
        · rw [if_pos comment] at h ⊢
          exact ih h
        · rw [if_neg comment] at h ⊢
          by_cases stops : stop c
          · rw [if_pos stops] at h ⊢
            obtain ⟨rfl, same⟩ := Prod.mk.inj h
            have kept : c :: t ++ ending = r ++ ending := same
            rw [List.append_cancel_right kept]
          · rw [if_neg stops] at h ⊢
            obtain ⟨rfl, same⟩ := Prod.mk.inj h
            have part := ih (Prod.ext rfl same)
            simp [part]

theorem local_gather (f : Flags) (stop : Char → Bool) : Local fun t => some (gather f stop false t) where
  suffix := by
    intro t v r h
    have rest := gather_suffix (f := f) stop false t
    rwa [Option.some.inj h] at rest
  inner := fun h => congrArg some (gather_inner (Option.some.inj h))

def braced? (f : Flags) (stop : Char → Bool) (x : List Char → Reader α) : Reader α := fun t =>
  match gather f stop false t with
  | (name, '\x7d' :: rest) => x name rest
  | _ => none

theorem braced?_eq {stop : Char → Bool} {x : List Char → Reader α} (t : List Char) : braced? f stop x t =
    peeked '\x7d' (x (gather f stop false t).1) (fun _ => none) (gather f stop false t).2 := by
  rw [braced?]
  rcases gather f stop false t with ⟨name, _ | ⟨d, rest⟩⟩
  · rfl
  · by_cases closing : d = '\x7d'
    · subst closing
      rfl
    · simp [peeked, closing]

theorem local_braced {stop : Char → Bool} {x : List Char → Reader α} (h : ∀ name, Local (x name)) :
    Local (braced? f stop x) :=
  ((local_gather f stop).bind fun name => .peeked (by decide) (h name) .none).of_eq braced?_eq

theorem local_hexDigits (n : Nat) (digits : List Char) : Local fun t => hexDigits? f n t digits := by
  induction n generalizing digits with
  | zero => exact .pure _
  | succ n ih =>
    refine .first nofun fun c => ?_
    exact .ite ((ih _).skipped f) .none

def bracedHex? (f : Flags) (digits : List Char) : Reader Primitive := fun rest =>
  if digits.isEmpty || !digits.all isHexDigit then none
  else (charOfHex? digits).map fun c => (.char c false, skip f rest)

def sizedHex? (f : Flags) (size : Nat) : Reader Primitive := fun t =>
  (hexDigits? f size t []).bind fun p => ((charOfHex? p.1).map (.char · (size == 2))).map (·, p.2)

theorem hexEscape?_eq (size : Nat) (t : List Char) : hexEscape? f size t =
    peeked '\x7b' (braced? f (· == '\x7d') (bracedHex? f)) (sizedHex? f size) (skip f t) := by
  rw [hexEscape?]
  generalize skip f t = u
  split
  · rfl
  · next other =>
    rw [peeked_other (head?_ne other)]
    refine congrArg _ (funext fun ⟨digits, rest⟩ => ?_)
    dsimp only
    cases charOfHex? digits <;> rfl

theorem local_hexEscape (size : Nat) : Local (hexEscape? f size) := by
  have braced (digits : List Char) : Local (bracedHex? f digits) := by
    refine .ite .none ?_
    refine (local_skip f).filterMap (fun _ => (charOfHex? digits).map (Primitive.char · false)) |>.of_eq fun t => ?_
    cases charOfHex? digits <;> rfl
  have sized : Local (sizedHex? f size) :=
    (local_hexDigits size []).filterMap fun digits => (charOfHex? digits).map (Primitive.char · (size == 2))
  exact ((Local.peeked (by decide) (local_braced braced) sized).skipped f).of_eq (hexEscape?_eq size)

def letterSet? (f : Flags) : Reader (CharSet × Bool)
  | c :: rest => if c = '\\' then none else (propertySet? [c]).map fun s => ((s, false), skip f rest)
  | [] => none

def property? (f : Flags) : Reader (CharSet × Bool) :=
  peeked '\x7b' (braced? f (· == '\x7d') fun name rest => (namedSet? name).map (·, rest)) (letterSet? f)

theorem propertyEscape?_eq (negated : Bool) (t : List Char) : propertyEscape? f negated t =
    if f.unicode = true then (property? f (skip f t)).bind fun p =>
      ((foldAndNegate f (negated != p.1.2) p.1.1).map Primitive.set).map (·, p.2) else none := by
  -- What stands behind a `match` of the reader is done in each of its branches.
  have last : (fun p : (CharSet × Bool) × List Char => (foldAndNegate f (negated != p.1.2) p.1.1).bind fun s =>
      some (Primitive.set s, p.2)) =
      fun p => ((foldAndNegate f (negated != p.1.2) p.1.1).map Primitive.set).map (·, p.2) := by
    funext p
    cases foldAndNegate f (negated != p.1.2) p.1.1 <;> rfl
  rw [← last]
  cases unicode : f.unicode with
  | false => simp [propertyEscape?, unicode]
  | true =>
    simp only [propertyEscape?, unicode, Bool.not_true, Bool.false_eq_true, if_false, if_true]
    rcases skip f t with _ | ⟨c, rest⟩
    · rfl
    · by_cases brace : c = '\x7b'
      · subst brace
        rcases taken : gather f (· == '\x7d') false rest with ⟨name, _ | ⟨d, r⟩⟩
        · simp [property?, peeked, braced?, taken]
        · by_cases closing : d = '\x7d' <;> simp [property?, peeked, braced?, taken, closing]
      · by_cases escaped : c = '\\' <;> simp [property?, peeked, letterSet?, brace, escaped]

theorem local_propertyEscape (negated : Bool) : Local (propertyEscape? f negated) := by
  have braced : Local (braced? f (· == '\x7d') fun name rest => (namedSet? name).map (·, rest)) :=
    local_braced fun name => (Local.pure name).filterMap namedSet?
  have letter : Local (letterSet? f) := by
    refine .first nofun fun c => .ite .none ?_
    refine ((local_skip f).filterMap fun _ => (propertySet? [c]).map (·, false)).of_eq fun t => ?_
    cases propertySet? [c] <;> rfl
  have property : Local (property? f) := .peeked (by decide) braced letter
  have whole := (property.skipped f).filterMap fun p => (foldAndNegate f (negated != p.2) p.1).map Primitive.set
  exact (Local.ite whole .none).of_eq (propertyEscape?_eq negated)

theorem local_escape {c : Char} (plain : c ≠ 'b') : Local fun t => escape? f (c :: t) := by
  unfold escape?
  dsimp only
  refine .ite .none (.ite (local_hexEscape 2) (.ite (local_hexEscape 4) (.ite (local_hexEscape 8)
    (.ite (local_propertyEscape _) (.ite ?_ (.ite (.pure _) ?_))))))
  · exact (Local.pure ()).filterMap (fun _ => (letterClass? f c).map .set) |>.of_eq fun t => by cases letterClass? f c <;> rfl
  · split
    all_goals first | exact .pure _ | exact .none | exact absurd rfl plain

def namedEdge? (f : Flags) (name : List Char) : Reader Anchor := fun rest =>
  match String.ofList name with
  | "start" => some (.wordStart (!f.unicode), rest)
  | "end" => some (.wordEnd (!f.unicode), rest)
  | "start-half" => some (.wordStartHalf (!f.unicode), rest)
  | "end-half" => some (.wordEndHalf (!f.unicode), rest)
  | _ => none

theorem local_letters : Local (braced? f (fun c => !(c.isAlpha || c == '-')) (namedEdge? f)) := by
  refine local_braced fun name => ?_
  unfold namedEdge?
  split
  all_goals first | exact .pure _ | exact .none

theorem braceEdge_suffix {t r : List Char} {a : Anchor} (h : braceEdge? f t = some (a, r)) : r <:+ t := by
  unfold braceEdge? at h
  dsimp only at h
  split at h
  · split at h
    · cases h
    · split at h
      · cases h
        exact List.suffix_rfl
      · exact (local_letters.suffix h).trans (List.suffix_cons _ _)
  · cases h
    exact List.suffix_rfl

theorem braceEdge_plain {t : List Char} (other : t.head? ≠ some '\x7b') : braceEdge? f t = some (.wordEdge (!f.unicode), t) := by
  rw [braceEdge?]
  rintro rest rfl
  exact other rfl

/-- A brace with nothing behind it is left to be read as a repetition. -/
theorem braceEdge_inner {t r : List Char} {a : Anchor} (h : braceEdge? f (t ++ ending) = some (a, r ++ ending)) :
    braceEdge? f t = some (a, r) ∨ ∃ r', r = '\x7b' :: r' ∧ skip f (r' ++ ending) = ending := by
  by_cases brace : t.head? = some '\x7b'
  · obtain ⟨t, rfl⟩ := List.head?_eq_some_iff.mp brace
    rw [List.cons_append, braceEdge?] at h
    rcases skip_cases f t with ⟨some, kept⟩ | ⟨-, left | left⟩
    · left
      rw [braceEdge?]
      obtain ⟨c, rest, shape⟩ := List.exists_cons_of_ne_nil some
      rw [kept, shape, List.cons_append] at h
      rw [shape]
      dsimp only at h ⊢
      split at h
      · next other =>
        obtain ⟨rfl, same⟩ := Prod.mk.inj (Option.some.inj h)
        have same : '\x7b' :: t = r := List.append_cancel_right same
        rw [if_pos other, same]
      · next letter =>
        rw [if_neg letter]
        exact local_letters.inner h
    · right
      rw [left] at h
      obtain ⟨-, same⟩ := Prod.mk.inj (Option.some.inj h)
      have same : '\x7b' :: t = r := List.append_cancel_right same
      exact ⟨t, same.symm, left⟩
    · rw [left] at h
      cases h
  · have behind : (t ++ ending).head? ≠ some '\x7b' := by
      cases t with
      | nil => decide
      | cons c t => exact brace
    rw [braceEdge_plain behind] at h
    obtain ⟨rfl, same⟩ := Prod.mk.inj (Option.some.inj h)
    rw [braceEdge_plain brace, List.append_cancel_right same]
    exact .inl rfl

theorem escape_edge (t : List Char) : escape? f ('b' :: t) = (braceEdge? f t).map fun p => (.anchor p.1, p.2) := rfl

theorem escape_suffix {c : Char} {t r : List Char} {v : Primitive} (h : escape? f (c :: t) = some (v, r)) : r <:+ t := by
  by_cases edge : c = 'b'
  · rw [edge, escape_edge] at h
    obtain ⟨⟨a, r⟩, read, same⟩ := Option.map_eq_some_iff.mp h
    cases same
    exact braceEdge_suffix read
  · exact (local_escape edge).suffix h

theorem escape_inner {t r : List Char} {v : Primitive} (h : escape? f (t ++ ending) = some (v, r ++ ending)) :
    escape? f t = some (v, r) ∨ ∃ a r', v = .anchor a ∧ r = '\x7b' :: r' ∧ skip f (r' ++ ending) = ending := by
  cases t with
  | nil => exact absurd (escape_suffix h) (not_inner (by decide))
  | cons c t =>
    by_cases edge : c = 'b'
    · rw [edge, List.cons_append, escape_edge] at h
      obtain ⟨⟨a, r⟩, read, same⟩ := Option.map_eq_some_iff.mp h
      cases same
      rcases braceEdge_inner read with inner | ⟨r', brace, nothing⟩
      · rw [edge, escape_edge, inner]
        exact .inl rfl
      · exact .inr ⟨a, r', rfl, brace, nothing⟩
    · exact .inl ((local_escape edge).inner h)

theorem local_blanks : Local fun t => some ((), t.dropWhile Text.isBlank) where
  suffix := by
    rintro t _ _ ⟨⟩
    exact List.dropWhile_suffix _
  inner := by
    intro t _ r h
    have same : (t ++ ending).dropWhile Text.isBlank = r ++ ending := (Prod.mk.inj (Option.some.inj h)).2
    have kept : (t ++ ending).dropWhile Text.isBlank = t.dropWhile Text.isBlank ++ ending := by
      rw [List.dropWhile_append]
      split
      · next empty =>
        rw [List.isEmpty_iff.mp empty]
        rfl
      · rfl
    rw [List.append_cancel_right (kept.symm.trans same)]

theorem local_count (f : Flags) : Local (count? f) := by
  have behind : Local fun t => some ((), skip f (t.dropWhile Text.isBlank)) := local_blanks.bind fun _ => local_skip f
  refine ((local_blanks.bind fun _ => local_gather f (!·.isDigit)).bind fun digits => behind.filterMap fun _ =>
    if digits.isEmpty then some none
    else
      let n := digits.foldl (fun n c => 10 * n + (c.toNat - 48)) 0
      if n < Nat.pow 2 32 then some (some n) else none).of_eq fun t => ?_
  simp only [count?, Option.bind_some]
  split
  · rfl
  · split <;> rfl

def closed? (f : Flags) (v : Option α) : Reader α
  | '\x7d' :: rest => v.map (·, skip f rest)
  | _ => none

theorem closed?_none (f : Flags) (t : List Char) : closed? f (none : Option α) t = none := by
  rw [closed?.eq_def]
  split <;> rfl

def upTo? (f : Flags) (least : Option Nat) : Reader (Nat × Option Nat)
  | '\x7d' :: rest => closed? f (least.map (·, none)) ('\x7d' :: rest)
  | rest => (count? f rest).bind fun p =>
    closed? f (least.bind fun n => p.1.bind fun m => if n ≤ m then some (n, some m) else none) p.2

theorem upTo?_bounded (least : Option Nat) {t : List Char} (some : t.head? ≠ some '\x7d') :
    upTo? f least t = (count? f t).bind fun p =>
      closed? f (least.bind fun n => p.1.bind fun m => if n ≤ m then .some (n, .some m) else none) p.2 := by
  rw [upTo?]
  rintro rest rfl
  exact some rfl

theorem bounds?_eq (t : List Char) : bounds? f t = (count? f (skip f t)).bind fun p =>
    peeked ',' (fun rest => upTo? f p.1 (skip f rest)) (closed? f (p.1.map fun n => (n, some n))) p.2 := by
  rw [bounds?]
  refine congrArg _ (funext fun ⟨least, rest⟩ => ?_)
  rcases rest with _ | ⟨c, rest⟩
  · rfl
  · by_cases comma : c = ','
    · subst comma
      change _ = upTo? f least (skip f rest)
      simp only
      by_cases closing : (skip f rest).head? = some '\x7d'
      · obtain ⟨more, brace⟩ := List.head?_eq_some_iff.mp closing
        simp only [brace]
        cases least <;> rfl
      · rw [upTo?_bounded least closing]
        split
        · next same => exact absurd (same ▸ rfl) closing
        · refine congrArg _ (funext fun ⟨most, more⟩ => ?_)
          cases least with
          | none => exact (closed?_none f more).symm
          | some n =>
            cases most with
            | none => exact (closed?_none f more).symm
            | some m =>
              by_cases le : n ≤ m <;> simp only [le, closed?.eq_def, Option.bind_some, bind] <;> rfl
    · by_cases closing : c = '\x7d'
      · subst closing
        cases least <;> rfl
      · simp [peeked, comma, closing, closed?]

theorem local_closed (f : Flags) (v : Option α) : Local (closed? f v) := by
  refine .peek (d := '\x7d') (by decide) ((local_skip f).filterMap fun _ => v) .none (fun t => ?_) fun t other => ?_
  · cases v <;> rfl
  · rw [closed?]
    rintro rest rfl
    exact other rfl

theorem local_upTo (least : Option Nat) : Local (upTo? f least) := by
  refine .peek (d := '\x7d') (by decide) ((local_skip f).filterMap fun _ => least.map (·, none))
    ((local_count f).bind fun most =>
      local_closed f (least.bind fun n => most.bind fun m => if n ≤ m then some (n, some m) else none)) (fun t => ?_) fun t other => ?_
  · cases least <;> rfl
  · exact upTo?_bounded least other

theorem local_bounds : Local (bounds? f) := by
  have behind (least : Option Nat) :
      Local (peeked ',' (fun rest => upTo? f least (skip f rest)) (closed? f (least.map fun n => (n, some n)))) :=
    .peeked (by decide) ((local_upTo least).skipped f) (local_closed f _)
  exact (((local_count f).skipped f).bind behind).of_eq bounds?_eq

theorem bounds_of_nothing {t : List Char} (nothing : skip f t = ending) : bounds? f t = none := by
  have read : count? f ending = some (none, ending) := by
    obtain ⟨_, _, _, _, _, extended⟩ := f
    cases extended <;> rfl
  rw [bounds?_eq, nothing, read]
  rfl

end Rehearsal.Regex
