import Mathlib.Data.List.TakeWhile
import Rehearsal.Text.Search

/-! Texts with blanks around them, texts inside quotes, and the first operator of a text. -/
namespace Rehearsal.Text

structure Trimmed (m : List Char) : Prop where
  nonempty : m ≠ []
  first : ∀ c, m.head? = some c → isBlank c = false
  last : ∀ c, m.getLast? = some c → isBlank c = false

section
variable {a b m t : List Char}

theorem dropWhile_of_first (first : ∀ c, m.head? = some c → isBlank c = false) : m.dropWhile isBlank = m := by
  cases m with
  | nil => rfl
  | cons c rest => exact List.dropWhile_cons_of_neg (by simp [first c rfl])

theorem head?_append_left (nonempty : m ≠ []) : (m ++ b).head? = m.head? := by
  rw [List.head?_append, Option.or_of_isSome (List.isSome_head?.mpr nonempty)]

theorem Trimmed.trim_padded (bare : Trimmed m) (before : ∀ c ∈ a, isBlank c = true) (behind : ∀ c ∈ b, isBlank c = true) :
    trim (a ++ m ++ b) = m := by
  have first : ∀ c, (m ++ b).head? = some c → isBlank c = false := by
    rw [head?_append_left bare.nonempty]
    exact bare.first
  have last : ∀ c, m.reverse.head? = some c → isBlank c = false := by
    rw [List.head?_reverse]
    exact bare.last
  have blank : ∀ c ∈ b.reverse, isBlank c = true := fun c hc => behind c (List.mem_reverse.mp hc)
  rw [trim, List.append_assoc, List.dropWhile_append_of_pos before, dropWhile_of_first first, List.reverse_append,
    List.dropWhile_append_of_pos blank, dropWhile_of_first last, List.reverse_reverse]

theorem Trimmed.trim_eq (bare : Trimmed m) : trim m = m := by
  simpa using bare.trim_padded (a := []) (b := []) nofun nofun

/-- A text is blanks, what is left of it once it is trimmed, and blanks. -/
theorem exists_trimmed (some : t.all isBlank = false) :
    ∃ a m b, t = a ++ m ++ b ∧ (∀ c ∈ a, isBlank c = true) ∧ (∀ c ∈ b, isBlank c = true) ∧ Trimmed m := by
  have blank (l : List Char) : ∀ c ∈ l.takeWhile isBlank, isBlank c = true := fun c hc => List.mem_takeWhile_imp hc
  have bare (l : List Char) : ∀ c, (l.dropWhile isBlank).head? = Option.some c → isBlank c = false := fun c hc => by
    have first := List.head?_dropWhile_not isBlank l
    rwa [hc] at first
  have split := List.takeWhile_append_dropWhile (p := isBlank) (l := t)
  have nonempty : t.dropWhile isBlank ≠ [] := by
    intro empty
    have all : t.all isBlank = true := List.all_eq_true.mpr (List.dropWhile_eq_nil_iff.mp empty)
    simp [some] at all
  have first := bare t
  generalize t.dropWhile isBlank = d at split nonempty first
  have back := congrArg List.reverse (List.takeWhile_append_dropWhile (p := isBlank) (l := d.reverse))
  rw [List.reverse_append, List.reverse_reverse] at back
  have kept : (d.reverse.dropWhile isBlank).reverse ≠ [] := by
    rw [List.reverse_ne_nil_iff]
    intro empty
    obtain ⟨c, rest, rfl⟩ := List.exists_cons_of_ne_nil nonempty
    have all := List.dropWhile_eq_nil_iff.mp empty c (by simp)
    simp [first c rfl] at all
  refine ⟨t.takeWhile isBlank, (d.reverse.dropWhile isBlank).reverse, (d.reverse.takeWhile isBlank).reverse,
    ?_, blank t, ?_, kept, ?_, ?_⟩
  · rw [List.append_assoc, back, split]
  · exact fun c hc => blank _ c (List.mem_reverse.mp hc)
  · rwa [← head?_append_left kept, back]
  · rw [List.getLast?_reverse]
    exact bare d.reverse

end

/-- Operators that begin with a blank are looked for from the first blank on. -/
theorem cutAtFirst?_append {separators : List (List Char)} {l r : List Char} (blanks : ∀ s ∈ separators, s.head? = some ' ')
    (bare : ' ' ∉ l) :
    cutAtFirst? separators (l ++ r) = (cutAtFirst? separators r).map fun (before, s, after) => (l ++ before, s, after) := by
  induction l with
  | nil => simp
  | cons c l ih =>
    have other : c ≠ ' ' := fun same => bare (same ▸ List.mem_cons_self)
    have nothing : separators.findSome? (fun s => (s.isPrefixOf? (c :: (l ++ r))).map (s, ·)) = none := by
      rw [List.findSome?_eq_none_iff]
      intro s hs
      obtain ⟨rest, rfl⟩ : ∃ rest, s = ' ' :: rest := List.head?_eq_some_iff.mp (blanks s hs)
      have differs : ¬ (' ' == c) = true := by simpa using Ne.symm other
      have missing : List.isPrefixOf? (' ' :: rest) (c :: (l ++ r)) = none := if_neg differs
      rw [missing, Option.map_none]
    rw [List.cons_append, cutAtFirst?, nothing, ih (fun inside => bare (List.mem_cons_of_mem c inside))]
    simp [Function.comp_def]

theorem mem_of_cutAtFirst? {separators : List (List Char)} {t before s after : List Char}
    (cut : cutAtFirst? separators t = some (before, s, after)) : s ∈ separators := by
  induction t generalizing before with
  | nil => cases cut
  | cons c rest ih =>
    rw [cutAtFirst?] at cut
    split at cut
    · next found =>
      obtain ⟨s', member, starts⟩ := List.exists_of_findSome?_eq_some found
      obtain ⟨_, -, same⟩ := Option.map_eq_some_iff.mp starts
      cases cut
      cases same
      exact member
    · obtain ⟨⟨before', s', after'⟩, found, same⟩ := Option.map_eq_some_iff.mp cut
      cases same
      exact ih found

def Quoted (s : List Char) : Prop := ∃ q ∈ ['"', '\''], ∃ m, s = q :: m ++ [q]

theorem trimmed_quoted {q : Char} (quote : q ∈ ['"', '\'']) (m : List Char) : Trimmed (q :: m ++ [q]) := by
  have bare : isBlank q = false := by
    simp only [List.mem_cons, List.not_mem_nil, or_false] at quote
    rcases quote with rfl | rfl <;> decide
  refine ⟨by simp, ?_, ?_⟩
  · rintro c ⟨⟩
    exact bare
  · intro c last
    rw [List.getLast?_concat, Option.some.injEq] at last
    exact last ▸ bare

theorem inside?_quoted (q : Char) (m : List Char) : inside? q (q :: m ++ [q]) = some m := by
  simp [inside?]

theorem inside?_eq_some {q : Char} {s m : List Char} (h : inside? q s = some m) : s = q :: m ++ [q] := by
  cases s with
  | nil => simp [inside?] at h
  | cons c rest =>
    simp only [inside?] at h
    split at h
    · next ends =>
      obtain ⟨rfl, last⟩ := ends
      obtain ⟨front, rfl⟩ := List.getLast?_eq_some_iff.mp last
      simp_all
    · cases h

theorem unquote_quoted {q : Char} (quote : q ∈ ['"', '\'']) (m : List Char) : unquote (q :: m ++ [q]) = m := by
  simp only [List.mem_cons, List.not_mem_nil, or_false] at quote
  rcases quote with rfl | rfl
  · rw [unquote, inside?_quoted]
  · have other : inside? '"' ('\'' :: m ++ ['\'']) = none := by simp [inside?]
    rw [unquote, other, inside?_quoted]
    rfl

theorem unquote_cases (s : List Char) :
    (∃ q ∈ ['"', '\''], s = q :: unquote s ++ [q]) ∨ ¬ Quoted s ∧ unquote s = s := by
  cases double : inside? '"' s with
  | some m =>
    left
    refine ⟨'"', by simp, ?_⟩
    rw [unquote, double]
    exact inside?_eq_some double
  | none =>
    cases single : inside? '\'' s with
    | some m =>
      left
      refine ⟨'\'', by simp, ?_⟩
      rw [unquote, double, single]
      exact inside?_eq_some single
    | none =>
      right
      refine ⟨?_, by rw [unquote, double, single]; rfl⟩
      rintro ⟨q, quote, m, rfl⟩
      simp only [List.mem_cons, List.not_mem_nil, or_false] at quote
      rcases quote with rfl | rfl
      · rw [inside?_quoted] at double
        cases double
      · rw [inside?_quoted] at single
        cases single

/-- Nothing is taken off a text that is trimmed and then stripped of its quotes only if there is nothing to take off. -/
theorem unquote_trim_eq_self_iff {t : List Char} (some : t.all isBlank = false) :
    unquote (trim t) = t ↔ Trimmed t ∧ ¬ Quoted t := by
  constructor
  · intro same
    obtain ⟨a, m, b, rfl, before, behind, trimmed⟩ := exists_trimmed some
    rw [trimmed.trim_padded before behind] at same
    have lengths := congrArg List.length same
    simp only [List.length_append] at lengths
    rcases unquote_cases m with ⟨q, -, quoted⟩ | ⟨bare, kept⟩
    · have longer := congrArg List.length quoted
      simp only [List.length_append, List.length_cons, List.length_nil] at longer
      omega
    · rw [kept] at lengths
      obtain rfl : a = [] := List.eq_nil_of_length_eq_zero (by omega)
      obtain rfl : b = [] := List.eq_nil_of_length_eq_zero (by omega)
      simpa using ⟨trimmed, bare⟩
  · rintro ⟨trimmed, bare⟩
    rw [trimmed.trim_eq]
    rcases unquote_cases t with ⟨q, quote, quoted⟩ | ⟨-, kept⟩
    · exact absurd ⟨q, quote, _, quoted⟩ bare
    · exact kept

theorem Trimmed.not_all_blank {m : List Char} (trimmed : Trimmed m) : m.all isBlank = false := by
  obtain ⟨c, rest, rfl⟩ := List.exists_cons_of_ne_nil trimmed.nonempty
  simp [trimmed.first c rfl]

theorem contains_nil (t : List Char) : contains [] t = true := by
  cases t <;> simp [contains]

theorem contains_self (t : List Char) : contains t t = true := by
  cases t <;> simp [contains]

end Rehearsal.Text
