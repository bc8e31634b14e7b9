import Mathlib.Algebra.BigOperators.Group.List.Basic
import Mathlib.Algebra.Field.Rat
import Rehearsal.Span.Text

/-!
What written spans denote. A span is written as terms with blanks before, between and behind them; a term is a number of some
unit, and may have digits behind a point. The span denotes the sum of its terms, which need be neither a whole number of
nanoseconds nor within what a span can hold. A text is made of terms in one way at most.
-/
namespace Rehearsal.Span

/-- What numbers are written with: digits, and blanks that stand among them. -/
def isFigure (c : Char) : Bool := c.isDigit || Text.isBlank c

def extend (n : Nat) (text : List Char) : Nat := Nat.ofDigitChars 10 (text.filter Char.isDigit) n

def number (text : List Char) : Nat := extend 0 text

def places (text : List Char) : Nat := (text.filter Char.isDigit).length

structure Term where
  whole : List Char
  fraction : Option (List Char)
  unit : List Char
  scale : Scale
  starts : whole.head?.any Char.isDigit = true
  figures : whole.all isFigure = true
  behind : fraction.all (fun f => f.all isFigure && f.any Char.isDigit) = true
  named : scale.names.contains (String.ofList unit) = true

namespace Term

def pointText : Option (List Char) → List Char
  | none => []
  | some f => '.' :: f

def chars (t : Term) : List Char := t.whole ++ (pointText t.fraction ++ t.unit)

/-- What the digits behind the point count in units. -/
def part : Option (List Char) → ℚ
  | none => 0
  | some f => number f / 10 ^ places f

def value (t : Term) : ℚ := (number t.whole + part t.fraction) * t.scale.nanos

end Term

def sum (terms : List Term) : ℚ := (terms.map Term.value).sum

/-- The text is the terms one after the other, and blanks. -/
inductive Spelled : List Term → List Char → Prop
  | done : Spelled [] []
  | blank {c : Char} {terms : List Term} {rest : List Char} :
      Text.isBlank c = true → Spelled terms rest → Spelled terms (c :: rest)
  | term {t : Term} {terms : List Term} {rest : List Char} : Spelled terms rest → Spelled (t :: terms) (t.chars ++ rest)

section
variable {c : Char}

theorem extend_digit (digit : c.isDigit = true) (n : Nat) (text : List Char) :
    extend n (c :: text) = extend (10 * n + (c.toNat - 48)) text := by
  rw [extend, List.filter_cons_of_pos digit, Nat.ofDigitChars_cons]
  rfl

theorem extend_blank (other : c.isDigit = false) (n : Nat) (text : List Char) : extend n (c :: text) = extend n text := by
  rw [extend, List.filter_cons_of_neg (by simp [other]), extend]

theorem le_ofDigitChars (n : Nat) (digits : List Char) : n ≤ Nat.ofDigitChars 10 digits n := by
  rw [Nat.ofDigitChars_eq_ofDigitChars_zero]
  exact Nat.le_add_right_of_le (Nat.le_mul_of_pos_left n (Nat.pow_pos (by decide)))

theorem le_extend (n : Nat) (text : List Char) : n ≤ extend n text := le_ofDigitChars n _

theorem places_digit (digit : c.isDigit = true) (text : List Char) : places (c :: text) = places text + 1 := by
  rw [places, List.filter_cons_of_pos digit, List.length_cons, places]

theorem places_blank (other : c.isDigit = false) (text : List Char) : places (c :: text) = places text := by
  rw [places, List.filter_cons_of_neg (by simp [other]), places]

theorem isFigure_of_isDigit (digit : c.isDigit = true) : isFigure c = true := by
  rw [isFigure, digit, Bool.true_or]

theorem toNat_of_isDigit (digit : c.isDigit = true) : 48 ≤ c.toNat ∧ c.toNat ≤ 57 := by
  simpa [Char.isDigit, UInt32.le_iff_toNat_le] using digit

theorem toNat_of_isUnitLetter (letter : isUnitLetter c = true) : 65 ≤ c.toNat ∧ c.toNat ≤ 122 ∨ c.toNat = 181 := by
  rw [isUnitLetter, Bool.or_eq_true, beq_iff_eq] at letter
  rcases letter with alpha | rfl
  · have range : 65 ≤ c.toNat ∧ c.toNat ≤ 90 ∨ 97 ≤ c.toNat ∧ c.toNat ≤ 122 := by
      delta Char.isAlpha Char.isUpper Char.isLower at alpha
      simpa [UInt32.le_iff_toNat_le] using alpha
    omega
  · exact .inr rfl

theorem isBlank_of_isFigure (figure : isFigure c = true) (other : c.isDigit = false) : Text.isBlank c = true := by
  simpa [isFigure, other] using figure

theorem not_isBlank_of_isDigit (digit : c.isDigit = true) : Text.isBlank c = false := by
  have range := toNat_of_isDigit digit
  simp only [Text.isBlank, Bool.or_eq_false_iff, Bool.and_eq_false_iff, decide_eq_false_iff_not, beq_eq_false_iff_ne]
  omega

theorem not_isDigit_of_isBlank (blank : Text.isBlank c = true) : c.isDigit = false := by
  rw [Bool.eq_false_iff]
  intro digit
  rw [not_isBlank_of_isDigit digit] at blank
  cases blank

theorem other_of_isUnitLetter (letter : isUnitLetter c = true) : c.isDigit = false ∧ Text.isBlank c = false := by
  have range := toNat_of_isUnitLetter letter
  constructor
  · rw [Bool.eq_false_iff]
    intro digit
    have figures := toNat_of_isDigit digit
    omega
  · simp only [Text.isBlank, Bool.or_eq_false_iff, Bool.and_eq_false_iff, decide_eq_false_iff_not, beq_eq_false_iff_ne]
    omega

theorem not_isFigure_of_isUnitLetter (letter : isUnitLetter c = true) : isFigure c = false :=
  Bool.or_eq_false_iff.mpr (other_of_isUnitLetter letter)

theorem not_isUnitLetter_of_isFigure (figure : isFigure c = true) : isUnitLetter c = false := by
  rw [Bool.eq_false_iff]
  intro letter
  rw [not_isFigure_of_isUnitLetter letter] at figure
  cases figure

end

namespace Scale
variable {s : Scale} {name : String}

/-- What is so of each name of each unit, one by one. -/
theorem of_named {p : Scale → String → Bool} (each : all.all (fun s => s.names.all (p s)) = true)
    (named : s.names.contains name = true) : p s name = true := by
  have member : s ∈ all := by cases s <;> decide
  exact List.all_eq_true.mp (List.all_eq_true.mp each s member) name (List.contains_iff_mem.mp named)

theorem ofName?_iff : ofName? name = some s ↔ s.names.contains name = true := by
  constructor
  · intro found
    rw [ofName?] at found
    simpa using List.find?_some found
  · intro named
    exact of_decide_eq_true (of_named (p := fun s name => ofName? name = some s) (by decide +kernel) named)

theorem letters_of_name (named : s.names.contains name = true) : name.toList ≠ [] ∧ name.toList.all isUnitLetter = true := by
  have letters := of_named (p := fun _ name => name.toList ≠ [] ∧ name.toList.all isUnitLetter = true) (by decide +kernel) named
  exact of_decide_eq_true letters

end Scale

def Begins (p : Char → Bool) (text : List Char) : Prop := text.head?.any p = true

theorem run_unique {p : Char → Bool} {a a' b b' : List Char} (run : a.all p = true) (run' : a'.all p = true)
    (stops : ¬ Begins p b) (stops' : ¬ Begins p b') (same : a ++ b = a' ++ b') : a = a' ∧ b = b' := by
  have none {l : List Char} (stops : ¬ Begins p l) : l.takeWhile p = [] := by
    cases l with
    | nil => rfl
    | cons c l => exact List.takeWhile_cons_of_neg stops
  have runs := congrArg (List.takeWhile p) same
  rw [List.takeWhile_append_of_pos (List.all_eq_true.mp run), List.takeWhile_append_of_pos (List.all_eq_true.mp run'),
    none stops, none stops', List.append_nil, List.append_nil] at runs
  subst runs
  exact ⟨rfl, List.append_cancel_left same⟩

namespace Term
variable (t : Term)

theorem unit_letters : t.unit ≠ [] ∧ t.unit.all isUnitLetter = true := by
  have letters := Scale.letters_of_name t.named
  rwa [String.toList_ofList] at letters

theorem exists_whole : ∃ c rest, t.whole = c :: rest ∧ c.isDigit = true ∧ rest.all isFigure = true := by
  have starts := t.starts
  have figures := t.figures
  cases shape : t.whole with
  | nil => simp [shape] at starts
  | cons c rest =>
    rw [shape, List.all_cons, Bool.and_eq_true] at figures
    exact ⟨c, rest, rfl, by simpa [shape] using starts, figures.2⟩

theorem exists_unit : ∃ c rest, t.unit = c :: rest ∧ isUnitLetter c = true ∧ rest.all isUnitLetter = true := by
  obtain ⟨some, letters⟩ := t.unit_letters
  obtain ⟨c, rest, shape⟩ := List.exists_cons_of_ne_nil some
  rw [shape, List.all_cons, Bool.and_eq_true] at letters
  exact ⟨c, rest, shape, letters⟩

theorem figures_behind {t : Term} {f : List Char} (shape : t.fraction = some f) : f.all isFigure = true := by
  have behind := t.behind
  rw [shape, Option.all_some, Bool.and_eq_true] at behind
  exact behind.1

theorem places_pos {t : Term} {f : List Char} (shape : t.fraction = some f) : 0 < places f := by
  have behind := t.behind
  rw [shape, Option.all_some, Bool.and_eq_true] at behind
  obtain ⟨c, member, digit⟩ := List.any_eq_true.mp behind.2
  exact List.length_pos_of_mem (List.mem_filter.mpr ⟨member, digit⟩)

theorem chars_begins (rest : List Char) : Begins Char.isDigit (t.chars ++ rest) := by
  obtain ⟨c, more, shape, digit, -⟩ := t.exists_whole
  simpa [Begins, chars, shape] using digit

/-- Behind the digits before the point stands the point or the unit. -/
theorem rest_stops (rest : List Char) : ¬ Begins isFigure (pointText t.fraction ++ (t.unit ++ rest)) := by
  cases t.fraction with
  | none =>
    obtain ⟨c, more, shape, letter, -⟩ := t.exists_unit
    simp [Begins, pointText, shape, not_isFigure_of_isUnitLetter letter]
  | some f => simpa [Begins, pointText] using (by decide : isFigure '.' = false)

theorem unit_stops (rest : List Char) : ¬ Begins isFigure (t.unit ++ rest) := by
  obtain ⟨c, more, shape, letter, -⟩ := t.exists_unit
  simp [Begins, shape, not_isFigure_of_isUnitLetter letter]

theorem point_unique {t t' : Term} {rest rest' : List Char}
    (same : pointText t.fraction ++ (t.unit ++ rest) = pointText t'.fraction ++ (t'.unit ++ rest')) :
    t.fraction = t'.fraction ∧ t.unit ++ rest = t'.unit ++ rest' := by
  have point (t : Term) (f rest : List Char) : t.unit ++ rest ≠ '.' :: f := by
    obtain ⟨c, more, shape, letter, -⟩ := t.exists_unit
    rintro starts
    rw [shape, List.cons_append] at starts
    rw [(List.cons.inj starts).1] at letter
    revert letter
    decide
  cases left : t.fraction with
  | none =>
    cases right : t'.fraction with
    | none => exact ⟨rfl, by simpa [left, right, pointText] using same⟩
    | some f => exact absurd (by simpa [left, right, pointText] using same) (point t _ _)
  | some f =>
    cases right : t'.fraction with
    | none => exact absurd (by simpa [left, right, pointText] using same.symm) (point t' _ _)
    | some f' =>
      rw [left, right] at same
      obtain ⟨rfl, units⟩ := run_unique (figures_behind left) (figures_behind right) (t.unit_stops rest) (t'.unit_stops rest')
        (List.cons.inj same).2
      exact ⟨rfl, units⟩

theorem chars_unique {t t' : Term} {rest rest' : List Char} (stops : ¬ Begins isUnitLetter rest) (stops' : ¬ Begins isUnitLetter rest')
    (same : t.chars ++ rest = t'.chars ++ rest') : t = t' ∧ rest = rest' := by
  simp only [chars, List.append_assoc] at same
  obtain ⟨whole, same⟩ := run_unique t.figures t'.figures (t.rest_stops rest) (t'.rest_stops rest') same
  obtain ⟨fraction, same⟩ := point_unique same
  obtain ⟨unit, same⟩ := run_unique t.unit_letters.2 t'.unit_letters.2 stops stops' same
  have scale : t.scale = t'.scale := by
    have named := Scale.ofName?_iff.mpr t.named
    rw [unit, Scale.ofName?_iff.mpr t'.named] at named
    exact (Option.some.inj named).symm
  cases t
  cases t'
  simp_all

end Term

theorem Spelled.begins {terms : List Term} {text : List Char} (spelled : Spelled terms text) : text = [] ∨ Begins isFigure text := by
  cases spelled with
  | done => exact .inl rfl
  | blank blank _ => exact .inr (by simp [Begins, isFigure, blank])
  | @term t _ rest _ =>
    obtain ⟨c, more, shape, digit, -⟩ := t.exists_whole
    exact .inr (by simp [Begins, Term.chars, shape, isFigure_of_isDigit digit])

/-- No letter stands where a term may begin: there the unit before it ends. -/
theorem Spelled.stops {terms : List Term} {text : List Char} (spelled : Spelled terms text) : ¬ Begins isUnitLetter text := by
  obtain rfl | begins := spelled.begins
  · exact nofun
  · cases text with
    | nil => exact nofun
    | cons c rest =>
      have figure : isFigure c = true := by simpa [Begins] using begins
      simp [Begins, not_isUnitLetter_of_isFigure figure]

/-- A spelled text is empty, or begins with a blank, or begins with a term. -/
theorem Spelled.inv {terms : List Term} {text : List Char} (spelled : Spelled terms text) :
    (text = [] ∧ terms = []) ∨ (∃ c rest, text = c :: rest ∧ Text.isBlank c = true ∧ Spelled terms rest) ∨
      ∃ t terms' rest, terms = t :: terms' ∧ text = t.chars ++ rest ∧ Spelled terms' rest := by
  cases spelled with
  | done => exact .inl ⟨rfl, rfl⟩
  | blank blank rest => exact .inr (.inl ⟨_, _, rfl, blank, rest⟩)
  | term rest => exact .inr (.inr ⟨_, _, _, rfl, rfl, rest⟩)

theorem Term.chars_ne {t : Term} {c : Char} {rest text : List Char} (blank : Text.isBlank c = true) : t.chars ++ rest ≠ c :: text := by
  intro same
  have digit := t.chars_begins rest
  rw [same] at digit
  rw [not_isBlank_of_isDigit (by simpa [Begins] using digit)] at blank
  cases blank

theorem Spelled.unique {terms terms' : List Term} {text : List Char} (spelled : Spelled terms text) (spelled' : Spelled terms' text) :
    terms = terms' := by
  induction spelled generalizing terms' with
  | done =>
    obtain ⟨-, none⟩ | ⟨c, rest, shape, -, -⟩ | ⟨t, _, rest, -, shape, -⟩ := spelled'.inv
    · exact none.symm
    · cases shape
    · have begins := t.chars_begins rest
      rw [← shape] at begins
      cases begins
  | blank blank _ ih =>
    obtain ⟨shape, -⟩ | ⟨c, rest, shape, -, spelled'⟩ | ⟨t, _, rest, -, shape, -⟩ := spelled'.inv
    · cases shape
    · cases shape
      exact ih spelled'
    · exact absurd shape.symm (Term.chars_ne blank)
  | @term t terms rest spelled ih =>
    obtain ⟨shape, -⟩ | ⟨c, rest', shape, blank, -⟩ | ⟨t', terms', rest', rfl, shape, spelled'⟩ := spelled'.inv
    · have begins := t.chars_begins rest
      rw [shape] at begins
      cases begins
    · exact absurd shape (Term.chars_ne blank)
    · obtain ⟨rfl, rfl⟩ := Term.chars_unique spelled.stops spelled'.stops shape
      rw [ih spelled']

theorem Spelled.split {front back : List Term} {text : List Char} (spelled : Spelled (front ++ back) text) :
    ∃ t rest, text = t ++ rest ∧ Spelled front t ∧ Spelled back rest := by
  generalize shape : front ++ back = terms at spelled
  induction spelled generalizing front with
  | done =>
    obtain ⟨rfl, rfl⟩ := List.append_eq_nil_iff.mp shape
    exact ⟨[], [], rfl, .done, .done⟩
  | @blank c _ rest blank spelled ih =>
    obtain ⟨t, rest, rfl, first, later⟩ := ih shape
    exact ⟨c :: t, rest, rfl, .blank blank first, later⟩
  | @term t terms rest spelled ih =>
    cases front with
    | nil =>
      rw [List.nil_append] at shape
      exact ⟨[], t.chars ++ rest, rfl, .done, shape ▸ .term spelled⟩
    | cons t' front =>
      rw [List.cons_append, List.cons.injEq] at shape
      obtain ⟨rfl, shape⟩ := shape
      obtain ⟨text, rest, rfl, first, later⟩ := ih shape
      exact ⟨t'.chars ++ text, rest, (List.append_assoc _ _ _).symm, .term first, later⟩

end Rehearsal.Span
