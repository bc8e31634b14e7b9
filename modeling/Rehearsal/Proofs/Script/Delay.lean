import Rehearsal.Proofs.Span.Reading
import Rehearsal.Script.Action

/-!
Delays last what is written: so many milliseconds where a number stands alone, else the sum of the terms that are spelled. What
is too long is refused. One carry escapes: where a sum comes to what the seconds of a word count to and one second more, by
nanoseconds that make up that second, there is no fault, and reading breaks off.
-/
namespace Rehearsal.Text

def Bare (text : List Char) (n : Nat) : Prop :=
  ∃ digits, (text = digits ∨ text = '+' :: digits) ∧ digits ≠ [] ∧ digits.all Char.isDigit = true ∧ Nat.ofDigitChars 10 digits 0 = n

section
variable {limit n m : Nat} {beyond : IntegerFault} {digits text : List Char}

theorem digitsUpTo_eq_ok (small : n ≤ limit) : digitsUpTo limit beyond n digits = .ok m ↔
    digits.all Char.isDigit = true ∧ Nat.ofDigitChars 10 digits n = m ∧ m ≤ limit := by
  induction digits generalizing n with
  | nil =>
    rw [digitsUpTo, Except.ok.injEq, Nat.ofDigitChars_nil]
    exact ⟨fun same => ⟨rfl, same, same ▸ small⟩, fun ⟨_, same, _⟩ => same⟩
  | cons c rest ih =>
    rw [digitsUpTo, List.all_cons, Nat.ofDigitChars_cons]
    cases digit : c.isDigit with
    | false => simp
    | true =>
      by_cases large : limit < 10 * n + (c.toNat - 48)
      · have longer := large.trans_le (Span.le_ofDigitChars _ rest)
        simp only [Bool.not_true, Bool.false_eq_true, if_false, if_pos large, reduceCtorEq, false_iff]
        rintro ⟨-, rfl, fits⟩
        exact absurd fits (Nat.not_le.mpr longer)
      · simp only [Bool.not_true, Bool.false_eq_true, if_false, if_neg large, ih (Nat.le_of_not_lt large), Bool.true_and]
        rfl

theorem word?_eq_ok : word? text = .ok n ↔ Bare text n ∧ n < Nat.pow 2 64 := by
  have read (digits : List Char) : digitsUpTo (Nat.pow 2 64 - 1) .tooLarge 0 digits = .ok n ↔
      (digits.all Char.isDigit = true ∧ Nat.ofDigitChars 10 digits 0 = n) ∧ n < Nat.pow 2 64 := by
    rw [digitsUpTo_eq_ok (Nat.zero_le _), and_assoc, Nat.le_sub_one_iff_lt (by decide)]
  unfold word?
  split
  · refine ⟨nofun, ?_⟩
    rintro ⟨⟨digits, rfl | shape, some, -⟩, -⟩
    · exact absurd rfl some
    · cases shape
  · next d rest =>
    rw [read]
    refine and_congr_left fun _ => ⟨fun ⟨all, value⟩ => ⟨d :: rest, .inr rfl, List.cons_ne_nil _ _, all, value⟩, ?_⟩
    rintro ⟨digits, rfl | same, -, all, value⟩
    · exact absurd (List.all_eq_true.mp all '+' List.mem_cons_self) (by decide)
    · cases same
      exact ⟨all, value⟩
  · next nonempty unsigned =>
    rw [read]
    refine and_congr_left fun _ => ⟨fun ⟨all, value⟩ => ⟨text, .inl rfl, nonempty, all, value⟩, ?_⟩
    rintro ⟨digits, rfl | rfl, some, all, value⟩
    · exact ⟨all, value⟩
    · obtain ⟨d, rest, rfl⟩ := List.exists_cons_of_ne_nil some
      exact absurd rfl (unsigned d rest)

theorem Bare.unique (bare : Bare text n) (bare' : Bare text m) : n = m := by
  have unsigned {digits : List Char} (all : ('+' :: digits).all Char.isDigit = true) : False := by
    simp at all
  obtain ⟨digits, shape, -, all, rfl⟩ := bare
  obtain ⟨digits', shape', -, all', rfl⟩ := bare'
  obtain rfl | rfl := shape <;> obtain rfl | same := shape'
  · rfl
  · subst same
    exact (unsigned all).elim
  · exact (unsigned all').elim
  · cases same
    rfl

end
end Rehearsal.Text

namespace Rehearsal.Script
open Rehearsal.Span

/-- The nanoseconds that a text is a delay of. -/
inductive Denotes (text : List Char) : ℚ → Prop
  | millis {n : Nat} : Text.Bare text n → n < Nat.pow 2 64 → Denotes text (n * 1000000)
  | terms {terms : List Term} : terms ≠ [] → Spelled terms text → Denotes text (Span.sum terms)

/-- Some beginning of the text spells terms whose sum, with what stands behind the last point or without it, is the limit. -/
def Reaches (text : List Char) : Prop :=
  ∃ front rest terms last, text = front ++ rest ∧ Spelled (terms ++ [last]) front ∧
    (Span.sum terms + last.wholeNanos = limit ∨ Span.sum (terms ++ [last]) = limit)

section
variable {text : List Char} {terms : List Term}

theorem exists_letter (spelled : Spelled terms text) (some : terms ≠ []) : ∃ c ∈ text, isUnitLetter c = true := by
  induction spelled with
  | done => exact absurd rfl some
  | blank _ _ ih =>
    obtain ⟨c, member, letter⟩ := ih some
    exact ⟨c, List.mem_cons_of_mem _ member, letter⟩
  | @term t _ rest _ _ =>
    obtain ⟨c, more, unit, letter, -⟩ := t.exists_unit
    exact ⟨c, by simp [Term.chars, unit], letter⟩

/-- A number that stands alone spells no terms. -/
theorem not_spelled_of_bare {n : Nat} (bare : Text.Bare text n) (some : terms ≠ []) : ¬ Spelled terms text := by
  intro spelled
  obtain ⟨c, member, letter⟩ := exists_letter spelled some
  obtain ⟨digits, shape, -, all, -⟩ := bare
  have plain (inside : c ∈ digits) : False := by
    have figure := isFigure_of_isDigit (List.all_eq_true.mp all c inside)
    rw [not_isFigure_of_isUnitLetter letter] at figure
    cases figure
  obtain rfl | rfl := shape
  · exact plain member
  · obtain rfl | inside := List.mem_cons.mp member
    · revert letter
      decide
    · exact plain inside

theorem Denotes.unique {v w : ℚ} (denotes : Denotes text v) (denotes' : Denotes text w) : v = w := by
  cases denotes with
  | millis bare _ =>
    cases denotes' with
    | millis bare' _ => rw [bare.unique bare']
    | terms some spelled => exact absurd spelled (not_spelled_of_bare bare some)
  | terms some spelled =>
    cases denotes' with
    | millis bare _ => exact absurd spelled (not_spelled_of_bare bare some)
    | terms _ spelled' => rw [spelled.unique spelled']

end

section
variable {text : String}

theorem spanOf_bare {n : Nat} (bare : Text.Bare (Text.trim text.toList) n) (small : n < Nat.pow 2 64) :
    ∃ s, spanOf text = .ok s ∧ s.nanos = n * 1000000 := by
  have word := Text.word?_eq_ok.mpr ⟨bare, small⟩
  refine ⟨.ofMillis (.ofNat n), ?_, ?_⟩
  · rw [spanOf]
    simp only [word]
  · exact congrArg (· * 1000000) (UInt64.toNat_ofNat'.trans (Nat.mod_eq_of_lt small))

theorem spanOf_spelled (alone : ∀ n, Text.Bare (Text.trim text.toList) n → Nat.pow 2 64 ≤ n) :
    spanOf text = match Span.ofText (Text.trim text.toList) with
      | .ok s => .ok s
      | .error .brokenCarry => .error .breakdown
      | .error why => .error (.script (.delay (.ofList (Text.trim text.toList)) why)) := by
  rw [spanOf]
  cases word : Text.word? (Text.trim text.toList) with
  | ok n =>
    obtain ⟨bare, small⟩ := Text.word?_eq_ok.mp word
    exact absurd (alone n bare) (Nat.not_le.mpr small)
  | error e => rfl

/-- A text that is no number alone lasts what is read. -/
theorem spanOf_eq_ok {s : Span} (alone : ∀ n, Text.Bare (Text.trim text.toList) n → Nat.pow 2 64 ≤ n) (read : spanOf text = .ok s) :
    Span.ofText (Text.trim text.toList) = .ok s := by
  rw [spanOf_spelled alone] at read
  split at read
  · next found => rw [found, Except.ok.inj read]
  · cases read
  · cases read

theorem denotes_of_spanOf {s : Span} (read : spanOf text = .ok s) : Denotes (Text.trim text.toList) s.nanos := by
  by_cases alone : ∀ n, Text.Bare (Text.trim text.toList) n → Nat.pow 2 64 ≤ n
  · obtain ⟨terms, some, spelled, added⟩ := ofText_eq_ok.mp (spanOf_eq_ok alone read)
    rw [foldlM_plus_eq_ok added, Span.zero, Nat.cast_zero, zero_add]
    exact .terms some spelled
  · push Not at alone
    obtain ⟨n, bare, small⟩ := alone
    obtain ⟨s', read', lasts⟩ := spanOf_bare bare small
    obtain rfl := Except.ok.inj (read'.symm.trans read)
    rw [lasts, Nat.cast_mul]
    exact .millis bare small

theorem reaches_of_broken {t : List Char} (broken : Span.ofText t = .error .brokenCarry) : Reaches t := by
  obtain ⟨terms, front, rest, rfl, spelled, broken⟩ := spelled_of_broken broken
  obtain ⟨before, last, after, rfl, reached⟩ := foldlM_plus_eq_broken broken
  rw [List.append_cons] at spelled
  obtain ⟨front, between, rfl, spelled, -⟩ := spelled.split
  refine ⟨front, between ++ rest, before, last, List.append_assoc _ _ _, spelled, ?_⟩
  simpa [Span.zero, Span.sum] using reached

theorem spanOf_eq_error {f : Failure} (failed : spanOf text = .error f) :
    (∃ why, f = .script (.delay (.ofList (Text.trim text.toList)) why)) ∨ f = .breakdown ∧ Reaches (Text.trim text.toList) := by
  by_cases alone : ∀ n, Text.Bare (Text.trim text.toList) n → Nat.pow 2 64 ≤ n
  · rw [spanOf_spelled alone] at failed
    split at failed
    · cases failed
    · next broken =>
      cases failed
      exact .inr ⟨rfl, reaches_of_broken broken⟩
    · cases failed
      exact .inl ⟨_, rfl⟩
  · push Not at alone
    obtain ⟨n, bare, small⟩ := alone
    obtain ⟨s, read, -⟩ := spanOf_bare bare small
    cases read.symm.trans failed

theorem spanOf_of_fits {terms : List Term} (spelled : Spelled terms (Text.trim text.toList)) (some : terms ≠ [])
    (fits : ∀ term ∈ terms, term.Fits) (below : Span.sum terms < limit) : ∃ s, spanOf text = .ok s := by
  obtain ⟨s, added⟩ := foldlM_plus_of_fits .zero fits (by simpa [Span.zero] using below)
  refine ⟨s, ?_⟩
  rw [spanOf_spelled fun n bare => absurd spelled (not_spelled_of_bare bare some), ofText_of_spelled spelled some, added]

end

/-- A delay lasts exactly what its text denotes, or is refused, as it is where no span is so long; a text denotes one time at most.
What breaks reading off begins with terms that come to the limit. Milliseconds that a word counts are never refused, nor are terms
whose counts fit their words and whose sum a span can hold. -/
theorem delays_last_what_they_denote (text : String) :
    let t := Text.trim text.toList
    (∀ s, spanOf text = .ok s → Denotes t s.nanos) ∧
    (∀ v w, Denotes t v → Denotes t w → v = w) ∧
    (∀ v, Denotes t v → (∀ s : Span, (s.nanos : ℚ) ≠ v) → ∃ f, spanOf text = .error f) ∧
    (∀ f, spanOf text = .error f → (∃ why, f = .script (.delay (.ofList t) why)) ∨ f = .breakdown ∧ Reaches t) ∧
    (∀ n, Text.Bare t n → n < Nat.pow 2 64 → ∃ s, spanOf text = .ok s) ∧
    ∀ terms, terms ≠ [] → Spelled terms t → (∀ term ∈ terms, term.Fits) → Span.sum terms < limit → ∃ s, spanOf text = .ok s := by
  intro t
  refine ⟨fun s => denotes_of_spanOf, fun v w => Denotes.unique, fun v denotes none => ?_, fun f => spanOf_eq_error,
    fun n bare small => ?_, fun terms some spelled fits below => spanOf_of_fits spelled some fits below⟩
  · cases read : spanOf text with
    | error f => exact ⟨f, rfl⟩
    | ok s => exact absurd ((denotes_of_spanOf read).unique denotes) (none s)
  · obtain ⟨s, read, -⟩ := spanOf_bare bare small
    exact ⟨s, read⟩

def wordOfSeconds : Term where
  whole := "18446744073709551615".toList
  fraction := none
  unit := "s".toList
  scale := .second
  starts := by decide
  figures := by decide
  behind := rfl
  named := by decide

def secondInMillis : Term where
  whole := "1000".toList
  fraction := none
  unit := "ms".toList
  scale := .millisecond
  starts := by decide
  figures := by decide
  behind := rfl
  named := by decide

theorem carry_onto_the_limit_breaks_off :
    Denotes "18446744073709551615s 1000ms".toList limit ∧ spanOf "18446744073709551615s 1000ms" = .error .breakdown ∧
      spanOf "18446744073709551615s 1001ms" = .error (.script (.delay "18446744073709551615s 1001ms" .overflow)) := by
  refine ⟨?_, by rfl, by rfl⟩
  have spelled : Spelled [wordOfSeconds, secondInMillis] "18446744073709551615s 1000ms".toList :=
    .term (t := wordOfSeconds) (.blank (by decide) (.term (t := secondInMillis) .done))
  have seconds : wordOfSeconds.wholeNanos = 18446744073709551615000000000 := by decide +kernel
  have millis : secondInMillis.wholeNanos = 1000000000 := by decide +kernel
  have total : Span.sum [wordOfSeconds, secondInMillis] = limit := by
    rw [sum_cons, sum_cons, Term.value_of_whole rfl, Term.value_of_whole rfl, seconds, millis, limit_eq]
    norm_num [Span.sum]
  rw [← total]
  exact .terms (List.cons_ne_nil _ _) spelled

end Rehearsal.Script
